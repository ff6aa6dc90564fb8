/-
  packages/cli/src/scanner.ts — `safeFetch`, the one way out of the CLI.

  The resolver, the network and the URL parser are outside: `Network` holds what they answer, and they
  may answer by all that was asked before, differently every time, with a failure, or never.  A run
  leaves the list of what was asked, which is what the results are about.

    Hops            what the loop keeps: one checked lookup right before each request
    fetchHops_kept  one turn of the loop, and from it the whole loop
    safeFetch_guards_every_hop
-/
import Hundi.Cli.IpGuard
import Hundi.Lib.TextDecoder

namespace Hundi

open Js

/-! ## The outside -/

/-- What a call throws: a `ScanError` with its message, or anything else. -/
inductive Failure where
  | scanError (message : JsString)
  | other
  deriving DecidableEq

/-- How an awaited call ends, if it does. -/
inductive Awaited (α : Type) where
  | returned (value : α)
  | threw (failure : Failure)
  | pending
  deriving DecidableEq

/-- The stream of a response: its chunks, and what comes behind them. -/
structure BodyStream where
  chunks : List Bytes
  ending : Awaited Unit
  deriving DecidableEq

structure Response where
  status : Nat
  location : Option JsString
  body : Option BodyStream
  deriving DecidableEq

/-- `res.ok`. -/
def Response.ok (res : Response) : Bool := 200 ≤ res.status && res.status ≤ 299

/-- What the scanner reads off a `URL`. -/
structure Url where
  href : JsString
  protocol : JsString
  hostname : JsString
  origin : JsString
  pathname : JsString
  /-- `toString()` once `hash` is set to the empty text. -/
  withoutHash : JsString
  deriving DecidableEq

/-- The `URL` constructor; `none` if it throws. -/
structure UrlParser where
  /-- `new URL(url)`. -/
  parse : JsString → Option Url
  /-- `new URL(url, base)`. -/
  resolve : JsString → JsString → Option Url

/-- What was asked, with its answer: the resolver about a host, or the network for a URL. -/
inductive NetEvent where
  | looked (hostname : JsString) (addresses : Awaited (List JsString))
  | requested (url : JsString) (answer : Awaited Response)
  deriving DecidableEq

/-- The resolver and `fetch` may look at all that was asked before. -/
structure Network extends UrlParser where
  resolver : List NetEvent → JsString → Awaited (List JsString)
  fetch : List NetEvent → JsString → Awaited Response

structure SafeFetchOptions where
  maxRedirects : Option Nat
  maxBodyBytes : Option Nat

structure SafeFetchResult where
  text : JsString
  finalUrl : JsString
  deriving DecidableEq

/-! ## The code -/

/-- `assertPublicHost(hostname, resolver)` once the resolver is done. -/
def assertPublicHost (hostname : JsString) : Awaited (List JsString) → Awaited Unit
  | .pending => .pending
  | .threw _ => .threw (.scanError (js "could not resolve host: " ++ hostname))
  | .returned [] => .threw (.scanError (js "could not resolve host: " ++ hostname))
  | .returned addresses =>
    match addresses.find? isPrivateOrLoopbackIp with
    | some address =>
      .threw (.scanError
        (js "refusing to fetch private/loopback address: " ++ hostname ++ js " -> " ++ address))
    | none => .returned ()

/-- The loop of `readBodyCapped`.  What the decoder makes of the chunks one by one is what it makes of
    them in a row, so they are decoded at the end. -/
def readChunks (maxBytes : Nat) (ending : Awaited Unit) : List Bytes → Bytes → Awaited JsString
  | [], received =>
    match ending with
    | .returned () => .returned (textDecode received)
    | .threw failure => .threw failure
    | .pending => .pending
  | value :: chunks, received =>
    if received.length + value.length > maxBytes then
      .threw (.scanError (js ("response body exceeded " ++ toString maxBytes ++ "-byte cap")))
    else readChunks maxBytes ending chunks (received ++ value)

/-- `readBodyCapped(res, maxBytes)`; a response without a body has the empty text. -/
def readBodyCapped (res : Response) (maxBytes : Nat) : Awaited JsString :=
  match res.body with
  | none => .returned []
  | some stream => readChunks maxBytes stream.ending stream.chunks []

/-- The location that the loop follows: a redirect status and a header that is not empty. -/
def Response.redirect (res : Response) : Option JsString :=
  match res.location with
  | none => none
  | some location =>
    if 300 ≤ res.status && res.status < 400 && !location.isEmpty then some location else none

section

variable (net : Network) (past : List NetEvent) (url : JsString)

/-- The loop of `safeFetch`, `hops` turns before its end, with what it has asked so far. -/
def fetchHops (maxBodyBytes : Nat) : Nat → List NetEvent → JsString → List NetEvent × Awaited SafeFetchResult
  | 0, asked, _ => (asked, .threw (.scanError (js "too many redirects fetching " ++ url)))
  | hops + 1, asked, currentUrl =>
    match net.parse currentUrl with
    | none => (asked, .threw .other)
    | some parsed =>
      if parsed.protocol != js "http:" && parsed.protocol != js "https:" then
        (asked, .threw (.scanError (js "refusing to fetch non-http(s) URL: " ++ currentUrl)))
      else
        let addresses := net.resolver (past ++ asked) parsed.hostname
        let asked := asked ++ [.looked parsed.hostname addresses]
        match assertPublicHost parsed.hostname addresses with
        | .threw failure => (asked, .threw failure)
        | .pending => (asked, .pending)
        | .returned () =>
          let answer := net.fetch (past ++ asked) currentUrl
          let asked := asked ++ [.requested currentUrl answer]
          match answer with
          | .threw failure => (asked, .threw failure)
          | .pending => (asked, .pending)
          | .returned res =>
            match res.redirect with
            | some location =>
              -- `hop === maxRedirects`
              if hops = 0 then
                (asked, .threw (.scanError (js "too many redirects fetching " ++ url)))
              else
                match net.resolve location currentUrl with
                | none => (asked, .threw .other)
                | some next => fetchHops maxBodyBytes hops asked next.href
            | none =>
              if !res.ok then
                (asked, .threw (.scanError (js ("fetch failed (" ++ toString res.status ++ ") for ") ++
                  currentUrl)))
              else
                match readBodyCapped res maxBodyBytes with
                | .threw failure => (asked, .threw failure)
                | .pending => (asked, .pending)
                | .returned text => (asked, .returned ⟨text, currentUrl⟩)

end

/-- `safeFetch(url, options)` after `past`: what it asks, and how it ends. -/
def safeFetch (net : Network) (past : List NetEvent) (url : JsString) (options : SafeFetchOptions) :
    List NetEvent × Awaited SafeFetchResult :=
  fetchHops net past url (options.maxBodyBytes.getD (5 * 1024 * 1024))
    (options.maxRedirects.getD 5 + 1) [] url

/-- A server that redirects every request to `http://inside/`, whose host has a private address. -/
example :
    let server : Response := ⟨302, some (js "http://inside/"), none⟩
    let net : Network :=
      { parse := fun url => some ⟨url, js "http:", url, [], [], url⟩
        resolve := fun url _ => some ⟨url, js "http:", url, [], [], url⟩
        resolver := fun _ host =>
          .returned [if host = js "http://inside/" then js "10.0.0.1" else js "8.8.8.8"]
        fetch := fun _ _ => .returned server }
    safeFetch net [] (js "http://outside/") ⟨none, none⟩ =
      ([.looked (js "http://outside/") (.returned [js "8.8.8.8"]),
        .requested (js "http://outside/") (.returned server),
        .looked (js "http://inside/") (.returned [js "10.0.0.1"])],
        .threw (.scanError
          (js "refusing to fetch private/loopback address: http://inside/ -> 10.0.0.1"))) := by
  decide

/-! ## What a run asks -/

def NetEvent.isRequest : NetEvent → Bool
  | .looked _ _ => false
  | .requested _ _ => true

/-- The URL is an http or https one. -/
def Url.IsHttp (parsed : Url) : Prop :=
  parsed.protocol = js "http:" ∨ parsed.protocol = js "https:"

/-- Addresses that may be asked: at least one, and no private one. -/
def PublicAddresses (addresses : List JsString) : Prop :=
  addresses ≠ [] ∧ ∀ address ∈ addresses, isPrivateOrLoopbackIp address = false

section

variable (net : Network) (past : List NetEvent)

/-- The request for `url` after `before` is a guarded one: the URL is http or https, and what was asked
    last is the resolver, about the host of this URL, which gave public addresses only. -/
def GuardedRequest (before : List NetEvent) (url : JsString) : Prop :=
  ∃ parsed earlier addresses, net.parse url = some parsed ∧ parsed.IsHttp ∧
    before = earlier ++ [.looked parsed.hostname (.returned addresses)] ∧
    net.resolver (past ++ earlier) parsed.hostname = .returned addresses ∧ PublicAddresses addresses

/-- What `n` turns of the loop have asked: a lookup and the request it allows, `n` times. -/
inductive Hops : Nat → List NetEvent → Prop where
  | start : Hops 0 []
  | hop {n : Nat} {asked : List NetEvent} {url : JsString} {parsed : Url} {addresses : List JsString}
      {answer : Awaited Response} (before : Hops n asked) (hparse : net.parse url = some parsed)
      (hhttp : parsed.IsHttp)
      (hlookup : net.resolver (past ++ asked) parsed.hostname = .returned addresses)
      (hpublic : PublicAddresses addresses) :
      Hops (n + 1) (asked ++ [.looked parsed.hostname (.returned addresses), .requested url answer])

end

section

variable {net : Network} {past : List NetEvent}

theorem append_two_eq {α : Type} {xs ys : List α} {a b c : α} (h : xs ++ [a, b] = ys ++ [c]) :
    xs ++ [a] = ys ∧ b = c := by
  have hassoc : xs ++ [a] ++ [b] = ys ++ [c] := by
    rw [List.append_assoc]
    exact h
  obtain ⟨hfront, hlast⟩ := List.append_inj' hassoc rfl
  exact ⟨hfront, (List.cons.inj hlast).1⟩

/-- Every request of the turns is a guarded one, and there are as many as turns. -/
theorem Hops.guarded {n : Nat} {asked : List NetEvent} (h : Hops net past n asked) :
    (∀ before url answer after, asked = before ++ .requested url answer :: after →
      GuardedRequest net past before url) ∧ asked.countP NetEvent.isRequest = n := by
  induction h with
  | start =>
    refine ⟨fun before url answer after h => ?_, rfl⟩
    exact absurd h (by simp)
  | @hop n asked url parsed addresses _ _ hparse hhttp hlookup hpublic ih =>
    constructor
    · intro before url' answer' after h
      rcases List.eq_nil_or_concat after with rfl | ⟨after, last, rfl⟩
      · -- it is the request of this turn
        obtain ⟨hbefore, hsame⟩ := append_two_eq h
        obtain ⟨rfl, -⟩ := NetEvent.requested.inj hsame
        exact ⟨parsed, asked, addresses, hparse, hhttp, hbefore.symm, hlookup, hpublic⟩
      · rw [List.concat_eq_append, ← List.cons_append, ← List.append_assoc] at h
        have hrest := (append_two_eq h).1
        rcases List.eq_nil_or_concat after with rfl | ⟨after, last', rfl⟩
        · exact nomatch (List.cons.inj (List.append_inj' hrest rfl).2).1
        · rw [List.concat_eq_append, ← List.cons_append, ← List.append_assoc] at hrest
          exact ih.1 before url' answer' after (List.append_inj' hrest rfl).1
    · rw [List.countP_append, ih.2]
      rfl

theorem assertPublicHost_ok {hostname : JsString} {answer : Awaited (List JsString)}
    (h : assertPublicHost hostname answer = .returned ()) :
    ∃ addresses, answer = .returned addresses ∧ PublicAddresses addresses := by
  unfold assertPublicHost at h
  split at h
  · exact nomatch h
  · exact nomatch h
  · exact nomatch h
  · rename_i addresses hne
    split at h
    · exact nomatch h
    · rename_i hnone
      refine ⟨addresses, rfl, ?_, fun address ha => ?_⟩
      · rintro rfl
        exact hne rfl
      · exact Bool.not_eq_true _ ▸ List.find?_eq_none.mp hnone address ha

/-! ## The loop -/

variable (net past) in
/-- What a run may have asked after at most `n` requests: the turns, and perhaps a lookup that led to
    no request. -/
def Asked (n : Nat) (asked : List NetEvent) : Prop :=
  ∃ m, m ≤ n ∧ (Hops net past m asked ∨
    ∃ earlier hostname answer, Hops net past m earlier ∧ asked = earlier ++ [.looked hostname answer])

theorem Asked.guarded {n : Nat} {asked : List NetEvent} (h : Asked net past n asked) :
    (∀ before url answer after, asked = before ++ .requested url answer :: after →
      GuardedRequest net past before url) ∧ asked.countP NetEvent.isRequest ≤ n := by
  obtain ⟨m, hm, hhops | ⟨earlier, hostname, answer, hhops, rfl⟩⟩ := h
  · exact ⟨hhops.guarded.1, hhops.guarded.2 ▸ hm⟩
  · constructor
    · intro before url answer' after h
      rcases List.eq_nil_or_concat after with rfl | ⟨after, last, rfl⟩
      · exact nomatch (List.cons.inj (List.append_inj' h rfl).2).1
      · rw [List.concat_eq_append, ← List.cons_append, ← List.append_assoc] at h
        exact hhops.guarded.1 before url answer' after (List.append_inj' h rfl).1
    · rw [List.countP_append, hhops.guarded.2]
      exact hm

/-- A result comes from the answer to the last request. -/
def FromLast (maxBodyBytes : Nat) (run : List NetEvent × Awaited SafeFetchResult) : Prop :=
  ∀ result, run.2 = .returned result → ∃ before res,
    run.1 = before ++ [.requested result.finalUrl (.returned res)] ∧ res.ok = true ∧
      readBodyCapped res maxBodyBytes = .returned result.text

theorem fromLast_threw {maxBodyBytes : Nat} {asked : List NetEvent} {failure : Failure} :
    FromLast maxBodyBytes (asked, .threw failure) :=
  fun _ h => nomatch h

theorem fromLast_pending {maxBodyBytes : Nat} {asked : List NetEvent} :
    FromLast maxBodyBytes (asked, .pending) :=
  fun _ h => nomatch h

theorem isHttp_of_not {parsed : Url}
    (h : ¬ (parsed.protocol != js "http:" && parsed.protocol != js "https:") = true) :
    parsed.IsHttp := by
  rw [Bool.and_eq_true, bne_iff_ne, bne_iff_ne] at h
  by_cases hhttp : parsed.protocol = js "http:"
  · exact Or.inl hhttp
  · refine Or.inr ?_
    by_contra hhttps
    exact h ⟨hhttp, hhttps⟩

/-- **The loop keeps the guard**: by induction on the turns that are left. -/
theorem fetchHops_kept {url : JsString} {maxBodyBytes : Nat} (hops : Nat) :
    ∀ {n : Nat} {asked : List NetEvent} {currentUrl : JsString}, Hops net past n asked →
      Asked net past (n + hops) (fetchHops net past url maxBodyBytes hops asked currentUrl).1 ∧
        FromLast maxBodyBytes (fetchHops net past url maxBodyBytes hops asked currentUrl) := by
  induction hops with
  | zero => exact fun h => ⟨⟨_, Nat.le_refl _, Or.inl h⟩, fromLast_threw⟩
  | succ hops ih =>
    intro n asked currentUrl h
    have hsame : Asked net past (n + (hops + 1)) asked := ⟨n, Nat.le_add_right _ _, Or.inl h⟩
    unfold fetchHops
    split
    · exact ⟨hsame, fromLast_threw⟩
    rename_i parsed hparse
    split
    · exact ⟨hsame, fromLast_threw⟩
    rename_i hhttp
    have hlooked : ∀ answer,
        Asked net past (n + (hops + 1)) (asked ++ [.looked parsed.hostname answer]) :=
      fun answer => ⟨n, Nat.le_add_right _ _, Or.inr ⟨asked, _, answer, h, rfl⟩⟩
    dsimp only
    split
    · exact ⟨hlooked _, fromLast_threw⟩
    · exact ⟨hlooked _, fromLast_pending⟩
    rename_i hchecked
    obtain ⟨addresses, hlookup, hpublic⟩ := assertPublicHost_ok hchecked
    rw [hlookup]
    generalize net.fetch _ currentUrl = answer
    rw [List.append_assoc, List.singleton_append]
    have hturn : Hops net past (n + 1) (asked ++ [.looked parsed.hostname (.returned addresses),
        .requested currentUrl answer]) :=
      h.hop hparse (isHttp_of_not hhttp) hlookup hpublic
    have hasked : Asked net past (n + (hops + 1)) _ := ⟨n + 1, by omega, Or.inl hturn⟩
    split
    · exact ⟨hasked, fromLast_threw⟩
    · exact ⟨hasked, fromLast_pending⟩
    rename_i res
    split
    · split
      · exact ⟨hasked, fromLast_threw⟩
      · split
        · exact ⟨hasked, fromLast_threw⟩
        · rw [show n + (hops + 1) = n + 1 + hops by omega]
          exact ih hturn
    · split
      · exact ⟨hasked, fromLast_threw⟩
      rename_i hok
      split
      · exact ⟨hasked, fromLast_threw⟩
      · exact ⟨hasked, fromLast_pending⟩
      · rename_i text htext
        refine ⟨hasked, fun result hresult => ?_⟩
        obtain rfl := Awaited.returned.inj hresult
        refine ⟨asked ++ [.looked parsed.hostname (.returned addresses)], res, ?_, ?_, htext⟩
        · rw [List.append_assoc, List.singleton_append]
        · rwa [Bool.not_eq_true, Bool.not_eq_false'] at hok

end

/-- **`safeFetch` guards every hop.**  Whatever the resolver, the servers and the URL parser answer:
    every request goes to an http or https URL whose host was looked up right before, with public
    addresses only; there are at most `maxRedirects + 1`; and a body is returned only from an ok answer
    to the last of them. -/
theorem safeFetch_guards_every_hop (net : Network) (past : List NetEvent) (url : JsString)
    (options : SafeFetchOptions) :
    (∀ before url' answer after,
      (safeFetch net past url options).1 = before ++ .requested url' answer :: after →
        GuardedRequest net past before url') ∧
    (safeFetch net past url options).1.countP NetEvent.isRequest ≤ options.maxRedirects.getD 5 + 1 ∧
    FromLast (options.maxBodyBytes.getD (5 * 1024 * 1024)) (safeFetch net past url options) := by
  obtain ⟨hasked, hlast⟩ := fetchHops_kept (options.maxRedirects.getD 5 + 1) (@Hops.start net past)
  rw [Nat.zero_add] at hasked
  exact ⟨hasked.guarded.1, hasked.guarded.2, hlast⟩

end Hundi
