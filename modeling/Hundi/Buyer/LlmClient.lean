/-
  agents/llm-brain/src/llm-client.ts — asking a chat model for a pick.

  1. **Request** — `post`, with and without JSON mode, to whatever provider is configured.
  2. **Reply** — `parsePick`: the text from its first `{` to its last `}`, read as JSON.
  3. **Program** — `chatJson`, three attempts at most, never an exception.

  The provider is a function of the attempt and the request, so nothing is assumed of it.  Waiting
  between attempts changes no result and is left out.
-/
import Hundi.Lib.JsonParse

namespace Hundi

open Js

/-! ## The provider -/

/-- `ChatJsonArgs` without its two test hooks. -/
structure ChatJsonArgs where
  baseUrl : JsString
  apiKey : JsString
  model : JsString
  system : JsString
  user : JsString

/-- The POST request that `post(useJsonMode)` sends. -/
structure ChatRequest where
  url : JsString
  authorization : JsString
  model : JsString
  /-- The roles and contents. -/
  messages : List (JsString × JsString)
  maxTokens : Nat
  /-- Whether `response_format` asks for a JSON object. -/
  jsonMode : Bool

/-- What `(await res.json()).choices?.[0]?.message?.content` gives. -/
inductive Content where
  /-- The body is no JSON, or a member on the way is read off `null`: an exception. -/
  | unreadable
  /-- A value that is false as a condition, the empty string apart. -/
  | missing
  | text (s : JsString)
  /-- Any other value; it has no method `match`. -/
  | other

structure ChatResponse where
  status : Nat
  content : Content

/-- The answer to a request of an attempt, `none` when `fetch` rejects. -/
abbrev Provider := Nat → ChatRequest → Option ChatResponse

/-- `args.baseUrl.replace(/\/$/, '')`. -/
def dropTrailingSlash (url : JsString) : JsString :=
  if url.getLast? = some 0x2F then url.dropLast else url

/-- The request of `post(useJsonMode)`. -/
def chatRequest (args : ChatJsonArgs) (useJsonMode : Bool) : ChatRequest where
  url := dropTrailingSlash args.baseUrl ++ js "/chat/completions"
  authorization := js "Bearer " ++ args.apiKey
  model := args.model
  messages := [(js "system", args.system), (js "user", args.user)]
  maxTokens := 2048
  jsonMode := useJsonMode

/-! ## Reading the reply -/

/-- `LlmPick` of this file: a variant is no part of it. -/
structure ParsedPick where
  chosenSku : Option JsString
  reason : Option JsString
  deriving DecidableEq

/-- `{}` as a pick. -/
def ParsedPick.empty : ParsedPick := ⟨none, none⟩

/-- The members in the text of one object, in their order, as `JSON.parse` reads them; `none` where
    it throws.  A value that is `none` is a number, or has one in it, that is no integer. -/
def parseObject : JsString → Option (List (JsString × Option JsonValue))
  | [] => none
  | open' :: rest =>
    if open' ≠ 0x7B then none
    else
      match skipSpace rest with
      | [] => none
      | c :: rest' =>
        if c = 0x7D then if (skipSpace rest').isEmpty then some [] else none
        else
          match parseMembers (rest.length + 1) rest with
          | none => none
          | some (members, tail) => if (skipSpace tail).isEmpty then some members else none

/-- The string a parsed object has under a name, `none` when it has none there or no string: of two
    members with one name the last counts. -/
def stringMember (members : List (JsString × Option JsonValue)) (name : JsString) :
    Option JsString :=
  (members.reverse.find? fun m => m.1 == name).bind fun m => m.2.bind JsonValue.str?

/-- `text.match(/\{[\s\S]*\}/)`: from the first `{` to the last `}` behind it. -/
def matchObject (text : JsString) : Option JsString :=
  match text.dropWhile (· ≠ 0x7B) with
  | [] => none
  | open' :: rest =>
    match rest.reverse.dropWhile (· ≠ 0x7D) with
    | [] => none
    | close :: inner => some (open' :: (close :: inner).reverse)

/-- `parsePick(text)`. -/
def parsePick (text : JsString) : ParsedPick :=
  match (matchObject text).bind parseObject with
  | none => .empty
  | some members => ⟨stringMember members (js "chosen_sku"), stringMember members (js "reason")⟩

/-! ## The attempts -/

/-- The response an attempt goes by: that of the second request where the first is refused as 400. -/
def chatResponse (provider : Provider) (args : ChatJsonArgs) (attempt : Nat) : Option ChatResponse := do
  let res ← provider attempt (chatRequest args true)
  if res.status = 400 then provider attempt (chatRequest args false) else some res

/-- One round of the loop: a pick to return, or `none` when it goes on to the next. -/
def chatAttempt (provider : Provider) (args : ChatJsonArgs) (attempt : Nat) : Option ParsedPick := do
  let res ← chatResponse provider args attempt
  if 200 ≤ res.status ∧ res.status ≤ 299 then
    match res.content with
    | .unreadable | .other => none
    | .missing => some .empty
    | .text s => some (if s.isEmpty then .empty else parsePick s)
  else if res.status = 429 ∨ 500 ≤ res.status then none
  else some .empty

/-- `chatJson(args)`: the pick of the first attempt that has one; the last failure gives `{}`. -/
def chatJson (provider : Provider) (args : ChatJsonArgs) : ParsedPick :=
  ((List.range 3).findSome? (chatAttempt provider args)).getD .empty

/-! ## What the parser finds -/

/-- A text with one object in it, and no brace around it. -/
structure OneObject (text before object after : JsString) : Prop where
  eq : text = before ++ object ++ after
  before : 0x7B ∉ before
  after : 0x7D ∉ after
  braces : ∃ inner, object = 0x7B :: (inner ++ [0x7D])

/-- The one object of a text is what the pattern matches. -/
theorem OneObject.matchObject {text before object after : JsString}
    (h : OneObject text before object after) : matchObject text = some object := by
  obtain ⟨inner, rfl⟩ := h.braces
  have hbefore : ∀ u ∈ before, (decide (u ≠ 0x7B)) = true := by
    intro u hu
    exact decide_eq_true fun he => h.before (he ▸ hu)
  have hafter : ∀ u ∈ after.reverse, (decide (u ≠ 0x7D)) = true := by
    intro u hu
    exact decide_eq_true fun he => h.after (he ▸ List.mem_reverse.mp hu)
  have hdrop : text.dropWhile (· ≠ 0x7B) = 0x7B :: (inner ++ [0x7D] ++ after) := by
    rw [h.eq, List.append_assoc, List.dropWhile_append_of_pos hbefore]
    rfl
  have hlast : (inner ++ [0x7D] ++ after).reverse.dropWhile (· ≠ 0x7D) = 0x7D :: inner.reverse := by
    rw [List.reverse_append, List.dropWhile_append_of_pos hafter, List.reverse_append]
    rfl
  unfold Hundi.matchObject
  rw [hdrop]
  dsimp only
  rw [hlast]
  simp

/-- Of an object that parses, the pick has the two members and nothing else. -/
theorem parsePick_of_object {text before object after : JsString}
    {members : List (JsString × Option JsonValue)} (h : OneObject text before object after)
    (hparse : parseObject object = some members) :
    parsePick text =
      ⟨stringMember members (js "chosen_sku"), stringMember members (js "reason")⟩ := by
  rw [parsePick, h.matchObject, Option.bind_some, hparse]

/-- The model replies with a text: some attempt reads it, and those before it give nothing. -/
def Replied (provider : Provider) (args : ChatJsonArgs) (text : JsString) : Prop :=
  ∃ k < 3, (∀ j < k, chatAttempt provider args j = none) ∧
    ∃ status, 200 ≤ status ∧ status ≤ 299 ∧ chatResponse provider args k = some ⟨status, .text text⟩

/-- A reply is what the client parses. -/
theorem Replied.chatJson {provider : Provider} {args : ChatJsonArgs} {text : JsString}
    (h : Replied provider args text) (hne : text ≠ []) : chatJson provider args = parsePick text := by
  obtain ⟨k, hk, hbefore, status, hlow, hhigh, hres⟩ := h
  have hattempt : chatAttempt provider args k = some (parsePick text) := by
    rw [chatAttempt, hres, Option.bind_eq_bind, Option.bind_some]
    dsimp only
    rw [if_pos ⟨hlow, hhigh⟩, List.isEmpty_eq_false_iff.mpr hne]
    rfl
  have hfirst : (List.range 3).findSome? (chatAttempt provider args) = some (parsePick text) := by
    have hsplit : List.range 3 = List.range k ++ k :: List.range' (k + 1) (2 - k) := by
      match k, hk with
      | 0, _ | 1, _ | 2, _ => rfl
    have hnone : (List.range k).findSome? (chatAttempt provider args) = none := by
      rw [List.findSome?_eq_none_iff]
      exact fun j hj => hbefore j (List.mem_range.mp hj)
    rw [hsplit, List.findSome?_append, hnone, Option.none_or, List.findSome?_cons, hattempt]
  rw [Hundi.chatJson, hfirst]
  rfl

end Hundi
