/-
  packages/facilitator/src/ledger.ts — what `verifyLedger` makes of a damaged table.

  The audit is for tables that were edited outside the program.  A verdict it returns localises the
  damage (`verdict_localised`, by induction over the rows): every row before the reported one hangs
  together and carries its own hash, the reported one does not.  But the loop hands the payload's
  text to `JSON.parse` and the parsed value to `canonicalJson`, and neither is caught: the walk
  throws at the first row that is damaged by a payload these refuse.  `audit_localises_iff` is exact.
-/
import Hundi.Facilitator.LedgerChain

namespace Hundi

open Js

namespace Stored

/-- The row names the head before it and carries the hash of its own content. -/
def Row.Consistent (crypto : Crypto) (row : Row) (expectedPrev : JsString) : Prop :=
  row.prevHash = expectedPrev ∧ row.Hashed crypto

/-- Every row is consistent with the rows before it. -/
def ConsistentFrom (crypto : Crypto) : JsString → List Row → Prop
  | _, [] => True
  | expectedPrev, row :: rows =>
    row.Consistent crypto expectedPrev ∧ ConsistentFrom crypto row.rowHash rows

/-- The payload is JSON text of a value that `canonicalJson` admits. -/
def Row.Readable (row : Row) : Prop := ∃ v, jsonParse row.payload = some (some v) ∧ safe v = true

/-- What a verdict on the rows from `expectedPrev` on says about them. -/
def Localised (crypto : Crypto) (expectedPrev : JsString) (rows : List Row) : VerifyLedgerResult → Prop
  | .ok _ _ => ConsistentFrom crypto expectedPrev rows
  | .broken brokenAtSeq => ∃ before row after, rows = before ++ row :: after ∧ row.seq = brokenAtSeq ∧
      ConsistentFrom crypto expectedPrev before ∧
      ¬ row.Consistent crypto (HashChain.head Row.rowHash expectedPrev before)

/-- **The audit localises any damage**: it returns, and its verdict is the first inconsistent row in
    the order of `seq`, or that there is none. -/
def AuditLocalises (crypto : Crypto) (table : List Row) : Prop :=
  ∃ verdict, verifyLedger crypto table = .ok verdict ∧
    Localised crypto genesisHash (bySeq table) verdict

/-- A row that comes after consistent rows only, and whose link holds, has a payload that can be
    read. -/
def ReadableWhereLinked (crypto : Crypto) (expectedPrev : JsString) (rows : List Row) : Prop :=
  ∀ before row after, rows = before ++ row :: after → ConsistentFrom crypto expectedPrev before →
    row.prevHash = HashChain.head Row.rowHash expectedPrev before → row.Readable

theorem readableWhereLinked_cons {crypto : Crypto} {expectedPrev : JsString} {row : Row}
    {rows : List Row} :
    ReadableWhereLinked crypto expectedPrev (row :: rows) ↔
      (row.prevHash = expectedPrev →
        row.Readable ∧ (row.Hashed crypto → ReadableWhereLinked crypto row.rowHash rows)) := by
  constructor
  · intro h hprev
    refine ⟨h [] row rows rfl trivial hprev, fun hhashed before row' after hrows hbefore hprev' => ?_⟩
    refine h (row :: before) row' after (by rw [hrows]; rfl) ⟨⟨hprev, hhashed⟩, hbefore⟩ ?_
    rw [HashChain.head_cons, hprev']
  · intro h before row' after hrows hbefore hprev
    cases before with
    | nil =>
      obtain ⟨rfl, -⟩ := List.cons.inj hrows
      exact (h hprev).1
    | cons first before =>
      obtain ⟨rfl, hrest⟩ := List.cons.inj hrows
      obtain ⟨hfirst, hbefore⟩ := hbefore
      rw [HashChain.head_cons] at hprev
      exact (h hfirst.1).2 hfirst.2 before row' after hrest hbefore hprev

theorem preimage_isOk_iff (row : Row) : (∃ bytes, row.preimage = .ok bytes) ↔ row.Readable := by
  constructor
  · rintro ⟨bytes, h⟩
    obtain ⟨v, hv, hb⟩ := bind_eq_ok.mp h
    have hsafe := safe_of_canonicalJson hb
    rw [safe_hashValue] at hsafe
    exact ⟨v, parsePayload_ok hv, hsafe⟩
  · rintro ⟨v, hv, hsafe⟩
    have hparse : parsePayload row.payload = .ok v := by rw [parsePayload, hv]
    refine ⟨_, bind_eq_ok.mpr ⟨v, hparse, canonicalJson_safe ?_⟩⟩
    rw [safe_hashValue, hsafe]

/-- One step of the walk, on a row whose link holds. -/
theorem verifyRows_linked (crypto : Crypto) (count : Nat) (row : Row) (rows : List Row) {bytes : Bytes}
    (h : row.preimage = .ok bytes) :
    verifyRows crypto count row.prevHash (row :: rows) =
      if crypto.sha256Hex bytes ≠ row.rowHash then .ok (.broken row.seq)
      else verifyRows crypto count row.rowHash rows := by
  obtain ⟨v, hv, hb⟩ := bind_eq_ok.mp h
  rw [verifyRows, if_neg (not_not.mpr rfl), hv]
  show (canonicalJson _ >>= _) = _
  rw [hb]
  rfl

/-- A verdict on a row whose link holds has read its payload. -/
theorem preimage_of_verdict {crypto : Crypto} {count : Nat} {row : Row} {rows : List Row}
    {verdict : VerifyLedgerResult} (h : verifyRows crypto count row.prevHash (row :: rows) = .ok verdict) :
    ∃ bytes, row.preimage = .ok bytes := by
  rw [verifyRows, if_neg (not_not.mpr rfl), bind_eq_ok] at h
  obtain ⟨v, hv, h⟩ := h
  obtain ⟨bytes, hb, -⟩ := bind_eq_ok.mp h
  exact ⟨bytes, bind_eq_ok.mpr ⟨v, hv, hb⟩⟩

theorem hashed_iff {crypto : Crypto} {row : Row} {bytes : Bytes} (h : row.preimage = .ok bytes) :
    row.Hashed crypto ↔ crypto.sha256Hex bytes = row.rowHash := by
  constructor
  · rintro ⟨bytes', h', hh⟩
    obtain rfl := Except.ok.inj (h.symm.trans h')
    exact hh
  · intro hh
    exact ⟨bytes, h, hh⟩

/-- The rows before and after a step that held. -/
theorem Localised.cons {crypto : Crypto} {expectedPrev : JsString} {row : Row} {rows : List Row}
    (hrow : row.Consistent crypto expectedPrev) {verdict : VerifyLedgerResult}
    (h : Localised crypto row.rowHash rows verdict) :
    Localised crypto expectedPrev (row :: rows) verdict := by
  cases verdict with
  | ok head count => exact ⟨hrow, h⟩
  | broken s =>
    obtain ⟨before, broken, after, hrows, hseq, hbefore, hbroken⟩ := h
    refine ⟨row :: before, broken, after, by rw [hrows]; rfl, hseq, ⟨hrow, hbefore⟩, ?_⟩
    rw [HashChain.head_cons]
    exact hbroken

/-- **Every verdict localises.** -/
theorem verdict_localised {crypto : Crypto} {count : Nat} {verdict : VerifyLedgerResult} :
    ∀ {rows : List Row} {expectedPrev : JsString},
      verifyRows crypto count expectedPrev rows = .ok verdict →
      Localised crypto expectedPrev rows verdict
  | [], expectedPrev, h => by
    obtain rfl := Except.ok.inj h
    exact trivial
  | row :: rows, expectedPrev, h => by
    by_cases hprev : row.prevHash = expectedPrev
    · subst hprev
      obtain ⟨bytes, hbytes⟩ := preimage_of_verdict h
      rw [verifyRows_linked crypto count row rows hbytes] at h
      by_cases hhash : crypto.sha256Hex bytes = row.rowHash
      · rw [if_neg (not_not.mpr hhash)] at h
        exact (verdict_localised h).cons ⟨rfl, (hashed_iff hbytes).mpr hhash⟩
      · rw [if_pos hhash] at h
        obtain rfl := Except.ok.inj h
        exact ⟨[], row, rows, rfl, rfl, trivial, fun hc => hhash ((hashed_iff hbytes).mp hc.2)⟩
    · rw [verifyRows, if_pos hprev] at h
      obtain rfl := Except.ok.inj h
      exact ⟨[], row, rows, rfl, rfl, trivial, fun hc => hprev hc.1⟩

/-- The walk returns exactly when the first inconsistent row does not stop it with a throw. -/
theorem verifyRows_returns_iff {crypto : Crypto} {count : Nat} :
    ∀ {rows : List Row} {expectedPrev : JsString},
      (∃ verdict, verifyRows crypto count expectedPrev rows = .ok verdict) ↔
        ReadableWhereLinked crypto expectedPrev rows
  | [], expectedPrev =>
    ⟨fun _ before _ _ hrows => absurd hrows.symm (List.append_ne_nil_of_right_ne_nil before nofun),
      fun _ => ⟨_, rfl⟩⟩
  | row :: rows, expectedPrev => by
    rw [readableWhereLinked_cons]
    by_cases hprev : row.prevHash = expectedPrev
    · subst hprev
      rw [imp_iff_right rfl, ← preimage_isOk_iff]
      constructor
      · rintro ⟨verdict, h⟩
        obtain ⟨bytes, hbytes⟩ := preimage_of_verdict h
        refine ⟨⟨bytes, hbytes⟩, fun hhashed => ?_⟩
        rw [verifyRows_linked crypto count row rows hbytes,
          if_neg (not_not.mpr ((hashed_iff hbytes).mp hhashed))] at h
        exact verifyRows_returns_iff.mp ⟨verdict, h⟩
      · rintro ⟨⟨bytes, hbytes⟩, hrest⟩
        rw [verifyRows_linked crypto count row rows hbytes]
        by_cases hhash : crypto.sha256Hex bytes = row.rowHash
        · rw [if_neg (not_not.mpr hhash)]
          exact verifyRows_returns_iff.mpr (hrest ((hashed_iff hbytes).mpr hhash))
        · rw [if_pos hhash]
          exact ⟨_, rfl⟩
    · rw [verifyRows, if_pos hprev]
      exact ⟨fun _ hlink => absurd hlink hprev, fun _ => ⟨_, rfl⟩⟩

/-- **When the audit localises damage**: exactly when the first inconsistent row, in the order of
    `seq`, breaks the link or has a payload that `JSON.parse` and `canonicalJson` take. -/
theorem audit_localises_iff (crypto : Crypto) (table : List Row) :
    AuditLocalises crypto table ↔ ReadableWhereLinked crypto genesisHash (bySeq table) := by
  rw [← @verifyRows_returns_iff crypto (bySeq table).length]
  constructor
  · rintro ⟨verdict, h, -⟩
    exact ⟨verdict, h⟩
  · rintro ⟨verdict, h⟩
    exact ⟨verdict, h, verdict_localised h⟩

/-- The row after `demoRow`, its payload overwritten. -/
def demoOverwritten : Row :=
  { demoRow with seq := 2, prevHash := demoRow.rowHash, payload := js "oops" }

/-- A row whose payload was overwritten with text that is no JSON stops the audit with a throw. -/
theorem overwritten_payload_throws : ¬ AuditLocalises demoCrypto [demoRow, demoOverwritten] := by
  have hthrow : verifyLedger demoCrypto [demoRow, demoOverwritten] =
      .error (.error (js "JSON.parse")) := by
    decide +kernel
  rintro ⟨verdict, h, -⟩
  rw [hthrow] at h
  exact nomatch h

end Stored

end Hundi
