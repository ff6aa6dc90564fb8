/-
  packages/facilitator/src/ledger.ts — the hash chain as it is stored, and what its head says.

  Ledger.lean keeps the value of a row's payload.  Here is the table as SQLite holds it, with the
  payload as text: `Stored.appendLedger` writes canonical text, `Stored.verifyLedger` parses it back
  and hashes the value again.  `appendLedger_stored` connects the two levels.

  * `appended_ledger_verifies` — whatever is appended, the table verifies.  The two sides hash the
    same bytes because canonical JSON is a fixed point of storing and parsing; the induction is over
    the calls.
  * `verified_head_binds`      — two tables, however obtained, that verify with one head agree row
    by row.  A row's hash determines the row, so the head determines the chain
    (`HashChain.commit`).
-/
import Hundi.Core.Reparse
import Hundi.Facilitator.Routes
import Hundi.Lib.HashChain

namespace Hundi

open Js

namespace Stored

/-- A row of `ledger_events` as SQLite returns it. -/
structure Row where
  seq : Int
  eventType : JsString
  settlementId : Option JsString
  actor : JsString
  payload : JsString
  prevHash : JsString
  rowHash : JsString

/-- `ORDER BY seq ASC`. -/
def bySeq (table : List Row) : List Row := table.insertionSort fun a b => a.seq ≤ b.seq

/-- `currentHead(db)`: `ORDER BY seq DESC LIMIT 1`. -/
def currentHead (table : List Row) : JsString :=
  match (bySeq table).getLast? with
  | some row => row.rowHash
  | none => genesisHash

/-- The `seq` of the next row: AUTOINCREMENT, at least 1, and no row is ever deleted. -/
def nextSeq (table : List Row) : Int :=
  match (bySeq table).getLast? with
  | some row => max row.seq 0 + 1
  | none => 1

/-- The object that is hashed, from the columns of a row. -/
def hashValue (eventType : JsString) (settlementId : Option JsString) (actor : JsString)
    (payload : JsonValue) (prevHash : JsString) : JsonValue :=
  .obj [(js "event_type", .str eventType),
    (js "settlement_id", match settlementId with | some id => .str id | none => .null),
    (js "actor", .str actor),
    (js "payload", payload),
    (js "prev_hash", .str prevHash)]

/-- `appendLedger(db, input)`: the table with the new row. -/
def appendLedger (crypto : Crypto) (table : List Row) (input : AppendLedgerInput) :
    Except Exn (List Row) := do
  let prevHash := currentHead table
  let bytes ← canonicalJson
    (hashValue input.eventType.text input.settlementId input.actor (.obj input.payload) prevHash)
  let payloadBytes ← canonicalJson (.obj input.payload)
  return table ++
    [{ seq := nextSeq table
       eventType := input.eventType.text
       settlementId := input.settlementId
       actor := input.actor
       payload := textDecode payloadBytes
       prevHash := prevHash
       rowHash := crypto.sha256Hex bytes }]

inductive VerifyLedgerResult where
  | ok (head : JsString) (count : Nat)
  | broken (brokenAtSeq : Int)
  deriving DecidableEq

/-- `JSON.parse(row.payload)`.  A number `canonicalJson` refuses is refused here already, with its
    error class; the texts of the two errors are left out. -/
def parsePayload (text : JsString) : Except Exn JsonValue :=
  match jsonParse text with
  | some (some v) => .ok v
  | some none => .error (.typeError (js "canonicalJson"))
  | none => .error (.error (js "JSON.parse"))

/-- The loop of `verifyLedger`, with `expectedPrev`. -/
def verifyRows (crypto : Crypto) (count : Nat) : JsString → List Row → Except Exn VerifyLedgerResult
  | expectedPrev, [] => .ok (.ok expectedPrev count)
  | expectedPrev, row :: rows =>
    if row.prevHash ≠ expectedPrev then .ok (.broken row.seq)
    else do
      let payloadValue ← parsePayload row.payload
      let bytes ← canonicalJson
        (hashValue row.eventType row.settlementId row.actor payloadValue row.prevHash)
      if crypto.sha256Hex bytes ≠ row.rowHash then .ok (.broken row.seq)
      else verifyRows crypto count row.rowHash rows

/-- `verifyLedger(db)`. -/
def verifyLedger (crypto : Crypto) (table : List Row) : Except Exn VerifyLedgerResult :=
  verifyRows crypto (bySeq table).length genesisHash (bySeq table)

/-! ## What a verified table is -/

/-- The bytes whose hash a row has to carry. -/
def Row.preimage (row : Row) : Except Exn Bytes := do
  let payloadValue ← parsePayload row.payload
  canonicalJson (hashValue row.eventType row.settlementId row.actor payloadValue row.prevHash)

/-- The row carries the hash of its own content. -/
def Row.Hashed (crypto : Crypto) (row : Row) : Prop :=
  ∃ bytes, row.preimage = .ok bytes ∧ crypto.sha256Hex bytes = row.rowHash

theorem currentHead_eq (table : List Row) :
    currentHead table = HashChain.head Row.rowHash genesisHash (bySeq table) := by
  rw [currentHead, HashChain.head]
  cases (bySeq table).getLast? <;> rfl

/-- **Rows verify exactly when they hang together and each carries its own hash.** -/
theorem verifyRows_ok {crypto : Crypto} {count n : Nat} {head : JsString} (rows : List Row) :
    ∀ start, verifyRows crypto count start rows = .ok (.ok head n) ↔
      HashChain.Linked Row.prevHash Row.rowHash start rows ∧ (∀ row ∈ rows, row.Hashed crypto) ∧
        HashChain.head Row.rowHash start rows = head ∧ count = n := by
  induction rows with
  | nil =>
    intro start
    rw [verifyRows, HashChain.Linked, HashChain.head_nil]
    constructor
    · intro h
      obtain ⟨rfl, rfl⟩ := VerifyLedgerResult.ok.inj (Except.ok.inj h)
      exact ⟨trivial, fun _ hr => absurd hr List.not_mem_nil, rfl, rfl⟩
    · rintro ⟨-, -, rfl, rfl⟩
      rfl
  | cons row rows ih =>
    intro start
    rw [HashChain.Linked, HashChain.head_cons, List.forall_mem_cons]
    constructor
    · intro h
      rw [verifyRows] at h
      by_cases hp : row.prevHash ≠ start
      · rw [if_pos hp] at h
        cases Except.ok.inj h
      rw [if_neg hp, bind_eq_ok] at h
      obtain ⟨v, hv, h⟩ := h
      rw [bind_eq_ok] at h
      obtain ⟨bytes, hb, h⟩ := h
      by_cases hh : crypto.sha256Hex bytes ≠ row.rowHash
      · rw [if_pos hh] at h
        cases Except.ok.inj h
      rw [if_neg hh] at h
      obtain ⟨hl, hall, hhead, hn⟩ := (ih _).mp h
      have hhashed : row.Hashed crypto :=
        ⟨bytes, bind_eq_ok.mpr ⟨v, hv, hb⟩, not_not.mp hh⟩
      exact ⟨⟨not_not.mp hp, hl⟩, ⟨hhashed, hall⟩, hhead, hn⟩
    · rintro ⟨⟨hp, hl⟩, ⟨⟨bytes, hpre, hh⟩, hall⟩, hhead, hn⟩
      obtain ⟨v, hv, hb⟩ := bind_eq_ok.mp hpre
      have hrest := (ih row.rowHash).mpr ⟨hl, hall, hhead, hn⟩
      rw [verifyRows, if_neg (not_not.mpr hp), hv]
      show (canonicalJson _ >>= _) = _
      rw [hb]
      show (if crypto.sha256Hex bytes ≠ row.rowHash then _ else _) = _
      rw [if_neg (not_not.mpr hh), hrest]

/-! ## Appending -/

/-- The hashed object is the same whether its payload has been stored and parsed or not. -/
theorem hashValue_norm (eventType : JsString) (settlementId : Option JsString) (actor : JsString)
    (payload : JsonValue) (prevHash : JsString) :
    norm (hashValue eventType settlementId actor (norm payload) prevHash) =
      norm (hashValue eventType settlementId actor payload prevHash) := by
  cases settlementId <;> simp only [hashValue, norm, normMembers, norm_norm]

theorem safe_hashValue {eventType : JsString} {settlementId : Option JsString} {actor : JsString}
    {payload : JsonValue} {prevHash : JsString} :
    safe (hashValue eventType settlementId actor payload prevHash) = safe payload := by
  cases settlementId <;>
    simp only [hashValue, safe, safeMembers, Bool.true_and, Bool.and_true]

theorem canonicalJson_hashValue {eventType : JsString} {settlementId : Option JsString}
    {actor : JsString} {payload : JsonValue} {prevHash : JsString} {bytes : Bytes}
    (h : canonicalJson (hashValue eventType settlementId actor payload prevHash) = .ok bytes) :
    canonicalJson (hashValue eventType settlementId actor (norm payload) prevHash) = .ok bytes := by
  have hsafe := safe_of_canonicalJson h
  have hnorm : safe (hashValue eventType settlementId actor (norm payload) prevHash) = true := by
    rw [safe_hashValue] at hsafe ⊢
    exact safe_norm payload hsafe
  rw [canonicalJson_safe hnorm, hashValue_norm, ← canonicalJson_safe hsafe, h]

/-- The invariant of the table: numbered upwards in the order of insertion, linked, hashed. -/
structure Intact (crypto : Crypto) (table : List Row) : Prop where
  increasing : table.Pairwise fun a b => a.seq < b.seq
  linked : HashChain.Linked Row.prevHash Row.rowHash genesisHash table
  hashed : ∀ row ∈ table, row.Hashed crypto

theorem bySeq_of_increasing {table : List Row} (h : table.Pairwise fun a b => a.seq < b.seq) :
    bySeq table = table :=
  List.Pairwise.insertionSort_eq (h.imp Int.le_of_lt)

/-- The next number is above every number given so far. -/
theorem lt_nextSeq {table : List Row} (h : table.Pairwise fun a b => a.seq < b.seq) :
    ∀ row ∈ table, row.seq < nextSeq table := by
  rw [nextSeq, bySeq_of_increasing h]
  rcases List.eq_nil_or_concat table with rfl | ⟨init, last, rfl⟩
  · exact fun _ hr => nomatch hr
  · rw [List.concat_eq_append] at h ⊢
    rw [List.getLast?_append, List.getLast?_singleton]
    intro row hr
    show row.seq < max last.seq 0 + 1
    rcases List.mem_append.mp hr with hr | hr
    · have hlt := (List.pairwise_append.mp h).2.2 row hr last List.mem_cons_self
      omega
    · rw [List.mem_singleton.mp hr]
      omega

theorem Intact.verifies {crypto : Crypto} {table : List Row} (h : Intact crypto table) :
    verifyLedger crypto table = .ok (.ok (currentHead table) table.length) := by
  rw [verifyLedger, currentHead_eq, bySeq_of_increasing h.increasing]
  exact (verifyRows_ok table genesisHash).mpr ⟨h.linked, h.hashed, rfl, rfl⟩

/-- A JavaScript call of `appendLedger`: no object in its payload names a key twice. -/
structure AppendCall extends AppendLedgerInput where
  keysOnce : KeysOnce (.obj payload)

/-- **An append keeps the table intact.** -/
theorem appendLedger_intact {crypto : Crypto} {table table' : List Row} {call : AppendCall}
    (hi : Intact crypto table) (h : appendLedger crypto table call.toAppendLedgerInput = .ok table') :
    Intact crypto table' ∧ table'.length = table.length + 1 := by
  rw [appendLedger, bind_eq_ok] at h
  obtain ⟨bytes, hbytes, h⟩ := h
  rw [bind_eq_ok] at h
  obtain ⟨payloadBytes, hpayload, h⟩ := h
  obtain rfl := Except.ok.inj h
  refine ⟨⟨?_, ?_, ?_⟩, by rw [List.length_append, List.length_singleton]⟩
  · rw [List.pairwise_append]
    refine ⟨hi.increasing, List.pairwise_singleton _ _, fun row hr new hn => ?_⟩
    rw [List.mem_singleton.mp hn]
    exact lt_nextSeq hi.increasing row hr
  · rw [HashChain.linked_append_singleton]
    refine ⟨hi.linked, ?_⟩
    rw [← bySeq_of_increasing hi.increasing, ← currentHead_eq,
      bySeq_of_increasing hi.increasing]
  · intro row hr
    rcases List.mem_append.mp hr with hr | hr
    · exact hi.hashed row hr
    · rw [List.mem_singleton.mp hr]
      refine ⟨bytes, ?_, rfl⟩
      have hparse : parsePayload (textDecode payloadBytes) = .ok (norm (.obj call.payload)) := by
        rw [parsePayload, jsonParse_canonicalJson hpayload call.keysOnce]
      rw [Row.preimage, hparse]
      exact canonicalJson_hashValue hbytes

/-- What `canonicalJson` admits is appended, anything else throws. -/
theorem appendLedger_ok_iff (crypto : Crypto) (table : List Row) (input : AppendLedgerInput) :
    (∃ table', appendLedger crypto table input = .ok table') ↔ safe (.obj input.payload) = true := by
  constructor
  · rintro ⟨table', h⟩
    rw [appendLedger, bind_eq_ok] at h
    obtain ⟨bytes, -, h⟩ := h
    rw [bind_eq_ok] at h
    obtain ⟨payloadBytes, hpayload, -⟩ := h
    exact safe_of_canonicalJson hpayload
  · intro hs
    have hhash : safe (hashValue input.eventType.text input.settlementId input.actor
        (.obj input.payload) (currentHead table)) = true := by
      rw [safe_hashValue, hs]
    simp only [appendLedger]
    rw [canonicalJson_safe hhash, canonicalJson_safe hs]
    exact ⟨_, rfl⟩

/-- One call; one that throws writes nothing. -/
def appendCall (crypto : Crypto) (table : List Row) (call : AppendCall) : List Row :=
  match appendLedger crypto table call.toAppendLedgerInput with
  | .ok table' => table'
  | .error _ => table

/-- The calls, one after the other, on an empty table. -/
def appendCalls (crypto : Crypto) (calls : List AppendCall) : List Row :=
  calls.foldl (appendCall crypto) []

/-- `canonicalJson` admits the payload. -/
def AppendCall.admitted (call : AppendCall) : Bool := (canonicalJson (.obj call.payload)).isOk

theorem AppendCall.admitted_iff (call : AppendCall) :
    call.admitted = true ↔ safe (.obj call.payload) = true := by
  rw [admitted]
  constructor
  · intro h
    cases hc : canonicalJson (.obj call.payload) with
    | ok b => exact safe_of_canonicalJson hc
    | error e =>
      rw [hc] at h
      exact nomatch h
  · intro h
    rw [canonicalJson_safe h]
    rfl

theorem appendCall_intact {crypto : Crypto} {table : List Row} (hi : Intact crypto table)
    (call : AppendCall) : Intact crypto (appendCall crypto table call) ∧
      (appendCall crypto table call).length = table.length + if call.admitted then 1 else 0 := by
  rw [appendCall]
  cases h : appendLedger crypto table call.toAppendLedgerInput with
  | ok table' =>
    have hadm := call.admitted_iff.mpr ((appendLedger_ok_iff crypto table _).mp ⟨table', h⟩)
    rw [if_pos hadm]
    exact appendLedger_intact hi h
  | error e =>
    have hadm : ¬ call.admitted = true := by
      intro hadm
      obtain ⟨table', hok⟩ := (appendLedger_ok_iff crypto table _).mpr (call.admitted_iff.mp hadm)
      rw [h] at hok
      exact nomatch hok
    rw [if_neg hadm]
    exact ⟨hi, rfl⟩

theorem intact_nil (crypto : Crypto) : Intact crypto [] :=
  ⟨List.Pairwise.nil, trivial, fun _ hr => nomatch hr⟩

/-- The run lemma: from an intact table on, every call keeps it intact. -/
theorem appendCalls_intact (crypto : Crypto) (calls : List AppendCall) :
    Intact crypto (appendCalls crypto calls) ∧
      (appendCalls crypto calls).length = (calls.filter AppendCall.admitted).length := by
  suffices hall : ∀ (calls : List AppendCall) (table : List Row), Intact crypto table →
      Intact crypto (calls.foldl (appendCall crypto) table) ∧
        (calls.foldl (appendCall crypto) table).length =
          table.length + (calls.filter AppendCall.admitted).length by
    have h := hall calls [] (intact_nil crypto)
    rw [List.length_nil, Nat.zero_add] at h
    exact h
  intro calls
  induction calls with
  | nil => exact fun _ hi => ⟨hi, rfl⟩
  | cons call calls ih =>
    intro table hi
    obtain ⟨hi', hlen⟩ := appendCall_intact hi call
    obtain ⟨hrun, hcount⟩ := ih _ hi'
    refine ⟨hrun, ?_⟩
    rw [List.foldl_cons, hcount, hlen, List.filter_cons]
    cases call.admitted with
    | true =>
      rw [if_pos rfl, if_pos rfl, List.length_cons]
      omega
    | false =>
      rw [if_neg Bool.false_ne_true, if_neg Bool.false_ne_true]
      rfl

/-- **What a facilitator appends always verifies**: with the number of appends, and with the last
    row's hash for its head. -/
theorem appended_ledger_verifies (crypto : Crypto) (calls : List AppendCall) :
    verifyLedger crypto (appendCalls crypto calls) =
        .ok (.ok (((appendCalls crypto calls).getLast?.map Row.rowHash).getD genesisHash)
          (calls.filter AppendCall.admitted).length) ∧
      (appendCalls crypto calls).Pairwise (fun a b => a.seq < b.seq) ∧
      HashChain.Linked Row.prevHash Row.rowHash genesisHash (appendCalls crypto calls) := by
  obtain ⟨hi, hlen⟩ := appendCalls_intact crypto calls
  refine ⟨?_, hi.increasing, hi.linked⟩
  rw [hi.verifies, hlen, currentHead_eq, bySeq_of_increasing hi.increasing]
  rfl

/-! ## What the head says -/

/-- The rows record one event: the same columns, and payloads that parse to values equal up to the
    order of keys. -/
structure SameEvent (row row' : Row) : Prop where
  eventType : row.eventType = row'.eventType
  settlementId : row.settlementId = row'.settlementId
  actor : row.actor = row'.actor
  payload : ∃ v v', jsonParse row.payload = some (some v) ∧ jsonParse row'.payload = some (some v') ∧
    norm v = norm v'
  prevHash : row.prevHash = row'.prevHash
  rowHash : row.rowHash = row'.rowHash

/-- No hexadecimal text is the genesis string. -/
theorem sha256Hex_ne_genesis (crypto : Crypto) (bytes : Bytes) :
    crypto.sha256Hex bytes ≠ genesisHash := by
  have hdigit : ∀ n < 16, hexDigit n ≠ 0x48 := by decide
  have hgenesis : genesisHash = 0x48 :: genesisHash.tail := by decide
  intro h
  rw [hgenesis, Crypto.sha256Hex, bytesToHex] at h
  cases hs : crypto.sha256 bytes with
  | nil =>
    rw [hs, List.flatMap_nil] at h
    cases h
  | cons b bs =>
    have hb := b.toNat_lt
    rw [hs, List.flatMap_cons, List.cons_append] at h
    exact hdigit (b.toNat / 16) (by omega) (List.cons.inj h).1

theorem parsePayload_ok {text : JsString} {v : JsonValue} (h : parsePayload text = .ok v) :
    jsonParse text = some (some v) := by
  rw [parsePayload] at h
  split at h
  · rename_i w hw
    rw [hw, Except.ok.inj h]
  · exact nomatch h
  · exact nomatch h

/-- The five columns can be read off the hashed object, whatever order its keys are in. -/
theorem hashValue_inj {e e' : JsString} {s s' : Option JsString} {a a' : JsString} {v v' : JsonValue}
    {p p' : JsString} (h : norm (hashValue e s a v p) = norm (hashValue e' s' a' v' p')) :
    e = e' ∧ s = s' ∧ a = a' ∧ norm v = norm v' ∧ p = p' := by
  have hget : ∀ k, ((hashValue e s a v p).get? k).map norm =
      ((hashValue e' s' a' v' p').get? k).map norm := by
    intro k
    have hkeys : ∀ e s a v p, ∃ ms, hashValue e s a v p = .obj ms ∧ (ms.map Prod.fst).Nodup := by
      intro e s a v p
      refine ⟨_, rfl, ?_⟩
      show [js "event_type", js "settlement_id", js "actor", js "payload", js "prev_hash"].Nodup
      decide
    obtain ⟨ms, hms, hnd⟩ := hkeys e s a v p
    obtain ⟨ms', hms', hnd'⟩ := hkeys e' s' a' v' p'
    rw [hms, hms'] at h ⊢
    rw [← get?_norm hnd, ← get?_norm hnd', h]
  have hevent : some (JsonValue.str e) = some (JsonValue.str e') := hget (js "event_type")
  have hactor : some (JsonValue.str a) = some (JsonValue.str a') := hget (js "actor")
  have hpayload : some (norm v) = some (norm v') := hget (js "payload")
  have hprev : some (JsonValue.str p) = some (JsonValue.str p') := hget (js "prev_hash")
  have hsettlement := hget (js "settlement_id")
  refine ⟨JsonValue.str.inj (Option.some.inj hevent), ?_, JsonValue.str.inj (Option.some.inj hactor),
    Option.some.inj hpayload, JsonValue.str.inj (Option.some.inj hprev)⟩
  -- `null` is told apart from every string
  cases s with
  | none =>
    cases s' with
    | none => rfl
    | some id' =>
      have hne : some JsonValue.null = some (JsonValue.str id') := hsettlement
      exact nomatch hne
  | some id =>
    cases s' with
    | none =>
      have hne : some (JsonValue.str id) = some JsonValue.null := hsettlement
      exact nomatch hne
    | some id' =>
      have heq : some (JsonValue.str id) = some (JsonValue.str id') := hsettlement
      rw [JsonValue.str.inj (Option.some.inj heq)]

/-- The byte strings that verifying the table hashes. -/
def preimages (table : List Row) : List Bytes :=
  (bySeq table).filterMap fun row => row.preimage.toOption

theorem preimage_mem {row : Row} {table : List Row} {bytes : Bytes} (hr : row ∈ bySeq table)
    (h : row.preimage = .ok bytes) : bytes ∈ preimages table :=
  List.mem_filterMap.mpr ⟨row, hr, by rw [h]; rfl⟩

/-- A row's hash determines the row. -/
theorem sameEvent_of_rowHash {crypto : Crypto} {row row' : Row} {hashed : List Bytes}
    (hc : crypto.CollisionFree hashed) (hrow : row.Hashed crypto) (hrow' : row'.Hashed crypto)
    (hmem : ∀ bytes, row.preimage = .ok bytes → bytes ∈ hashed)
    (hmem' : ∀ bytes, row'.preimage = .ok bytes → bytes ∈ hashed) (h : row.rowHash = row'.rowHash) :
    SameEvent row row' := by
  obtain ⟨bytes, hb, hh⟩ := hrow
  obtain ⟨bytes', hb', hh'⟩ := hrow'
  have hhex : crypto.sha256Hex bytes = crypto.sha256Hex bytes' := by rw [hh, hh', h]
  obtain rfl := Crypto.sha256Hex_inj hc (hmem bytes hb) (hmem' bytes' hb') hhex
  obtain ⟨v, hv, hb⟩ := bind_eq_ok.mp hb
  obtain ⟨v', hv', hb'⟩ := bind_eq_ok.mp hb'
  obtain ⟨he, hs, ha, hn, hp⟩ := hashValue_inj (canonicalJson_inj hb hb')
  exact ⟨he, hs, ha, ⟨v, v', parsePayload_ok hv, parsePayload_ok hv', hn⟩, hp, h⟩

/-- **A verified head binds the whole table**: two tables, however obtained, that verify with one
    head have the same number of rows and record the same events in the same order. -/
theorem verified_head_binds (crypto : Crypto) (table table' : List Row) (head : JsString)
    (count count' : Nat) (hc : crypto.CollisionFree (preimages table ++ preimages table'))
    (h : verifyLedger crypto table = .ok (.ok head count))
    (h' : verifyLedger crypto table' = .ok (.ok head count')) :
    count = count' ∧ table.length = count ∧ table'.length = count' ∧
      List.Forall₂ SameEvent (bySeq table) (bySeq table') := by
  obtain ⟨hl, hall, hhead, hn⟩ := (verifyRows_ok (bySeq table) genesisHash).mp h
  obtain ⟨hl', hall', hhead', hn'⟩ := (verifyRows_ok (bySeq table') genesisHash).mp h'
  have hgenesis : ∀ row : Row, row.Hashed crypto → row.rowHash ≠ genesisHash := by
    rintro row ⟨bytes, -, hh⟩
    rw [← hh]
    exact sha256Hex_ne_genesis crypto bytes
  have hsame : List.Forall₂ SameEvent (bySeq table) (bySeq table') := by
    refine HashChain.commit Row.prevHash Row.rowHash hl hl' ?_ (fun row hr => hgenesis row (hall row hr))
      (fun row hr => hgenesis row (hall' row hr)) (hhead.trans hhead'.symm)
    intro row hr row' hr' hh
    have hs := sameEvent_of_rowHash hc (hall row hr) (hall' row' hr')
      (fun bytes hb => List.mem_append_left _ (preimage_mem hr hb))
      (fun bytes hb => List.mem_append_right _ (preimage_mem hr' hb)) hh
    exact ⟨hs.prevHash, hs⟩
  have hlen : (bySeq table).length = table.length := List.length_insertionSort _ _
  have hlen' : (bySeq table').length = table'.length := List.length_insertionSort _ _
  have hcount : (bySeq table).length = (bySeq table').length := hsame.length_eq
  refine ⟨by rw [← hn, ← hn', hcount], by rw [← hn, hlen], by rw [← hn', hlen'], hsame⟩

def demoRow : Row where
  seq := 1
  eventType := js "agent_decision"
  settlementId := none
  actor := js "a"
  payload := js "\x7b\"i\":1,\"j\":null\x7d"
  prevHash := genesisHash
  rowHash := js "1ac24559"

/-- The same event under another number, its payload written in another way. -/
def demoRewritten : Row :=
  { demoRow with seq := 7, payload := js "\x7b \"j\" : null, \"i\":1.0\x7d" }

theorem verified_head_binds_demo :
    verifyLedger demoCrypto [demoRow] = .ok (.ok (js "1ac24559") 1) ∧
      verifyLedger demoCrypto [demoRewritten] = .ok (.ok (js "1ac24559") 1) ∧
      List.Forall₂ SameEvent (bySeq [demoRow]) (bySeq [demoRewritten]) := by
  have h : verifyLedger demoCrypto [demoRow] = .ok (.ok (js "1ac24559") 1) := by decide +kernel
  have h' : verifyLedger demoCrypto [demoRewritten] = .ok (.ok (js "1ac24559") 1) := by
    decide +kernel
  have hc : demoCrypto.CollisionFree (preimages [demoRow] ++ preimages [demoRewritten]) := by
    decide +kernel
  have hbinds := verified_head_binds demoCrypto [demoRow] [demoRewritten] (js "1ac24559") 1 1 hc h h'
  exact ⟨h, h', hbinds.2.2.2⟩

end Stored

/-! ## The ledger of the model -/

/-- The row as it is stored: the payload is canonical text. -/
def LedgerRow.stored (row : LedgerRow) : Stored.Row where
  seq := row.seq
  eventType := row.eventType.text
  settlementId := row.settlementId
  actor := row.actor
  payload := print (norm row.payload)
  prevHash := row.prevHash
  rowHash := row.rowHash

/-- Rows are numbered 1, 2, 3, … in the order they were appended. -/
def Numbered (ledger : List LedgerRow) : Prop := ledger.map LedgerRow.seq = List.range' 1 ledger.length

theorem Numbered.increasing {ledger : List LedgerRow} (h : Numbered ledger) :
    (ledger.map LedgerRow.stored).Pairwise fun a b => a.seq < b.seq := by
  have hseq : (ledger.map LedgerRow.seq).Pairwise (· < ·) := by
    rw [h]
    exact List.pairwise_lt_range'
  rw [List.pairwise_map] at hseq ⊢
  exact hseq.imp fun hlt => Int.ofNat_lt.mpr hlt

/-- **The value-level append is the stored one**, seen through the text of the payloads. -/
theorem appendLedger_stored {crypto : Crypto} {now : Int} {db db' : Db} {input : AppendLedgerInput}
    (hn : Numbered db.ledger) (h : appendLedger crypto now db input = .ok db') :
    Numbered db'.ledger ∧ Stored.appendLedger crypto (db.ledger.map LedgerRow.stored) input =
      .ok (db'.ledger.map LedgerRow.stored) := by
  rw [appendLedger, bind_eq_ok] at h
  obtain ⟨bytes, hbytes, h⟩ := h
  rw [bind_eq_ok] at h
  obtain ⟨payloadBytes, hpayload, h⟩ := h
  obtain rfl := Except.ok.inj h
  have horder := Stored.bySeq_of_increasing hn.increasing
  have hhead : Stored.currentHead (db.ledger.map LedgerRow.stored) = currentHead db.ledger := by
    rw [Stored.currentHead, horder, currentHead, List.getLast?_map]
    cases db.ledger.getLast? <;> rfl
  have hnext : Stored.nextSeq (db.ledger.map LedgerRow.stored) = db.ledger.length + 1 := by
    have hlast := congrArg List.getLast? hn
    rw [List.getLast?_map, List.getLast?_range'] at hlast
    rw [Stored.nextSeq, horder, List.getLast?_map]
    rcases List.eq_nil_or_concat db.ledger with hnil | ⟨init, last, hlist⟩
    · rw [hnil]
      rfl
    · rw [List.concat_eq_append] at hlist
      rw [hlist, List.getLast?_append, List.getLast?_singleton, List.length_append,
        List.length_singleton, if_neg (Nat.succ_ne_zero _)] at hlast
      rw [hlist, List.getLast?_append, List.getLast?_singleton, List.length_append,
        List.length_singleton]
      have hseq : last.seq = 1 + (init.length + 1) - 1 := Option.some.inj hlast
      show max (last.seq : Int) 0 + 1 = ((init.length + 1 : Nat) : Int) + 1
      omega
  refine ⟨?_, ?_⟩
  · show List.map LedgerRow.seq (db.ledger ++ [_]) = _
    rw [List.map_append, hn, List.length_append, List.length_singleton, List.range'_concat,
      Nat.one_mul, Nat.add_comm 1]
    rfl
  · simp only [Stored.appendLedger]
    rw [hhead]
    have hbytes' : canonicalJson (Stored.hashValue input.eventType.text input.settlementId input.actor
      (.obj input.payload) (currentHead db.ledger)) = .ok bytes := hbytes
    rw [hbytes', hpayload, hnext]
    show Except.ok _ = Except.ok _
    rw [List.map_append, List.map_singleton, textDecode_canonicalJson hpayload]
    rfl

end Hundi
