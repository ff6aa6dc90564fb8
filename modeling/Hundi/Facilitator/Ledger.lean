/-
  packages/facilitator/src/ledger.ts — the append-only hash chain.

  `appendLedger` hashes the canonical JSON of the event together with the hash of the row before
  it, and stores the payload.  The payload column holds canonical text; the model stores the value
  it is the text of, which is what every reader parses back.
-/
import Hundi.Facilitator.Schema

namespace Hundi

open Js

/-- `GENESIS_HASH`. -/
def genesisHash : JsString := js "HUNDI_GENESIS"

structure AppendLedgerInput where
  eventType : LedgerEventType
  settlementId : Option JsString
  actor : JsString
  payload : List (JsString × JsonValue)

/-- `currentHead(db)`. -/
def currentHead (ledger : List LedgerRow) : JsString :=
  match ledger.getLast? with
  | some row => row.rowHash
  | none => genesisHash

/-- The object whose canonical JSON `row_hash` is the SHA-256 of. -/
def ledgerHashValue (eventType : LedgerEventType) (settlementId : Option JsString) (actor : JsString)
    (payload : JsonValue) (prevHash : JsString) : JsonValue :=
  .obj [(js "event_type", .str eventType.text),
    (js "settlement_id", match settlementId with | some id => .str id | none => .null),
    (js "actor", .str actor),
    (js "payload", payload),
    (js "prev_hash", .str prevHash)]

/-- `appendLedger(db, input)`; a payload without a canonical text throws. -/
def appendLedger (crypto : Crypto) (now : Int) (db : Db) (input : AppendLedgerInput) :
    Except Exn Db := do
  let prevHash := currentHead db.ledger
  let bytes ← canonicalJson
    (ledgerHashValue input.eventType input.settlementId input.actor (.obj input.payload) prevHash)
  let _ ← canonicalJson (.obj input.payload)
  return { db with
    ledger := db.ledger ++
      [{ seq := db.ledger.length + 1
         eventType := input.eventType
         settlementId := input.settlementId
         actor := input.actor
         payload := .obj input.payload
         prevHash := prevHash
         rowHash := crypto.sha256Hex bytes
         createdAt := now }] }

/-- The row `appendLedger` writes. -/
structure LedgerRow.Records (row : LedgerRow) (input : AppendLedgerInput) : Prop where
  eventType : row.eventType = input.eventType
  settlementId : row.settlementId = input.settlementId
  actor : row.actor = input.actor
  payload : row.payload = .obj input.payload

/-- **An append adds one row that records its input, and changes nothing else.** -/
theorem appendLedger_ok {crypto : Crypto} {now : Int} {db db' : Db} {input : AppendLedgerInput}
    (h : appendLedger crypto now db input = .ok db') :
    ∃ row : LedgerRow, row.Records input ∧ db' = { db with ledger := db.ledger ++ [row] } := by
  unfold appendLedger at h
  rw [bind_eq_ok] at h
  obtain ⟨bytes, -, h⟩ := h
  rw [bind_eq_ok] at h
  obtain ⟨_, -, h⟩ := h
  obtain rfl := Except.ok.inj h
  exact ⟨_, ⟨rfl, rfl, rfl, rfl⟩, rfl⟩

/-- An append succeeds when the payload has no unsafe integer. -/
theorem appendLedger_isOk (crypto : Crypto) (now : Int) (db : Db) (input : AppendLedgerInput)
    (h : safeMembers input.payload = true) : ∃ db', appendLedger crypto now db input = .ok db' := by
  have hhash : safe (ledgerHashValue input.eventType input.settlementId input.actor
      (.obj input.payload) (currentHead db.ledger)) = true := by
    cases hs : input.settlementId <;> simp [ledgerHashValue, safe, safeMembers, h]
  have hpayload : safe (.obj input.payload) = true := by rw [safe, h]
  simp only [appendLedger]
  rw [canonicalJson_safe hhash, canonicalJson_safe hpayload]
  exact ⟨_, rfl⟩

end Hundi
