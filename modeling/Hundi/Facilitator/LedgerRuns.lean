/-
  What the ledger says of a run.

  The ledger verifies in every state a run reaches (`ledger_verifies`), and what it held before is a
  prefix of it.  It and the tables tell one story (`Audited`): a mandate is registered by one row, and
  revoked by one if it is revoked; a webhook event is received by one.  And a mandate costs a token: as
  many tokens are used as mandates are registered, so without the dashboard's secret a run registers no
  more mandates than there are tokens already (`one_mandate_per_token`).
-/
import Hundi.Facilitator.TrailSpec
import Hundi.Facilitator.LedgerChain
import Hundi.Facilitator.Refund

namespace Hundi

open Js EventLoop

/-! ## What a recorded event leaves -/

section

variable {crypto : Crypto} {types : LedgerEventType → Bool} {l l' : List LedgerRow}

/-- Rows of other types are neither added nor lost. -/
theorem Recorded.countP {q : LedgerRow → Bool} (hq : ∀ row, q row = true → types row.eventType = false)
    (h : Recorded crypto types l l') : l'.countP q = l.countP q := by
  induction h with
  | refl => rfl
  | @append now db db' input h htype hkeys happend ih =>
    obtain ⟨row, hrec, rfl⟩ := appendLedger_ok happend
    have hnot : q row = false := by
      rw [Bool.eq_false_iff]
      intro hrow
      have hother := hq row hrow
      rw [hrec.eventType, htype] at hother
      cases hother
    rw [List.countP_append, List.countP_singleton, hnot, ih]
    rfl

theorem Recorded.mem {row : LedgerRow} (h : Recorded crypto types l l')
    (hrow : types row.eventType = false) (hmem : row ∈ l') : row ∈ l := by
  induction h with
  | refl => exact hmem
  | @append now db db' input h htype hkeys happend ih =>
    obtain ⟨new, hrec, rfl⟩ := appendLedger_ok happend
    rcases List.mem_append.mp hmem with hmem | hmem
    · exact ih hmem
    · obtain rfl := List.mem_singleton.mp hmem
      rw [hrec.eventType, htype] at hrow
      cases hrow

/-- Rows that `appendLedger` has written, one after the other. -/
structure Written (crypto : Crypto) (l : List LedgerRow) : Prop where
  numbered : Numbered l
  intact : Stored.Intact crypto (l.map LedgerRow.stored)

theorem Written.append {now : Int} (db : Db) {db' : Db} {input : AppendLedgerInput}
    (h : Written crypto db.ledger) (hkeys : KeysOnce (.obj input.payload))
    (happend : appendLedger crypto now db input = .ok db') : Written crypto db'.ledger := by
  obtain ⟨hnumbered, hstored⟩ := appendLedger_stored h.numbered happend
  let call : Stored.AppendCall := ⟨input, hkeys⟩
  have hintact := @Stored.appendLedger_intact crypto _ _ call h.intact hstored
  exact ⟨hnumbered, hintact.1⟩

theorem Recorded.written (h : Recorded crypto types l l') (hl : Written crypto l) : Written crypto l' := by
  induction h with
  | refl => exact hl
  | append _ _ hkeys happend ih => exact .append _ ih hkeys happend

end

/-! ## Rows and what they are about -/

/-- The payload of a registration. -/
def registeredPayload (m : MandateRow) : JsonValue :=
  .obj [(js "mandate_id", .str m.mandateId), (js "intent_hash_hex", .str m.intentHashHex),
    (js "agent_pubkey_hex", .str m.intent.agentPubkeyHex)]

/-- The row registers a mandate of the id. -/
def LedgerRow.registers (mandateId : JsString) (row : LedgerRow) : Bool :=
  row.eventType == .mandate_registered &&
    (row.payload.get? (js "mandate_id")).bind JsonValue.str? == some mandateId

/-- The row revokes the mandate of the id. -/
def LedgerRow.revokes (mandateId : JsString) (row : LedgerRow) : Bool :=
  row.eventType == .mandate_revoked && row.actor == js "mandate:" ++ mandateId

/-- The row receives the webhook event of the id. -/
def LedgerRow.receives (eventId : JsString) (row : LedgerRow) : Bool :=
  row.eventType == .webhook_received &&
    (row.payload.get? (js "event_id")).bind JsonValue.str? == some eventId

theorem not_routine_of_registers {mandateId : JsString} (row : LedgerRow)
    (h : row.registers mandateId = true) : row.eventType.routine = false := by
  rw [LedgerRow.registers, Bool.and_eq_true, beq_iff_eq] at h
  rw [h.1]
  rfl

theorem not_routine_of_revokes {mandateId : JsString} (row : LedgerRow)
    (h : row.revokes mandateId = true) : row.eventType.routine = false := by
  rw [LedgerRow.revokes, Bool.and_eq_true, beq_iff_eq] at h
  rw [h.1]
  rfl

theorem not_routine_of_receives {eventId : JsString} (row : LedgerRow)
    (h : row.receives eventId = true) : row.eventType.routine = false := by
  rw [LedgerRow.receives, Bool.and_eq_true, beq_iff_eq] at h
  rw [h.1]
  rfl

def MandateRow.named (mandateId : JsString) (m : MandateRow) : Bool := m.mandateId == mandateId

def MandateRow.revokedAs (mandateId : JsString) (m : MandateRow) : Bool :=
  m.mandateId == mandateId && m.revokedAt.isSome

def WebhookEventRow.named (eventId : JsString) (e : WebhookEventRow) : Bool := e.eventId == eventId

def CeremonyTokenRow.used (t : CeremonyTokenRow) : Bool := t.usedAt.isSome

/-- **The tables and the ledger tell one story.** -/
structure Audited (crypto : Crypto) (db : Db) : Prop where
  written : Written crypto db.ledger
  registered : ∀ id, db.ledger.countP (LedgerRow.registers id) = db.mandates.rows.countP (MandateRow.named id)
  registers : ∀ row ∈ db.ledger, row.eventType = .mandate_registered →
    ∃ m ∈ db.mandates.rows, row.payload = registeredPayload m
  revoked : ∀ id, db.ledger.countP (LedgerRow.revokes id) = db.mandates.rows.countP (MandateRow.revokedAs id)
  revokes : ∀ row ∈ db.ledger, row.eventType = .mandate_revoked → ∃ id, row.revokes id = true
  received : ∀ id, db.ledger.countP (LedgerRow.receives id) =
    db.webhookEvents.rows.countP (WebhookEventRow.named id)
  spent : db.mandates.rows.length = db.ceremonyTokens.rows.countP CeremonyTokenRow.used

theorem audited_empty (crypto : Crypto) : Audited crypto Db.empty where
  written := ⟨rfl, Stored.intact_nil crypto⟩
  registered := fun _ => rfl
  registers := fun _ h => absurd h List.not_mem_nil
  revoked := fun _ => rfl
  revokes := fun _ h => absurd h List.not_mem_nil
  received := fun _ => rfl
  spent := rfl

section

variable {crypto : Crypto} {now : Int} {db db' : Db}

/-- Routine writes leave the story as it is. -/
theorem Audited.trails (h : Audited crypto db) (ht : Trails crypto db db') : Audited crypto db' where
  written := ht.ledger.written h.written
  registered := fun id => by
    rw [ht.ledger.countP not_routine_of_registers, ht.mandates]
    exact h.registered id
  registers := fun row hrow htype => by
    rw [ht.mandates]
    refine h.registers row (ht.ledger.mem ?_ hrow) htype
    rw [htype]
    rfl
  revoked := fun id => by
    rw [ht.ledger.countP not_routine_of_revokes, ht.mandates]
    exact h.revoked id
  revokes := fun row hrow htype => by
    refine h.revokes row (ht.ledger.mem ?_ hrow) htype
    rw [htype]
    rfl
  received := fun id => by
    rw [ht.ledger.countP not_routine_of_receives, ht.events]
    exact h.received id
  spent := by
    rw [ht.mandates, ht.tokens]
    exact h.spent

/-- The counts of a ledger with one more row. -/
theorem countP_appended {q : LedgerRow → Bool} {row : LedgerRow} {b : Bool} (hq : q row = b)
    (l : List LedgerRow) : (l ++ [row]).countP q = l.countP q + if b then 1 else 0 := by
  rw [List.countP_append, List.countP_singleton, hq]

/-- A row of another type than the new one was there before. -/
theorem mem_of_appended {l : List LedgerRow} {row r : LedgerRow} (hr : r ∈ l ++ [row])
    (hne : r.eventType ≠ row.eventType) : r ∈ l := by
  refine (List.mem_append.mp hr).resolve_right fun hnew => hne ?_
  rw [List.mem_singleton.mp hnew]

/-- A minted token is not used. -/
theorem Audited.minted (h : Audited crypto db) {token : CeremonyTokenRow}
    {tokens : Table CeremonyTokenRow CeremonyTokenRow.clash} (hnew : token.usedAt = none)
    (htokens : db.ceremonyTokens.insert? token = some tokens) :
    Audited crypto { db with ceremonyTokens := tokens } where
  written := h.written
  registered := h.registered
  registers := h.registers
  revoked := h.revoked
  revokes := h.revokes
  received := h.received
  spent := by
    show db.mandates.rows.length = tokens.rows.countP CeremonyTokenRow.used
    rw [Table.countP_insert? htokens, CeremonyTokenRow.used, hnew, h.spent]
    rfl

theorem CeremonyTokenRow.clash_self (a : CeremonyTokenRow) : a.clash a = true := beq_self_eq_true a.token

theorem CeremonyTokenRow.clash_comm (a b : CeremonyTokenRow) : a.clash b = b.clash a := by
  simp only [CeremonyTokenRow.clash, Bool.beq_comm]

/-- Using a token uses up one. -/
theorem countP_used {t t' : Table CeremonyTokenRow CeremonyTokenRow.clash} {token : JsString}
    (hvalid : ∃ r ∈ t.rows, r.token = token ∧ r.usedAt = none)
    (h : t.update? (fun r => r.token == token && r.usedAt.isNone)
      (fun r => { r with usedAt := some now }) = some t') :
    t'.rows.countP CeremonyTokenRow.used = t.rows.countP CeremonyTokenRow.used + 1 := by
  obtain ⟨r, hr, rfl, hunused⟩ := hvalid
  have hp : (r.token == r.token && r.usedAt.isNone) = true := by
    rw [beq_self_eq_true, hunused]
    rfl
  have honly : ∀ r' ∈ t.rows, (r'.token == r.token && r'.usedAt.isNone) = true → r' = r := by
    intro r' hr' hp'
    exact t.eq_of_clash CeremonyTokenRow.clash_comm hr' hr (Bool.and_eq_true_iff.mp hp').1
  have hcount := Table.countP_update?_single h (t.nodup CeremonyTokenRow.clash_self) hr hp honly
    CeremonyTokenRow.used
  have hbefore : CeremonyTokenRow.used r = false := by rw [CeremonyTokenRow.used, hunused]; rfl
  have hafter : CeremonyTokenRow.used { r with usedAt := some now } = true := rfl
  rw [hbefore, hafter, if_neg Bool.false_ne_true, if_pos rfl] at hcount
  exact hcount

/-- **A registration** is one row of the ledger, one mandate and one token. -/
theorem Audited.registration (h : Audited crypto db) {row : MandateRow} {token : JsString}
    (hvalid : ∃ t ∈ db.ceremonyTokens.rows, t.token = token ∧ t.usedAt = none)
    (htokens : db.ceremonyTokens.update? (fun t => t.token == token && t.usedAt.isNone)
      (fun t => { t with usedAt := some now }) = some db'.ceremonyTokens)
    (hmandates : db.mandates.insert? row = some db'.mandates) (hnew : row.revokedAt = none)
    (happend : appendLedger crypto now
      { db with ceremonyTokens := db'.ceremonyTokens, mandates := db'.mandates }
      ⟨.mandate_registered, none, js "facilitator",
        [(js "mandate_id", .str row.mandateId), (js "intent_hash_hex", .str row.intentHashHex),
          (js "agent_pubkey_hex", .str row.intent.agentPubkeyHex)]⟩ = .ok db') :
    Audited crypto db' := by
  have hwritten := Written.append { db with
    ceremonyTokens := db'.ceremonyTokens, mandates := db'.mandates } h.written
    (keysOnce_flat [js "mandate_id", js "intent_hash_hex", js "agent_pubkey_hex"] (by decide) rfl rfl) happend
  obtain ⟨lrow, hrec, hdb⟩ := appendLedger_ok happend
  have hledger : db'.ledger = db.ledger ++ [lrow] := by rw [hdb]
  have hevents : db'.webhookEvents = db.webhookEvents := by rw [hdb]
  have hregisters : ∀ id, lrow.registers id = row.named id := by
    intro id
    rw [LedgerRow.registers, hrec.eventType, hrec.payload]
    rfl
  have hrevokes : ∀ id, lrow.revokes id = false := by
    intro id
    rw [LedgerRow.revokes, hrec.eventType]
    rfl
  have hreceives : ∀ id, lrow.receives id = false := by
    intro id
    rw [LedgerRow.receives, hrec.eventType]
    rfl
  refine ⟨hwritten, fun id => ?_, fun r hr htype => ?_, fun id => ?_, fun r hr htype => ?_, fun id => ?_, ?_⟩
  · rw [hledger, countP_appended (hregisters id), h.registered, Table.countP_insert? hmandates]
  · rw [hledger] at hr
    rcases List.mem_append.mp hr with hr | hr
    · obtain ⟨m, hm, hpayload⟩ := h.registers r hr htype
      exact ⟨m, (Table.mem_insert? hmandates).mpr (Or.inl hm), hpayload⟩
    · obtain rfl := List.mem_singleton.mp hr
      exact ⟨row, (Table.mem_insert? hmandates).mpr (Or.inr rfl), hrec.payload⟩
  · have hlive : row.revokedAs id = false := by
      rw [MandateRow.revokedAs, hnew, Option.isSome_none, Bool.and_false]
    rw [hledger, countP_appended (hrevokes id), h.revoked, Table.countP_insert? hmandates, hlive]
  · rw [hledger] at hr
    refine h.revokes r (mem_of_appended hr ?_) htype
    rw [htype, hrec.eventType]
    intro hsame
    cases hsame
  · rw [hledger, countP_appended (hreceives id), hevents]
    exact h.received id
  · rw [Table.length_insert? hmandates, h.spent, countP_used hvalid htokens]

theorem MandateRow.clash_self (m : MandateRow) : m.clash m = true := by
  rw [MandateRow.clash, beq_self_eq_true]
  rfl

/-- **A revocation** is one row of the ledger, and one mandate that was not revoked. -/
theorem Audited.revocation (h : Audited crypto db) {row : MandateRow} (hmem : row ∈ db.mandates.rows)
    (hlive : row.revokedAt = none)
    (hmandates : db.mandates.update? (fun r => r.mandateId == row.mandateId)
      (fun r => { r with revokedAt := some now }) = some db'.mandates)
    (happend : appendLedger crypto now { db with mandates := db'.mandates }
      ⟨.mandate_revoked, none, js "mandate:" ++ row.mandateId, []⟩ = .ok db') :
    Audited crypto db' := by
  have hwritten := Written.append { db with mandates := db'.mandates } h.written
    (keysOnce_flat [] (by decide) rfl rfl) happend
  obtain ⟨lrow, hrec, hdb⟩ := appendLedger_ok happend
  have hledger : db'.ledger = db.ledger ++ [lrow] := by rw [hdb]
  have hevents : db'.webhookEvents = db.webhookEvents := by rw [hdb]
  have htokens : db'.ceremonyTokens = db.ceremonyTokens := by rw [hdb]
  have hregisters : ∀ id, lrow.registers id = false := by
    intro id
    rw [LedgerRow.registers, hrec.eventType]
    rfl
  have hrevokes : ∀ id, lrow.revokes id = row.named id := by
    intro id
    rw [LedgerRow.revokes, hrec.eventType, hrec.actor, MandateRow.named, Bool.eq_iff_iff]
    simp only [beq_self_eq_true, Bool.true_and, beq_iff_eq, List.append_cancel_left_eq]
  have hreceives : ∀ id, lrow.receives id = false := by
    intro id
    rw [LedgerRow.receives, hrec.eventType]
    rfl
  have honly : ∀ r ∈ db.mandates.rows, (r.mandateId == row.mandateId) = true → r = row :=
    fun r hr hp => mandate_eq hr hmem (eq_of_beq hp)
  refine ⟨hwritten, fun id => ?_, fun r hr htype => ?_, fun id => ?_, fun r hr htype => ?_, fun id => ?_, ?_⟩
  · rw [hledger, countP_appended (hregisters id), h.registered,
      Table.countP_update? hmandates (MandateRow.named id) fun _ _ _ => rfl]
    rfl
  · have hold : r ∈ db.ledger := by
      rw [hledger] at hr
      refine mem_of_appended hr ?_
      rw [htype, hrec.eventType]
      intro hsame
      cases hsame
    obtain ⟨m, hm, hpayload⟩ := h.registers r hold htype
    by_cases hp : (m.mandateId == row.mandateId) = true
    · exact ⟨_, (Table.mem_update? hmandates).mpr (Or.inl ⟨m, hm, hp, rfl⟩), hpayload⟩
    · exact ⟨m, (Table.mem_update? hmandates).mpr (Or.inr ⟨hm, Bool.eq_false_iff.mpr hp⟩), hpayload⟩
  · have hcount := Table.countP_update?_single hmandates (db.mandates.nodup MandateRow.clash_self) hmem
      (beq_self_eq_true _) honly (MandateRow.revokedAs id)
    have hbefore : MandateRow.revokedAs id row = false := by
      rw [MandateRow.revokedAs, hlive, Option.isSome_none, Bool.and_false]
    have hafter : MandateRow.revokedAs id { row with revokedAt := some now } = row.named id := by
      rw [MandateRow.revokedAs, Option.isSome_some, Bool.and_true, MandateRow.named]
    rw [hbefore, hafter, if_neg Bool.false_ne_true, Nat.add_zero] at hcount
    rw [hledger, countP_appended (hrevokes id), h.revoked, hcount]
  · rw [hledger] at hr
    rcases List.mem_append.mp hr with hr | hr
    · exact h.revokes r hr htype
    · -- the new row names the mandate it revokes
      obtain rfl := List.mem_singleton.mp hr
      exact ⟨row.mandateId, (hrevokes row.mandateId).trans (beq_self_eq_true _)⟩
  · rw [hledger, countP_appended (hreceives id), hevents]
    exact h.received id
  · rw [Table.length_update? hmandates, htokens]
    exact h.spent

/-- **A claim** is one row of the ledger, and one webhook event. -/
theorem Audited.claim (h : Audited crypto db) {eventId rawBody : JsString} {eventType : JsonValue}
    (hbound : bindable eventType = true)
    (hevents : db.webhookEvents.insert? ⟨eventId, eventType, rawBody, now⟩ = some db'.webhookEvents)
    (happend : appendLedger crypto now { db with webhookEvents := db'.webhookEvents }
      ⟨.webhook_received, none, js "razorpay",
        [(js "event_id", .str eventId), (js "event", eventType)]⟩ = .ok db') :
    Audited crypto db' := by
  have hflat : ([(js "event_id", JsonValue.str eventId), (js "event", eventType)].all fun m =>
      flatValue m.2) = true := by
    show (true && (flatValue eventType && true)) = true
    rw [flat_of_bindable hbound]
    rfl
  have hwritten := Written.append { db with webhookEvents := db'.webhookEvents } h.written
    (keysOnce_flat [js "event_id", js "event"] (by decide) rfl hflat) happend
  obtain ⟨lrow, hrec, hdb⟩ := appendLedger_ok happend
  have hledger : db'.ledger = db.ledger ++ [lrow] := by rw [hdb]
  have hmandates : db'.mandates = db.mandates := by rw [hdb]
  have htokens : db'.ceremonyTokens = db.ceremonyTokens := by rw [hdb]
  have hregisters : ∀ id, lrow.registers id = false := by
    intro id
    rw [LedgerRow.registers, hrec.eventType]
    rfl
  have hrevokes : ∀ id, lrow.revokes id = false := by
    intro id
    rw [LedgerRow.revokes, hrec.eventType]
    rfl
  have hreceives : ∀ id, lrow.receives id = WebhookEventRow.named id ⟨eventId, eventType, rawBody, now⟩ := by
    intro id
    rw [LedgerRow.receives, hrec.eventType, hrec.payload]
    rfl
  refine ⟨hwritten, fun id => ?_, fun r hr htype => ?_, fun id => ?_, fun r hr htype => ?_, fun id => ?_, ?_⟩
  · rw [hledger, countP_appended (hregisters id), hmandates]
    exact h.registered id
  · rw [hledger] at hr
    rw [hmandates]
    refine h.registers r (mem_of_appended hr ?_) htype
    rw [htype, hrec.eventType]
    intro hsame
    cases hsame
  · rw [hledger, countP_appended (hrevokes id), hmandates]
    exact h.revoked id
  · rw [hledger] at hr
    refine h.revokes r (mem_of_appended hr ?_) htype
    rw [htype, hrec.eventType]
    intro hsame
    cases hsame
  · rw [hledger, countP_appended (hreceives id), h.received, Table.countP_insert? hevents]
  · rw [hmandates, htokens]
    exact h.spent

end

/-! ## The outline -/

theorem TrailStep.audited {env : Env} {now : Int} {w w' : World} {c : TaskWhy} {next : Next Task}
    (h : TrailStep env now w c w' next) (ha : Audited env.crypto w.db) : Audited env.crypto w'.db := by
  cases h with
  | routine h => exact ha.trails h.trails
  | minted token hc hnew htokens hw hn =>
    rw [hw]
    exact ha.minted hnew htokens
  | registered row token hvalid htokens hmandates hnew happend hn =>
    exact ha.registration hvalid htokens hmandates hnew happend
  | revoked row hmem hlive hmandates happend hn => exact ha.revocation hmem hlive hmandates happend
  | claimed eventId rawBody eventType body hbound hevents happend hn => exact ha.claim hbound hevents happend

/-- The event a task is about is stored, and its type is one the database holds. -/
def EventHeld (w : World) (next : Next Task) : Prop :=
  ∀ t, next.task? = some t → t.Bound ∧
    ∀ id, t.event? = some id → ∃ e ∈ w.db.webhookEvents.rows, e.eventId = id

/-- No webhook event is forgotten. -/
def EventsKept (w w' : World) : Prop := ∀ e ∈ w.db.webhookEvents.rows, e ∈ w'.db.webhookEvents.rows

theorem TrailStep.eventsKept {env : Env} {now : Int} {w w' : World} {c : TaskWhy} {next : Next Task}
    (h : TrailStep env now w c w' next) : EventsKept w w' := by
  intro e he
  cases h with
  | routine h => rw [h.trails.events]; exact he
  | minted token hc hnew htokens hw hn => rw [hw]; exact he
  | registered row token hvalid htokens hmandates hnew happend hn =>
    obtain ⟨lrow, -, hdb⟩ := appendLedger_ok happend
    rw [hdb]
    exact he
  | revoked row hmem hlive hmandates happend hn =>
    obtain ⟨lrow, -, hdb⟩ := appendLedger_ok happend
    rw [hdb]
    exact he
  | claimed eventId rawBody eventType body hbound hevents happend hn =>
    exact (Table.mem_insert? hevents).mpr (Or.inl he)

theorem eventHeld_done {w : World} : EventHeld w .done := by
  intro t ht
  cases ht

/-- Where a move leaves its task, its event is held. -/
theorem TrailStep.eventHeld {env : Env} {now : Int} {w w' : World} {c : TaskWhy} {next : Next Task}
    (h : TrailStep env now w c w' next) (hbefore : EventHeld w c.before) : EventHeld w' next := by
  have hkept := h.eventsKept
  cases h with
  | routine h =>
    intro t ht
    obtain ⟨hbound, hevent⟩ := h.carries t ht
    refine ⟨hbound, fun id hid => ?_⟩
    rcases hevent with hnone | hsame
    · rw [hnone] at hid
      cases hid
    · rw [hid] at hsame
      obtain ⟨u, hu, huevent⟩ := Option.bind_eq_some_iff.mp hsame.symm
      obtain ⟨e, he, heid⟩ := (hbefore u hu).2 id huevent
      exact ⟨e, hkept e he, heid⟩
  | minted token hc hnew htokens hw hn => rw [hn]; exact eventHeld_done
  | registered row token hvalid htokens hmandates hnew happend hn => rw [hn]; exact eventHeld_done
  | revoked row hmem hlive hmandates happend hn => rw [hn]; exact eventHeld_done
  | claimed eventId rawBody eventType body hbound hevents happend hn =>
    intro t ht
    rw [hn] at ht
    obtain rfl := Option.some.inj ht
    refine ⟨hbound, fun id hid => ?_⟩
    obtain rfl := Option.some.inj hid
    exact ⟨_, (Table.mem_insert? hevents).mpr (Or.inr rfl), rfl⟩

/-- A move of a run with parsed bodies starts from JSON. -/
theorem parsed_of_move {s : Sys} {a : Act} {c : TaskWhy} (hok : ParsedBodies s a) (hmove : TaskMove s a c)
    (hheld : EventHeld s.world c.before) : Parsed c := by
  cases hmove with
  | request r seed hfree =>
    cases r with
    | postDecisions settlementId payload signatureHex => exact hok _ _ _ _ rfl
    | _ => trivial
  | runTask seed t hcpu => exact (hheld t rfl).1
  | resumeTask i a t hfree ht => exact (hheld t rfl).1

/-- The outline of the audit. -/
def auditOutline (env : Env) : Outline (trailSpec env) ParsedBodies where
  inv := fun w => Audited env.crypto w.db
  task := EventHeld
  job := fun _ _ _ => True
  taskRel := EventsKept
  jobRel := EventsKept
  task_done := fun _ => eventHeld_done
  job_done := fun _ _ => trivial
  taskStep := fun _ _ _ _ _ hinv htask hmove hok h =>
    have hstep := h (parsed_of_move hok hmove htask)
    ⟨hstep.audited hinv, hstep.eventsKept, hstep.eventHeld htask⟩
  jobStep := fun _ _ _ _ _ _ hinv _ _ _ h =>
    ⟨hinv.trails h, fun e he => by rw [h.events]; exact he, trivial⟩
  task_stable := fun _ _ t _ htask hrel u hu => by
    obtain rfl := Option.some.inj hu
    refine ⟨(htask t rfl).1, fun id hid => ?_⟩
    obtain ⟨e, he, heid⟩ := (htask t rfl).2 id hid
    exact ⟨e, hrel.elim (fun h => h e he) fun h => h e he, heid⟩
  job_stable := fun _ _ _ _ _ _ _ => trivial

theorem auditOutline_holds {env : Env} {s : Sys} (h : Run (facilitator env) ParsedBodies Sys.initial s) :
    (auditOutline env).Holds s := by
  have hinitial : (auditOutline env).inv World.initial := audited_empty env.crypto
  exact (auditOutline env).holds hinitial h

/-- A step of a run, as the trail sees it. -/
theorem trail_step {env : Env} {s s' : Sys} {a : Act} (hs : (auditOutline env).Holds s) (hok : ParsedBodies s a)
    (hstep : sysStep env s a = some s') : Trails env.crypto s.world.db s'.world.db ∨
      ∃ c next, TaskMove s a c ∧ TrailStep env s.clock s.world c s'.world next := by
  cases (trailSpec env).moved hstep with
  | stays h =>
    rw [h]
    exact Or.inl .refl
  | task c next hmove h =>
    exact Or.inr ⟨c, next, hmove, h (parsed_of_move hok hmove (hs.before_task hmove))⟩
  | job k c next hmove h => exact Or.inl h

/-- The check of an action: no decision is posted. -/
def postsNoDecision (_ : Sys) : Act → Bool
  | .request (.postDecisions ..) _ => false
  | _ => true

theorem parsedBodies_of_check (s : Sys) (a : Act) (h : postsNoDecision s a = true) : ParsedBodies s a := by
  rintro settlementId payload signatureHex seed rfl
  cases h

/-! ## The ledger of a run -/

theorem countP_named {db : Db} {m : MandateRow} (hm : m ∈ db.mandates.rows) :
    db.mandates.rows.countP (MandateRow.named m.mandateId) = 1 := by
  refine countP_eq_one (db.mandates.nodup MandateRow.clash_self) hm fun r hr => ?_
  rw [MandateRow.named, beq_iff_eq]
  exact ⟨fun hid => mandate_eq hr hm hid, fun h => by rw [h]⟩

theorem countP_revokedAs {db : Db} {m : MandateRow} (hm : m ∈ db.mandates.rows) :
    db.mandates.rows.countP (MandateRow.revokedAs m.mandateId) = if m.revokedAt.isSome then 1 else 0 := by
  split
  · rename_i hrevoked
    rw [← countP_named hm]
    refine List.countP_congr fun r hr => ?_
    rw [MandateRow.revokedAs, MandateRow.named, Bool.and_eq_true, beq_iff_eq]
    refine ⟨fun h => h.1, fun hid => ⟨hid, ?_⟩⟩
    rw [mandate_eq hr hm hid]
    exact hrevoked
  · rename_i hlive
    refine List.countP_eq_zero.mpr fun r hr hrevoked => hlive ?_
    rw [MandateRow.revokedAs, Bool.and_eq_true, beq_iff_eq] at hrevoked
    rw [← mandate_eq hr hm hrevoked.1]
    exact hrevoked.2

/-- **The mandates are what the ledger says they are**: each is registered by one row, which names its
    intent hash and its agent's key, and a revoked one is revoked by one row; every row of a registration
    or of a revocation is about one of them. -/
theorem mandates_and_ledger_agree {env : Env} {s : Sys}
    (h : Run (facilitator env) ParsedBodies Sys.initial s) :
    (∀ m ∈ s.world.db.mandates.rows,
      (∃ row ∈ s.world.db.ledger, row.eventType = .mandate_registered ∧ row.payload = registeredPayload m) ∧
      s.world.db.ledger.countP (LedgerRow.registers m.mandateId) = 1 ∧
      s.world.db.ledger.countP (LedgerRow.revokes m.mandateId) = if m.revokedAt.isSome then 1 else 0) ∧
    (∀ row ∈ s.world.db.ledger, row.eventType = .mandate_registered →
      ∃ m ∈ s.world.db.mandates.rows, row.payload = registeredPayload m) ∧
    ∀ row ∈ s.world.db.ledger, row.eventType = .mandate_revoked →
      ∃ m ∈ s.world.db.mandates.rows, row.revokes m.mandateId = true ∧ m.revokedAt.isSome = true := by
  have ha : Audited env.crypto s.world.db := (auditOutline_holds h).inv
  refine ⟨fun m hm => ?_, ha.registers, fun row hrow htype => ?_⟩
  · have hone : s.world.db.ledger.countP (LedgerRow.registers m.mandateId) = 1 := by
      rw [ha.registered, countP_named hm]
    refine ⟨?_, hone, (ha.revoked _).trans (countP_revokedAs hm)⟩
    obtain ⟨row, hrow, hregisters⟩ := List.countP_pos_iff.mp (by rw [hone]; exact Nat.one_pos)
    rw [LedgerRow.registers, Bool.and_eq_true, beq_iff_eq, beq_iff_eq] at hregisters
    obtain ⟨m', hm', hpayload⟩ := ha.registers row hrow hregisters.1
    have hid : m'.mandateId = m.mandateId := by
      have h := hregisters.2
      rw [hpayload] at h
      exact Option.some.inj h
    rw [mandate_eq hm' hm hid] at hpayload
    exact ⟨row, hrow, hregisters.1, hpayload⟩
  · obtain ⟨id, hid⟩ := ha.revokes row hrow htype
    have hpos : 0 < s.world.db.mandates.rows.countP (MandateRow.revokedAs id) := by
      rw [← ha.revoked]
      exact List.countP_pos_iff.mpr ⟨row, hrow, hid⟩
    obtain ⟨m, hm, hrevoked⟩ := List.countP_pos_iff.mp hpos
    rw [MandateRow.revokedAs, Bool.and_eq_true, beq_iff_eq] at hrevoked
    obtain ⟨rfl, hrevoked⟩ := hrevoked
    exact ⟨m, hm, hid, hrevoked⟩

/-- A mandate that is registered and revoked while its settlement is on its way. -/
theorem mandates_and_ledger_agree_demo : ∃ (s : Sys) (m : MandateRow),
    m ∈ s.world.db.mandates.rows ∧ m.revokedAt.isSome = true ∧
    s.world.db.ledger.countP (LedgerRow.registers m.mandateId) = 1 ∧
    s.world.db.ledger.countP (LedgerRow.revokes m.mandateId) = 1 := by
  have hcheck : ((runIf (facilitator demoEnv) postsNoDecision Sys.initial
      (demoSettling.dropLast ++ [.request (.postRevoke (js "m1") (.ed25519 (js "00"))) []])).any fun s =>
      s.world.db.mandates.rows.any fun m => m.revokedAt.isSome) = true := by
    decide +kernel
  obtain ⟨s, hs, hcheck⟩ := (Option.any_eq_true ..).mp hcheck
  obtain ⟨m, hm, hrevoked⟩ := List.any_eq_true.mp hcheck
  obtain ⟨-, hone, hcount⟩ :=
    (mandates_and_ledger_agree (Run.of_runIf parsedBodies_of_check hs)).1 m hm
  rw [hrevoked] at hcount
  exact ⟨s, m, hm, hrevoked, hone, hcount⟩

/-! ## Tokens -/

/-- Bodies are parsed, and nobody mints a token. -/
def NothingMinted (env : Env) (s : Sys) (a : Act) : Prop :=
  ParsedBodies s a ∧ ∀ seed, a ≠ .request (.postCeremonyTokens (some env.dashboardToken)) seed

/-- The check of an action: it mints no token, and posts no decision. -/
def mintsNothing (s : Sys) : Act → Bool
  | .request (.postCeremonyTokens _) _ => false
  | a => postsNoDecision s a

theorem nothingMinted_of_check (s : Sys) (a : Act) (h : mintsNothing s a = true) : NothingMinted demoEnv s a := by
  constructor
  · rintro settlementId payload signatureHex seed rfl
    cases h
  · rintro seed rfl
    cases h

theorem TrailStep.tokens_length {env : Env} {now : Int} {w w' : World} {c : TaskWhy} {next : Next Task}
    (h : TrailStep env now w c w' next) (hc : c ≠ .request (.postCeremonyTokens (some env.dashboardToken))) :
    w'.db.ceremonyTokens.rows.length = w.db.ceremonyTokens.rows.length := by
  cases h with
  | routine h => rw [h.trails.tokens]
  | minted token hminted hnew htokens hw hn => exact absurd hminted hc
  | registered row token hvalid htokens hmandates hnew happend hn => exact Table.length_update? htokens
  | revoked row hmem hlive hmandates happend hn =>
    obtain ⟨lrow, -, hdb⟩ := appendLedger_ok happend
    rw [hdb]
  | claimed eventId rawBody eventType body hbound hevents happend hn =>
    obtain ⟨lrow, -, hdb⟩ := appendLedger_ok happend
    rw [hdb]

/-- Where nobody mints a token there are as many as before. -/
theorem tokens_length_run {env : Env} {s t : Sys} (h : Run (facilitator env) ParsedBodies Sys.initial s)
    (r : Run (facilitator env) (NothingMinted env) s t) :
    Run (facilitator env) ParsedBodies s t ∧
      t.world.db.ceremonyTokens.rows.length = s.world.db.ceremonyTokens.rows.length := by
  induction r with
  | refl => exact ⟨.refl, rfl⟩
  | tail r hok hstep ih =>
    obtain ⟨hparsed, hsame⟩ := ih
    refine ⟨hparsed.tail hok.1 hstep, Eq.trans ?_ hsame⟩
    rcases trail_step (auditOutline_holds (h.trans hparsed)) hok.1 hstep with ht | ⟨c, next, hmove, ht⟩
    · rw [ht.tokens]
    · refine ht.tokens_length fun hc => ?_
      subst hc
      cases hmove with
      | request q seed hfree => exact hok.2 seed rfl

/-- **A mandate costs a token.** As many tokens are used as mandates are registered; and a run in which
    nobody mints a token registers no more mandates than there were unused ones. -/
theorem one_mandate_per_token {env : Env} {s t : Sys} (h : Run (facilitator env) ParsedBodies Sys.initial s)
    (r : Run (facilitator env) (NothingMinted env) s t) :
    t.world.db.mandates.rows.length = t.world.db.ceremonyTokens.rows.countP CeremonyTokenRow.used ∧
      t.world.db.mandates.rows.length ≤ s.world.db.mandates.rows.length +
        s.world.db.ceremonyTokens.rows.countP fun token => !token.used := by
  obtain ⟨hparsed, hlength⟩ := tokens_length_run h r
  have hbefore : Audited env.crypto s.world.db := (auditOutline_holds h).inv
  have hafter : Audited env.crypto t.world.db := (auditOutline_holds (h.trans hparsed)).inv
  refine ⟨hafter.spent, ?_⟩
  have hsplit : s.world.db.ceremonyTokens.rows.length =
      s.world.db.ceremonyTokens.rows.countP CeremonyTokenRow.used +
        s.world.db.ceremonyTokens.rows.countP fun token => !token.used := by
    rw [List.length_eq_countP_add_countP CeremonyTokenRow.used]
    congr 1
    exact List.countP_congr fun token _ => by rw [decide_eq_true_eq, Bool.not_eq_true, Bool.not_eq_true']
  have hused : t.world.db.ceremonyTokens.rows.countP CeremonyTokenRow.used ≤
      t.world.db.ceremonyTokens.rows.length := List.countP_le_length
  have hs := hbefore.spent
  have ht := hafter.spent
  omega

/-- The one token of the run registers one mandate, and a second registration with it fails. -/
theorem one_mandate_per_token_demo : ∃ s t : Sys, s.world.db.mandates.rows.length = 0 ∧
    s.world.db.ceremonyTokens.rows.length = 1 ∧
    t.world.db.mandates.rows.length = t.world.db.ceremonyTokens.rows.countP CeremonyTokenRow.used ∧
    t.world.db.mandates.rows.length ≤ s.world.db.mandates.rows.length +
      s.world.db.ceremonyTokens.rows.countP fun token => !token.used := by
  have hcheck : ((runIf (facilitator demoEnv) postsNoDecision Sys.initial (demoSettling.take 2)).any fun s =>
      s.world.db.mandates.rows.length == 0 && s.world.db.ceremonyTokens.rows.length == 1 &&
      (runIf (facilitator demoEnv) mintsNothing s
        [.request (.postMandates demoIntent (.ed25519 (js "bb")) (js "token")) [],
          .request (.postMandates { demoIntent with mandateId := js "m2" } (.ed25519 (js "bb"))
            (js "token")) []]).isSome) = true := by
    decide +kernel
  obtain ⟨s, hs, hcheck⟩ := (Option.any_eq_true ..).mp hcheck
  obtain ⟨hlengths, hcheck⟩ := Bool.and_eq_true_iff.mp hcheck
  obtain ⟨hnone, hone⟩ := Bool.and_eq_true_iff.mp hlengths
  obtain ⟨t, ht⟩ := Option.isSome_iff_exists.mp hcheck
  have hrun := Run.of_runIf parsedBodies_of_check hs
  exact ⟨s, t, beq_iff_eq.mp hnone, beq_iff_eq.mp hone,
    one_mandate_per_token hrun (Run.of_runIf nothingMinted_of_check ht)⟩

/-! ## Webhook events -/

/-- The task is about the webhook event. -/
def Task.about (eventId : JsString) (t : Task) : Bool := t.event? == some eventId

theorem countP_webhookEvents_le (db : Db) (id : JsString) :
    db.webhookEvents.rows.countP (WebhookEventRow.named id) ≤ 1 := by
  refine db.webhookEvents.countP_le_one fun a b ha hb => ?_
  rw [WebhookEventRow.named, beq_iff_eq] at ha hb
  rw [WebhookEventRow.clash, ha, hb, beq_self_eq_true]

/-- A routine move hands on no event but its own. -/
theorem Carries.permits_le {c : TaskWhy} {next : Next Task} (h : Carries (eventOf c) next) (id : JsString) :
    permits (Task.about id) next ≤ permits (Task.about id) c.before := by
  have habout : ∀ u, next.task? = some u → u.about id = true →
      ∃ t, c.before.task? = some t ∧ t.about id = true := by
    intro u hu hid
    rw [Task.about, beq_iff_eq] at hid
    obtain ⟨-, hevent⟩ := h u hu
    rcases hevent with hnone | hsame
    · rw [hnone] at hid
      cases hid
    · rw [hid] at hsame
      obtain ⟨t, ht, hevent⟩ := Option.bind_eq_some_iff.mp hsame.symm
      exact ⟨t, ht, by rw [Task.about, hevent, beq_self_eq_true]⟩
  rw [permits_eq, permits_eq]
  by_cases hany : next.task?.any (Task.about id) = true
  · obtain ⟨u, hu, hid⟩ := (Option.any_eq_true _ _).mp hany
    obtain ⟨t, ht, htid⟩ := habout u hu hid
    rw [if_pos hany, if_pos ((Option.any_eq_true _ _).mpr ⟨t, ht, htid⟩)]
  · rw [if_neg hany]
    exact Nat.zero_le _

/-- **A move is about no more events than before, but for one that it claims.** -/
theorem TrailStep.permits_le {env : Env} {now : Int} {w w' : World} {c : TaskWhy} {next : Next Task}
    (h : TrailStep env now w c w' next) (id : JsString) :
    permits (Task.about id) next + w.db.webhookEvents.rows.countP (WebhookEventRow.named id) ≤
      permits (Task.about id) c.before + w'.db.webhookEvents.rows.countP (WebhookEventRow.named id) := by
  have hquiet : w'.db.webhookEvents = w.db.webhookEvents → next = .done →
      permits (Task.about id) next + w.db.webhookEvents.rows.countP (WebhookEventRow.named id) ≤
        permits (Task.about id) c.before + w'.db.webhookEvents.rows.countP (WebhookEventRow.named id) := by
    intro hevents hn
    rw [hevents, hn, permits_done]
    omega
  cases h with
  | routine h =>
    rw [h.trails.events]
    exact Nat.add_le_add_right (h.carries.permits_le id) _
  | minted token hc hnew htokens hw hn => exact hquiet (by rw [hw]) hn
  | registered row token hvalid htokens hmandates hnew happend hn =>
    obtain ⟨lrow, -, hdb⟩ := appendLedger_ok happend
    exact hquiet (by rw [hdb]) hn
  | revoked row hmem hlive hmandates happend hn =>
    obtain ⟨lrow, -, hdb⟩ := appendLedger_ok happend
    exact hquiet (by rw [hdb]) hn
  | claimed eventId rawBody eventType body hbound hevents happend hn =>
    rw [Table.countP_insert? hevents, hn, permits_cpu]
    show (if (some eventId == some id) = true then 1 else 0) + _ ≤ _ + (_ + if (eventId == id) = true then 1 else 0)
    rw [Option.some_beq_some]
    omega

/-- **The tasks about an event** grow in number by its claim only. -/
theorem about_step {env : Env} {s s' : Sys} {a : Act} (hs : (auditOutline env).Holds s)
    (hok : ParsedBodies s a) (hstep : sysStep env s a = some s') (id : JsString) :
    s'.tasks.countP (Task.about id) + s.world.db.webhookEvents.rows.countP (WebhookEventRow.named id) ≤
      s.tasks.countP (Task.about id) +
        s'.world.db.webhookEvents.rows.countP (WebhookEventRow.named id) := by
  rcases (trailSpec env).countP_tasks (Task.about id) hstep with ⟨hle, hworld⟩ | ⟨c, next, hmove, ht, heq⟩
  · have hevents : s'.world.db.webhookEvents = s.world.db.webhookEvents := by
      rcases hworld with hsame | ⟨k, c, next, hmove, h⟩
      · rw [hsame]
      · exact h.events
    rw [hevents]
    omega
  · have hpermits := (ht (parsed_of_move hok hmove (hs.before_task hmove))).permits_le id
    omega

theorem about_run {env : Env} {s t : Sys} (h : Run (facilitator env) ParsedBodies Sys.initial s)
    (r : Run (facilitator env) ParsedBodies s t) (id : JsString) :
    t.tasks.countP (Task.about id) + s.world.db.webhookEvents.rows.countP (WebhookEventRow.named id) ≤
      s.tasks.countP (Task.about id) +
        t.world.db.webhookEvents.rows.countP (WebhookEventRow.named id) := by
  induction r with
  | refl => exact Nat.le_refl _
  | tail r hok hstep ih =>
    have hnext := about_step (auditOutline_holds (h.trans r)) hok hstep id
    omega

theorem eventsKept_run {env : Env} {s t : Sys} (h : Run (facilitator env) ParsedBodies Sys.initial s)
    (r : Run (facilitator env) ParsedBodies s t) : EventsKept s.world t.world := by
  induction r with
  | refl => exact fun _ he => he
  | tail r hok hstep ih =>
    intro e he
    rcases trail_step (auditOutline_holds (h.trans r)) hok hstep with ht | ⟨c, next, hmove, ht⟩
    · rw [ht.events]
      exact ih e he
    · exact ht.eventsKept e (ih e he)

/-- **A webhook event is processed once.**  At most one task is about it, and the ledger says so once;
    from when it is stored on no task about it begins, whatever is delivered. -/
theorem webhook_processed_once {env : Env} {s t : Sys} (h : Run (facilitator env) ParsedBodies Sys.initial s)
    (r : Run (facilitator env) ParsedBodies s t) {e : WebhookEventRow}
    (he : e ∈ s.world.db.webhookEvents.rows) :
    s.tasks.countP (Task.about e.eventId) ≤ 1 ∧
      t.tasks.countP (Task.about e.eventId) ≤ s.tasks.countP (Task.about e.eventId) ∧
      t.world.db.ledger.countP (LedgerRow.receives e.eventId) = 1 := by
  have hafter : Audited env.crypto t.world.db := (auditOutline_holds (h.trans r)).inv
  have hstart := about_run .refl h e.eventId
  have hrest := about_run h r e.eventId
  have hpos : 0 < s.world.db.webhookEvents.rows.countP (WebhookEventRow.named e.eventId) :=
    List.countP_pos_iff.mpr ⟨e, he, beq_self_eq_true _⟩
  have hpos' : 0 < t.world.db.webhookEvents.rows.countP (WebhookEventRow.named e.eventId) :=
    List.countP_pos_iff.mpr ⟨e, eventsKept_run h r e he, beq_self_eq_true _⟩
  have hs := countP_webhookEvents_le s.world.db e.eventId
  have ht := countP_webhookEvents_le t.world.db e.eventId
  have htasks : Sys.initial.tasks.countP (Task.about e.eventId) = 0 := rfl
  have hevents : Sys.initial.world.db.webhookEvents.rows.countP (WebhookEventRow.named e.eventId) = 0 := rfl
  rw [hafter.received]
  omega

/-- An event is delivered twice, and its second delivery makes no task. -/
theorem webhook_processed_once_demo : ∃ (s t : Sys) (e : WebhookEventRow),
    e ∈ s.world.db.webhookEvents.rows ∧ e.eventId = js "e1" ∧
    s.tasks.countP (Task.about e.eventId) ≤ 1 ∧
    t.tasks.countP (Task.about e.eventId) ≤ s.tasks.countP (Task.about e.eventId) ∧
    t.world.db.ledger.countP (LedgerRow.receives e.eventId) = 1 := by
  have hcheck : ((runIf (facilitator demoEnv) postsNoDecision Sys.initial
      (demoFailed ++ demoWebhook (js "e1"))).any fun s =>
        s.world.db.webhookEvents.rows.any (fun e => e.eventId == js "e1") &&
        (runIf (facilitator demoEnv) postsNoDecision s
          [.request (.postWebhook (js "o1") (some (js "o1")) (some (js "e1"))) []]).isSome) = true := by
    decide +kernel
  obtain ⟨s, hs, hcheck⟩ := (Option.any_eq_true ..).mp hcheck
  obtain ⟨hstored, hcheck⟩ := Bool.and_eq_true_iff.mp hcheck
  obtain ⟨e, he, hid⟩ := List.any_eq_true.mp hstored
  obtain ⟨t, ht⟩ := Option.isSome_iff_exists.mp hcheck
  exact ⟨s, t, e, he, beq_iff_eq.mp hid, webhook_processed_once (Run.of_runIf parsedBodies_of_check hs)
    (Run.of_runIf parsedBodies_of_check ht) he⟩

end Hundi
