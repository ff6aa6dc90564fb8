/-
  The ledger as the source of the settlements.

  `settlementLog` is an automaton over the events of the ledger: a settlement begins, is approved or
  rejected, is abandoned, is captured.  In every state a run reaches, the events that the ledger has of a
  settlement are accepted by the automaton and end in the state the table gives the settlement
  (`ledger_replays`).  So the column `state` could be thrown away: the ledger alone tells which
  settlements there are past their creation, and where each one stands.

  Only `settling` is not told apart from `approved`: the executor enters it without an event.
-/
import Hundi.Lib.EventSourcing
import Hundi.Facilitator.Approval

namespace Hundi

open Js EventLoop EventSourcing

/-! ## The automaton -/

/-- What the ledger knows of a state. -/
def SettlementState.logged : SettlementState → SettlementState
  | .settling => .approved
  | state => state

/-- Where an event takes a settlement; `none` where it may not happen. -/
def settlementNext : SettlementState → LedgerEventType → Option SettlementState
  | .pending_approval, .verify_passed | .pending_approval, .approval_granted => some .approved
  | .pending_approval, .verify_rejected | .pending_approval, .approval_rejected => some .rejected
  | .pending_approval, .approval_expired | .pending_approval, .settlement_abandoned => some .abandoned
  | .approved, .verify_rejected => some .rejected
  | .approved, .approval_expired | .approved, .settlement_abandoned => some .abandoned
  | .approved, .payment_captured => some .captured
  | _, _ => none

/-- The life of a settlement, as the ledger has it. -/
def settlementLog : Machine SettlementState LedgerEventType := ⟨.pending_approval, settlementNext⟩

/-- The events that decide on a settlement. -/
def LedgerEventType.decides : LedgerEventType → Bool
  | .verify_passed | .verify_rejected => true
  | .approval_granted | .approval_rejected | .approval_expired => true
  | .settlement_abandoned | .payment_captured => true
  | _ => false

/-- What a row decides, and of which settlement. -/
def LedgerRow.verdict? (row : LedgerRow) : Option (JsString × LedgerEventType) :=
  row.settlementId.bind fun id => if row.eventType.decides then some (id, row.eventType) else none

/-- What the ledger tells of a settlement. -/
def replaySettlement (ledger : List LedgerRow) (id : JsString) : Option SettlementState :=
  settlementLog.replay (eventsAbout LedgerRow.verdict? ledger id)

/-! ## Rows that decide nothing -/

def Undecided (l : List LedgerRow) : Prop := ∀ row ∈ l, row.verdict? = none

theorem verdict_none {row : LedgerRow} (h : row.eventType.decides = false) : row.verdict? = none := by
  rw [LedgerRow.verdict?, h]
  cases row.settlementId <;> rfl

theorem undecided_nil : Undecided [] := fun _ h => absurd h List.not_mem_nil

theorem Incidental.undecided {l : List LedgerRow} (hl : Incidental l) : Undecided l := by
  intro row hrow
  refine verdict_none ?_
  have hincidental := hl row hrow
  cases hevent : row.eventType with
  | verify_passed | verify_rejected | approval_granted | approval_rejected | approval_expired
  | settlement_abandoned | payment_captured =>
    rw [hevent] at hincidental
    cases hincidental
  | _ => rfl

theorem LogsFailure.undecided {l : List LedgerRow} {attemptId : JsString} (hl : LogsFailure l attemptId) :
    Undecided l := by
  obtain ⟨row, rfl, hevent, -⟩ := hl
  intro r hr
  obtain rfl := List.mem_singleton.mp hr
  exact verdict_none (by rw [hevent]; rfl)

theorem undecided_one {row : LedgerRow} {input : AppendLedgerInput} (hrec : row.Records input)
    (h : input.eventType.decides = false) : Undecided [row] := by
  intro r hr
  obtain rfl := List.mem_singleton.mp hr
  exact verdict_none (by rw [hrec.eventType]; exact h)

/-! ## What the table says -/

/-- What the ledger should know of a settlement. -/
def loggedState (t : Settlements) (id : JsString) : Option SettlementState :=
  (t.find? fun r => r.id == id).map fun r => r.state.logged

theorem loggedState_eq_some {t : Settlements} {id : JsString} {state : SettlementState} :
    loggedState t id = some state ↔ ∃ r ∈ t.rows, r.id = id ∧ r.state.logged = state := by
  rw [loggedState, Option.map_eq_some_iff]
  constructor
  · rintro ⟨r, hr, hstate⟩
    obtain ⟨hmem, hid⟩ := Table.find?_mem hr
    exact ⟨r, hmem, eq_of_beq hid, hstate⟩
  · rintro ⟨r, hr, rfl, hstate⟩
    cases hfind : t.find? fun r' => r'.id == r.id with
    | none => exact absurd (beq_self_eq_true r.id) (List.find?_eq_none.mp hfind r hr)
    | some r' =>
      obtain ⟨hmem, hid⟩ := Table.find?_mem hfind
      have hsame := settlement_eq hmem hr (eq_of_beq hid)
      exact ⟨r', rfl, by rw [hsame]; exact hstate⟩

theorem loggedState_eq_none {t : Settlements} {id : JsString} :
    loggedState t id = none ↔ ∀ r ∈ t.rows, r.id ≠ id := by
  rw [loggedState, Option.map_eq_none_iff, Table.find?, List.find?_eq_none]
  simp only [beq_iff_eq, ne_eq]

/-- Rows with the same ids in the same states say the same. -/
theorem loggedState_congr {t t' : Settlements} {id : JsString}
    (h : ∀ state, (∃ r ∈ t'.rows, r.id = id ∧ r.state.logged = state) ↔
      ∃ r ∈ t.rows, r.id = id ∧ r.state.logged = state) : loggedState t' id = loggedState t id := by
  refine Option.ext fun state => ?_
  rw [loggedState_eq_some, loggedState_eq_some]
  exact h state

theorem SettlementMoved.loggedState {now : Int} {t t' : Settlements} {row : SettlementRow}
    {src dst : SettlementState} {rejectReason : Option JsString}
    (h : SettlementMoved now t t' row src dst rejectReason) (id : JsString) :
    loggedState t' id = if row.id = id then some dst.logged else Hundi.loggedState t id := by
  split
  · rename_i hid
    refine loggedState_eq_some.mpr ⟨_, h.moved_mem, (moveTo_id ..).trans hid, ?_⟩
    rw [moveTo_state]
  · rename_i hid
    refine loggedState_congr fun state => ⟨?_, ?_⟩
    · rintro ⟨r, hr, rfl, hstate⟩
      rcases h.mem_iff.mp hr with rfl | ⟨hr, -⟩
      · exact absurd (moveTo_id ..).symm hid
      · exact ⟨r, hr, rfl, hstate⟩
    · rintro ⟨r, hr, rfl, hstate⟩
      exact ⟨r, h.mem_iff.mpr (Or.inr ⟨hr, fun hsame => hid hsame.symm⟩), rfl, hstate⟩

theorem SettlementMoved.loggedBefore {now : Int} {t t' : Settlements} {row : SettlementRow}
    {src dst : SettlementState} {rejectReason : Option JsString}
    (h : SettlementMoved now t t' row src dst rejectReason) :
    Hundi.loggedState t row.id = some src.logged :=
  loggedState_eq_some.mpr ⟨row, h.mem, rfl, by rw [h.state]⟩

theorem SettlementAdded.loggedState {t t' : Settlements} {row : SettlementRow}
    (h : SettlementAdded t t' row) (id : JsString) :
    loggedState t' id = if row.id = id then some row.state.logged else Hundi.loggedState t id := by
  split
  · rename_i hid
    exact loggedState_eq_some.mpr ⟨row, (h.mem_iff row).mpr (Or.inr rfl), hid, rfl⟩
  · rename_i hid
    refine loggedState_congr fun state => ⟨?_, ?_⟩
    · rintro ⟨r, hr, rfl, hstate⟩
      rcases (h.mem_iff r).mp hr with hr | rfl
      · exact ⟨r, hr, rfl, hstate⟩
      · exact absurd rfl hid
    · rintro ⟨r, hr, rfl, hstate⟩
      exact ⟨r, (h.mem_iff r).mpr (Or.inl hr), rfl, hstate⟩

theorem KickBumped.loggedState {t t' : Settlements} {bumped id : JsString} (h : KickBumped t t' bumped) :
    loggedState t' id = Hundi.loggedState t id := by
  refine loggedState_congr fun state => ⟨?_, ?_⟩
  · rintro ⟨r, hr, rfl, hstate⟩
    rcases (Table.mem_update? h).mp hr with ⟨r₀, hr₀, -, rfl⟩ | ⟨hr, -⟩
    · exact ⟨r₀, hr₀, rfl, hstate⟩
    · exact ⟨r, hr, rfl, hstate⟩
  · rintro ⟨r, hr, rfl, hstate⟩
    by_cases hp : (r.id == bumped && r.state == .approved) = true
    · exact ⟨_, (Table.mem_update? h).mpr (Or.inl ⟨r, hr, hp, rfl⟩), rfl, hstate⟩
    · exact ⟨r, (Table.mem_update? h).mpr (Or.inr ⟨hr, Bool.eq_false_iff.mpr hp⟩), rfl, hstate⟩

/-! ## Steps -/

/-- The ledger tells the states of the table. -/
def Told (b : Books) : Prop := Tells settlementLog LedgerRow.verdict? b.ledger (loggedState b.settlements)

/-- Rows that decide nothing, and no settlement moved. -/
theorem Told.silent {b b' : Books} (h : Told b) {l : List LedgerRow} (hl : Undecided l)
    (hledger : b'.ledger = b.ledger ++ l)
    (hsame : ∀ id, loggedState b'.settlements id = loggedState b.settlements id) : Told b' := by
  rw [Told, hledger]
  refine Tells.step h fun id => ?_
  rw [eventsAbout_silent hl, hsame]
  exact moves_refl _

/-- One row decides on one settlement. -/
theorem Told.decided {b b' : Books} (h : Told b) {l : List LedgerRow} {e : LedgerEventType}
    {rowId : JsString} {dst : SettlementState} (hl : Logs l e rowId) (he : e.decides = true)
    (hledger : b'.ledger = b.ledger ++ l)
    (hnext : settlementNext ((loggedState b.settlements rowId).getD .pending_approval) e = some dst)
    (hstate : ∀ id, loggedState b'.settlements id = if rowId = id then some dst else
      loggedState b.settlements id) : Told b' := by
  obtain ⟨row, rfl, hevent, hsettlement⟩ := hl
  have hverdict : row.verdict? = some (rowId, e) := by
    rw [LedgerRow.verdict?, hsettlement, hevent, he]
    rfl
  rw [Told, hledger]
  refine Tells.step h fun id => ?_
  rw [eventsAbout_one hverdict, hstate]
  by_cases hid : rowId = id
  · rw [if_pos hid, if_pos hid, ← hid]
    exact (replayFrom_one _ _).trans hnext
  · rw [if_neg hid, if_neg hid]
    exact moves_refl _

/-- One row moves one settlement. -/
theorem Told.moved {b b' : Books} (h : Told b) {l : List LedgerRow} {e : LedgerEventType} {now : Int}
    {row : SettlementRow} {src dst : SettlementState} {rejectReason : Option JsString}
    (hl : Logs l e row.id) (he : e.decides = true)
    (hm : SettlementMoved now b.settlements b'.settlements row src dst rejectReason)
    (hledger : b'.ledger = b.ledger ++ l) (hnext : settlementNext src.logged e = some dst.logged) :
    Told b' := by
  refine h.decided hl he hledger ?_ hm.loggedState
  rw [hm.loggedBefore]
  exact hnext

/-- A settlement is created with its row. -/
theorem Told.created {b b' : Books} (h : Told b) {l : List LedgerRow} {row : SettlementRow}
    (hl : Logs l (creationEvent row.state) row.id)
    (hadd : SettlementAdded b.settlements b'.settlements row) (hledger : b'.ledger = b.ledger ++ l)
    (hstate : row.state = .rejected ∨ row.state = .pending_approval ∨ row.state = .approved) :
    Told b' := by
  have hnone : loggedState b.settlements row.id = none := loggedState_eq_none.mpr hadd.fresh
  have hadded := hadd.loggedState
  rcases hstate with hstate | hstate | hstate
  · rw [hstate] at hl hadded
    exact h.decided hl rfl hledger (by rw [hnone]; rfl) hadded
  · -- a settlement that awaits its approval stands where the automaton starts
    rw [hstate] at hl hadded
    obtain ⟨lrow, rfl, hevent, -⟩ := hl
    have hverdict : lrow.verdict? = none := verdict_none (by rw [hevent]; rfl)
    rw [Told, hledger]
    refine Tells.step h fun id => ?_
    rw [eventsAbout_silent (fun r hr => by rw [List.mem_singleton.mp hr]; exact hverdict), hadded]
    by_cases hid : row.id = id
    · rw [if_pos hid, ← hid, hnone]
      exact replayFrom_nil _
    · rw [if_neg hid]
      exact moves_refl _
  · rw [hstate] at hl hadded
    exact h.decided hl rfl hledger (by rw [hnone]; rfl) hadded

/-- Where the automaton comes to. -/
theorem settlementNext_ne {src dst : SettlementState} {e : LedgerEventType}
    (h : settlementNext src e = some dst) :
    dst = .approved ∨ dst = .rejected ∨ dst = .abandoned ∨ dst = .captured := by
  unfold settlementNext at h
  split at h
  all_goals first
    | (obtain rfl := Option.some.inj h; decide)
    | cases h

/-- The automaton stays where it starts, or has come to one of four states. -/
theorem replayed_cases {events : List LedgerEventType} {state : SettlementState}
    (h : settlementLog.replay events = some state) : state = .pending_approval ∨ state = .approved ∨
      state = .rejected ∨ state = .abandoned ∨ state = .captured := by
  rcases List.eq_nil_or_concat events with rfl | ⟨before, e, rfl⟩
  · exact Or.inl (Option.some.inj h).symm
  · rw [List.concat_eq_append, Machine.replay, replayFrom_append] at h
    obtain ⟨src, -, hnext⟩ := Option.bind_eq_some_iff.mp h
    rw [replayFrom_one] at hnext
    exact Or.inr (settlementNext_ne hnext)

/-- What can be abandoned without having been entered. -/
theorem Told.abandonable {b : Books} (h : Told b) {now : Int} {t' : Settlements} {row : SettlementRow}
    {src : SettlementState} (hm : SettlementMoved now b.settlements t' row src .abandoned none)
    (hsrc : src ≠ .settling) : src = .pending_approval ∨ src = .approved := by
  have hreplay := replayed_cases (h.present _ _ hm.loggedBefore)
  have hallowed := hm.allowed
  cases src with
  | pending_approval => exact Or.inl rfl
  | approved => exact Or.inr rfl
  | settling => exact absurd rfl hsrc
  | created | verifying | verified =>
    -- no settlement is in these states
    rcases hreplay with h | h | h | h | h <;> cases h
  | _ => cases hallowed

theorem TaskStep.told {env : Env} {now : Int} {w w' : World} {c : TaskWhy} {next : Next Task}
    (h : TaskStep env now w c w' next) (ht : Told w.books) : Told w'.books := by
  have hquiet : w'.books.ledger = w.books.ledger ++ [] → w'.books.settlements = w.books.settlements →
      Told w'.books := by
    intro hledger hsame
    exact ht.silent undecided_nil hledger fun id => by rw [hsame]
  cases h with
  | quiet l hl hw hn => exact ht.silent hl.undecided (by rw [hw]; rfl) fun id => by rw [hw]
  | mandateRegistered l row hl hschema hadd hw hn =>
    exact ht.silent hl.undecided (by rw [hw]; rfl) fun id => by rw [hw]
  | mandateRevoked l mandateId hl hrev hw hn =>
    exact ht.silent hl.undecided (by rw [hw]; rfl) fun id => by rw [hw]
  | settlementCreated l row intent cart key status body hl hadd hfrom hstamp hw hn =>
    exact ht.created hl hadd (by rw [hw]; rfl) hfrom.state_cases
  | decided l row mandateRow approval rejectReason hl hmandate hsigned happrovals hm hw hn =>
    have hledger : w'.books.ledger = w.books.ledger ++ l := by rw [hw]; rfl
    cases hdecision : approval.decision with
    | approved =>
      rw [hdecision] at hl hm
      exact ht.moved hl rfl hm hledger rfl
    | rejected =>
      rw [hdecision] at hl hm
      exact ht.moved hl rfl hm hledger rfl
  | abandoned l row src hl hsrc hm hw hn =>
    have hledger : w'.books.ledger = w.books.ledger ++ l := by rw [hw]; rfl
    rcases ht.abandonable hm hsrc with rfl | rfl
    · rcases hl with hl | hl
      · exact ht.moved hl rfl hm hledger rfl
      · exact ht.moved hl rfl hm hledger rfl
    · rcases hl with hl | hl
      · exact ht.moved hl rfl hm hledger rfl
      · exact ht.moved hl rfl hm hledger rfl
  | kickBumped id hb hw hn =>
    exact ht.silent undecided_nil (by rw [hw]; exact (List.append_nil _).symm) fun _ => hb.loggedState
  | attemptFailed l row src hl hm hwhy hw hn =>
    exact ht.silent hl.undecided (by rw [hw]; rfl) fun id => by rw [hw]
  | captured caller copy orderId payments latest attempt settlement lrow hc hlast hstatus hid hsid
      hattempt hm hrec hw hn =>
    have hl : Logs [lrow] .payment_captured settlement.id :=
      ⟨lrow, rfl, hrec.eventType, by rw [hrec.settlementId, hsid]⟩
    exact ht.moved hl rfl hm (by rw [hw]; rfl) rfl
  | refunded caller settlementId attemptId paymentId refundId lrow hc hrec hw hn =>
    exact ht.silent (undecided_one hrec rfl) (by rw [hw]; rfl) fun id => by rw [hw]
  | operatorRefunded settlementId attemptId paymentId refundId amountPaise lrow hc hrec hw hn =>
    exact ht.silent (undecided_one hrec rfl) (by rw [hw]; rfl) fun id => by rw [hw]
  | _ =>
    rename_i hw _
    exact hquiet (by rw [hw]; exact (List.append_nil _).symm) (by rw [hw])

theorem JobStep.told {env : Env} {now : Int} {w w' : World} {k : Kick} {c : RunWhy} {next : Next RunPoint}
    (h : JobStep env now w k c w' next) (ht : Told w.books) : Told w'.books := by
  have hquiet : w'.books.ledger = w.books.ledger ++ [] → w'.books.settlements = w.books.settlements →
      Told w'.books := by
    intro hledger hsame
    exact ht.silent undecided_nil hledger fun id => by rw [hsame]
  cases h with
  | quiet l hl hw hn => exact ht.silent hl.undecided (by rw [hw]; rfl) fun id => by rw [hw]
  | entered row mandateRow ctx hc hkick hre hm hw hn =>
    -- the ledger does not tell `settling` from `approved`
    refine ht.silent undecided_nil (by rw [hw]; exact (List.append_nil _).symm) fun id => ?_
    have hmoved : loggedState w'.books.settlements id = _ := hm.loggedState id
    rw [hmoved]
    split
    · rename_i hid
      rw [← hid]
      exact hm.loggedBefore.symm
    · rfl
  | gateRejected l row reason hl hc hkick hre hm hw hn =>
    exact ht.moved hl rfl hm (by rw [hw]; rfl) rfl
  | attemptInitiated l settlement attemptNum lastAttemptId attemptId receipt hl hc hnum hadd hw hn =>
    exact ht.silent hl.undecided (by rw [hw]; rfl) fun id => by rw [hw]
  | orderFailed l settlement attemptNum attemptId receipt err row hl hc hid hm hw hn =>
    exact ht.silent hl.undecided (by rw [hw]; rfl) fun id => by rw [hw]
  | captured copy attemptNum attemptId orderId result paymentId attempt settlement lrow hc hpaid hid
      hsid hattempt hm hrec hw hn =>
    have hl : Logs [lrow] .payment_captured settlement.id :=
      ⟨lrow, rfl, hrec.eventType, by rw [hrec.settlementId, hsid]⟩
    exact ht.moved hl rfl hm (by rw [hw]; rfl) rfl
  | captureLost settlement attemptNum attemptId orderId result paymentId hc hpaid hlost hn =>
    rcases hlost with ⟨hw, -⟩ | ⟨attempt, -, -, -, hw⟩
    · exact hquiet (by rw [hw]; exact (List.append_nil _).symm) (by rw [hw])
    · exact hquiet (by rw [hw]; exact (List.append_nil _).symm) (by rw [hw])
  | retried l settlement attemptNum attemptId orderId result hl hc hm hw hn =>
    exact ht.silent hl.undecided (by rw [hw]; rfl) fun id => by rw [hw]
  | linkIssued l settlement lastAttemptId linkAttemptId receipt linkId shortUrl hl hc hissued hw hn =>
    exact ht.silent hl.undecided (by rw [hw]; rfl) fun id => by rw [hw]
  | _ =>
    rename_i hw _
    exact hquiet (by rw [hw]; exact (List.append_nil _).symm) (by rw [hw])

/-! ## Runs -/

theorem Reachable.told {env : Env} {s : Sys} (h : Reachable env s) : Told s.world.books := by
  refine (facilitatorSpec env).world_rel_run (R := fun w w' => Told w.books → Told w'.books)
    (fun _ ht => ht) (fun _ _ _ h h' ht => h' (h ht)) (fun _ _ _ _ _ h => TaskStep.told h)
    (fun _ _ _ _ _ _ h => JobStep.told h) h ?_
  exact tells_nil

/-- **The ledger tells every settlement.**  In every state a run reaches, the events the ledger has of a
    settlement are accepted by the automaton and end in the settlement's state, up to `settling`; and the
    ledger decides on no settlement that the table does not have. -/
theorem ledger_replays {env : Env} {s : Sys} (h : Reachable env s) :
    (∀ r ∈ s.world.db.settlements.rows, replaySettlement s.world.db.ledger r.id = some r.state.logged) ∧
    ∀ row ∈ s.world.db.ledger, ∀ id, row.eventType.decides = true → row.settlementId = some id →
      ∃ r ∈ s.world.db.settlements.rows, r.id = id := by
  have htold := Reachable.told h
  refine ⟨fun r hr => htold.present r.id _ (loggedState_eq_some.mpr ⟨r, hr, rfl, rfl⟩), ?_⟩
  intro row hrow id hdecides hid
  by_contra hnone
  have habsent := htold.absent id (loggedState_eq_none.mpr fun r hr hsame => hnone ⟨r, hr, hsame⟩)
  have hverdict : row.verdict? = some (id, row.eventType) := by
    rw [LedgerRow.verdict?, hid, hdecides]
    rfl
  have hevent := List.filterMap_eq_nil_iff.mp habsent row hrow
  rw [hverdict, Option.bind_some, if_pos rfl] at hevent
  cases hevent

/-- The large cart was approved by hand and is settling: the ledger says `approved`. -/
theorem ledger_replays_demo : ∃ (s : Sys) (r : SettlementRow), Reachable demoEnv s ∧
    r ∈ s.world.db.settlements.rows ∧ r.state = .settling ∧
    eventsAbout LedgerRow.verdict? s.world.db.ledger r.id = [.approval_granted] ∧
    replaySettlement s.world.db.ledger r.id = some .approved := by
  obtain ⟨s, hreach, hp⟩ := reachable_of_run demoEnv demoApproved
    (fun s => s.world.db.settlements.rows.any fun r => r.state == .settling &&
      eventsAbout LedgerRow.verdict? s.world.db.ledger r.id == [.approval_granted])
    (by decide +kernel)
  obtain ⟨r, hr, hp⟩ := List.any_eq_true.mp hp
  rw [Bool.and_eq_true, beq_iff_eq, beq_iff_eq] at hp
  have hreplay := (ledger_replays hreach).1 r hr
  rw [hp.1] at hreplay
  exact ⟨s, r, hreach, hr, hp.1, hp.2, hreplay⟩

end Hundi
