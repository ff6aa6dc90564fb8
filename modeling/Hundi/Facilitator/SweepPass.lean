/-
  One sweep pass, from its request to its end.

  A pass brings every settlement nearer to its end that is overdue, unless an attempt of it is live that
  the first rule does not end: one whose order the provider has not decided, or that has no order and is
  not `initiated` any more.  `Task.Nears` says at every point of a pass what of it is still to come for
  the settlement; it is kept while the pass awaits (`Task.Nears.kept`) and by each of its steps
  (`Task.Nears.runTask`, `Task.Nears.resumeTask`), which never throw.
-/
import Hundi.Facilitator.Payments
import Hundi.Facilitator.Resume

namespace Hundi

open Js EventLoop

/-! ## Writes that go through -/

/-- Abandoning goes through, and leaves no such settlement in the state it was abandoned from. -/
theorem abandonSettlement_isOk (crypto : Crypto) (now : Int) (db : Db) (id : JsString)
    {src : SettlementState} (eventType : LedgerEventType) (reason : JsString)
    (hallowed : .abandoned ∈ settlementTransitions src) (hlive : src.live = true) :
    ∃ db', abandonSettlement crypto now db id src eventType reason = .ok db' ∧
      ∀ row ∈ db'.settlements.rows, row.id = id → row.state ≠ src := by
  by_cases hthere : ∃ row ∈ db.settlements.rows, row.id = id ∧ row.state = src
  · obtain ⟨row, hrow, rfl, hstate⟩ := hthere
    obtain ⟨db₁, h₁⟩ := transitionSettlement_isOk now .abandoned none hrow hstate hallowed hlive
    obtain ⟨db₂, h₂⟩ := appendLedger_isOk crypto now db₁ ⟨eventType, some row.id, js "facilitator",
      [(js "reason", .str reason)]⟩ rfl
    refine ⟨db₂, ?_, fun r hr hid hsrc => ?_⟩
    · simp only [abandonSettlement, h₁, catchStale, bind, Except.bind]
      exact h₂
    · obtain ⟨moved, hmid, hm, -⟩ := transitionSettlement_ok h₁
      obtain ⟨lrow, -, rfl⟩ := appendLedger_ok h₂
      rcases hm.mem_iff.mp hr with rfl | ⟨-, hne⟩
      · rw [moveTo_state] at hsrc
        rw [← hsrc] at hlive
        cases hlive
      · exact hne (hid.trans hmid.symm)
  · have hgone : ∀ row ∈ db.settlements.rows, row.id = id → row.state ≠ src :=
      fun row hrow hid hstate => hthere ⟨row, hrow, hid, hstate⟩
    refine ⟨db, ?_, hgone⟩
    simp only [abandonSettlement, transitionSettlement_isStale none hallowed hgone, catchStale, bind,
      Except.bind]
    rfl

/-- Failing an attempt goes through, and leaves it in another state. -/
theorem failAttempt_goes (crypto : Crypto) (now : Int) (db : Db) (attemptId settlementId : JsString)
    (src : AttemptState) (hactive : src.active = true) (reason : JsString) :
    ∃ db', failAttempt crypto now db attemptId settlementId src reason = .ok db' ∧
      ∀ row ∈ db'.attempts.rows, row.id = attemptId → row.state ≠ src := by
  by_cases hthere : ∃ row ∈ db.attempts.rows, row.id = attemptId ∧ row.state = src
  · obtain ⟨row, hrow, rfl, rfl⟩ := hthere
    obtain ⟨db', h, -, hmoved⟩ := failAttempt_isOk crypto now ⟨hrow, .refl row⟩ hactive settlementId reason
    refine ⟨db', h, fun r hr hid hstate => ?_⟩
    rw [attempt_eq hr (hmoved rfl) hid] at hstate
    have hfailed : AttemptState.failed = row.state := hstate
    rw [← hfailed] at hactive
    cases hactive
  · have hgone : ∀ row ∈ db.attempts.rows, row.id = attemptId → row.state ≠ src :=
      fun row hrow hid hstate => hthere ⟨row, hrow, hid, hstate⟩
    refine ⟨db, ?_, hgone⟩
    simp only [failAttempt, transitionAttempt_isStale now (failed_allowed hactive) hgone, catchStale, bind,
      Except.bind]
    rfl

/-- Counting a kick touches no index. -/
theorem bumpKickCount_isOk (db : Db) (id : JsString) : ∃ result, bumpKickCount db id = .ok result := by
  have hkeep : ∀ (a : SettlementRow) (p : Bool) (b : SettlementRow),
      (if p then { a with kickCount := a.kickCount + 1 } else a).clash b = a.clash b := by
    intro a p b
    cases p <;> rfl
  have hupdate : (db.settlements.update? (fun row => row.id == id && row.state == .approved)
      fun row => { row with kickCount := row.kickCount + 1 }).isSome = true := by
    refine Table.update?_isSome fun a _ b _ hab => ?_
    rw [hkeep, SettlementRow.clash_comm, hkeep, SettlementRow.clash_comm]
    exact hab
  obtain ⟨settlements, hu⟩ := Option.isSome_iff_exists.mp hupdate
  refine ⟨({ db with settlements := settlements },
    db.settlements.rows.any fun row => row.id == id && row.state == .approved), ?_⟩
  rw [bumpKickCount, hu]

/-! ## What is still to come -/

/-- The provider has decided the order: the last payment it lists is captured or failed. -/
def Decided (payments : JsString → List RazorpayPayment) (orderId : JsString) : Prop :=
  ∃ latest, (payments orderId).getLast? = some latest ∧
    (latest.status = js "captured" ∨ latest.status = js "failed")

/-- The first rule ends the attempt when it comes to the entry: the order is decided, or the attempt was
    read `initiated` and without one. -/
structure StaleAttempt.Ends (payments : JsString → List RazorpayPayment) (t : Attempts) (a : AttemptRow)
    (e : StaleAttempt) : Prop where
  id : e.id = a.id
  why : (∃ c o, e.providerOrderId = some (c :: o) ∧ HasOrder t a.id (c :: o) ∧ Decided payments (c :: o)) ∨
    (∀ c o, e.providerOrderId ≠ some (c :: o)) ∧ e.state = .initiated ∧ a.state = .initiated

/-- The reconcile call ends the attempt when its payments arrive. -/
def ReconcilePoint.Ends (payments : JsString → List RazorpayPayment) (a : AttemptRow) :
    ReconcilePoint → Prop
  | .fetchOrderPayments copy orderId => copy.id = a.id ∧ copy.settlementId = a.settlementId ∧
      copy.state = a.state ∧ Decided payments orderId
  | _ => False

/-- Every live attempt of the settlement is seen to. -/
def Attended (id : JsString) (t : Attempts) (seen : AttemptRow → Prop) : Prop :=
  ∀ a ∈ t.rows, a.settlementId = id → a.state.active = true → seen a

/-- The copy a reconcile call holds is of a row that is there. -/
def ReconcilePoint.Held (db : Db) : ReconcilePoint → Prop
  | .fetchOrderPayments copy _ => ∃ row, RowOf db copy row
  | _ => True

section

variable (payments : JsString → List RazorpayPayment) (r : SettlementRow) (start : Int)

/-- What a pass that began at `start` still has to do for the settlement of `r`. -/
def SweepPoint.Nears (w : World) : SweepPoint → Prop
  | .staleAttempts rest => Attended r.id w.db.attempts fun a => ∃ e ∈ rest, e.Ends payments w.db.attempts a
  | .staleAttemptsSwept => hasActiveAttempt w.db r.id = false
  | .transientSettlements _ => hasActiveAttempt w.db r.id = false
  | .staleVerified _ => hasActiveAttempt w.db r.id = false
  | .expiredApprovals since rest => hasActiveAttempt w.db r.id = false ∧ start ≤ since ∧
      (r.state = .pending_approval → ∃ copy ∈ rest, r.Again copy)
  | .staleApproved _ rest => hasActiveAttempt w.db r.id = false ∧ r.state ≠ .pending_approval ∧
      (r.state = .approved → ∃ copy ∈ rest, r.Again copy)
  | .stuckSettling rest => hasActiveAttempt w.db r.id = false ∧ r.state = .settling ∧ r.id ∈ rest
  | .staleIdempotencyLocks => False

def Task.Nears (w : World) : Task → Prop
  | .sweep p => p.Nears payments r start w
  | .reconcile (.sweep rest) point => point.Held w.db ∧
      Attended r.id w.db.attempts fun a =>
        (∃ e ∈ rest, e.Ends payments w.db.attempts a) ∨ point.Ends payments a
  | _ => False

end

/-! ## While the pass awaits -/

section

variable {payments : JsString → List RazorpayPayment} {r : SettlementRow} {start : Int}

/-- The orders attempts carry are kept. -/
def OrdersKept (t t' : Attempts) : Prop := ∀ id o, HasOrder t id o → HasOrder t' id o

theorem StaleAttempt.Ends.kept {t t' : Attempts} {a a' : AttemptRow} {e : StaleAttempt}
    (h : e.Ends payments t a) (horders : OrdersKept t t') (hid : a.id = a'.id) (hstate : a.state = a'.state) :
    e.Ends payments t' a' where
  id := h.id.trans hid
  why := by
    rcases h.why with ⟨c, o, he, hhas, hdecided⟩ | ⟨hnone, he, ha⟩
    · exact Or.inl ⟨c, o, he, horders _ _ (hid ▸ hhas), hdecided⟩
    · exact Or.inr ⟨hnone, he, hstate ▸ ha⟩

theorem ReconcilePoint.Ends.kept {a a' : AttemptRow} {p : ReconcilePoint} (h : p.Ends payments a)
    (hid : a.id = a'.id) (hsid : a.settlementId = a'.settlementId) (hstate : a.state = a'.state) :
    p.Ends payments a' := by
  cases p with
  | fetchOrderPayments copy orderId =>
    obtain ⟨hcopy, hcsid, hcstate, hdecided⟩ := h
    exact ⟨hcopy.trans hid, hcsid.trans hsid, hcstate.trans hstate, hdecided⟩
  | _ => exact h

theorem Attended.kept {t t' : Attempts} {seen seen' : AttemptRow → Prop} (h : Attended r.id t seen)
    (hlive : StillLive r.id t t')
    (hseen : ∀ a a', a.id = a'.id → a.settlementId = a'.settlementId → a.state = a'.state → seen a →
      seen' a') : Attended r.id t' seen' := by
  intro a' ha' hid hactive
  obtain ⟨a, ha, haid, hsid, hstate⟩ := hlive a' ha' hid hactive
  exact hseen a a' haid (hsid.trans hid.symm) hstate (h a ha hsid (by rw [hstate]; exact hactive))

theorem ReconcilePoint.Held.kept {db db' : Db} {p : ReconcilePoint} (h : p.Held db)
    (hk : AttemptsKept db.attempts db'.attempts) : p.Held db' := by
  cases p with
  | fetchOrderPayments copy orderId =>
    obtain ⟨row, hrow⟩ := h
    obtain ⟨row', hrow', hkept⟩ := hk row hrow.mem
    exact ⟨row', hrow', hrow.kept.trans hkept⟩
  | _ => trivial

/-- **What is to come stays to come**, as long as no attempt comes to life. -/
theorem Task.Nears.kept {w w' : World} {t : Task} (h : t.Nears payments r start w)
    (hlive : StillLive r.id w.db.attempts w'.db.attempts)
    (horders : OrdersKept w.db.attempts w'.db.attempts)
    (hk : AttemptsKept w.db.attempts w'.db.attempts) : t.Nears payments r start w' := by
  have hrest : ∀ {rest : List StaleAttempt} {a a' : AttemptRow}, a.id = a'.id → a.state = a'.state →
      (∃ e ∈ rest, e.Ends payments w.db.attempts a) → ∃ e ∈ rest, e.Ends payments w'.db.attempts a' := by
    rintro rest a a' hid hstate ⟨e, he, hends⟩
    exact ⟨e, he, hends.kept horders hid hstate⟩
  cases t with
  | sweep p =>
    cases p with
    | staleAttempts rest => exact Attended.kept h hlive fun a a' hid _ hstate => hrest hid hstate
    | staleAttemptsSwept => exact hlive.idle h
    | transientSettlements rest => exact hlive.idle h
    | staleVerified rest => exact hlive.idle h
    | expiredApprovals since rest => exact ⟨hlive.idle h.1, h.2⟩
    | staleApproved since rest => exact ⟨hlive.idle h.1, h.2⟩
    | stuckSettling rest => exact ⟨hlive.idle h.1, h.2⟩
    | staleIdempotencyLocks => exact h
  | reconcile caller point =>
    cases caller with
    | webhook eventId eventType => exact h
    | sweep rest =>
      refine ⟨h.1.kept hk, h.2.kept hlive fun a a' hid hsid hstate hseen => ?_⟩
      exact hseen.imp (hrest hid hstate) fun hends => hends.kept hid hsid hstate
  | _ => exact h

end

/-! ## The rules of a pass -/

/-- The timeout of the settlement's state has passed. -/
def Overdue (env : Env) (now : Int) (r : SettlementRow) : Prop :=
  match r.state with
  | .pending_approval => r.pendingApprovalAt.getD 0 + env.ttls.approvalTtlMs / 1000 < now
  | .approved => ∀ since, r.approvedAt = some since → since < secondsAgo now env.ttls.approvedStaleMs
  | .settling =>
    ∀ since, r.settlingAt = some since → since < secondsAgo now env.ttls.settlingNoAttemptStaleMs
  | _ => True

/-- A settlement that is not over, before a step of a pass that began at `start`. -/
structure Passing (env : Env) (r : SettlementRow) (start now : Int) (n : Nat) (w : World) : Prop where
  sound : Sound env.crypto w.books
  one : OneAttempt w.db.attempts
  dated : Dated w.db.settlements
  row : ∃ r' ∈ w.db.settlements.rows, r.Again r'
  live : r.state.live = true
  overdue : Overdue env start r
  since : start ≤ now
  left : r.state = .approved →
    env.ttls.maxApprovedKicks - r.kickCount + (maxAttempts + 2) ≤ n + 1

/-- A change that leaves the settlement where it is. -/
structure Stays (r : SettlementRow) (w w' : World) : Prop where
  row : ∃ r' ∈ w'.db.settlements.rows, r.Again r'
  live : StillLive r.id w.db.attempts w'.db.attempts
  orders : OrdersKept w.db.attempts w'.db.attempts

/-- A step of the pass has saved the settlement a pass, or leaves the pass where more is to come for it,
    or has kicked it while it is `settling`. -/
def Leads (env : Env) (payments : JsString → List RazorpayPayment) (r : SettlementRow) (start : Int)
    (n : Nat) (d : Done) : Prop :=
  Below env r.id n d.world ∨ (∃ t, d.next.task? = some t ∧ t.Nears payments r start d.world) ∨
    (r.state = .settling ∧ ∃ k ∈ d.kicks, k.settlementId = r.id)

section

variable {env : Env} {payments : JsString → List RazorpayPayment} {r : SettlementRow} {start now : Int}
  {n : Nat} {w : World}

theorem leads_to {d : Done} {t : Task} (hn : d.next.task? = some t) (h : t.Nears payments r start d.world) :
    Leads env payments r start n d :=
  Or.inr (Or.inl ⟨t, hn, h⟩)

theorem before_of_past {stamp : Option Int} {ms : Int} (hle : start ≤ now) (hsome : stamp.isSome = true)
    (hpast : ∀ since, stamp = some since → since < secondsAgo start ms) :
    before stamp (secondsAgo now ms) = true := by
  obtain ⟨since, rfl⟩ := Option.isSome_iff_exists.mp hsome
  have hlt := hpast since rfl
  refine decide_eq_true (p := since < secondsAgo now ms) ?_
  rw [secondsAgo] at hlt ⊢
  omega

/-- A settlement that is not over waits for an approval, is approved or is settling. -/
theorem Passing.state_cases (h : Passing env r start now n w) :
    r.state = .pending_approval ∨ r.state = .approved ∨ r.state = .settling := by
  obtain ⟨r', hr', hagain⟩ := h.row
  have hsettled := (h.sound.settlement r' hr').state
  have hlive := h.live
  rw [hagain.state] at hsettled
  revert hsettled hlive
  cases r.state <;> decide

/-- The reconcile call of an attempt with an order asks for that order. -/
theorem reconcileByAttempt_awaiting {db : Db} (hone : OneAttempt db.attempts) {a : AttemptRow}
    (ha : a ∈ db.attempts.rows) {c : UInt16} {o : JsString} (horder : HasOrder db.attempts a.id (c :: o)) :
    reconcileByAttempt db a.id = .awaiting (.fetchOrderPayments a (c :: o)) := by
  obtain ⟨b, hb, hid, hbo⟩ := horder
  obtain rfl := attempt_eq hb ha hid
  have hfind : (db.attempts.find? fun row => row.id == b.id) = some b :=
    Table.find?_eq_some hb (beq_self_eq_true _) fun row hrow hp => attempt_eq hrow hb (eq_of_beq hp)
  rw [reconcileByAttempt, hfind]
  dsimp only
  rw [hbo]
  dsimp only
  rw [reconcileByOrder, hone.attemptByOrder hb hbo]

theorem reconcileByAttempt_held {db : Db} {id : JsString} {p : ReconcilePoint}
    (h : reconcileByAttempt db id = .awaiting p) : p.Held db := by
  unfold reconcileByAttempt at h
  split at h
  · cases h
  split at h
  · unfold reconcileByOrder at h
    split at h
    · cases h
    · rename_i attempt hfind
      obtain rfl := ReconcileNext.awaiting.inj h
      exact ⟨attempt, (Table.find?_mem hfind).1, .refl attempt⟩
  · cases h

/-- The entry at the head was for the attempt, or one that follows is. -/
theorem ends_cons {t : Attempts} {a : AttemptRow} {e : StaleAttempt} {rest : List StaleAttempt}
    (h : ∃ e' ∈ e :: rest, e'.Ends payments t a) :
    e.Ends payments t a ∨ ∃ e' ∈ rest, e'.Ends payments t a := by
  obtain ⟨e', he', hends⟩ := h
  rcases List.mem_cons.mp he' with rfl | he'
  · exact Or.inl hends
  · exact Or.inr ⟨e', he', hends⟩

/-- One stale attempt. -/
theorem leads_staleAttempt (hw : Passing env r start now n w) {e : StaleAttempt} {rest : List StaleAttempt}
    (h : (SweepPoint.staleAttempts (e :: rest)).Nears payments r start w)
    (hs : Stays r w (afterSweep (sweepStaleAttempt env now w e rest)).world) :
    Leads env payments r start n (afterSweep (sweepStaleAttempt env now w e rest)) := by
  revert hs
  unfold sweepStaleAttempt
  split
  · rename_i c o horder
    intro hs
    -- the head of the list is for an attempt with this order, which the call then asks for
    have hcall : ∀ a ∈ w.db.attempts.rows, e.Ends payments w.db.attempts a →
        reconcileByAttempt w.db e.id = .awaiting (.fetchOrderPayments a (c :: o)) ∧
          Decided payments (c :: o) := by
      intro a ha hends
      rcases hends.why with ⟨c', o', he, hhas, hdecided⟩ | ⟨hnone, -, -⟩
      · obtain ⟨rfl, rfl⟩ := List.cons.inj (Option.some.inj (horder.symm.trans he))
        rw [hends.id]
        exact ⟨reconcileByAttempt_awaiting hw.one ha hhas, hdecided⟩
      · exact absurd horder (hnone c o)
    split
    · rename_i p hp
      refine leads_to (t := .reconcile (.sweep rest) p) rfl ⟨reconcileByAttempt_held hp, ?_⟩
      intro a ha hid hactive
      rcases ends_cons (h a ha hid hactive) with hends | hrest
      · obtain ⟨hawaiting, hdecided⟩ := hcall a ha hends
        obtain rfl := ReconcileNext.awaiting.inj (hp.symm.trans hawaiting)
        exact Or.inr ⟨rfl, rfl, rfl, hdecided⟩
      · exact Or.inl hrest
    · rename_i hnot
      refine leads_to (t := .sweep (.staleAttempts rest)) rfl fun a ha hid hactive => ?_
      rcases ends_cons (h a ha hid hactive) with hends | hrest
      · exact absurd (hcall a ha hends).1 (hnot _)
      · exact hrest
  · rename_i hnone
    split
    · rename_i hstate
      intro hs
      refine leads_to (t := .sweep (.staleAttempts rest)) rfl fun a ha hid hactive => ?_
      rcases ends_cons (h a ha hid hactive) with hends | hrest
      · rcases hends.why with ⟨c, o, he, -, -⟩ | ⟨-, he, -⟩
        · exact absurd he (hnone c o)
        · exact absurd he hstate
      · exact hrest
    · rename_i hstate
      obtain ⟨db', hok, hgone⟩ := failAttempt_goes env.crypto now w.db e.id e.settlementId
        .initiated rfl (js "no_provider_artifact_stale")
      rw [hok]
      intro hs
      refine leads_to (t := .sweep (.staleAttempts rest)) rfl fun a' ha' hid hactive => ?_
      obtain ⟨a, ha, haid, hsid, hsame⟩ := hs.live a' ha' hid hactive
      rcases ends_cons (h a ha hsid (by rw [hsame]; exact hactive)) with hends | ⟨e', he', hends⟩
      · rcases hends.why with ⟨c, o, he, -, -⟩ | ⟨-, -, hinitiated⟩
        · exact absurd he (hnone c o)
        · exact absurd (hsame.symm.trans hinitiated) (hgone a' ha' (haid.symm.trans hends.id.symm))
      · exact ⟨e', he', hends.kept hs.orders haid hsame⟩

/-- One abandoned row of another rule. -/
theorem leads_abandon {id : JsString} {src : SettlementState} {eventType : LedgerEventType}
    {reason : JsString} (hallowed : .abandoned ∈ settlementTransitions src) (hlive : src.live = true)
    {p : SweepPoint}
    (hp : ∀ db', (∀ row ∈ db'.settlements.rows, row.id = id → row.state ≠ src) →
      Stays r w (w.commit db') → p.Nears payments r start (w.commit db'))
    (hs : Stays r w (afterSweep (sweepCommit w [] p
      (abandonSettlement env.crypto now w.db id src eventType reason))).world) :
    Leads env payments r start n (afterSweep (sweepCommit w [] p
      (abandonSettlement env.crypto now w.db id src eventType reason))) := by
  obtain ⟨db', hok, hgone⟩ := abandonSettlement_isOk env.crypto now w.db id eventType reason hallowed hlive
  rw [hok] at hs ⊢
  exact leads_to (t := .sweep p) rfl (hp db' hgone hs)

/-- A settlement that is there again has not left its state. -/
theorem Stays.not_gone {w' : World} (h : Stays r w w') {id : JsString} (hid : r.id = id)
    (hgone : ∀ row ∈ w'.db.settlements.rows, row.id = id → row.state ≠ r.state) : False := by
  obtain ⟨r', hr', hagain⟩ := h.row
  exact hgone r' hr' (hagain.id.trans hid) hagain.state

/-- The copy is the head of the list or one that follows. -/
theorem copy_cons {row : SettlementRow} {rest : List SettlementRow}
    (h : ∃ copy ∈ row :: rest, r.Again copy) : r.Again row ∨ ∃ copy ∈ rest, r.Again copy := by
  obtain ⟨copy, hcopy, hagain⟩ := h
  rcases List.mem_cons.mp hcopy with rfl | hcopy
  · exact Or.inl hagain
  · exact Or.inr ⟨copy, hcopy, hagain⟩

/-- One `pending_approval` settlement. -/
theorem leads_expiredApproval (hw : Passing env r start now n w) {since : Int} {row : SettlementRow}
    {rest : List SettlementRow}
    (h : (SweepPoint.expiredApprovals since (row :: rest)).Nears payments r start w)
    (hs : Stays r w (afterSweep (sweepExpiredApproval env now since w row rest)).world) :
    Leads env payments r start n (afterSweep (sweepExpiredApproval env now since w row rest)) := by
  obtain ⟨hidle, hsince, hcopy⟩ := h
  -- the rule goes on when the head is not the settlement's
  have hon : (r.state = .pending_approval → ¬ r.Again row) →
      (SweepPoint.expiredApprovals since rest).Nears payments r start w := fun hnot =>
    ⟨hidle, hsince, fun hstate => (copy_cons (hcopy hstate)).resolve_left (hnot hstate)⟩
  obtain ⟨r', hr', hagain'⟩ := hw.row
  revert hs
  unfold sweepExpiredApproval
  split
  · rename_i hnone
    intro hs
    refine leads_to (t := .sweep (.expiredApprovals since rest)) rfl (hon fun hstate hagain => ?_)
    obtain ⟨m, hm, hmid⟩ := (hw.sound.settlement r' hr').mandate
    have hsame : m.mandateId = row.mandateId := by
      obtain ⟨k, -, rfl⟩ := hagain
      obtain ⟨k', -, rfl⟩ := hagain'
      exact hmid
    have hsome : getMandateRow w.db m.mandateId = some m := getMandateRow_mem hm
    rw [hsame, hnone] at hsome
    cases hsome
  · dsimp only
    split
    · rename_i hearly
      intro hs
      refine leads_to (t := .sweep (.expiredApprovals since rest)) rfl (hon fun hstate hagain => ?_)
      have hover := hw.overdue
      rw [Overdue, hstate] at hover
      obtain ⟨k, -, rfl⟩ := hagain
      have hle := hearly.trans (min_le_left _ _)
      dsimp only at hle
      omega
    · intro hs
      refine leads_abandon (by decide) rfl (fun db' hgone hs' => ?_) hs
      refine ⟨hs'.live.idle hidle, hsince, fun hstate => ?_⟩
      refine (copy_cons (hcopy hstate)).resolve_left fun hagain => ?_
      exact hs'.not_gone hagain.id.symm (by rw [hstate]; exact hgone)

theorem passesLeft_approved (env : Env) (db : Db) {r : SettlementRow} (h : r.state = .approved) :
    passesLeft env db r = env.ttls.maxApprovedKicks - r.kickCount + (maxAttempts + 2) := by
  rw [passesLeft, h]

/-- A counted kick saves a pass. -/
theorem Below.of_kick (hw : Passing env r start now n w) (hstate : r.state = .approved)
    (w' : World) (hb : KickBumped w.db.settlements w'.db.settlements r.id)
    (hless : r.kickCount < env.ttls.maxApprovedKicks) : Below env r.id n w' := by
  obtain ⟨r', hr', hagain⟩ := hw.row
  have hp : (r'.id == r.id && r'.state == .approved) = true := by
    rw [Bool.and_eq_true, beq_iff_eq, beq_iff_eq]
    exact ⟨hagain.id, hagain.state.trans hstate⟩
  have hleft := hw.left hstate
  refine ⟨_, (Table.mem_update? hb).mpr (Or.inl ⟨r', hr', hp, rfl⟩), hagain.id, ?_⟩
  obtain ⟨k, hk, rfl⟩ := hagain
  have hpass := passesLeft_approved env w'.db (r := { r with kickCount := k + 1 }) hstate
  dsimp only at hpass ⊢
  omega

/-- One stale `approved` settlement. -/
theorem leads_approved (hw : Passing env r start now n w) {since : Int} {row : SettlementRow}
    {rest : List SettlementRow}
    (h : (SweepPoint.staleApproved since (row :: rest)).Nears payments r start w)
    (hs : Stays r w (afterSweep (sweepApproved env now since w row rest)).world) :
    Leads env payments r start n (afterSweep (sweepApproved env now since w row rest)) := by
  obtain ⟨hidle, hnot, hcopy⟩ := h
  revert hs
  unfold sweepApproved
  dsimp only
  split
  · intro hs
    refine leads_abandon (by decide) rfl (fun db' hgone hs' => ?_) hs
    refine ⟨hs'.live.idle hidle, hnot, fun hstate => ?_⟩
    refine (copy_cons (hcopy hstate)).resolve_left fun hagain => ?_
    exact hs'.not_gone hagain.id.symm (by rw [hstate]; exact hgone)
  · rename_i hkicks
    split
    · rename_i e hbump
      intro hs
      obtain ⟨result, hok⟩ := bumpKickCount_isOk w.db row.id
      rw [hbump] at hok
      cases hok
    · rename_i db bumped hbump
      intro hs
      obtain ⟨hb, -⟩ := bumpKickCount_ok hbump
      by_cases hhead : r.state = .approved ∧ r.Again row
      · -- the copy is not older than the row the pass began with
        obtain ⟨hstate, hagain⟩ := hhead
        rw [hagain.id] at hb
        refine Or.inl (Below.of_kick hw hstate (w.commit db) hb ?_)
        rw [Bool.or_eq_true, not_or, decide_eq_true_eq] at hkicks
        obtain ⟨k, hk, rfl⟩ := hagain
        have hmax := hkicks.2
        dsimp only at hmax
        omega
      · refine leads_to (t := .sweep (.staleApproved since rest)) rfl ⟨hs.live.idle hidle, hnot, ?_⟩
        exact fun hstate => (copy_cons (hcopy hstate)).resolve_left fun hagain => hhead ⟨hstate, hagain⟩

/-- One stuck `settling` settlement. -/
theorem leads_settling {id : JsString} {rest : List JsString}
    (h : (SweepPoint.stuckSettling (id :: rest)).Nears payments r start w)
    (hs : Stays r w (afterSweep (sweepSettling env now w id rest)).world) :
    Leads env payments r start n (afterSweep (sweepSettling env now w id rest)) := by
  obtain ⟨hidle, hstate, hmem⟩ := h
  have hon : ∀ {w' : World}, hasActiveAttempt w'.db r.id = false → r.id ≠ id →
      (SweepPoint.stuckSettling rest).Nears payments r start w' := fun hidle' hne =>
    ⟨hidle', hstate, (List.mem_cons.mp hmem).resolve_left hne⟩
  revert hs
  unfold sweepSettling
  split
  · rename_i hactive
    intro hs
    refine leads_to (t := .sweep (.stuckSettling rest)) rfl (hon hidle ?_)
    rintro rfl
    rw [hidle] at hactive
    cases hactive
  split
  · intro hs
    by_cases hid : r.id = id
    · exact Or.inr (Or.inr ⟨hstate, _, List.mem_singleton_self _, hid.symm⟩)
    · exact leads_to (t := .sweep (.stuckSettling rest)) rfl (hon hidle hid)
  · obtain ⟨db', hok⟩ := appendLedger_isOk env.crypto now w.db ⟨.reconciliation_flagged, some id,
      js "facilitator", [(js "reason", .str (js "settling_no_active_attempt"))]⟩ rfl
    rw [hok]
    intro hs
    by_cases hid : r.id = id
    · exact Or.inr (Or.inr ⟨hstate, _, List.mem_singleton_self _, hid.symm⟩)
    · exact leads_to (t := .sweep (.stuckSettling rest)) rfl (hon (hs.live.idle hidle) hid)

/-- **One effect of a pass.** -/
theorem leads_sweepStep (hw : Passing env r start now n w) {p : SweepPoint} (h : p.Nears payments r start w)
    (hs : Stays r w (afterSweep (sweepStep env now w p)).world) :
    Leads env payments r start n (afterSweep (sweepStep env now w p)) := by
  obtain ⟨r', hr', hagain⟩ := hw.row
  cases p with
  | staleAttempts rest =>
    cases rest with
    | nil =>
      refine leads_to (t := .sweep .staleAttemptsSwept) rfl (hasActiveAttempt_eq_false.mpr ?_)
      intro a ha hid
      by_contra hactive
      obtain ⟨e, he, -⟩ := h a ha hid (by simpa using hactive)
      exact List.not_mem_nil he
    | cons e rest => exact leads_staleAttempt hw h hs
  | staleAttemptsSwept => exact leads_to (t := .sweep (.transientSettlements _)) rfl h
  | transientSettlements rest =>
    cases rest with
    | nil => exact leads_to (t := .sweep (.staleVerified _)) rfl h
    | cons row rest =>
      refine leads_abandon ?_ ?_ (fun db' _ hs' => hs'.live.idle h) hs
      · rcases row.transient with hstate | hstate <;> rw [hstate] <;> decide
      · rcases row.transient with hstate | hstate <;> rw [hstate] <;> rfl
  | staleVerified rest =>
    cases rest with
    | nil =>
      refine leads_to (t := .sweep (.expiredApprovals now _)) rfl ⟨h, hw.since, fun hstate => ?_⟩
      refine ⟨r', List.mem_filter.mpr ⟨hr', ?_⟩, hagain⟩
      rw [hagain.state, hstate]
      rfl
    | cons id rest => exact leads_abandon (by decide) rfl (fun db' _ hs' => hs'.live.idle h) hs
  | expiredApprovals since rest =>
    cases rest with
    | nil =>
      obtain ⟨hidle, -, hcopy⟩ := h
      refine leads_to (t := .sweep (.staleApproved now _)) rfl ⟨hidle, fun hstate => ?_, fun hstate => ?_⟩
      · obtain ⟨copy, hmem, -⟩ := hcopy hstate
        exact List.not_mem_nil hmem
      · refine ⟨r', List.mem_filter.mpr ⟨hr', ?_⟩, hagain⟩
        have hover := hw.overdue
        rw [Overdue, hstate] at hover
        have hsome := (hw.dated r' hr').1 (hagain.state.trans hstate)
        obtain ⟨k, -, rfl⟩ := hagain
        rw [hstate, Bool.and_eq_true]
        exact ⟨rfl, before_of_past hw.since hsome hover⟩
    | cons row rest => exact leads_expiredApproval hw h hs
  | staleApproved since rest =>
    cases rest with
    | nil =>
      obtain ⟨hidle, hnot, hcopy⟩ := h
      have hstate : r.state = .settling := by
        rcases hw.state_cases with hstate | hstate | hstate
        · exact absurd hstate hnot
        · obtain ⟨copy, hmem, -⟩ := hcopy hstate
          exact absurd hmem List.not_mem_nil
        · exact hstate
      refine leads_to (t := .sweep (.stuckSettling _)) rfl ⟨hidle, hstate, ?_⟩
      refine List.mem_map.mpr ⟨r', List.mem_filter.mpr ⟨hr', ?_⟩, hagain.id⟩
      have hover := hw.overdue
      rw [Overdue, hstate] at hover
      have hsome := (hw.dated r' hr').2 (hagain.state.trans hstate)
      obtain ⟨k, -, rfl⟩ := hagain
      rw [hstate, Bool.and_eq_true]
      exact ⟨rfl, before_of_past hw.since hsome hover⟩
    | cons row rest => exact leads_approved hw h hs
  | stuckSettling rest =>
    cases rest with
    | nil => exact absurd h.2.2 List.not_mem_nil
    | cons id rest => exact leads_settling h hs
  | staleIdempotencyLocks => exact h.elim

/-! ## The reconcile calls of a pass -/

/-- The stretch has not thrown, and what it goes on with is held. -/
def ReconcileNext.Fine (db : Db) : ReconcileNext → Prop
  | .returned => True
  | .threw _ => False
  | .awaiting p => p.Held db
  | .running p => p.Held db

theorem fine_refundAnomalyCapture {db : Db} {settlementId attemptId paymentId : JsString} :
    (refundAnomalyCapture w settlementId attemptId paymentId).2.Fine db := by
  unfold refundAnomalyCapture
  split <;> trivial

theorem fine_refundAnomalyAnswered {crypto : Crypto} {db : Db}
    {settlementId attemptId paymentId : JsString} {refund : Except Exn JsString} :
    (refundAnomalyAnswered crypto now w settlementId attemptId paymentId refund).2.Fine db := by
  have hflag : ∀ (w : World) (err : Exn),
      (flagRefundError crypto now w settlementId attemptId paymentId err).2.Fine db := by
    intro w err
    obtain ⟨db', hok⟩ := appendLedger_isOk crypto now w.db ⟨.reconciliation_flagged, some settlementId,
      js "facilitator", [(js "reason", .str (js "refund_api_error")), (js "attempt_id", .str attemptId),
        (js "payment_id", .str paymentId), (js "detail", .str (errMessage err))]⟩ rfl
    rw [flagRefundError, hok]
    trivial
  unfold refundAnomalyAnswered
  split
  · exact hflag _ _
  · dsimp only
    split
    · trivial
    · exact hflag _ _

/-- What the payments of an order lead to does not throw. -/
theorem fine_fetched {crypto : Crypto} {db : Db} {copy row : AttemptRow} (hrow : RowOf w.db copy row)
    (orderId : JsString) (listed : List RazorpayPayment) :
    (reconcileFetched crypto now w copy orderId (.ok listed)).2.Fine db := by
  rw [reconcileFetched_eq, fetchedOutcome]
  split
  · trivial
  split
  · unfold capturedPaymentOutcome
    split
    · trivial
    split
    · exact fine_refundAnomalyCapture
    · rename_i hanomaly
      obtain ⟨⟨db', applied⟩, hok⟩ := applyCapture_isOk crypto now hrow
        (Bool.eq_false_iff.mpr hanomaly) (some orderId) _
      rw [hok]
      cases applied <;> trivial
  split
  · unfold failAttemptOutcome
    split
    · trivial
    · rename_i hactive
      obtain ⟨db', hok, -⟩ := failAttempt_isOk crypto now hrow
        (by simpa using hactive) copy.settlementId (js "reconcile_authoritative_failed")
      rw [hok]
      trivial
  · trivial

/-- A live attempt of a settlement that is not over makes it `settling`. -/
theorem Passing.settling (hw : Passing env r start now n w) {a : AttemptRow} (ha : a ∈ w.db.attempts.rows)
    (hid : a.settlementId = r.id) : r.state = .settling := by
  obtain ⟨r', hr', hagain⟩ := hw.row
  have hentered := (hw.sound.attempt a ha).state hr' (hagain.id.trans hid.symm)
  rw [hagain.state] at hentered
  rcases hw.state_cases with hstate | hstate | hstate
  · rw [hstate] at hentered
    cases hentered
  · rw [hstate] at hentered
    cases hentered
  · exact hstate

/-- A captured payment of a live attempt is no anomaly. -/
theorem Passing.not_anomaly (hw : Passing env r start now n w) {a copy : AttemptRow}
    (ha : a ∈ w.db.attempts.rows) (hid : a.settlementId = r.id) (hactive : copy.state.active = true)
    (hsid : copy.settlementId = r.id) : isAnomaly w.db copy = false := by
  obtain ⟨r', hr', hagain⟩ := hw.row
  have hstate := hagain.state.trans (hw.settling ha hid)
  have hfind : (w.db.settlements.find? fun row => row.id == copy.settlementId) = some r' := by
    refine Table.find?_eq_some hr' (beq_iff_eq.mpr (hagain.id.trans hsid.symm)) fun row hrow hp => ?_
    exact settlement_eq hrow hr' ((eq_of_beq hp).trans (hsid.trans hagain.id.symm))
  have hnone : (w.db.attempts.find? fun row =>
      row.settlementId == copy.settlementId && row.state == .captured) = none := by
    refine List.find?_eq_none.mpr fun b hb hp => ?_
    rw [Bool.and_eq_true, beq_iff_eq, beq_iff_eq] at hp
    obtain ⟨r₀, hr₀, hrid, hcaptured⟩ := hw.sound.captured b hb hp.2
    rw [settlement_eq hr₀ hr' (hrid.trans (hp.1.trans (hsid.trans hagain.id.symm))), hstate] at hcaptured
    cases hcaptured
  rw [isAnomaly, hactive, hfind, hnone, Option.map_some, hstate]
  rfl

/-- The captured payment of a live attempt settles its settlement. -/
theorem Passing.captured (hw : Passing env r start now n w) {a copy : AttemptRow}
    (ha : a ∈ w.db.attempts.rows) (hsid : a.settlementId = r.id) (hactive : a.state.active = true)
    (hcid : copy.id = a.id) (hcsid : copy.settlementId = a.settlementId) (hcstate : copy.state = a.state)
    (hrow : RowOf w.db copy a) (paymentId orderId : JsString) :
    ∃ row ∈ (reconcileCapturedPayment env.crypto now w copy paymentId orderId).1.db.settlements.rows,
      row.id = r.id ∧ row.state = .captured := by
  have hcactive : copy.state.active = true := by rw [hcstate]; exact hactive
  have hcaptured : copy.state ≠ .captured := fun h => by rw [h] at hcactive; cases hcactive
  have hanomaly := hw.not_anomaly ha hsid hcactive (hcsid.trans hsid)
  obtain ⟨⟨db', applied⟩, hok⟩ := applyCapture_isOk env.crypto now hrow hanomaly (some orderId) paymentId
  rw [reconcileCapturedPayment_eq, capturedPaymentOutcome, if_neg hcaptured, hanomaly, hok]
  cases applied with
  | true =>
    obtain ⟨attempt, settlement, lrow, -, hid, -, hm, -⟩ := applyCapture_true hok
    exact ⟨_, hm.moved_mem, (moveTo_id ..).trans (hid.trans (hcsid.trans hsid)), moveTo_state ..⟩
  | false =>
    -- neither the attempt nor the settlement is gone
    rcases applyCapture_false hok with ⟨-, hstale⟩ | ⟨attempt, -, -, hgone, -⟩
    · exact absurd hcstate.symm (hstale a ha hcid.symm)
    · obtain ⟨r', hr', hagain⟩ := hw.row
      have hstate := hagain.state.trans (hw.settling ha hsid)
      exact absurd hstate (hgone r' hr' (hagain.id.trans (hcsid.trans hsid).symm))

/-- The failed payment of a live attempt fails it. -/
theorem failAttemptIfLive_goes (crypto : Crypto) {copy : AttemptRow} (hactive : copy.state.active = true) :
    ∀ row ∈ (failAttemptIfLive crypto now w copy).1.db.attempts.rows, row.id = copy.id →
      row.state ≠ copy.state := by
  obtain ⟨db', hok, hgone⟩ := failAttempt_goes crypto now w.db copy.id copy.settlementId _ hactive
    (js "reconcile_authoritative_failed")
  rw [failAttemptIfLive, hactive, hok]
  exact hgone

/-- **The payments of a decided order end the attempt**, or settle its settlement. -/
theorem Passing.ended (hw : Passing env r start now n w) {copy : AttemptRow} {orderId : JsString}
    (hheld : (ReconcilePoint.fetchOrderPayments copy orderId).Held w.db)
    (hs : Stays r w (reconcileFetched env.crypto now w copy orderId (.ok (payments orderId))).1)
    {a a' : AttemptRow} (ha : a ∈ w.db.attempts.rows) (hsid : a.settlementId = r.id)
    (hactive : a.state.active = true)
    (hends : (ReconcilePoint.fetchOrderPayments copy orderId).Ends payments a)
    (ha' : a' ∈ (reconcileFetched env.crypto now w copy orderId
      (.ok (payments orderId))).1.db.attempts.rows) (hid : a'.id = a.id) : a'.state ≠ a.state := by
  obtain ⟨hcid, hcsid, hcstate, latest, hlast, hstatus⟩ := hends
  obtain ⟨row, hrow⟩ := hheld
  obtain rfl := hrow.eq ha hcid.symm
  rw [reconcileFetched, hlast] at hs ha'
  dsimp only at hs ha'
  by_cases hcaptured : latest.status = js "captured"
  · rw [if_pos hcaptured] at hs
    obtain ⟨r₀, hr₀, hrid, hstate⟩ := hw.captured ha hsid hactive hcid hcsid hcstate hrow latest.id orderId
    obtain ⟨r', hr', hagain⟩ := hs.row
    rw [settlement_eq hr₀ hr' (hrid.trans hagain.id.symm), hagain.state, hw.settling ha hsid] at hstate
    cases hstate
  · rw [if_neg hcaptured, if_pos (hstatus.resolve_left hcaptured)] at ha'
    rw [← hcstate]
    exact failAttemptIfLive_goes env.crypto (by rw [hcstate]; exact hactive) a' ha' (hid.trans hcid.symm)

theorem afterReconcile_world (caller : Caller) (o : World × ReconcileNext) :
    (afterReconcile caller o).world = o.1 := by
  obtain ⟨w', next⟩ := o
  cases next <;> cases caller <;> rfl

/-- A stretch of a reconcile call, when the rest of the list sees to every live attempt. -/
theorem leads_afterReconcile {rest : List StaleAttempt} {o : World × ReconcileNext} (hfine : o.2.Fine o.1.db)
    (h : Attended r.id o.1.db.attempts fun a => ∃ e ∈ rest, e.Ends payments o.1.db.attempts a) :
    Leads env payments r start n (afterReconcile (.sweep rest) o) := by
  obtain ⟨w', next⟩ := o
  cases next with
  | returned => exact leads_to (t := .sweep (.staleAttempts rest)) rfl h
  | threw e => exact hfine.elim
  | awaiting p =>
    exact leads_to (t := .reconcile (.sweep rest) p) rfl ⟨hfine, fun a ha hid hactive =>
      Or.inl (h a ha hid hactive)⟩
  | running p =>
    exact leads_to (t := .reconcile (.sweep rest) p) rfl ⟨hfine, fun a ha hid hactive =>
      Or.inl (h a ha hid hactive)⟩

/-- The list sees to every live attempt when the reconcile call does not. -/
theorem attended_rest {w' : World} {rest : List StaleAttempt} {point : ReconcilePoint}
    (h : (Task.reconcile (.sweep rest) point).Nears payments r start w) (hs : Stays r w w')
    (hnot : ∀ a ∈ w.db.attempts.rows, ∀ a' ∈ w'.db.attempts.rows, a.id = a'.id → a.state = a'.state →
      a.settlementId = r.id → a.state.active = true → ¬ point.Ends payments a) :
    Attended r.id w'.db.attempts fun a => ∃ e ∈ rest, e.Ends payments w'.db.attempts a := by
  intro a' ha' hid hactive
  obtain ⟨a, ha, haid, hsid, hstate⟩ := hs.live a' ha' hid hactive
  have hactive' : a.state.active = true := by rw [hstate]; exact hactive
  rcases h.2 a ha hsid hactive' with ⟨e, he, hends⟩ | hends
  · exact ⟨e, he, hends.kept hs.orders haid hstate⟩
  · exact absurd hends (hnot a ha a' ha' haid hstate hsid hactive')

/-! ## The steps of a pass -/

/-- **A step of a pass in its segment.** -/
theorem Task.Nears.runTask (hw : Passing env r start now n w) {t : Task} (h : t.Nears payments r start w)
    {seed : JsString} (hs : Stays r w (runTask env now seed w t).world) :
    Leads env payments r start n (Hundi.runTask env now seed w t) := by
  cases t with
  | sweep p => exact leads_sweepStep hw h hs
  | reconcile caller point =>
    cases caller with
    | webhook eventId eventType => exact h.elim
    | sweep rest =>
      cases point with
      | fetchOrderPayments copy orderId => exact leads_to (t := .reconcile (.sweep rest) _) rfl h
      | refundPayment settlementId attemptId paymentId =>
        exact leads_to (t := .reconcile (.sweep rest) _) rfl h
      | lostRace copy paymentId =>
        rw [Hundi.runTask, afterReconcile_world] at hs
        exact leads_afterReconcile fine_refundAnomalyCapture
          (attended_rest h hs fun _ _ _ _ _ _ _ _ hends => hends)
  | _ => exact h.elim

/-- **A step of a pass whose answer has arrived**; the provider lists what it listed. -/
theorem Task.Nears.resumeTask (hw : Passing env r start now n w) {t : Task} (h : t.Nears payments r start w)
    {b : Answer} {d : Done} (hd : Hundi.resumeTask env now w t b = some d) (hs : Stays r w d.world)
    (hlisted : ∀ caller copy orderId listed, t = .reconcile caller (.fetchOrderPayments copy orderId) →
      b = .payments listed → listed = .ok (payments orderId)) :
    Leads env payments r start n d := by
  cases t with
  | sweep p =>
    cases b with
    | ready =>
      obtain rfl := Option.some.inj hd
      exact leads_sweepStep hw h hs
    | _ => cases hd
  | reconcile caller point =>
    cases caller with
    | webhook eventId eventType => exact h.elim
    | sweep rest =>
      cases point with
      | fetchOrderPayments copy orderId =>
        cases b with
        | payments listed =>
          obtain rfl := hlisted _ copy orderId listed rfl rfl
          obtain rfl := Option.some.inj hd
          rw [afterReconcile_world] at hs
          obtain ⟨row, hrow⟩ := h.1
          refine leads_afterReconcile (fine_fetched hrow orderId _) (attended_rest h hs ?_)
          intro a ha a' ha' hid hstate hsid hactive hends
          exact hw.ended h.1 hs ha hsid hactive hends ha' hid.symm hstate.symm
        | _ => cases hd
      | refundPayment settlementId attemptId paymentId =>
        cases b with
        | refund answer =>
          obtain rfl := Option.some.inj hd
          rw [afterReconcile_world] at hs
          exact leads_afterReconcile fine_refundAnomalyAnswered
            (attended_rest h hs fun _ _ _ _ _ _ _ _ hends => hends)
        | _ => cases hd
      | lostRace copy paymentId => cases b <;> cases hd
  | _ => exact h.elim

end

end Hundi
