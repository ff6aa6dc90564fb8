/-
  packages/facilitator/src/state-machine.ts — the two transition tables and their compare-and-swap.

  A transition is checked against its table, then written as `UPDATE … WHERE id = ? AND state = ?`;
  zero rows changed is `StaleTransition`.  The unique indexes can refuse the write as well, which
  is better-sqlite3's constraint error.

  The specifications `transitionSettlement_ok` and `transitionAttempt_ok` say everything a
  successful transition does; callers use them and never unfold the code.
-/
import Hundi.Facilitator.Schema

namespace Hundi

open Js

/-- `SETTLEMENT_TRANSITIONS`. -/
def settlementTransitions : SettlementState → List SettlementState
  | .created => [.verifying, .abandoned]
  | .verifying => [.verified, .rejected, .abandoned]
  | .verified => [.pending_approval, .approved, .abandoned]
  | .pending_approval => [.approved, .rejected, .abandoned]
  | .approved => [.settling, .rejected, .abandoned]
  | .settling => [.captured, .failed, .abandoned]
  | .captured => []
  | .failed => []
  | .rejected => []
  | .abandoned => []

/-- `ATTEMPT_TRANSITIONS`. -/
def attemptTransitions : AttemptState → List AttemptState
  | .initiated => [.awaiting_confirmation, .captured, .failed, .superseded]
  | .awaiting_confirmation => [.captured, .failed, .superseded]
  | .captured => []
  | .failed => []
  | .superseded => []

/-- `${to}_at = unixepoch()`. -/
def SettlementRow.stamp (row : SettlementRow) (now : Int) : SettlementState → SettlementRow
  | .created => { row with createdAt := now }
  | .verifying => { row with verifyingAt := some now }
  | .verified => { row with verifiedAt := some now }
  | .pending_approval => { row with pendingApprovalAt := some now }
  | .approved => { row with approvedAt := some now }
  | .settling => { row with settlingAt := some now }
  | .captured => { row with capturedAt := some now }
  | .failed => { row with failedAt := some now }
  | .rejected => { row with rejectedAt := some now }
  | .abandoned => { row with abandonedAt := some now }

/-- The row `transitionSettlement` writes; a missing reject reason keeps the old one. -/
def SettlementRow.moveTo (row : SettlementRow) (now : Int) (dst : SettlementState)
    (rejectReason : Option JsString) : SettlementRow :=
  { row.stamp now dst with state := dst, rejectReason := rejectReason <|> row.rejectReason }

/-- `transitionSettlement(db, id, from, to, opts)`. -/
def transitionSettlement (now : Int) (db : Db) (id : JsString) (src dst : SettlementState)
    (rejectReason : Option JsString) : Except Exn Db :=
  if dst ∉ settlementTransitions src then .error (.invalidTransition src.text dst.text)
  else if !db.settlements.rows.any fun row => row.id == id && row.state == src then
    .error (.staleTransition id src.text dst.text)
  else
    match db.settlements.update? (fun row => row.id == id && row.state == src)
        (·.moveTo now dst rejectReason) with
    | some settlements => .ok { db with settlements := settlements }
    | none => .error (.sqliteConstraint (js "UNIQUE constraint failed: settlements"))

/-- The row `transitionAttempt` writes. -/
def AttemptRow.moveTo (row : AttemptRow) (now : Int) (dst : AttemptState) : AttemptRow :=
  { row with state := dst, updatedAt := now }

/-- `transitionAttempt(db, id, from, to)`. -/
def transitionAttempt (now : Int) (db : Db) (id : JsString) (src dst : AttemptState) :
    Except Exn Db :=
  if dst ∉ attemptTransitions src then .error (.invalidTransition src.text dst.text)
  else if !db.attempts.rows.any fun row => row.id == id && row.state == src then
    .error (.staleTransition id src.text dst.text)
  else
    match db.attempts.update? (fun row => row.id == id && row.state == src) (·.moveTo now dst) with
    | some attempts => .ok { db with attempts := attempts }
    | none => .error (.sqliteConstraint (js "UNIQUE constraint failed: settlement_attempts"))

/-- `try { … } catch (err) { if (!(err instanceof StaleTransition)) throw err }`: `none` for the
    stale transition. -/
def catchStale {α : Type} : Except Exn α → Except Exn (Option α)
  | .ok a => .ok (some a)
  | .error (.staleTransition _ _ _) => .ok none
  | .error e => .error e

/-! ## What a transition leaves alone -/

@[simp] theorem moveTo_id (row : SettlementRow) (now : Int) (dst : SettlementState)
    (r : Option JsString) : (row.moveTo now dst r).id = row.id := by cases dst <;> rfl

@[simp] theorem moveTo_mandateId (row : SettlementRow) (now : Int) (dst : SettlementState)
    (r : Option JsString) : (row.moveTo now dst r).mandateId = row.mandateId := by cases dst <;> rfl

@[simp] theorem moveTo_cart (row : SettlementRow) (now : Int) (dst : SettlementState)
    (r : Option JsString) : (row.moveTo now dst r).cart = row.cart := by cases dst <;> rfl

@[simp] theorem moveTo_hash (row : SettlementRow) (now : Int) (dst : SettlementState)
    (r : Option JsString) : (row.moveTo now dst r).mandateCartHashHex = row.mandateCartHashHex := by
  cases dst <;> rfl

@[simp] theorem moveTo_amountPaise (row : SettlementRow) (now : Int) (dst : SettlementState)
    (r : Option JsString) : (row.moveTo now dst r).amountPaise = row.amountPaise := by
  cases dst <;> rfl

@[simp] theorem moveTo_merchantId (row : SettlementRow) (now : Int) (dst : SettlementState)
    (r : Option JsString) : (row.moveTo now dst r).merchantId = row.merchantId := by
  cases dst <;> rfl

@[simp] theorem moveTo_state (row : SettlementRow) (now : Int) (dst : SettlementState)
    (r : Option JsString) : (row.moveTo now dst r).state = dst := by cases dst <;> rfl

/-! ## Specifications -/

/-- One row of the settlements table, in state `src`, moves to `dst`. -/
structure SettlementMoved (now : Int) (t t' : Settlements) (row : SettlementRow)
    (src dst : SettlementState) (rejectReason : Option JsString) : Prop where
  mem : row ∈ t.rows
  state : row.state = src
  allowed : dst ∈ settlementTransitions src
  update : t.update? (fun r => r.id == row.id && r.state == src) (·.moveTo now dst rejectReason)
    = some t'

theorem transitionSettlement_ok {now : Int} {db db' : Db} {id : JsString} {src dst : SettlementState}
    {rejectReason : Option JsString}
    (h : transitionSettlement now db id src dst rejectReason = .ok db') :
    ∃ row, row.id = id ∧
      SettlementMoved now db.settlements db'.settlements row src dst rejectReason ∧
      db' = { db with settlements := db'.settlements } := by
  unfold transitionSettlement at h
  split at h
  · exact nomatch h
  rename_i hallowed
  split at h
  · exact nomatch h
  rename_i hany
  simp only [Bool.not_eq_true', Bool.not_eq_false, List.any_eq_true, Bool.and_eq_true,
    beq_iff_eq] at hany
  obtain ⟨row, hrow, hid, hstate⟩ := hany
  split at h
  · rename_i settlements hu
    obtain rfl := Except.ok.inj h
    refine ⟨row, hid, ⟨hrow, hstate, not_not.mp hallowed, ?_⟩, rfl⟩
    rw [hid]
    exact hu
  · exact nomatch h

/-- A live state holds its cart as well as its mandate. -/
theorem holdsCart_of_live {state : SettlementState} (h : state.live = true) :
    state.holdsCart = true := by
  revert h
  cases state <;> decide

/-- An allowed transition out of a live state goes through: it takes no index key the row did not
    have. -/
theorem transitionSettlement_isOk (now : Int) {db : Db} {row : SettlementRow} {src : SettlementState}
    (dst : SettlementState) (rejectReason : Option JsString) (hr : row ∈ db.settlements.rows) (hstate : row.state = src)
    (hallowed : dst ∈ settlementTransitions src) (hlive : src.live = true) :
    ∃ db', transitionSettlement now db row.id src dst rejectReason = .ok db' := by
  have hany : db.settlements.rows.any (fun r => r.id == row.id && r.state == src) = true :=
    List.any_eq_true.mpr ⟨row, hr, by simp [hstate]⟩
  -- moving a row can only give up its places in the partial indexes
  have hkeeps : ∀ r : SettlementRow, (r.id == row.id && r.state == src) = true →
      (r.moveTo now dst rejectReason).state.live = true → r.state.live = true := by
    intro r hp _
    rw [Bool.and_eq_true, beq_iff_eq, beq_iff_eq] at hp
    rw [hp.2]
    exact hlive
  have hkeepsCart : ∀ r : SettlementRow, (r.id == row.id && r.state == src) = true →
      (r.moveTo now dst rejectReason).state.holdsCart = true → r.state.holdsCart = true := by
    intro r hp _
    rw [Bool.and_eq_true, beq_iff_eq, beq_iff_eq] at hp
    rw [hp.2]
    exact holdsCart_of_live hlive
  have hupdate : (db.settlements.update? (fun r => r.id == row.id && r.state == src)
      (·.moveTo now dst rejectReason)).isSome = true := by
    refine Table.update?_isSome fun a _ b _ hab => ?_
    simp only [SettlementRow.clash, SettlementRow.clashLive, SettlementRow.clashCart,
      Bool.or_eq_false_iff, Bool.and_eq_false_iff] at hab ⊢
    obtain ⟨⟨hid, hmandate⟩, hcart⟩ := hab
    have hmoved : ∀ r : SettlementRow, ∀ f : SettlementRow → JsString,
        (∀ r, f (r.moveTo now dst rejectReason) = f r) →
        f (if (r.id == row.id && r.state == src) = true then r.moveTo now dst rejectReason else r) =
          f r := by
      intro r f hf
      split
      · exact hf r
      · rfl
    have hflag : ∀ (r : SettlementRow) (f : SettlementState → Bool),
        ((r.id == row.id && r.state == src) = true → f (r.moveTo now dst rejectReason).state = true →
          f r.state = true) → f r.state = false →
        f (if (r.id == row.id && r.state == src) = true then r.moveTo now dst rejectReason
          else r).state = false := by
      intro r f hf hr
      split
      · rename_i hp
        rw [Bool.eq_false_iff]
        intro hmv
        rw [hf hp hmv] at hr
        cases hr
      · exact hr
    rw [hmoved a SettlementRow.id (fun r => moveTo_id ..), hmoved b SettlementRow.id (fun r => moveTo_id ..),
      hmoved a SettlementRow.mandateId (fun r => moveTo_mandateId ..),
      hmoved b SettlementRow.mandateId (fun r => moveTo_mandateId ..),
      hmoved a SettlementRow.mandateCartHashHex (fun r => moveTo_hash ..),
      hmoved b SettlementRow.mandateCartHashHex (fun r => moveTo_hash ..)]
    refine ⟨⟨hid, ?_⟩, ?_⟩
    · rcases hmandate with (h | h) | h
      · exact Or.inl (Or.inl (hflag a _ (hkeeps a) h))
      · exact Or.inl (Or.inr (hflag b _ (hkeeps b) h))
      · exact Or.inr h
    · rcases hcart with (h | h) | h
      · exact Or.inl (Or.inl (hflag a _ (hkeepsCart a) h))
      · exact Or.inl (Or.inr (hflag b _ (hkeepsCart b) h))
      · exact Or.inr h
  obtain ⟨settlements, hu⟩ := Option.isSome_iff_exists.mp hupdate
  refine ⟨{ db with settlements := settlements }, ?_⟩
  rw [transitionSettlement, if_neg (not_not.mpr hallowed), hany, hu]
  rfl

/-- A transition that finds its row gone is stale: no row has the id in state `src`. -/
theorem transitionSettlement_stale {now : Int} {db : Db} {id i s d : JsString}
    {src dst : SettlementState} {rejectReason : Option JsString}
    (h : transitionSettlement now db id src dst rejectReason = .error (.staleTransition i s d)) :
    ∀ row ∈ db.settlements.rows, row.id = id → row.state ≠ src := by
  unfold transitionSettlement at h
  split at h
  · exact nomatch h
  split at h
  · rename_i hany
    intro row hrow hid hstate
    have hall : db.settlements.rows.any (fun row => row.id == id && row.state == src) = true :=
      List.any_eq_true.mpr ⟨row, hrow, by simp [hid, hstate]⟩
    rw [hall] at hany
    exact nomatch hany
  split at h
  · exact nomatch h
  · exact nomatch h

/-- A transition whose row is not there in its state is stale. -/
theorem transitionSettlement_isStale {now : Int} {db : Db} {id : JsString} {src dst : SettlementState}
    (rejectReason : Option JsString) (hallowed : dst ∈ settlementTransitions src)
    (hgone : ∀ row ∈ db.settlements.rows, row.id = id → row.state ≠ src) :
    transitionSettlement now db id src dst rejectReason
      = .error (.staleTransition id src.text dst.text) := by
  have hany : db.settlements.rows.any (fun row => row.id == id && row.state == src) = false := by
    rw [List.any_eq_false]
    intro row hrow hp
    rw [Bool.and_eq_true, beq_iff_eq, beq_iff_eq] at hp
    exact hgone row hrow hp.1 hp.2
  rw [transitionSettlement, if_neg (not_not.mpr hallowed), hany]
  rfl

namespace SettlementMoved

variable {now : Int} {t t' : Settlements} {row : SettlementRow} {src dst : SettlementState}
  {rejectReason : Option JsString}

/-- The rows after a transition: the moved row, and every row with another id. -/
theorem mem_iff (h : SettlementMoved now t t' row src dst rejectReason) {r : SettlementRow} :
    r ∈ t'.rows ↔ r = row.moveTo now dst rejectReason ∨ (r ∈ t.rows ∧ r.id ≠ row.id) := by
  rw [Table.mem_update? h.update]
  constructor
  · rintro (⟨r₀, hr₀, hp, rfl⟩ | ⟨hr, hp⟩)
    · simp only [Bool.and_eq_true, beq_iff_eq] at hp
      rw [settlement_eq hr₀ h.mem hp.1]
      exact Or.inl rfl
    · refine Or.inr ⟨hr, fun hid => ?_⟩
      rw [settlement_eq hr h.mem hid, h.state] at hp
      simp at hp
  · rintro (rfl | ⟨hr, hid⟩)
    · exact Or.inl ⟨row, h.mem, by simp [h.state], rfl⟩
    · exact Or.inr ⟨hr, by simp [hid]⟩

theorem moved_mem (h : SettlementMoved now t t' row src dst rejectReason) :
    row.moveTo now dst rejectReason ∈ t'.rows :=
  h.mem_iff.mpr (Or.inl rfl)

/-- A transition moves a weighted total by the change of the moved row. -/
theorem sum (h : SettlementMoved now t t' row src dst rejectReason) (w : SettlementRow → Int) :
    t'.sum w = t.sum w - w row + w (row.moveTo now dst rejectReason) := by
  refine Table.sum_update?_single h.update (settlements_nodup t) h.mem (by simp [h.state]) ?_ w
  intro r hr hp
  simp only [Bool.and_eq_true, beq_iff_eq] at hp
  exact settlement_eq hr h.mem hp.1

end SettlementMoved

/-- One row of the attempts table, in state `src`, moves to `dst`. -/
structure AttemptMoved (now : Int) (t t' : Attempts) (row : AttemptRow) (src dst : AttemptState) :
    Prop where
  mem : row ∈ t.rows
  state : row.state = src
  allowed : dst ∈ attemptTransitions src
  update : t.update? (fun r => r.id == row.id && r.state == src) (·.moveTo now dst) = some t'

theorem transitionAttempt_ok {now : Int} {db db' : Db} {id : JsString} {src dst : AttemptState}
    (h : transitionAttempt now db id src dst = .ok db') :
    ∃ row, row.id = id ∧ AttemptMoved now db.attempts db'.attempts row src dst ∧
      db' = { db with attempts := db'.attempts } := by
  unfold transitionAttempt at h
  split at h
  · exact nomatch h
  rename_i hallowed
  split at h
  · exact nomatch h
  rename_i hany
  simp only [Bool.not_eq_true', Bool.not_eq_false, List.any_eq_true, Bool.and_eq_true,
    beq_iff_eq] at hany
  obtain ⟨row, hrow, hid, hstate⟩ := hany
  split at h
  · rename_i attempts hu
    obtain rfl := Except.ok.inj h
    refine ⟨row, hid, ⟨hrow, hstate, not_not.mp hallowed, ?_⟩, rfl⟩
    rw [hid]
    exact hu
  · exact nomatch h

/-- Only an active attempt has somewhere to go. -/
theorem active_of_allowed {src dst : AttemptState} (h : dst ∈ attemptTransitions src) :
    src.active = true := by
  cases src <;> first | rfl | exact nomatch h

/-- An allowed transition goes through; to `captured`, when the settlement has no captured attempt. -/
theorem transitionAttempt_isOk (now : Int) {db : Db} {row : AttemptRow} (dst : AttemptState)
    (hr : row ∈ db.attempts.rows) (hallowed : dst ∈ attemptTransitions row.state)
    (hfree : dst = .captured → ∀ other ∈ db.attempts.rows,
      other.settlementId = row.settlementId → other.state ≠ .captured) :
    ∃ db', transitionAttempt now db row.id row.state dst = .ok db' := by
  have hany : db.attempts.rows.any (fun r => r.id == row.id && r.state == row.state) = true :=
    List.any_eq_true.mpr ⟨row, hr, by simp⟩
  have hhit : ∀ a ∈ db.attempts.rows, (a.id == row.id && a.state == row.state) = true → a = row := by
    intro a ha hp
    rw [Bool.and_eq_true, beq_iff_eq] at hp
    exact attempt_eq ha hr hp.1
  -- an active row holds the place of a live one already, and no captured row is in the way
  have hmoved : ∀ b ∈ db.attempts.rows, row.clash b = false → (row.moveTo now dst).clash b = false := by
    intro b hb hclash
    simp only [AttemptRow.clash, AttemptRow.clashActive, AttemptRow.moveTo, active_of_allowed hallowed,
      Bool.or_eq_false_iff, Bool.true_and] at hclash ⊢
    refine ⟨⟨hclash.1.1, ?_⟩, ?_⟩
    · rw [Bool.and_assoc, hclash.1.2, Bool.and_false]
    · by_contra hcap
      simp only [AttemptRow.clashCaptured, Bool.not_eq_false, Bool.and_eq_true, beq_iff_eq] at hcap
      exact hfree hcap.1.1 b hb hcap.2.symm hcap.1.2
  have hupdate : (db.attempts.update? (fun r => r.id == row.id && r.state == row.state)
      (·.moveTo now dst)).isSome = true := by
    refine Table.update?_isSome fun a ha b hb hab => ?_
    split <;> split
    · rename_i hpa hpb
      rw [hhit a ha hpa, hhit b hb hpb] at hab
      simp [AttemptRow.clash] at hab
    · rename_i hpa _
      rw [hhit a ha hpa] at hab ⊢
      exact hmoved b hb hab
    · rename_i _ hpb
      rw [hhit b hb hpb] at hab ⊢
      rw [AttemptRow.clash_comm] at hab ⊢
      exact hmoved a ha hab
    · exact hab
  obtain ⟨attempts, hu⟩ := Option.isSome_iff_exists.mp hupdate
  refine ⟨{ db with attempts := attempts }, ?_⟩
  rw [transitionAttempt, if_neg (not_not.mpr hallowed), hany, hu]
  rfl

/-- A transition whose row is not there in its state is stale. -/
theorem transitionAttempt_isStale (now : Int) {db : Db} {id : JsString} {src dst : AttemptState}
    (hallowed : dst ∈ attemptTransitions src)
    (hgone : ∀ row ∈ db.attempts.rows, row.id = id → row.state ≠ src) :
    transitionAttempt now db id src dst = .error (.staleTransition id src.text dst.text) := by
  have hany : db.attempts.rows.any (fun row => row.id == id && row.state == src) = false := by
    rw [List.any_eq_false]
    intro row hrow hp
    rw [Bool.and_eq_true, beq_iff_eq, beq_iff_eq] at hp
    exact hgone row hrow hp.1 hp.2
  rw [transitionAttempt, if_neg (not_not.mpr hallowed), hany]
  rfl

/-- A transition that finds its row gone is stale: no row has the id in state `src`. -/
theorem transitionAttempt_stale {now : Int} {db : Db} {id i s d : JsString} {src dst : AttemptState}
    (h : transitionAttempt now db id src dst = .error (.staleTransition i s d)) :
    ∀ row ∈ db.attempts.rows, row.id = id → row.state ≠ src := by
  unfold transitionAttempt at h
  split at h
  · exact nomatch h
  split at h
  · rename_i hany
    intro row hrow hid hstate
    have hall : db.attempts.rows.any (fun row => row.id == id && row.state == src) = true :=
      List.any_eq_true.mpr ⟨row, hrow, by simp [hid, hstate]⟩
    rw [hall] at hany
    exact nomatch hany
  split at h
  · exact nomatch h
  · exact nomatch h

namespace AttemptMoved

variable {now : Int} {t t' : Attempts} {row : AttemptRow} {src dst : AttemptState}

theorem mem_iff (h : AttemptMoved now t t' row src dst) {r : AttemptRow} :
    r ∈ t'.rows ↔ r = row.moveTo now dst ∨ (r ∈ t.rows ∧ r.id ≠ row.id) := by
  rw [Table.mem_update? h.update]
  constructor
  · rintro (⟨r₀, hr₀, hp, rfl⟩ | ⟨hr, hp⟩)
    · simp only [Bool.and_eq_true, beq_iff_eq] at hp
      rw [attempt_eq hr₀ h.mem hp.1]
      exact Or.inl rfl
    · refine Or.inr ⟨hr, fun hid => ?_⟩
      rw [attempt_eq hr h.mem hid, h.state] at hp
      simp at hp
  · rintro (rfl | ⟨hr, hid⟩)
    · exact Or.inl ⟨row, h.mem, by simp [h.state], rfl⟩
    · exact Or.inr ⟨hr, by simp [hid]⟩

/-- Only an active attempt moves. -/
theorem active (h : AttemptMoved now t t' row src dst) : row.state.active = true := by
  rw [h.state]
  exact active_of_allowed h.allowed

end AttemptMoved

theorem catchStale_some {α : Type} {x : Except Exn α} {a : α} (h : catchStale x = .ok (some a)) :
    x = .ok a := by
  unfold catchStale at h
  split at h
  · obtain rfl := Option.some.inj (Except.ok.inj h)
    rfl
  · exact nomatch Except.ok.inj h
  · exact nomatch h

theorem catchStale_none {α : Type} {x : Except Exn α} (h : catchStale x = .ok none) :
    ∃ i s d, x = .error (.staleTransition i s d) := by
  unfold catchStale at h
  split at h
  · exact nomatch Except.ok.inj h
  · exact ⟨_, _, _, rfl⟩
  · exact nomatch h

end Hundi
