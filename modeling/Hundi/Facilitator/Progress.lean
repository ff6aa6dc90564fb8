/-
  How far a settlement is from its end.

  `passesLeft` bounds the sweep passes a settlement still needs: one for a pending approval once it is
  approved or overdue, one for every kick an `approved` settlement has left, one for every attempt a
  `settling` one has left.  No step of the process raises it (`Below.step`): a settlement only moves
  on, its kicks are only counted up and its attempts are never deleted.

  A step that does not bring a settlement nearer leaves its row as it was, but for more kicks
  (`row_step`), and brings no attempt of it to life (`live_step`).
-/
import Hundi.Lib.Rounds
import Hundi.Facilitator.Capture
import Hundi.Facilitator.AttemptBudget
import Hundi.Facilitator.Orders

namespace Hundi

open Js EventLoop

/-- The sweep passes a settlement is from its end, at most. -/
def passesLeft (env : Env) (db : Db) (r : SettlementRow) : Nat :=
  match r.state with
  | .captured | .failed | .rejected | .abandoned => 0
  | .settling => maxAttempts - existingAttempts db r.id + 1
  | .approved => env.ttls.maxApprovedKicks - r.kickCount + (maxAttempts + 2)
  | _ => env.ttls.maxApprovedKicks + (maxAttempts + 3)

/-- The settlement is at most `n` passes from its end. -/
def Below (env : Env) (id : JsString) (n : Nat) (w : World) : Prop :=
  ∃ r ∈ w.db.settlements.rows, r.id = id ∧ passesLeft env w.db r ≤ n

/-- The same row, but for more kicks. -/
def SettlementRow.Again (r r' : SettlementRow) : Prop :=
  ∃ n, r.kickCount ≤ n ∧ r' = { r with kickCount := n }

/-- The states a settlement moves on to. -/
def SettlementState.beyond : SettlementState → Bool
  | .created | .verifying | .verified | .pending_approval => false
  | _ => true

/-! ## The bound -/

theorem SettlementRow.Again.refl (r : SettlementRow) : r.Again r := ⟨r.kickCount, Nat.le_refl _, rfl⟩

theorem SettlementRow.Again.trans {r r' r'' : SettlementRow} (h : r.Again r') (h' : r'.Again r'') :
    r.Again r'' := by
  obtain ⟨n, hn, rfl⟩ := h
  obtain ⟨m, hm, rfl⟩ := h'
  exact ⟨m, Nat.le_trans hn hm, rfl⟩

theorem SettlementRow.Again.id {r r' : SettlementRow} (h : r.Again r') : r'.id = r.id := by
  obtain ⟨n, -, rfl⟩ := h
  rfl

theorem SettlementRow.Again.state {r r' : SettlementRow} (h : r.Again r') : r'.state = r.state := by
  obtain ⟨n, -, rfl⟩ := h
  rfl

/-- Attempts are never deleted. -/
theorem existingAttempts_mono {db db' : Db} (h : AttemptsKept db.attempts db'.attempts)
    (settlementId : JsString) :
    existingAttempts db settlementId ≤ existingAttempts db' settlementId := by
  show attemptsBy db.attempts .checkout_driver settlementId
    ≤ attemptsBy db'.attempts .checkout_driver settlementId
  rw [← length_attemptIds db'.attempts]
  refine attemptsBy_le _ fun a ha hsid hmethod => ?_
  obtain ⟨a', ha', hk⟩ := h a ha
  rw [← hk.id, ← hsid, ← hmethod, ← hk.settlementId, ← hk.method]
  exact mem_attemptIds ha'

/-- Only a settlement that is over needs no pass. -/
theorem passesLeft_eq_zero {env : Env} {db : Db} {r : SettlementRow} :
    passesLeft env db r = 0 ↔ r.state.live = false := by
  unfold passesLeft
  cases r.state <;> simp [SettlementState.live]

theorem passesLeft_again (env : Env) {db db' : Db} {r r' : SettlementRow} (h : r.Again r')
    (hk : AttemptsKept db.attempts db'.attempts) : passesLeft env db' r' ≤ passesLeft env db r := by
  obtain ⟨n, hn, rfl⟩ := h
  have hmono := existingAttempts_mono hk r.id
  unfold passesLeft
  dsimp only
  split <;> omega

/-- **To move on brings a settlement nearer to its end.** -/
theorem passesLeft_moveTo (env : Env) (db db' : Db) (now : Int) (rejectReason : Option JsString)
    {r : SettlementRow} {src dst : SettlementState} (hstate : r.state = src)
    (hallowed : dst ∈ settlementTransitions src) (hdst : dst.beyond = true) :
    passesLeft env db' (r.moveTo now dst rejectReason) < passesLeft env db r := by
  have hkick : (r.moveTo now dst rejectReason).kickCount = r.kickCount := by cases dst <;> rfl
  rw [passesLeft, passesLeft, moveTo_state, hstate, hkick]
  -- of the hundred pairs of states, the table allows fourteen
  cases src <;> cases dst <;>
    first
    | exact absurd hallowed (by decide)
    | exact absurd hdst (by decide)
    | (dsimp only; omega)

/-! ## What a step does to a row -/

/-- What a change of the world does to a row: it is there again, or it has moved on. -/
def RowStep (env : Env) (w w' : World) (r : SettlementRow) : Prop :=
  (∃ r' ∈ w'.db.settlements.rows, r.Again r') ∨
  ∃ r' ∈ w'.db.settlements.rows, r'.id = r.id ∧ passesLeft env w'.db r' < passesLeft env w.db r

theorem RowStep.same {env : Env} {w w' : World} {r : SettlementRow}
    (hr : r ∈ w.db.settlements.rows) (h : w'.db.settlements = w.db.settlements) : RowStep env w w' r :=
  Or.inl ⟨r, by rw [h]; exact hr, .refl r⟩

theorem RowStep.moved {env : Env} {w w' : World} {r row : SettlementRow} {now : Int}
    {src dst : SettlementState} {rejectReason : Option JsString} (hr : r ∈ w.db.settlements.rows)
    (hm : SettlementMoved now w.db.settlements w'.db.settlements row src dst rejectReason)
    (hdst : dst.beyond = true) : RowStep env w w' r := by
  by_cases hid : r.id = row.id
  · obtain rfl := settlement_eq hr hm.mem hid
    exact Or.inr ⟨_, hm.moved_mem, moveTo_id .., passesLeft_moveTo env _ _ now _ hm.state hm.allowed hdst⟩
  · exact Or.inl ⟨r, hm.mem_iff.mpr (Or.inr ⟨hr, hid⟩), .refl r⟩

theorem TaskStep.rowStep {env : Env} {now : Int} {w w' : World} {c : TaskWhy} {next : Next Task}
    (h : TaskStep env now w c w' next) {r : SettlementRow} (hr : r ∈ w.db.settlements.rows) :
    RowStep env w w' r := by
  cases h with
  | settlementCreated l row intent cart key status body hl hadd hfrom hstamp hw hn =>
    exact Or.inl ⟨r, (hadd.mem_iff r).mpr (Or.inl hr), .refl r⟩
  | decided l row mandateRow approval rejectReason hl hmandate hsigned happrovals hm hw hn =>
    exact .moved hr hm (by cases approval.decision <;> rfl)
  | abandoned l row src hl hsrc hm hw hn => exact .moved hr hm rfl
  | kickBumped id hb hw hn =>
    by_cases hp : (r.id == id && r.state == .approved) = true
    · exact Or.inl ⟨_, (Table.mem_update? hb).mpr (Or.inl ⟨r, hr, hp, rfl⟩), r.kickCount + 1,
        Nat.le_succ _, rfl⟩
    · exact Or.inl ⟨r, (Table.mem_update? hb).mpr (Or.inr ⟨hr, Bool.eq_false_iff.mpr hp⟩), .refl r⟩
  | captured caller copy orderId payments latest attempt settlement lrow hc hlast hstatus hid hsid
      hattempt hm hrec hw hn => exact .moved hr hm rfl
  | _ =>
    rename_i hw _
    exact .same hr (congrArg Books.settlements hw)

theorem JobStep.rowStep {env : Env} {now : Int} {w w' : World} {k : Kick} {c : RunWhy}
    {next : Next RunPoint} (h : JobStep env now w k c w' next) {r : SettlementRow}
    (hr : r ∈ w.db.settlements.rows) : RowStep env w w' r := by
  cases h with
  | entered row mandateRow ctx hc hkick hre hm hw hn => exact .moved hr hm rfl
  | gateRejected l row reason hl hc hkick hre hm hw hn => exact .moved hr hm rfl
  | captured copy attemptNum attemptId providerOrderId result paymentId attempt settlement lrow hc
      hpaid hid hsid hattempt hm hrec hw hn => exact .moved hr hm rfl
  | captureLost settlement attemptNum attemptId providerOrderId result paymentId hc hpaid hlost hn =>
    rcases hlost with ⟨hw, -⟩ | ⟨attempt, -, -, -, hw⟩
    · exact .same hr (congrArg Books.settlements hw)
    · exact .same hr (congrArg Books.settlements hw)
  | _ =>
    rename_i hw _
    exact .same hr (congrArg Books.settlements hw)

/-- **A step leaves a settlement as it was, but for more kicks, or brings it nearer to its end.** -/
theorem row_step {env : Env} {s s' : Sys} {a : Act} (h : sysStep env s a = some s')
    {r : SettlementRow} (hr : r ∈ s.world.db.settlements.rows) : RowStep env s.world s'.world r := by
  cases (facilitatorSpec env).moved h with
  | stays hstay => exact .same hr (by rw [hstay])
  | task c next hmove hm => exact TaskStep.rowStep hm hr
  | job k c next hmove hm => exact JobStep.rowStep hm hr

/-- **No step takes a settlement further from its end.** -/
theorem Below.step {env : Env} {s s' : Sys} {a : Act} (h : sysStep env s a = some s') {id : JsString}
    {n : Nat} (hb : Below env id n s.world) : Below env id n s'.world := by
  obtain ⟨r, hr, hid, hn⟩ := hb
  rcases row_step h hr with ⟨r', hr', hagain⟩ | ⟨r', hr', hid', hlt⟩
  · have hle := passesLeft_again env hagain (persists_step h).attempts
    exact ⟨r', hr', hagain.id.trans hid, Nat.le_trans hle hn⟩
  · exact ⟨r', hr', hid'.trans hid, Nat.le_trans (Nat.le_of_lt hlt) hn⟩

/-! ## Since when -/

/-- What is `approved` or `settling` knows since when. -/
def Dated (t : Settlements) : Prop :=
  ∀ r ∈ t.rows, (r.state = .approved → r.approvedAt.isSome = true) ∧
    (r.state = .settling → r.settlingAt.isSome = true)

theorem Dated.moved {t t' : Settlements} (h : Dated t) {now : Int} {row : SettlementRow}
    {src dst : SettlementState} {rejectReason : Option JsString}
    (hm : SettlementMoved now t t' row src dst rejectReason) : Dated t' := by
  intro r hr
  rcases hm.mem_iff.mp hr with rfl | ⟨hr, -⟩
  · rw [moveTo_state]
    refine ⟨fun hstate => ?_, fun hstate => ?_⟩ <;>
    · subst hstate
      rfl
  · exact h r hr

theorem TaskStep.dated {env : Env} {now : Int} {w w' : World} {c : TaskWhy} {next : Next Task}
    (h : TaskStep env now w c w' next) (hd : Dated w.db.settlements) : Dated w'.db.settlements := by
  cases h with
  | settlementCreated l row intent cart key status body hl hadd hfrom hstamp hw hn =>
    intro r hr
    rcases (hadd.mem_iff r).mp hr with hr | rfl
    · exact hd r hr
    · refine ⟨hstamp.approved, fun hstate => ?_⟩
      rcases hfrom.state_cases with h | h | h <;> rw [h] at hstate <;> cases hstate
  | decided l row mandateRow approval rejectReason hl hmandate hsigned happrovals hm hw hn =>
    exact hd.moved hm
  | abandoned l row src hl hsrc hm hw hn => exact hd.moved hm
  | kickBumped id hb hw hn =>
    intro r hr
    rcases (Table.mem_update? hb).mp hr with ⟨r₀, hr₀, -, rfl⟩ | ⟨hr, -⟩
    · exact hd r₀ hr₀
    · exact hd r hr
  | captured caller copy orderId payments latest attempt settlement lrow hc hlast hstatus hid hsid
      hattempt hm hrec hw hn => exact hd.moved hm
  | _ =>
    rename_i hw _
    rw [show w'.db.settlements = w.db.settlements from congrArg Books.settlements hw]
    exact hd

theorem JobStep.dated {env : Env} {now : Int} {w w' : World} {k : Kick} {c : RunWhy}
    {next : Next RunPoint} (h : JobStep env now w k c w' next) (hd : Dated w.db.settlements) :
    Dated w'.db.settlements := by
  have hsame : w'.db.settlements = w.db.settlements → Dated w'.db.settlements := fun heq => by
    rw [heq]
    exact hd
  cases h with
  | entered row mandateRow ctx hc hkick hre hm hw hn => exact hd.moved hm
  | gateRejected l row reason hl hc hkick hre hm hw hn => exact hd.moved hm
  | captured copy attemptNum attemptId providerOrderId result paymentId attempt settlement lrow hc
      hpaid hid hsid hattempt hm hrec hw hn => exact hd.moved hm
  | captureLost settlement attemptNum attemptId providerOrderId result paymentId hc hpaid hlost hn =>
    rcases hlost with ⟨hw, -⟩ | ⟨attempt, -, -, -, hw⟩
    · exact hsame (congrArg Books.settlements hw)
    · exact hsame (congrArg Books.settlements hw)
  | _ =>
    rename_i hw _
    exact hsame (congrArg Books.settlements hw)

theorem dated_run {env : Env} {ok : Sys → Act → Prop} {s : Sys}
    (h : Run (facilitator env) ok Sys.initial s) : Dated s.world.db.settlements := by
  refine h.invariant (I := fun s => Dated s.world.db.settlements) (fun hd _ hstep => ?_)
    fun r hr => absurd hr List.not_mem_nil
  cases (facilitatorSpec env).moved hstep with
  | stays hstay => rw [hstay]; exact hd
  | task c next hmove hm => exact TaskStep.dated hm hd
  | job k c next hmove hm => exact JobStep.dated hm hd

/-! ## Live attempts -/

/-- Every live attempt of the settlement was live before, in the same state. -/
def StillLive (id : JsString) (t t' : Attempts) : Prop :=
  ∀ a' ∈ t'.rows, a'.settlementId = id → a'.state.active = true →
    ∃ a ∈ t.rows, a.id = a'.id ∧ a.settlementId = id ∧ a.state = a'.state

/-- The run goes on to the payment link of the settlement, or records it. -/
def FallsBack (id : JsString) (c : RunWhy) : Prop :=
  ∃ settlement : SettlementRow, settlement.id = id ∧
    ((∃ attemptNum lastAttemptId, c = .running (.attemptLoop settlement attemptNum lastAttemptId) ∧
      maxAttempts < attemptNum) ∨
    ∃ lastAttemptId linkAttemptId receipt answer,
      c = .resumed (.linkPending settlement lastAttemptId linkAttemptId receipt) (.link answer))

theorem hasActiveAttempt_eq_false {db : Db} {id : JsString} : hasActiveAttempt db id = false ↔
    ∀ a ∈ db.attempts.rows, a.settlementId = id → a.state.active = false := by
  simp only [hasActiveAttempt, List.any_eq_false, Bool.and_eq_true, beq_iff_eq, not_and,
    Bool.not_eq_true]

theorem StillLive.refl (id : JsString) (t : Attempts) : StillLive id t t :=
  fun a ha hid _ => ⟨a, ha, rfl, hid, rfl⟩

/-- A settlement without a live attempt has none afterwards. -/
theorem StillLive.idle {id : JsString} {db db' : Db} (h : StillLive id db.attempts db'.attempts)
    (hidle : hasActiveAttempt db id = false) : hasActiveAttempt db' id = false := by
  rw [hasActiveAttempt_eq_false] at hidle ⊢
  intro a' ha' hid
  by_contra hactive
  rw [Bool.not_eq_false] at hactive
  obtain ⟨a, ha, -, hsid, hstate⟩ := h a' ha' hid hactive
  rw [← hstate, hidle a ha hsid] at hactive
  cases hactive

/-- A row was replaced by one that is over. -/
theorem StillLive.replaced {id : JsString} {t t' : Attempts} {row : AttemptRow}
    (row' : AttemptRow) (hover : row'.state.active = false)
    (h : ∀ r, r ∈ t'.rows ↔ r = row' ∨ (r ∈ t.rows ∧ r.id ≠ row.id)) : StillLive id t t' := by
  intro a ha hid hactive
  rcases (h a).mp ha with rfl | ⟨ha, -⟩
  · rw [hover] at hactive
    cases hactive
  · exact ⟨a, ha, rfl, hid, rfl⟩

theorem AttemptMoved.stillLive {id : JsString} {now : Int} {t t' : Attempts} {row : AttemptRow}
    {src dst : AttemptState} (h : AttemptMoved now t t' row src dst) (hdst : dst.active = false) :
    StillLive id t t' :=
  .replaced (row.moveTo now dst) hdst fun _ => h.mem_iff

theorem AttemptCaptured.stillLive {id : JsString} {now : Int} {t t' : Attempts} {row : AttemptRow}
    {src : AttemptState} {paymentId : JsString} (h : AttemptCaptured now t t' row src paymentId) :
    StillLive id t t' :=
  .replaced (row.capture now paymentId) rfl h.mem_iff

theorem AttemptFailed.stillLive {id : JsString} {now : Int} {t t' : Attempts} {attemptId : JsString}
    {src : AttemptState} (h : AttemptFailed now t t' attemptId src) : StillLive id t t' := by
  rcases h with ⟨rfl, -⟩ | ⟨row, -, hm⟩
  · exact .refl id t'
  · exact hm.stillLive rfl

theorem OrderIdSet.stillLive {id : JsString} {now : Int} {t t' : Attempts}
    {attemptId orderId : JsString} (h : OrderIdSet now t t' attemptId orderId) : StillLive id t t' := by
  intro a ha hid hactive
  rcases (h a).mp ha with ⟨a₀, ha₀, -, rfl⟩ | ⟨ha, -⟩
  · exact ⟨a₀, ha₀, rfl, hid, rfl⟩
  · exact ⟨a, ha, rfl, hid, rfl⟩

/-- Another settlement's attempt was added. -/
theorem AttemptAdded.stillLive {id : JsString} {t t' : Attempts} {row : AttemptRow}
    (h : AttemptAdded t t' row) (hother : row.settlementId ≠ id) : StillLive id t t' := by
  intro a ha hid hactive
  rcases (h.mem_iff a).mp ha with ha | rfl
  · exact ⟨a, ha, rfl, hid, rfl⟩
  · exact absurd hid hother

/-- Another settlement's payment link was recorded. -/
theorem LinkIssued.stillLive {id : JsString} {now : Int} {t t' : Attempts} {lastAttemptId : JsString}
    {link : AttemptRow} (h : LinkIssued now t t' lastAttemptId link) (hother : link.settlementId ≠ id) :
    StillLive id t t' := by
  obtain ⟨t₁, rfl | ⟨row, -, hm⟩, hadd⟩ := h.superseded
  · exact hadd.stillLive hother
  · intro a ha hid hactive
    obtain ⟨a₁, ha₁, haid, hsid, hstate⟩ := hadd.stillLive hother a ha hid hactive
    obtain ⟨a₀, ha₀, hid₀, hsid₀, hstate₀⟩ :=
      (hm.stillLive rfl : StillLive id t t₁) a₁ ha₁ hsid (by rw [hstate]; exact hactive)
    exact ⟨a₀, ha₀, hid₀.trans haid, hsid₀, hstate₀.trans hstate⟩

/-- No task brings an attempt to life. -/
theorem TaskStep.stillLive {env : Env} {now : Int} {w w' : World} {c : TaskWhy} {next : Next Task}
    (h : TaskStep env now w c w' next) (id : JsString) :
    StillLive id w.db.attempts w'.db.attempts := by
  cases h with
  | attemptFailed l row src hl hm hwhy hw hn => exact hm.stillLive rfl
  | captured caller copy orderId payments latest attempt settlement lrow hc hlast hstatus hid hsid
      hattempt hm hrec hw hn => exact hattempt.stillLive
  | _ =>
    rename_i hw _
    rw [show w'.db.attempts = w.db.attempts from congrArg Books.attempts hw]
    exact .refl id _

/-- What is counted is there. -/
theorem exists_attempt {db : Db} {id : JsString} (h : 0 < existingAttempts db id) :
    ∃ a ∈ db.attempts.rows, a.settlementId = id := by
  obtain ⟨a, ha, hp⟩ := List.countP_pos_iff.mp h
  rw [Bool.and_eq_true, beq_iff_eq] at hp
  exact ⟨a, ha, hp.1⟩

/-- One attempt more. -/
theorem AttemptAdded.existingAttempts_lt {db db' : Db} {row : AttemptRow}
    (h : AttemptAdded db.attempts db'.attempts row) (hmethod : row.method = .checkout_driver) :
    existingAttempts db row.settlementId < existingAttempts db' row.settlementId := by
  show attemptsBy db.attempts .checkout_driver row.settlementId
    < attemptsBy db'.attempts .checkout_driver row.settlementId
  rw [← length_attemptIds db.attempts, ← length_attemptIds db'.attempts]
  have hrow : row.id ∉ attemptIds db.attempts .checkout_driver row.settlementId := by
    intro hmem
    obtain ⟨a, ha, hid⟩ := List.mem_map.mp hmem
    exact h.fresh a (List.mem_filter.mp ha).1 hid
  have hnodup : (row.id :: attemptIds db.attempts .checkout_driver row.settlementId).Nodup :=
    List.nodup_cons.mpr ⟨hrow, (attempts_ids_nodup db.attempts).sublist (List.filter_sublist.map _)⟩
  refine (hnodup.subperm fun id hid => ?_).length_le
  rcases List.mem_cons.mp hid with rfl | hid
  · rw [← hmethod]
    exact mem_attemptIds ((h.mem_iff row).mpr (Or.inr rfl))
  · obtain ⟨a, ha, rfl⟩ := List.mem_map.mp hid
    obtain ⟨hmem, hp⟩ := List.mem_filter.mp ha
    rw [Bool.and_eq_true, beq_iff_eq, beq_iff_eq] at hp
    rw [← hp.1, ← hp.2]
    exact mem_attemptIds ((h.mem_iff a).mpr (Or.inl hmem))

/-- A run brings no attempt to life, but for the one it writes or the link it falls back to. -/
theorem JobStep.live {env : Env} {now : Int} {w w' : World} {k : Kick} {c : RunWhy}
    {next : Next RunPoint} (h : JobStep env now w k c w' next) (id : JsString)
    (hlink : ¬ FallsBack id c) : StillLive id w.db.attempts w'.db.attempts ∨
      existingAttempts w.db id < existingAttempts w'.db id := by
  have hsame : w'.db.attempts = w.db.attempts → StillLive id w.db.attempts w'.db.attempts := by
    intro heq
    rw [heq]
    exact .refl id _
  cases h with
  | attemptInitiated l settlement attemptNum lastAttemptId attemptId receipt hl hc hnum hadd hw hn =>
    by_cases hid : settlement.id = id
    · rw [← hid]
      exact Or.inr (hadd.existingAttempts_lt rfl)
    · exact Or.inl (hadd.stillLive hid)
  | orderFailed l settlement attemptNum attemptId receipt err row hl hc hid hm hw hn =>
    exact Or.inl (hm.stillLive rfl)
  | orderSet settlement attemptNum attemptId receipt orderId hc hset hw hn => exact Or.inl hset.stillLive
  | captured copy attemptNum attemptId orderId result paymentId attempt settlement lrow hc
      hpaid hid hsid hattempt hm hrec hw hn => exact Or.inl hattempt.stillLive
  | captureLost settlement attemptNum attemptId orderId result paymentId hc hpaid hlost hn =>
    rcases hlost with ⟨hw, -⟩ | ⟨attempt, -, hattempt, -, -⟩
    · exact Or.inl (hsame (congrArg Books.attempts hw))
    · exact Or.inl hattempt.stillLive
  | retried l settlement attemptNum attemptId orderId result hl hc hm hw hn => exact Or.inl hm.stillLive
  | linkIssued l settlement lastAttemptId linkAttemptId receipt linkId shortUrl hl hc hissued hw hn =>
    refine Or.inl (hissued.stillLive fun hid => hlink ?_)
    exact ⟨settlement, hid, Or.inr ⟨lastAttemptId, linkAttemptId, receipt, _, hc⟩⟩
  | _ =>
    rename_i hw _
    exact Or.inl (hsame (congrArg Books.attempts hw))

/-- **A step that does not fall back brings no attempt to life, but for one more checkout attempt.** -/
theorem live_step {env : Env} {s s' : Sys} {a : Act} (h : sysStep env s a = some s') (id : JsString)
    (hlink : ∀ k c, JobMove s a k c → ¬ FallsBack id c) :
    StillLive id s.world.db.attempts s'.world.db.attempts ∨
      existingAttempts s.world.db id < existingAttempts s'.world.db id := by
  cases (facilitatorSpec env).moved h with
  | stays hstay =>
    rw [hstay]
    exact Or.inl (.refl id _)
  | task c next hmove hm => exact Or.inl (TaskStep.stillLive hm id)
  | job k c next hmove hm => exact JobStep.live hm id (hlink k c hmove)

/-! ## Nearer by one -/

theorem passesLeft_settling (env : Env) (db : Db) {r : SettlementRow} (h : r.state = .settling) :
    passesLeft env db r = maxAttempts - existingAttempts db r.id + 1 := by
  rw [passesLeft, h]

/-- The bound of the one row of the id. -/
theorem Below.left_le {env : Env} {id : JsString} {n : Nat} {w : World} (hb : Below env id n w)
    {r : SettlementRow} (hr : r ∈ w.db.settlements.rows) (hid : r.id = id) : passesLeft env w.db r ≤ n := by
  obtain ⟨r₀, hr₀, hid₀, hn⟩ := hb
  rwa [settlement_eq hr hr₀ (hid.trans hid₀.symm)]

/-- A row is there again, or a pass is saved. -/
theorem again_step {env : Env} {s s' : Sys} {a : Act} (h : sysStep env s a = some s') {r : SettlementRow}
    {n : Nat} (hb : Below env r.id (n + 1) s.world)
    (hrow : ∃ r' ∈ s.world.db.settlements.rows, r.Again r') :
    (∃ r' ∈ s'.world.db.settlements.rows, r.Again r') ∨ Below env r.id n s'.world := by
  obtain ⟨r', hr', hagain⟩ := hrow
  rcases row_step h hr' with ⟨r'', hr'', hagain'⟩ | ⟨r'', hr'', hid, hlt⟩
  · exact Or.inl ⟨r'', hr'', hagain.trans hagain'⟩
  · have hle := hb.left_le hr' hagain.id
    exact Or.inr ⟨r'', hr'', hid.trans hagain.id, by omega⟩

/-- One attempt more saves a pass. -/
theorem Below.of_attempt {env : Env} {w w' : World} {r : SettlementRow} {n : Nat}
    (hb : Below env r.id (n + 1) w) (hstate : r.state = .settling)
    (hrow : ∃ r' ∈ w.db.settlements.rows, r.Again r') (hrow' : ∃ r' ∈ w'.db.settlements.rows, r.Again r')
    (hmore : existingAttempts w.db r.id < existingAttempts w'.db r.id)
    (hwithin : WithinBudget w'.db.attempts) : Below env r.id n w' := by
  obtain ⟨r₁, hr₁, hagain₁⟩ := hrow
  obtain ⟨r₂, hr₂, hagain₂⟩ := hrow'
  have hle := hb.left_le hr₁ hagain₁.id
  rw [passesLeft_settling env _ (hagain₁.state.trans hstate), hagain₁.id] at hle
  have hbudget : existingAttempts w'.db r.id ≤ maxAttempts := hwithin r.id
  refine ⟨r₂, hr₂, hagain₂.id, ?_⟩
  rw [passesLeft_settling env _ (hagain₂.state.trans hstate), hagain₂.id]
  omega

end Hundi
