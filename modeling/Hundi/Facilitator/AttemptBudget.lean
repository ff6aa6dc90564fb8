/-
  How many attempts a settlement gets.

  The loop counts the checkout attempts it finds on entry and numbers its own from there.  Only a run
  of the executor adds attempts and there is one run at a time, so the number it is at stays above the
  count (`budgetOutline`), and the loop ends at three.  A payment link is added when no number is left,
  any number of times; what keeps it to one is that its attempt never leaves `awaiting_confirmation`
  (`LinksWaiting`), so the index on live attempts refuses a second.
-/
import Hundi.Facilitator.PaymentLink

namespace Hundi

open Js EventLoop

/-- `SELECT COUNT(*) FROM settlement_attempts WHERE settlement_id = ? AND method = ?`. -/
def attemptsBy (t : Attempts) (method : AttemptMethod) (settlementId : JsString) : Nat :=
  t.rows.countP fun row => row.settlementId == settlementId && row.method == method

/-! ## Counting rows by their ids -/

theorem attempts_ids_nodup (t : Attempts) : (t.rows.map (·.id)).Nodup := by
  refine List.pairwise_map.mpr (t.unique.imp fun hclash hid => ?_)
  simp [AttemptRow.clash, hid] at hclash

/-- The ids of a settlement's attempts of a method. -/
def attemptIds (t : Attempts) (method : AttemptMethod) (settlementId : JsString) : List JsString :=
  (t.rows.filter fun row => row.settlementId == settlementId && row.method == method).map (·.id)

theorem length_attemptIds (t : Attempts) (method : AttemptMethod) (settlementId : JsString) :
    (attemptIds t method settlementId).length = attemptsBy t method settlementId := by
  rw [attemptIds, List.length_map, attemptsBy, List.countP_eq_length_filter]

theorem mem_attemptIds {t : Attempts} {a : AttemptRow} (ha : a ∈ t.rows) :
    a.id ∈ attemptIds t a.method a.settlementId :=
  List.mem_map.mpr ⟨a, List.mem_filter.mpr ⟨ha, by simp⟩, rfl⟩

/-- A settlement has at most as many attempts of a method as there are ids for them. -/
theorem attemptsBy_le {t : Attempts} {method : AttemptMethod} {settlementId : JsString}
    (ids : List JsString)
    (h : ∀ a ∈ t.rows, a.settlementId = settlementId → a.method = method → a.id ∈ ids) :
    attemptsBy t method settlementId ≤ ids.length := by
  rw [← length_attemptIds]
  have hnodup : (attemptIds t method settlementId).Nodup :=
    (attempts_ids_nodup t).sublist (List.filter_sublist.map _)
  refine (hnodup.subperm fun id hid => ?_).length_le
  obtain ⟨a, ha, rfl⟩ := List.mem_map.mp hid
  obtain ⟨hmem, hp⟩ := List.mem_filter.mp ha
  rw [Bool.and_eq_true, beq_iff_eq, beq_iff_eq] at hp
  exact h a hmem hp.1 hp.2

/-- Every attempt of `t'` is one of `t`, with the same settlement and method. -/
def Continued (t t' : Attempts) : Prop :=
  ∀ a' ∈ t'.rows, ∃ a ∈ t.rows, a.id = a'.id ∧ a.settlementId = a'.settlementId ∧ a.method = a'.method

theorem Continued.refl (t : Attempts) : Continued t t := fun a ha => ⟨a, ha, rfl, rfl, rfl⟩

theorem Continued.attemptsBy_le {t t' : Attempts} (h : Continued t t') (method : AttemptMethod)
    (settlementId : JsString) : attemptsBy t' method settlementId ≤ attemptsBy t method settlementId := by
  rw [← length_attemptIds t]
  refine Hundi.attemptsBy_le _ fun a' ha' hsid hmethod => ?_
  obtain ⟨a, ha, hid, hsid', hmethod'⟩ := h a' ha'
  rw [← hid, ← hsid, ← hmethod, ← hsid', ← hmethod']
  exact mem_attemptIds ha

/-- One attempt more counts for its settlement and its method only. -/
theorem AttemptAdded.attemptsBy_le {t t' : Attempts} {row : AttemptRow} (h : AttemptAdded t t' row)
    (method : AttemptMethod) (settlementId : JsString) :
    attemptsBy t' method settlementId ≤ attemptsBy t method settlementId +
      if row.settlementId = settlementId ∧ row.method = method then 1 else 0 := by
  by_cases hrow : row.settlementId = settlementId ∧ row.method = method
  · rw [if_pos hrow, ← length_attemptIds t]
    refine Hundi.attemptsBy_le (row.id :: _) fun a ha hsid hmethod => ?_
    rcases (h.mem_iff a).mp ha with ha | rfl
    · rw [← hsid, ← hmethod]
      exact List.mem_cons_of_mem _ (mem_attemptIds ha)
    · exact List.mem_cons_self
  · rw [if_neg hrow, Nat.add_zero, ← length_attemptIds t]
    refine Hundi.attemptsBy_le _ fun a ha hsid hmethod => ?_
    rcases (h.mem_iff a).mp ha with ha | rfl
    · rw [← hsid, ← hmethod]
      exact mem_attemptIds ha
    · exact absurd ⟨hsid, hmethod⟩ hrow

/-! ## What the writes do to the counts -/

/-- A row was replaced by one with the same id, settlement and method. -/
theorem Continued.replaced {t t' : Attempts} {row : AttemptRow} (row' : AttemptRow)
    (hmem : row ∈ t.rows) (hid : row'.id = row.id) (hsid : row'.settlementId = row.settlementId)
    (hmethod : row'.method = row.method)
    (h : ∀ r, r ∈ t'.rows ↔ r = row' ∨ (r ∈ t.rows ∧ r.id ≠ row.id)) : Continued t t' := by
  intro a ha
  rcases (h a).mp ha with rfl | ⟨ha, -⟩
  · exact ⟨row, hmem, hid.symm, hsid.symm, hmethod.symm⟩
  · exact ⟨a, ha, rfl, rfl, rfl⟩

theorem AttemptMoved.continued {now : Int} {t t' : Attempts} {row : AttemptRow}
    {src dst : AttemptState} (h : AttemptMoved now t t' row src dst) : Continued t t' :=
  .replaced (row.moveTo now dst) h.mem rfl rfl rfl fun _ => h.mem_iff

theorem AttemptCaptured.continued {now : Int} {t t' : Attempts} {row : AttemptRow}
    {src : AttemptState} {paymentId : JsString} (h : AttemptCaptured now t t' row src paymentId) :
    Continued t t' :=
  .replaced (row.capture now paymentId) h.mem rfl rfl rfl h.mem_iff

theorem AttemptFailed.continued {now : Int} {t t' : Attempts} {attemptId : JsString}
    {src : AttemptState} (h : AttemptFailed now t t' attemptId src) : Continued t t' := by
  rcases h with ⟨rfl, -⟩ | ⟨row, -, hm⟩
  · exact .refl t'
  · exact hm.continued

theorem OrderIdSet.continued {now : Int} {t t' : Attempts} {attemptId orderId : JsString}
    (h : OrderIdSet now t t' attemptId orderId) : Continued t t' := by
  intro a ha
  rcases (h a).mp ha with ⟨a₀, ha₀, -, rfl⟩ | ⟨ha, -⟩
  · exact ⟨a₀, ha₀, rfl, rfl, rfl⟩
  · exact ⟨a, ha, rfl, rfl, rfl⟩

theorem TaskStep.continued {env : Env} {now : Int} {w w' : World} {c : TaskWhy} {next : Next Task}
    (h : TaskStep env now w c w' next) : Continued w.db.attempts w'.db.attempts := by
  cases h with
  | attemptFailed l row src hl hm hwhy hw hn => exact hm.continued
  | captured caller copy orderId payments latest attempt settlement lrow hc hlast hstatus hid hsid
      hattempt hm hrec hw hn => exact hattempt.continued
  | _ =>
    rename_i hw _
    rw [show w'.db.attempts = w.db.attempts from congrArg Books.attempts hw]
    exact .refl _

/-! ## The number a run is at -/

/-- The attempts of the settlement a run is about are within the number it is at; before it writes
    the attempt of a number they are below. -/
def RunPoint.WithinBudget (t : Attempts) : RunPoint → Prop
  | .attemptLoop settlement attemptNum _ => attemptsBy t .checkout_driver settlement.id < attemptNum
  | .createOrder settlement attemptNum _ _ => attemptsBy t .checkout_driver settlement.id ≤ attemptNum
  | .orderPending settlement attemptNum _ _ => attemptsBy t .checkout_driver settlement.id ≤ attemptNum
  | .settleViaCheckout settlement attemptNum _ _ =>
    attemptsBy t .checkout_driver settlement.id ≤ attemptNum
  | .checkoutPending settlement attemptNum _ _ =>
    attemptsBy t .checkout_driver settlement.id ≤ attemptNum
  | .captureLost settlement attemptNum _ _ _ => attemptsBy t .checkout_driver settlement.id ≤ attemptNum
  | .linkPending _ _ _ _ => True

def runWithinBudget (w : World) (next : Next RunPoint) : Prop :=
  ∀ p, next.task? = some p → p.WithinBudget w.db.attempts

/-- No settlement has more than `MAX_ATTEMPTS` checkout attempts. -/
def WithinBudget (t : Attempts) : Prop :=
  ∀ settlementId, attemptsBy t .checkout_driver settlementId ≤ maxAttempts

/-- No settlement has more checkout attempts than before. -/
def NoMoreCheckouts (t t' : Attempts) : Prop :=
  ∀ settlementId, attemptsBy t' .checkout_driver settlementId
    ≤ attemptsBy t .checkout_driver settlementId

theorem Continued.noMoreCheckouts {t t' : Attempts} (h : Continued t t') : NoMoreCheckouts t t' :=
  h.attemptsBy_le .checkout_driver

theorem NoMoreCheckouts.refl (t : Attempts) : NoMoreCheckouts t t := fun _ => Nat.le_refl _

theorem NoMoreCheckouts.trans {t u v : Attempts} (h : NoMoreCheckouts t u) (h' : NoMoreCheckouts u v) :
    NoMoreCheckouts t v :=
  fun settlementId => Nat.le_trans (h' settlementId) (h settlementId)

theorem AttemptAdded.noMoreCheckouts {t t' : Attempts} {row : AttemptRow} (h : AttemptAdded t t' row)
    (hmethod : row.method = .payment_link) : NoMoreCheckouts t t' := by
  intro settlementId
  have hle := h.attemptsBy_le .checkout_driver settlementId
  have hne : row.method ≠ .checkout_driver := by
    rw [hmethod]
    exact nofun
  rw [if_neg fun hrow => hne hrow.2] at hle
  exact hle

theorem LinkIssued.noMoreCheckouts {now : Int} {t t' : Attempts} {lastAttemptId : JsString}
    {link : AttemptRow} (h : LinkIssued now t t' lastAttemptId link)
    (hmethod : link.method = .payment_link) : NoMoreCheckouts t t' := by
  obtain ⟨t₁, rfl | ⟨row, -, hm⟩, hadd⟩ := h.superseded
  · exact hadd.noMoreCheckouts hmethod
  · exact hm.continued.noMoreCheckouts.trans (hadd.noMoreCheckouts hmethod)

theorem RunPoint.WithinBudget.kept {t t' : Attempts} {p : RunPoint} (h : p.WithinBudget t)
    (hmore : NoMoreCheckouts t t') : p.WithinBudget t' := by
  cases p with
  | attemptLoop settlement attemptNum lastAttemptId => exact Nat.lt_of_le_of_lt (hmore _) h
  | linkPending settlement lastAttemptId linkAttemptId receipt => trivial
  | _ => exact Nat.le_trans (hmore _) h

/-- A run writes an attempt for the number it is at, and otherwise adds no checkout attempt. -/
theorem JobStep.checkouts {env : Env} {now : Int} {w w' : World} {k : Kick} {c : RunWhy}
    {next : Next RunPoint} (h : JobStep env now w k c w' next) :
    NoMoreCheckouts w.db.attempts w'.db.attempts ∨
      ∃ settlement attemptNum lastAttemptId attemptId receipt,
        c = .running (.attemptLoop settlement attemptNum lastAttemptId) ∧ attemptNum ≤ maxAttempts ∧
        AttemptAdded w.db.attempts w'.db.attempts
          (newAttempt now attemptId settlement.id .checkout_driver .initiated receipt none) ∧
        next = .cpu (.createOrder settlement attemptNum attemptId receipt) := by
  have hsame : w'.db.attempts = w.db.attempts →
      NoMoreCheckouts w.db.attempts w'.db.attempts := by
    intro heq
    rw [heq]
    exact .refl _
  cases h with
  | attemptInitiated l settlement attemptNum lastAttemptId attemptId receipt hl hc hnum hadd hw hn =>
    exact Or.inr ⟨settlement, attemptNum, lastAttemptId, attemptId, receipt, hc, hnum, hadd, hn⟩
  | orderFailed l settlement attemptNum attemptId receipt err row hl hc hid hm hw hn =>
    exact Or.inl hm.continued.noMoreCheckouts
  | orderSet settlement attemptNum attemptId receipt orderId hc hset hw hn =>
    exact Or.inl hset.continued.noMoreCheckouts
  | captured copy attemptNum attemptId orderId result paymentId attempt settlement lrow hc
      hpaid hid hsid hattempt hm hrec hw hn => exact Or.inl hattempt.continued.noMoreCheckouts
  | captureLost settlement attemptNum attemptId orderId result paymentId hc hpaid hlost hn =>
    rcases hlost with ⟨hw, -⟩ | ⟨attempt, -, hattempt, -, -⟩
    · exact Or.inl (hsame (congrArg Books.attempts hw))
    · exact Or.inl hattempt.continued.noMoreCheckouts
  | retried l settlement attemptNum attemptId orderId result hl hc hm hw hn =>
    exact Or.inl hm.continued.noMoreCheckouts
  | linkIssued l settlement lastAttemptId linkAttemptId receipt linkId shortUrl hl hc hissued hw hn =>
    exact Or.inl (hissued.noMoreCheckouts rfl)
  | _ =>
    rename_i hw _
    exact Or.inl (hsame (congrArg Books.attempts hw))

/-- The attempt written for a number is within it. -/
theorem AttemptAdded.withinBudget {t t' : Attempts} {now : Int} {attemptId settlementId receipt : JsString}
    {attemptNum : Nat}
    (h : AttemptAdded t t' (newAttempt now attemptId settlementId .checkout_driver .initiated receipt none))
    (hbelow : attemptsBy t .checkout_driver settlementId < attemptNum) (hnum : attemptNum ≤ maxAttempts)
    (hI : WithinBudget t) :
    attemptsBy t' .checkout_driver settlementId ≤ attemptNum ∧ WithinBudget t' := by
  have hone : attemptsBy t' .checkout_driver settlementId ≤ attemptNum := by
    have hle := h.attemptsBy_le .checkout_driver settlementId
    rw [if_pos ⟨rfl, rfl⟩] at hle
    omega
  refine ⟨hone, fun sid => ?_⟩
  by_cases hsid : settlementId = sid
  · rw [← hsid]
    exact Nat.le_trans hone hnum
  · have hle := h.attemptsBy_le .checkout_driver sid
    rw [if_neg fun hrow => hsid hrow.1] at hle
    exact Nat.le_trans hle (hI sid)

theorem JobStep.withinBudget {env : Env} {now : Int} {w w' : World} {k : Kick} {c : RunWhy}
    {next : Next RunPoint} (h : JobStep env now w k c w' next) (hI : WithinBudget w.db.attempts)
    (hj : runWithinBudget w c.before) :
    WithinBudget w'.db.attempts ∧ runWithinBudget w' next := by
  rcases h.checkouts with hmore | ⟨settlement, attemptNum, lastAttemptId, attemptId, receipt, hc, hnum,
    hadd, hn⟩
  · refine ⟨fun sid => Nat.le_trans (hmore sid) (hI sid), fun p hp => ?_⟩
    -- the run goes on at the number it was at, or counts afresh
    have hstay : ∀ q : RunPoint, c.before.task? = some q → q.WithinBudget w'.db.attempts :=
      fun q hq => (hj q hq).kept hmore
    cases h with
    | entered row mandateRow ctx hc hkick hre hm hw hn =>
      rw [hn] at hp
      obtain rfl := Option.some.inj hp
      exact Nat.lt_succ_self _
    | resumed row hc hkick hmem hstate hidle hw hn =>
      rw [hn] at hp
      obtain rfl := Option.some.inj hp
      rw [show w'.db.attempts = w.db.attempts from congrArg Books.attempts hw]
      exact Nat.lt_succ_self _
    | attemptInitiated l settlement attemptNum lastAttemptId attemptId receipt hl hc hnum hadd hw hn =>
      rw [hn] at hp
      obtain rfl := Option.some.inj hp
      have hbelow := hstay (.attemptLoop settlement attemptNum lastAttemptId) (by rw [hc]; rfl)
      exact Nat.le_of_lt hbelow
    | orderCalled settlement attemptNum attemptId receipt hc hw hn =>
      rw [hn] at hp
      obtain rfl := Option.some.inj hp
      exact hstay (.createOrder settlement attemptNum attemptId receipt) (by rw [hc]; rfl)
    | orderFailed l settlement attemptNum attemptId receipt err row hl hc hid hm hw hn =>
      rw [hn] at hp
      obtain rfl := Option.some.inj hp
      have hat := hstay (.orderPending settlement attemptNum attemptId receipt) (by rw [hc]; rfl)
      exact Nat.lt_succ_of_le hat
    | orderSet settlement attemptNum attemptId receipt orderId hc hset hw hn =>
      rw [hn] at hp
      obtain rfl := Option.some.inj hp
      exact hstay (.orderPending settlement attemptNum attemptId receipt) (by rw [hc]; rfl)
    | checkoutCalled settlement attemptNum attemptId orderId hc hw hn =>
      rw [hn] at hp
      obtain rfl := Option.some.inj hp
      exact hstay (.settleViaCheckout settlement attemptNum attemptId orderId) (by rw [hc]; rfl)
    | captureLost settlement attemptNum attemptId orderId result paymentId hc hpaid hlost hn =>
      rw [hn] at hp
      obtain rfl := Option.some.inj hp
      exact hstay (.checkoutPending settlement attemptNum attemptId orderId) (by rw [hc]; rfl)
    | retried l settlement attemptNum attemptId orderId result hl hc hm hw hn =>
      rw [hn] at hp
      obtain rfl := Option.some.inj hp
      refine Nat.lt_succ_of_le ?_
      rcases hc with hc | ⟨hc, -⟩
      · exact hstay (.captureLost settlement attemptNum attemptId orderId result) (by rw [hc]; rfl)
      · exact hstay (.checkoutPending settlement attemptNum attemptId orderId) (by rw [hc]; rfl)
    | linkCalled settlement attemptNum lastAttemptId linkAttemptId receipt hc hnum hw hn =>
      rw [hn] at hp
      obtain rfl := Option.some.inj hp
      trivial
    | again q hc hw hn =>
      rw [hn] at hp
      obtain rfl := Option.some.inj hp
      exact hstay q (by rw [hc]; rfl)
    | _ =>
      rename_i hn
      rw [hn] at hp
      cases hp
  · have hbelow : attemptsBy w.db.attempts .checkout_driver settlement.id < attemptNum := by
      rw [hc] at hj
      exact hj (.attemptLoop settlement attemptNum lastAttemptId) rfl
    obtain ⟨hone, hI'⟩ := hadd.withinBudget hbelow hnum hI
    refine ⟨hI', fun p hp => ?_⟩
    rw [hn] at hp
    obtain rfl := Option.some.inj hp
    exact hone

def budgetOutline (env : Env) : Outline (facilitatorSpec env) anyStep where
  inv := fun w => WithinBudget w.db.attempts
  task := fun _ _ => True
  job := fun w _ => runWithinBudget w
  taskRel := fun w w' => NoMoreCheckouts w.db.attempts w'.db.attempts
  jobRel := fun _ _ => True
  task_done := fun _ => trivial
  job_done := fun _ _ p hp => nomatch hp
  taskStep := fun _ _ _ _ _ hI _ _ _ h =>
    have hmore := (TaskStep.continued h).noMoreCheckouts
    ⟨fun sid => Nat.le_trans (hmore sid) (hI sid), hmore, trivial⟩
  jobStep := fun _ _ _ _ _ _ hI hj _ _ h =>
    ⟨(JobStep.withinBudget h hI hj).1, trivial, (JobStep.withinBudget h hI hj).2⟩
  task_stable := fun _ _ _ _ _ _ => trivial
  job_stable := fun _ _ _ p _ hj hmore q hq => by
    obtain rfl := Option.some.inj hq
    exact (hj _ rfl).kept hmore

theorem Reachable.withinBudget {env : Env} {s : Sys} (h : Reachable env s) :
    WithinBudget s.world.db.attempts :=
  ((budgetOutline env).holds (fun _ => Nat.zero_le _) h).inv

/-! ## Payment links wait -/

/-- A payment link's attempt is `awaiting_confirmation`, and has an id. -/
def LinksWaiting (t : Attempts) : Prop :=
  ∀ a ∈ t.rows, a.method = .payment_link → a.state = .awaiting_confirmation ∧ a.id ≠ []

/-- No attempt yet, or one that is not a payment link's. -/
def LastTried (t : Attempts) (lastAttemptId : JsString) : Prop :=
  lastAttemptId = [] ∨ NotLink t lastAttemptId

/-- The attempt a run supersedes with its link is no link's. -/
def RunPoint.LastTried (t : Attempts) : RunPoint → Prop
  | .attemptLoop _ _ lastAttemptId => Hundi.LastTried t lastAttemptId
  | .captureLost _ _ attemptId _ _ => Hundi.NotLink t attemptId
  | .linkPending _ lastAttemptId _ _ => Hundi.LastTried t lastAttemptId
  | _ => True

def runLastTried (w : World) (next : Next RunPoint) : Prop :=
  ∀ p, next.task? = some p → p.LastTried w.db.attempts

theorem LastTried.kept {t t' : Attempts} {id : JsString} (h : LastTried t id) (hk : AttemptsKept t t') :
    LastTried t' id :=
  h.imp_right fun hnot => hnot.kept hk

theorem RunPoint.LastTried.kept {t t' : Attempts} {p : RunPoint} (h : p.LastTried t)
    (hk : AttemptsKept t t') : p.LastTried t' := by
  cases p with
  | attemptLoop settlement attemptNum lastAttemptId => exact Hundi.LastTried.kept h hk
  | captureLost settlement attemptNum attemptId orderId result => exact Hundi.NotLink.kept h hk
  | linkPending settlement lastAttemptId linkAttemptId receipt => exact Hundi.LastTried.kept h hk
  | _ => trivial

/-- The rows of `t'` were in `t`, or are not payment links'. -/
theorem LinksWaiting.of_rows {t t' : Attempts} (h : LinksWaiting t)
    (hrows : ∀ a ∈ t'.rows, a ∈ t.rows ∨ a.method ≠ .payment_link) : LinksWaiting t' := by
  intro a ha hlink
  rcases hrows a ha with hold | hnot
  · exact h a hold hlink
  · exact absurd hlink hnot

theorem LinksWaiting.moved {t t' : Attempts} (h : LinksWaiting t) {now : Int} {row : AttemptRow}
    {src dst : AttemptState} (hm : AttemptMoved now t t' row src dst)
    (hnot : row.method ≠ .payment_link) : LinksWaiting t' := by
  refine h.of_rows fun a ha => ?_
  rcases hm.mem_iff.mp ha with rfl | ⟨ha, -⟩
  · exact Or.inr hnot
  · exact Or.inl ha

theorem LinksWaiting.captured {t t' : Attempts} (h : LinksWaiting t) {now : Int} {row : AttemptRow}
    {src : AttemptState} {paymentId : JsString} (hc : AttemptCaptured now t t' row src paymentId)
    (hnot : row.method ≠ .payment_link) : LinksWaiting t' := by
  refine h.of_rows fun a ha => ?_
  rcases (hc.mem_iff a).mp ha with rfl | ⟨ha, -⟩
  · exact Or.inr hnot
  · exact Or.inl ha

/-- An `initiated` attempt is no link's. -/
theorem LinksWaiting.not_link {t : Attempts} (h : LinksWaiting t) {row : AttemptRow} (hrow : row ∈ t.rows)
    (hstate : row.state = .initiated) : row.method ≠ .payment_link := by
  intro hlink
  have hwaiting := (h row hrow hlink).1
  rw [hstate] at hwaiting
  exact nomatch hwaiting

theorem LinksWaiting.failed {t t' : Attempts} (h : LinksWaiting t) {now : Int} {attemptId : JsString}
    (hf : AttemptFailed now t t' attemptId .initiated) : LinksWaiting t' := by
  rcases hf with ⟨rfl, -⟩ | ⟨row, -, hm⟩
  · exact h
  · exact h.moved hm (h.not_link hm.mem hm.state)

theorem LinksWaiting.ordered {t t' : Attempts} (h : LinksWaiting t) {now : Int}
    {attemptId orderId : JsString} (hset : OrderIdSet now t t' attemptId orderId) :
    LinksWaiting t' := by
  intro a ha hlink
  rcases (hset a).mp ha with ⟨a₀, ha₀, -, rfl⟩ | ⟨ha, -⟩
  · exact h a₀ ha₀ hlink
  · exact h a ha hlink

theorem LinksWaiting.issued {t t' : Attempts} (h : LinksWaiting t) {now : Int}
    {lastAttemptId : JsString} {link : AttemptRow} (hissued : LinkIssued now t t' lastAttemptId link)
    (hlast : LastTried t lastAttemptId) (hstate : link.state = .awaiting_confirmation)
    (hid : link.id ≠ []) : LinksWaiting t' := by
  obtain ⟨t₁, hsuperseded, hadd⟩ := hissued.superseded
  have h₁ : LinksWaiting t₁ := by
    rcases hsuperseded with rfl | ⟨row, hrow, hm⟩
    · exact h
    · refine h.moved hm ?_
      rcases hlast with hnone | hnot
      · intro hlink
        exact (h row hm.mem hlink).2 (hrow.trans hnone)
      · exact hnot.method hm.mem hrow
  intro a ha hlink
  rcases (hadd.mem_iff a).mp ha with ha | rfl
  · exact h₁ a ha hlink
  · exact ⟨hstate, hid⟩

theorem TaskStep.linksWaiting {env : Env} {now : Int} {w w' : World} {c : TaskWhy} {next : Next Task}
    (h : TaskStep env now w c w' next) (hI : LinksWaiting w.db.attempts)
    (ht : taskNotLink w c.before) : LinksWaiting w'.db.attempts := by
  cases h with
  | attemptFailed l row src hl hm hwhy hw hn =>
    refine hI.moved hm ?_
    rcases hwhy with rfl | ⟨caller, copy, orderId, payments, hc, hid⟩
    · exact hI.not_link hm.mem hm.state
    · rw [hc] at ht
      have hnot : NotLink w.books.attempts copy.id := ht _ rfl
      exact hnot.method hm.mem hid
  | captured caller copy orderId payments latest attempt settlement lrow hc hlast hstatus hid hsid
      hattempt hm hrec hw hn =>
    rw [hc] at ht
    have hnot : NotLink w.books.attempts copy.id := ht _ rfl
    exact hI.captured hattempt (hnot.method hattempt.mem hid)
  | _ =>
    rename_i hw _
    rw [show w'.db.attempts = w.db.attempts from congrArg Books.attempts hw]
    exact hI

/-- The link a run is about to record has an id. -/
def LinkNamed (s : Sys) (a : Act) : Prop :=
  ∀ k settlement lastAttemptId linkAttemptId receipt answer,
    JobMove s a k (.resumed (.linkPending settlement lastAttemptId linkAttemptId receipt) answer) →
      linkAttemptId ≠ []

theorem JobStep.linksWaiting {env : Env} {s : Sys} {a : Act} {w' : World} {k : Kick} {c : RunWhy}
    {next : Next RunPoint} (h : JobStep env s.clock s.world k c w' next) (hmove : JobMove s a k c)
    (hok : LinkNamed s a) (hI : LinksWaiting s.world.db.attempts) (hj : runLastTried s.world c.before) :
    LinksWaiting w'.db.attempts := by
  cases h with
  | attemptInitiated l settlement attemptNum lastAttemptId attemptId receipt hl hc hnum hadd hw hn =>
    refine hI.of_rows fun a ha => ?_
    rcases (hadd.mem_iff a).mp ha with ha | rfl
    · exact Or.inl ha
    · exact Or.inr nofun
  | orderFailed l settlement attemptNum attemptId receipt err row hl hc hid hm hw hn =>
    exact hI.moved hm (hI.not_link hm.mem hm.state)
  | orderSet settlement attemptNum attemptId receipt orderId hc hset hw hn => exact hI.ordered hset
  | captured copy attemptNum attemptId orderId result paymentId attempt settlement lrow hc
      hpaid hid hsid hattempt hm hrec hw hn =>
    exact hI.captured hattempt (hI.not_link hattempt.mem hattempt.state)
  | captureLost settlement attemptNum attemptId orderId result paymentId hc hpaid hlost hn =>
    rcases hlost with ⟨hw, -⟩ | ⟨attempt, -, hattempt, -, -⟩
    · rw [show w'.db.attempts = s.world.db.attempts from congrArg Books.attempts hw]
      exact hI
    · exact hI.captured hattempt (hI.not_link hattempt.mem hattempt.state)
  | retried l settlement attemptNum attemptId orderId result hl hc hm hw hn => exact hI.failed hm
  | linkIssued l settlement lastAttemptId linkAttemptId receipt linkId shortUrl hl hc hissued hw hn =>
    rw [hc] at hj hmove
    exact hI.issued hissued (hj (.linkPending settlement lastAttemptId linkAttemptId receipt) rfl) rfl
      (hok k settlement lastAttemptId linkAttemptId receipt _ hmove)
  | _ =>
    rename_i hw _
    rw [show w'.db.attempts = s.world.db.attempts from congrArg Books.attempts hw]
    exact hI

theorem JobStep.lastTried {env : Env} {now : Int} {w w' : World} {k : Kick} {c : RunWhy}
    {next : Next RunPoint} (h : JobStep env now w k c w' next) (hbase : runNotLink w c.before)
    (hj : runLastTried w c.before) : runLastTried w' next := by
  have hk : AttemptsKept w.db.attempts w'.db.attempts := h.persists.attempts
  intro p hp
  cases h with
  | entered row mandateRow ctx hc hkick hre hm hw hn =>
    rw [hn] at hp
    obtain rfl := Option.some.inj hp
    exact Or.inl rfl
  | resumed row hc hkick hmem hstate hidle hw hn =>
    rw [hn] at hp
    obtain rfl := Option.some.inj hp
    exact Or.inl rfl
  | linkCalled settlement attemptNum lastAttemptId linkAttemptId receipt hc hnum hw hn =>
    rw [hn] at hp
    obtain rfl := Option.some.inj hp
    rw [hc] at hj
    exact Hundi.LastTried.kept (hj (.attemptLoop settlement attemptNum lastAttemptId) rfl) hk
  | orderFailed l settlement attemptNum attemptId receipt err row hl hc hid hm hw hn =>
    rw [hn] at hp
    obtain rfl := Option.some.inj hp
    rw [hc] at hbase
    exact Or.inr (Hundi.NotLink.kept
      (hbase (.orderPending settlement attemptNum attemptId receipt) rfl) hk)
  | captureLost settlement attemptNum attemptId orderId result paymentId hc hpaid hlost hn =>
    rw [hn] at hp
    obtain rfl := Option.some.inj hp
    rw [hc] at hbase
    exact Hundi.NotLink.kept (hbase (.checkoutPending settlement attemptNum attemptId orderId) rfl) hk
  | retried l settlement attemptNum attemptId orderId result hl hc hm hw hn =>
    rw [hn] at hp
    obtain rfl := Option.some.inj hp
    rcases hc with hc | ⟨hc, -⟩
    · rw [hc] at hj
      exact Or.inr (Hundi.NotLink.kept
        (hj (.captureLost settlement attemptNum attemptId orderId result) rfl) hk)
    · rw [hc] at hbase
      exact Or.inr (Hundi.NotLink.kept
        (hbase (.checkoutPending settlement attemptNum attemptId orderId) rfl) hk)
  | again q hc hw hn =>
    rw [hn] at hp
    obtain rfl := Option.some.inj hp
    rw [hc] at hj
    exact (hj q rfl).kept hk
  | _ =>
    rename_i hn
    rw [hn] at hp
    first | (obtain rfl := Option.some.inj hp; trivial) | exact nomatch hp

def waitingExtension (env : Env) : Extension (linkOutline env) LinkNamed where
  allowed := fun _ _ _ => trivial
  inv := fun w => LinksWaiting w.db.attempts
  task := fun _ _ => True
  job := fun w _ => runLastTried w
  taskRel := fun _ _ => True
  jobRel := fun _ _ => True
  task_done := fun _ => trivial
  job_done := fun _ _ p hp => nomatch hp
  taskStep := fun _ _ _ _ _ _ ht hI _ _ _ h _ _ => ⟨TaskStep.linksWaiting h hI ht, trivial, trivial⟩
  jobStep := fun _ _ _ _ _ _ _ hbase hI hj hmove hok h _ _ =>
    ⟨JobStep.linksWaiting h hmove hok hI hj, trivial, JobStep.lastTried h hbase hj⟩
  task_stable := fun _ _ _ _ _ _ _ _ => trivial
  job_stable := fun _ _ _ p _ _ _ hj hk _ q hq => by
    obtain rfl := Option.some.inj hq
    exact (hj _ rfl).kept hk

/-! ## The ids of links -/

/-- `randomUUID()` does not answer the empty string, which the loop has for "no attempt yet". -/
def NamedAttempts (s : Sys) (a : Act) : Prop :=
  ∀ k settlement attemptNum lastAttemptId,
    JobMove s a k (.running (.attemptLoop settlement attemptNum lastAttemptId)) → a ≠ .runJob []

/-- The link a run is at has an id. -/
def NamedLinks (s : Sys) : Prop :=
  ∀ k ph settlement lastAttemptId linkAttemptId receipt, s.job = some (k, ph) →
    ph.next.task? = some (.linkPending settlement lastAttemptId linkAttemptId receipt) →
      linkAttemptId ≠ []

/-- A run comes to its link from the end of the loop. -/
theorem JobStep.linkPending {env : Env} {now : Int} {w w' : World} {k : Kick} {c : RunWhy}
    {next : Next RunPoint} (h : JobStep env now w k c w' next) {settlement : SettlementRow}
    {lastAttemptId linkAttemptId receipt : JsString}
    (hnext : next.task? = some (.linkPending settlement lastAttemptId linkAttemptId receipt)) :
    (∃ attemptNum, c = .running (.attemptLoop settlement attemptNum lastAttemptId)) ∨
      c = .running (.linkPending settlement lastAttemptId linkAttemptId receipt) := by
  cases h with
  | linkCalled settlement' attemptNum lastAttemptId' linkAttemptId' receipt' hc hnum hw hn =>
    rw [hn] at hnext
    obtain ⟨rfl, rfl, rfl, rfl⟩ := RunPoint.linkPending.inj (Option.some.inj hnext)
    exact Or.inl ⟨attemptNum, hc⟩
  | again p hc hw hn =>
    rw [hn] at hnext
    obtain rfl := Option.some.inj hnext
    exact Or.inr hc
  | _ =>
    rename_i hn
    rw [hn] at hnext
    exact nomatch hnext

/-- The id of the link is the one `randomUUID()` answered. -/
theorem runStep_linkPending {env : Env} {now : Int} {uuid : JsString} {w : World}
    {settlement : SettlementRow} {attemptNum : Nat} {lastAttemptId : JsString} {s : SettlementRow}
    {last linkAttemptId receipt : JsString}
    (h : (runStep env now uuid w (.attemptLoop settlement attemptNum lastAttemptId)).2.task?
      = some (.linkPending s last linkAttemptId receipt)) : linkAttemptId = uuid := by
  rw [runStep] at h
  split at h
  · simp only at h
    split at h
    · cases h
    · cases Option.some.inj h
  · exact (RunPoint.linkPending.inj (Option.some.inj h)).2.2.1.symm

theorem NamedLinks.step {env : Env} {s s' : Sys} {a : Act} (hN : NamedLinks s)
    (hok : NamedAttempts s a) (h : step (facilitator env) s a = some s') : NamedLinks s' := by
  cases stepped_of_step _ h with
  | clock now => exact hN
  | crash => exact fun _ _ _ _ _ _ hj => nomatch hj
  | request r seed hfree =>
    intro k ph settlement last link receipt hj
    rw [finish_job] at hj
    exact hN k ph settlement last link receipt hj
  | runTask seed t hcpu =>
    intro k ph settlement last link receipt hj
    rw [finish_job] at hj
    exact hN k ph settlement last link receipt hj
  | resumeTask i a t o hfree ht ho =>
    intro k ph settlement last link receipt hj
    rw [finish_job] at hj
    exact hN k ph settlement last link receipt hj
  | startJob seed k rest hfree hjob hq =>
    intro k' ph settlement last link receipt hj hnext
    obtain ⟨rfl, rfl⟩ := Prod.mk.inj (Option.some.inj hj)
    rw [Phase.next_ofNext] at hnext
    rcases ((facilitatorSpec env).startJob s.clock seed s.world k).linkPending hnext with ⟨_, hc⟩ | hc
    · exact nomatch hc
    · exact nomatch hc
  | runJob seed k p hjob =>
    intro k' ph settlement last link receipt hj hnext
    obtain ⟨rfl, rfl⟩ := Prod.mk.inj (Option.some.inj hj)
    rw [Phase.next_ofNext] at hnext
    rcases ((facilitatorSpec env).runJob s.clock seed s.world k p).linkPending hnext with ⟨n, hc⟩ | hc
    · obtain rfl := JobCause.running.inj hc
      rw [runStep_linkPending hnext]
      rintro rfl
      exact hok k settlement n last (.runJob [] k _ hjob) rfl
    · obtain rfl := JobCause.running.inj hc
      exact hN k _ settlement last link receipt hjob rfl
  | resumeJob a k p o hfree hjob ho =>
    intro k' ph settlement last link receipt hj hnext
    obtain ⟨rfl, rfl⟩ := Prod.mk.inj (Option.some.inj hj)
    rw [Phase.next_ofNext] at hnext
    rcases ((facilitatorSpec env).resumeJob s.clock s.world k p a o ho).linkPending hnext with ⟨_, hc⟩ | hc
    · exact nomatch hc
    · exact nomatch hc
  | endJob k hjob => exact fun _ _ _ _ _ _ hj => nomatch hj

/-- Payment links wait along every run whose ids are named. -/
theorem linksWaiting_run {env : Env} {s : Sys}
    (h : Run (facilitator env) NamedAttempts Sys.initial s) : LinksWaiting s.world.db.attempts := by
  have hnone : ∀ a : AttemptRow, a ∉ World.initial.db.attempts.rows := fun _ => List.not_mem_nil
  have hboth : (waitingExtension env).outline.Holds s ∧ NamedLinks s := by
    refine h.invariant (I := fun s => (waitingExtension env).outline.Holds s ∧ NamedLinks s)
      (fun hs hok hstep => ?_) ⟨Outline.holds_boot _ ?_, fun _ _ _ _ _ _ hj => nomatch hj⟩
    · refine ⟨Outline.holds_step _ hs.1 (fun k settlement last link receipt answer hmove => ?_) hstep,
        hs.2.step hok hstep⟩
      cases hmove with
      | resumeJob _ _ _ hfree hjob => exact hs.2 k _ settlement last link receipt hjob rfl
    · exact ⟨fun a ha => absurd ha (hnone a), fun a ha => absurd ha (hnone a)⟩
  exact hboth.1.inv.2

/-! ## The budget -/

/-- **A settlement never has more than three checkout attempts nor more than one payment link.**
    Whatever the kicks, resumes, sweeps, webhooks, provider failures and crashes of the run. -/
theorem attempt_budget {env : Env} {s : Sys}
    (h : Run (facilitator env) NamedAttempts Sys.initial s) (settlementId : JsString) :
    attemptsBy s.world.db.attempts .checkout_driver settlementId ≤ 3 ∧
    attemptsBy s.world.db.attempts .payment_link settlementId ≤ 1 := by
  refine ⟨Reachable.withinBudget h.any settlementId, ?_⟩
  have hwaiting := linksWaiting_run h
  by_cases hsome : ∃ a ∈ s.world.db.attempts.rows, a.settlementId = settlementId ∧
      a.method = .payment_link
  · -- two links would both be live
    obtain ⟨a, ha, hsid, hlink⟩ := hsome
    refine attemptsBy_le [a.id] fun b hb hsid' hlink' => List.mem_singleton.mpr ?_
    have hactive : a.state.active = true := by rw [(hwaiting a ha hlink).1]; rfl
    have hactive' : b.state.active = true := by rw [(hwaiting b hb hlink').1]; rfl
    rw [active_attempt_eq hb ha hactive' hactive (hsid'.trans hsid.symm)]
  · refine Nat.le_trans (attemptsBy_le [] fun b hb hsid' hlink' => ?_) (Nat.zero_le _)
    exact absurd ⟨b, hb, hsid', hlink'⟩ hsome

/-- A run at the head of the loop is given an id. -/
def namesAttempt (s : Sys) : Act → Bool
  | .runJob [] =>
    match s.job with
    | some (_, .running (.attemptLoop _ _ _)) => false
    | _ => true
  | _ => true

theorem namedAttempts_of_check (s : Sys) (a : Act) (h : namesAttempt s a = true) :
    NamedAttempts s a := by
  rintro k settlement attemptNum lastAttemptId hmove rfl
  cases hmove with
  | runJob _ _ _ hjob =>
    rw [namesAttempt, hjob] at h
    exact nomatch h

/-- Three orders fail and the settlement falls back to a link: three attempts and one link. -/
theorem attempt_budget_demo : ∃ s : Sys,
    s.world.db.attempts.rows.length = 4 ∧
    attemptsBy s.world.db.attempts .checkout_driver (js "s1") ≤ 3 ∧
    attemptsBy s.world.db.attempts .payment_link (js "s1") ≤ 1 := by
  have hcheck : (runIf (facilitator demoLinkEnv) namesAttempt Sys.initial demoLink).any
      (fun s => s.world.db.attempts.rows.length == 4) = true := by decide +kernel
  obtain ⟨s, hs, hlen⟩ := Option.any_eq_true _ _ |>.mp hcheck
  exact ⟨s, beq_iff_eq.mp hlen, attempt_budget (Run.of_runIf namedAttempts_of_check hs) (js "s1")⟩

end Hundi
