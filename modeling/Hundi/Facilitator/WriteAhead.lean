/-
  Provider objects and the attempts rows written ahead of them.

  The checkout rail commits the attempts row of an order before it asks for the order; the
  payment-link rail asks for the link first.  `calls_written_ahead` looks back from every call of a
  run without link calls to the state it was made in, `link_not_written_ahead` is a run that has
  created a link no row knows of, and crashes.
-/
import Hundi.Facilitator.Invariants

namespace Hundi

open Js EventLoop

/-- The call creates an order or a payment link at the provider. -/
def Event.creates : Event → Bool
  | .createOrder _ _ => true
  | .createPaymentLink _ _ => true
  | _ => false

/-- An attempts row for the settlement carries the receipt. -/
def RowFor (w : World) (settlementId receipt : JsString) : Prop :=
  ∃ a ∈ w.db.attempts.rows, a.settlementId = settlementId ∧ a.receipt = receipt

/-- The row of what the call creates is committed. -/
def WrittenAhead (w : World) : Event → Prop
  | .createOrder settlementId receipt => RowFor w settlementId receipt
  | .createPaymentLink settlementId referenceId => RowFor w settlementId referenceId
  | _ => True

/-- The step does not ask for a payment link: the run about to go on has attempts left. -/
def CallsNoLink (s : Sys) (a : Act) : Prop :=
  ∀ k settlement attemptNum lastAttemptId seed,
    s.job = some (k, .running (.attemptLoop settlement attemptNum lastAttemptId)) →
    a = .runJob seed → attemptNum ≤ maxAttempts

/-- A run that is about to ask for an order has written its attempts row. -/
def OrderWritten (w : World) (next : Next RunPoint) : Prop :=
  ∀ settlement attemptNum attemptId receipt,
    next = .cpu (.createOrder settlement attemptNum attemptId receipt) →
    RowFor w settlement.id receipt

theorem JobStep.orderWritten {env : Env} {now : Int} {w w' : World} {k : Kick} {c : RunWhy}
    {next : Next RunPoint} (h : JobStep env now w k c w' next) : OrderWritten w' next := by
  intro settlement attemptNum attemptId receipt hnext
  cases h with
  | attemptInitiated l st n lastAttemptId aid rc hl hc hnum hadd hw hn =>
    obtain ⟨rfl, -, -, rfl⟩ := RunPoint.createOrder.inj (Next.cpu.inj (hn.symm.trans hnext))
    exact ⟨_, (hadd.mem_iff _).mpr (Or.inr rfl), rfl, rfl⟩
  | captureLost st n aid orderId result paymentId hc hpaid hlost hn => exact nomatch hn.symm.trans hnext
  | _ =>
    rename_i hn
    exact nomatch hn.symm.trans hnext

/-- The outline of the orders written ahead; nothing has to be stable, as the call follows its
    commit in one segment. -/
def writeAheadOutline (env : Env) : Outline (facilitatorSpec env) anyStep where
  inv := fun _ => True
  task := fun _ _ => True
  job := fun w _ => OrderWritten w
  taskRel := fun _ _ => True
  jobRel := fun _ _ => True
  task_done := fun _ => trivial
  job_done := fun _ _ _ _ _ _ hnext => nomatch hnext
  taskStep := fun _ _ _ _ _ _ _ _ _ _ => ⟨trivial, trivial, trivial⟩
  jobStep := fun _ _ _ _ _ _ _ _ _ _ h => ⟨trivial, trivial, JobStep.orderWritten h⟩
  task_stable := fun _ _ _ _ _ _ => trivial
  job_stable := fun _ _ _ _ _ _ _ _ _ _ _ hnext => nomatch hnext

/-- No task creates anything at the provider. -/
theorem TaskStep.creates_none {env : Env} {now : Int} {w w' : World} {c : TaskWhy}
    {next : Next Task} (h : TaskStep env now w c w' next) :
    ∃ l, w'.history = l ++ w.history ∧ ∀ e ∈ l, e.creates = false := by
  obtain ⟨l, hl, hkind⟩ := h.emitted
  refine ⟨l, hl, fun e he => ?_⟩
  rcases hkind e he with h | h | ⟨row, intent, cart, rfl, -⟩
  · cases e <;> first | rfl | exact nomatch h
  · cases e <;> first | rfl | exact nomatch h
  · rfl

/-- A run asks for one thing at a time, and for an order after its row is written. -/
theorem JobStep.creates_one {env : Env} {s : Sys} {w' : World} {a : Act} {k : Kick} {c : RunWhy}
    {next : Next RunPoint} (h : JobStep env s.clock s.world k c w' next)
    (hwritten : OrderWritten s.world c.before) (hmove : JobMove s a k c) (hok : CallsNoLink s a) :
    w'.history = s.world.history ∨
    ∃ e, w'.history = e :: s.world.history ∧ WrittenAhead s.world e := by
  show w'.books.history = s.world.books.history ∨ _
  cases h with
  | linkCalled settlement attemptNum lastAttemptId linkAttemptId receipt hc hnum hw hn =>
    -- excluded: the run still has attempts
    exfalso
    cases hmove with
    | start seed k rest hfree hjob hq => exact nomatch hc
    | runJob seed k p hjob =>
      obtain rfl := JobCause.running.inj hc
      have hleft := hok k settlement attemptNum lastAttemptId seed hjob rfl
      omega
    | resumeJob ans k p hfree hjob => exact nomatch hc
  | orderCalled settlement attemptNum attemptId receipt hc hw hn =>
    rw [hc] at hwritten
    exact Or.inr ⟨_, congrArg Books.history hw, hwritten settlement attemptNum attemptId receipt rfl⟩
  | checkoutCalled settlement attemptNum attemptId providerOrderId hc hw hn =>
    exact Or.inr ⟨_, congrArg Books.history hw, trivial⟩
  | captureLost settlement attemptNum attemptId providerOrderId result paymentId hc hpaid hlost hn =>
    rcases hlost with ⟨hw, -⟩ | ⟨attempt, -, -, -, hw⟩
    · exact Or.inl (by rw [hw])
    · exact Or.inl (by rw [hw])
  | _ =>
    rename_i hw _
    exact Or.inl (by rw [hw])

/-- An element of a list that is not in its front is in the rest, at the same place. -/
theorem append_split {α : Type} {front rest l tail : List α} {e : α} (he : e ∉ front)
    (h : front ++ rest = l ++ e :: tail) : ∃ l', rest = l' ++ e :: tail := by
  rcases List.append_eq_append_iff.mp h with ⟨l', -, hrest⟩ | ⟨c, hfront, htail⟩
  · exact ⟨l', hrest⟩
  · cases c with
    | nil => exact ⟨[], htail.symm⟩
    | cons x c =>
      obtain ⟨rfl, -⟩ := List.cons.inj htail
      rw [hfront] at he
      exact absurd (List.mem_append_right _ List.mem_cons_self) he

/-- **Write-ahead of provider calls.**  In a run that asks for no payment link, every call that
    creates something at the provider was made in a state, earlier in the run, in which the attempts
    row of what it creates was committed. -/
theorem calls_written_ahead {env : Env} {t : Sys}
    (h : Run (facilitator env) CallsNoLink Sys.initial t) {l rest : List Event} {e : Event}
    (he : e.creates = true) (hhistory : t.world.history = l ++ e :: rest) :
    ∃ s, Run (facilitator env) CallsNoLink Sys.initial s ∧ Run (facilitator env) CallsNoLink s t ∧
      s.world.history = rest ∧ WrittenAhead s.world e := by
  induction h generalizing l with
  | refl =>
    have hempty : l ++ e :: rest = [] := hhistory.symm
    exact absurd hempty (by simp)
  | tail r hok hstep ih =>
    rename_i u t a
    -- a call of an earlier step: the same state of the run shows it
    have hearlier : ∀ {l' : List Event}, u.world.history = l' ++ e :: rest →
        ∃ s, Run (facilitator env) CallsNoLink Sys.initial s ∧
          Run (facilitator env) CallsNoLink s t ∧ s.world.history = rest ∧ WrittenAhead s.world e := by
      intro l' hl'
      obtain ⟨s, hs, hsu, hrest, hwritten⟩ := ih hl'
      exact ⟨s, hs, hsu.tail hok hstep, hrest, hwritten⟩
    cases (facilitatorSpec env).moved hstep with
    | stays hstay => exact hearlier (by rw [← hstay]; exact hhistory)
    | task c next hmove hmoved =>
      obtain ⟨front, hfront, hnone⟩ := TaskStep.creates_none hmoved
      have hnot : e ∉ front := fun hin => by
        rw [hnone e hin] at he
        exact nomatch he
      obtain ⟨l', hl'⟩ := append_split hnot (hfront.symm.trans hhistory)
      exact hearlier hl'
    | job k c next hmove hmoved =>
      have hholds := (writeAheadOutline env).holds trivial r.any
      rcases JobStep.creates_one hmoved (hholds.before_job hmove) hmove hok with
        hsame | ⟨e', hcons, hwritten⟩
      · exact hearlier (hsame.symm.trans hhistory)
      · rw [hcons] at hhistory
        cases l with
        | nil =>
          obtain ⟨rfl, hrest⟩ := List.cons.inj hhistory
          exact ⟨u, r, Run.single hok hstep, hrest, hwritten⟩
        | cons x l =>
          obtain ⟨-, hl'⟩ := List.cons.inj hhistory
          exact hearlier hl'

/-- No step runs a loop that is out of attempts. -/
def hasAttemptsLeft (s : Sys) (_ : Act) : Bool :=
  match s.job with
  | some (_, .running (.attemptLoop _ attemptNum _)) => attemptNum ≤ maxAttempts
  | _ => true

theorem callsNoLink_of_check (s : Sys) (a : Act) (h : hasAttemptsLeft s a = true) :
    CallsNoLink s a := by
  intro k settlement attemptNum lastAttemptId seed hjob _
  rw [hasAttemptsLeft, hjob] at h
  exact of_decide_eq_true h

/-- The demo settlement's first order. -/
theorem calls_written_ahead_demo : ∃ s : Sys, Reachable demoEnv s ∧
    RowFor s.world (js "s1") (attemptReceipt (js "s1") 1 (js "a1")) := by
  have hcheck : ((runIf (facilitator demoEnv) hasAttemptsLeft Sys.initial
      (demoSettling ++ [.runJob (js "a1"), .runJob []])).any fun (t : Sys) =>
        t.world.history.head? ==
          some (.createOrder (js "s1") (attemptReceipt (js "s1") 1 (js "a1")))) = true := by
    decide +kernel
  obtain ⟨t, ht, hp⟩ := Option.any_eq_true _ _ |>.mp hcheck
  rw [beq_iff_eq, List.head?_eq_some_iff] at hp
  obtain ⟨rest, hhistory⟩ := hp
  have hrun := Run.of_runIf callsNoLink_of_check ht
  obtain ⟨s, hs, -, -, hwritten⟩ := calls_written_ahead (l := []) hrun rfl hhistory
  exact ⟨s, hs.any, hwritten⟩

/-- Three orders fail, the executor asks for a payment link, and the process crashes before the
    answer: no state of the run has a row for the link. -/
theorem link_not_written_ahead : ¬ ∀ (env : Env) (t : Sys) (l rest : List Event) (e : Event),
    Reachable env t → e.creates = true → t.world.history = l ++ e :: rest →
    ∃ s, Reachable env s ∧ Run (facilitator env) anyStep s t ∧ s.world.history = rest ∧
      WrittenAhead s.world e := by
  intro hclaim
  obtain ⟨t, hreach, hp⟩ := reachable_of_run demoEnv
    (demoSettling ++
      [.runJob (js "a1"), .runJob [], .resumeJob (.order (.error (.error (js "down")))),
        .runJob (js "a2"), .runJob [], .resumeJob (.order (.error (.error (js "down")))),
        .runJob (js "a3"), .runJob [], .resumeJob (.order (.error (.error (js "down")))),
        .runJob (js "a4"), .crash])
    (fun t => t.world.history.head? ==
        some (.createPaymentLink (js "s1") (linkReceipt (js "s1") (js "a4"))) &&
      t.world.db.attempts.rows.all fun a => a.receipt != linkReceipt (js "s1") (js "a4"))
    (by decide +kernel)
  simp only [Bool.and_eq_true, beq_iff_eq, List.head?_eq_some_iff, List.all_eq_true,
    bne_iff_ne] at hp
  obtain ⟨⟨rest, hhistory⟩, hother⟩ := hp
  obtain ⟨s, -, hrun, -, a, ha, -, hreceipt⟩ := hclaim demoEnv t [] rest _ hreach rfl hhistory
  -- a row of an earlier state is still there
  obtain ⟨a', ha', hkept⟩ := (persists_run hrun).attempts a ha
  exact hother a' ha' (hkept.receipt.trans hreceipt)

end Hundi
