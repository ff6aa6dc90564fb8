/-
  No new charge after capture.

  Once a settlement is captured, no attempts row is added for it and no order, checkout or payment
  link is asked for, in every run in which the checkout driver's answers find their settlements not
  captured.  `charge_after_capture` is a run in which one does not: the loop takes the failed drive
  for a failed attempt and starts the next one.
-/
import Hundi.Facilitator.Interference
import Hundi.Facilitator.Mediation

namespace Hundi

open Js EventLoop

/-- From one state to the next nothing new was started for a settlement: no attempts row and no
    call that charges. -/
structure NoNewCharge (w w' : World) (settlementId : JsString) : Prop where
  attempts : ∀ a' ∈ w'.db.attempts.rows, a'.settlementId = settlementId →
    ∃ a ∈ w.db.attempts.rows, a.id = a'.id ∧ a.settlementId = settlementId
  calls : w'.history.countP (·.charges settlementId) = w.history.countP (·.charges settlementId)

theorem NoNewCharge.trans {u v w : World} {id : JsString} (h : NoNewCharge u v id)
    (h' : NoNewCharge v w id) : NoNewCharge u w id where
  attempts := fun a'' ha'' hsid'' => by
    obtain ⟨a', ha', hid', hsid'⟩ := h'.attempts a'' ha'' hsid''
    obtain ⟨a, ha, hid, hsid⟩ := h.attempts a' ha' hsid'
    exact ⟨a, ha, hid.trans hid', hsid⟩
  calls := h'.calls.trans h.calls

/-- The settlement is captured. -/
def IsCaptured (w : World) (settlementId : JsString) : Prop :=
  ∃ r ∈ w.db.settlements.rows, r.id = settlementId ∧ r.state = .captured

theorem IsCaptured.not_settling {w : World} {id : JsString} (h : IsCaptured w id) :
    ¬ IsSettling w.books.settlements id := by
  rintro ⟨r, hr, hid, hstate⟩
  obtain ⟨r', hr', hid', hstate'⟩ := h
  rw [settlement_eq hr hr' (hid.trans hid'.symm), hstate'] at hstate
  exact nomatch hstate

theorem IsCaptured.kept {w w' : World} {id : JsString} (h : IsCaptured w id)
    (hp : Persists w.books w'.books) : IsCaptured w' id :=
  captured_kept hp.settlements h

/-- A task charges for nothing. -/
theorem TaskStep.noNewCharge {env : Env} {now : Int} {w w' : World} {c : TaskWhy}
    {next : Next Task} (h : TaskStep env now w c w' next) (hf : TaskFrame w.books w'.books)
    (id : JsString) : NoNewCharge w w' id where
  attempts := fun a' ha' hsid' => by
    obtain ⟨a, ha, hid, hsid, -⟩ := hf.attempts a' ha'
    exact ⟨a, ha, hid, hsid.trans hsid'⟩
  calls := by
    obtain ⟨l, hl, hkind⟩ := h.emitted
    have hnone : l.countP (·.charges id) = 0 := List.countP_eq_zero.mpr fun e he hcharge => by
      have hk := Event.kind_of_charges hcharge
      rcases hkind e he with h | h | ⟨row, intent, cart, rfl, -⟩
      · rw [h] at hk; exact nomatch hk
      · rw [h] at hk; exact nomatch hk
      · exact nomatch hcharge
    rw [hl, List.countP_append, hnone, Nat.zero_add]

/-- A run charges for a settlement that is `settling` only. -/
theorem JobStep.calls_settling {env : Env} {now : Int} {w w' : World} {k : Kick} {c : RunWhy}
    {next : Next RunPoint} (h : JobStep env now w k c w' next) (hopen : RunOpen w c.before)
    {id : JsString} (hid : ¬ IsSettling w.books.settlements id) :
    w'.history.countP (·.charges id) = w.history.countP (·.charges id) := by
  show w'.books.history.countP (·.charges id) = w.books.history.countP (·.charges id)
  have hcons : ∀ e : Event, e.charges id = false →
      (e :: w.books.history).countP (·.charges id) = w.books.history.countP (·.charges id) := by
    intro e he
    rw [List.countP_cons, he]
    rfl
  cases h with
  | linkCalled settlement attemptNum lastAttemptId linkAttemptId receipt hc hnum hw hn =>
    rw [hc] at hopen
    have hsettling := (hopen.point _ rfl).1
    rw [hw]
    exact hcons _ (beq_eq_false_iff_ne.mpr fun hsame => hid (hsame ▸ hsettling))
  | orderCalled settlement attemptNum attemptId receipt hc hw hn =>
    rw [hc] at hopen
    have hsettling := (hopen.point _ rfl).1
    rw [hw]
    exact hcons _ (beq_eq_false_iff_ne.mpr fun hsame => hid (hsame ▸ hsettling))
  | checkoutCalled settlement attemptNum attemptId providerOrderId hc hw hn =>
    rw [hc] at hopen
    have hsettling := hopen.driving _ _ _ _ rfl
    rw [hw]
    exact hcons _ (beq_eq_false_iff_ne.mpr fun hsame => hid (hsame ▸ hsettling))
  | captureLost settlement attemptNum attemptId providerOrderId result paymentId hc hpaid hlost hn =>
    rcases hlost with ⟨hw, -⟩ | ⟨attempt, -, -, -, hw⟩
    · rw [hw]
    · rw [hw]
  | _ =>
    rename_i hw _
    rw [hw]

/-- **One step after the capture.** -/
theorem noNewCharge_step {env : Env} {s s' : Sys} {a : Act} (hs : (openOutline env).Holds s)
    (hok : AnsweredOpen s a) (h : sysStep env s a = some s') {id : JsString}
    (hcaptured : IsCaptured s.world id) : NoNewCharge s.world s'.world id := by
  have hs' := (openOutline env).holds_step hs hok h
  cases (facilitatorSpec env).moved h with
  | stays hstay =>
    rw [hstay]
    exact ⟨fun a' ha' hsid => ⟨a', ha', rfl, hsid⟩, rfl⟩
  | task c next hmove hstep =>
    obtain ⟨hsound, hordered⟩ := hs.before_task hmove
    exact TaskStep.noNewCharge hstep (TaskStep.framed hstep hsound hordered).1 id
  | job k c next hmove hstep =>
    obtain ⟨-, hopen⟩ := hs.before_job hmove
    refine ⟨fun a' ha' hsid => ?_, JobStep.calls_settling hstep hopen hcaptured.not_settling⟩
    rcases JobStep.framed hstep a' ha' with ⟨a, ha, hid, hsid', -⟩ | ⟨-, hactive⟩
    · exact ⟨a, ha, hid, hsid'.trans hsid⟩
    · -- an added attempt is active, so its settlement is `settling`
      have hsettling := hs'.inv.2 a' ha' hactive
      rw [hsid] at hsettling
      exact absurd hsettling (hcaptured.kept (JobStep.persists hstep)).not_settling

/-- Every answer of the checkout driver finds its settlement not captured. -/
def AnsweredUncaptured (s : Sys) (a : Act) : Prop :=
  ∀ k settlement attemptNum attemptId orderId result,
    s.job = some (k, .waiting (.checkoutPending settlement attemptNum attemptId orderId)) →
    a = .resumeJob (.checkout (.ok result)) → ¬ IsCaptured s.world settlement.id

theorem AnsweredUncaptured.open {s : Sys} {a : Act} (h : AnsweredUncaptured s a) :
    AnsweredOpen s a := by
  intro k settlement attemptNum attemptId orderId result hjob ha
  refine Or.inr fun r hr hid hstate => ?_
  exact h k settlement attemptNum attemptId orderId result hjob ha ⟨r, hr, hid, hstate⟩

/-- **No new charge after capture.**  In a run in which every answer of the checkout driver finds
    its settlement not captured, nothing is started for a settlement once it is captured. -/
theorem no_charge_after_capture {env : Env} {s t : Sys} {id : JsString}
    (h : Run (facilitator env) AnsweredUncaptured Sys.initial s) (hcaptured : IsCaptured s.world id)
    (r : Run (facilitator env) AnsweredUncaptured s t) : NoNewCharge s.world t.world id := by
  have hopen : ∀ s a, AnsweredUncaptured s a → AnsweredOpen s a := fun _ _ hok => hok.open
  have hs := openOutline_holds (h.mono hopen)
  clear h
  -- the induction carries the outline and the capture along the run
  suffices hall : (openOutline env).Holds t ∧ IsCaptured t.world id ∧
      NoNewCharge s.world t.world id from hall.2.2
  induction r with
  | refl => exact ⟨hs, hcaptured, ⟨fun a' ha' hsid => ⟨a', ha', rfl, hsid⟩, rfl⟩⟩
  | tail _ hok hstep ih =>
    obtain ⟨hholds, hcap, hnone⟩ := ih
    have hone := noNewCharge_step hholds hok.open hstep hcap
    have hkept := persists_step hstep
    exact ⟨(openOutline env).holds_step hholds hok.open hstep, hcap.kept hkept, hnone.trans hone⟩

/-- No driver answers, or nothing is captured. -/
def noCaptureAnswered (s : Sys) : Act → Bool
  | .resumeJob (.checkout _) => s.world.db.settlements.rows.all fun r => r.state != .captured
  | _ => true

theorem answeredUncaptured_of_check (s : Sys) (a : Act) (h : noCaptureAnswered s a = true) :
    AnsweredUncaptured s a := by
  rintro k settlement attemptNum attemptId orderId result - rfl ⟨r, hr, -, hstate⟩
  have hne := List.all_eq_true.mp h r hr
  rw [hstate] at hne
  exact nomatch hne

/-- The driver captures the demo settlement, and nothing follows. -/
theorem no_charge_after_capture_demo : ∃ s t : Sys, Reachable demoEnv t ∧
    IsCaptured s.world (js "s1") ∧ NoNewCharge s.world t.world (js "s1") := by
  have hcheck : ((runIf (facilitator demoEnv) noCaptureAnswered Sys.initial
      (demoCheckout ++
        [.resumeJob (.checkout (.ok ⟨true, some (js "p1"), some (js "captured"), none⟩))])).any
      fun (s : Sys) => (s.world.db.settlements.rows.any fun r =>
          r.id == js "s1" && r.state == .captured) &&
        (runIf (facilitator demoEnv) noCaptureAnswered s
          [.endJob, .request .sweepTick []]).isSome) = true := by decide +kernel
  obtain ⟨s, hs, hp⟩ := Option.any_eq_true _ _ |>.mp hcheck
  rw [Bool.and_eq_true, List.any_eq_true] at hp
  obtain ⟨⟨r, hr, hrow⟩, hrest⟩ := hp
  rw [Bool.and_eq_true, beq_iff_eq, beq_iff_eq] at hrow
  obtain ⟨t, ht⟩ := Option.isSome_iff_exists.mp hrest
  have hfirst := Run.of_runIf answeredUncaptured_of_check hs
  have hthen := Run.of_runIf answeredUncaptured_of_check ht
  have hcaptured : IsCaptured s.world (js "s1") := ⟨r, hr, hrow.1, hrow.2⟩
  exact ⟨s, t, (hfirst.trans hthen).any, hcaptured,
    no_charge_after_capture hfirst hcaptured hthen⟩

/-- A webhook captures the settlement while the driver is at work, the driver answers that it has
    failed, and the loop goes on to a second attempt. -/
theorem charge_after_capture : ¬ ∀ (env : Env) (s t : Sys) (id : JsString), Reachable env s →
    IsCaptured s.world id → Run (facilitator env) anyStep s t → NoNewCharge s.world t.world id := by
  intro hclaim
  obtain ⟨s, hreach, hp⟩ := reachable_of_run demoEnv
    (demoCheckout ++
      [.request (.postWebhook (js "o1") (some (js "o1")) (some (js "e1"))) [], .runTask [],
        .resumeTask 0 (.payments (.ok [⟨js "p1", js "captured"⟩]))])
    (fun s => (s.world.db.settlements.rows.any fun r => r.id == js "s1" && r.state == .captured) &&
      (s.world.db.attempts.rows.all fun a => a.id != js "a2") &&
      (run (facilitator demoEnv) s
        [.resumeJob (.checkout (.ok ⟨false, none, none, some (js "timeout")⟩)),
          .runJob (js "a2")]).any fun t =>
        t.world.db.attempts.rows.any fun a => a.id == js "a2" && a.settlementId == js "s1")
    (by decide +kernel)
  simp only [Bool.and_eq_true, List.any_eq_true, List.all_eq_true, Option.any_eq_true,
    beq_iff_eq, bne_iff_ne] at hp
  obtain ⟨⟨⟨r, hr, hid, hstate⟩, hunused⟩, t, ht, a', ha', haid, hasid⟩ := hp
  have hnone := hclaim demoEnv s t (js "s1") hreach ⟨r, hr, hid, hstate⟩ (Run.of_run ht)
  obtain ⟨a, ha, hsame, -⟩ := hnone.attempts a' ha' hasid
  exact hunused a ha (hsame.trans haid)

end Hundi
