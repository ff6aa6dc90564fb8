/-
  Rounds of work on the event loop.

  A round is a task followed from its request to its end together with all that it kicks: it begins
  and ends in a state whose job chain is at rest, and anything else may happen in between.  `Tracks`
  follows the task from where it stands, `Round` is one round and `Rounds` so many of them, with
  runs in between.

  `Rounds.descent` is the rule for progress: when a bound is kept by every step and every round
  brings it down by one, a state under the bound `n` has nothing left after `n` rounds.
-/
import Hundi.Lib.Follow
import Hundi.Lib.JobChain

namespace EventLoop

section

variable {ω τ π κ ι ρ α β : Type}

variable [DecidableEq ι] (P : Program ω τ π κ ι ρ α β)

variable {P}

/-- Only the clock's own action moves the clock. -/
theorem clock_step {s s' : State ω τ π κ ι} {a : Action ρ α β} (h : EventLoop.step P s a = some s')
    (hclock : ∀ now, a = .clock now → s.clock ≤ now) : s.clock ≤ s'.clock := by
  have hfinish : ∀ {s₀ : State ω τ π κ ι} (o : Outcome ω τ κ), s₀.clock = s.clock →
      s.clock ≤ (s₀.finish P o).clock := fun o heq => Int.le_of_eq (heq.symm.trans (finish_clock P _ o).symm)
  cases stepped_of_step P h with
  | clock now => exact hclock now rfl
  | crash => exact Int.le_refl s.clock
  | request r seed hfree => exact hfinish _ rfl
  | runTask seed t hcpu => exact hfinish _ rfl
  | resumeTask i a t o hfree ht ho => exact hfinish _ rfl
  | startJob seed k rest hfree hjob hq => exact Int.le_refl s.clock
  | runJob seed k p hjob => exact Int.le_refl s.clock
  | resumeJob a k p o hfree hjob ho => exact Int.le_refl s.clock
  | endJob k hjob => exact Int.le_refl s.clock

/-! ## Following a task -/

variable (P) in
/-- A run from `s`, where a task stands at `n`, with where that task stands in the end.  While the
    task has the segment nothing but the clock moves; while it is parked anything may, and it stays
    parked. -/
inductive Tracks (ok : State ω τ π κ ι → Action ρ α β → Prop) (s : State ω τ π κ ι) (n : Next τ) :
    State ω τ π κ ι → Next τ → Prop where
  | refl : Tracks ok s n s n
  | own {t t' : State ω τ π κ ι} {a : Action ρ α β} {m m' : Next τ} (f : Tracks ok s n t m)
      (hm : m ≠ .done) (hok : ok t a) (h : TaskRan P t a m m' t') : Tracks ok s n t' m'
  | clock {t : State ω τ π κ ι} {u : τ} {now : Int} (f : Tracks ok s n t (.cpu u))
      (hok : ok t (.clock now)) : Tracks ok s n { t with clock := now } (.cpu u)
  | other {t t' : State ω τ π κ ι} {a : Action ρ α β} {u : τ} (f : Tracks ok s n t (.park u))
      (hok : ok t a) (h : step P t a = some t') (hstill : u ∈ t'.parked) :
      Tracks ok s n t' (.park u)

variable {ok ok' : State ω τ π κ ι → Action ρ α β → Prop}

theorem Tracks.run {s t : State ω τ π κ ι} {n m : Next τ} (f : Tracks P ok s n t m) :
    Run P ok s t := by
  induction f with
  | refl => exact .refl
  | own _ _ hok h ih => exact ih.tail hok h.step
  | clock _ hok ih => exact ih.tail hok rfl
  | other _ hok h _ ih => exact ih.tail hok h

/-- **Invariance along a followed task**: `A` is kept by the task's own steps and by the others'. -/
theorem Tracks.invariant {I : State ω τ π κ ι → Prop} {A : State ω τ π κ ι → Next τ → Prop}
    (hstep : ∀ {s a s'}, I s → ok s a → EventLoop.step P s a = some s' → I s')
    (hown : ∀ {s a m m' s'}, I s → A s m → m ≠ .done → ok s a → TaskRan P s a m m' s' → A s' m')
    (hother : ∀ {s a m s'}, I s → A s m → (∀ u, m = .cpu u → ∃ now, a = .clock now) → ok s a →
      EventLoop.step P s a = some s' → A s' m)
    {s t : State ω τ π κ ι} {n m : Next τ} (hs : I s) (hA : A s n) (f : Tracks P ok s n t m) :
    I t ∧ A t m := by
  induction f with
  | refl => exact ⟨hs, hA⟩
  | own _ hm hok h ih => exact ⟨hstep ih.1 hok h.step, hown ih.1 ih.2 hm hok h⟩
  | @clock t u now _ hok ih =>
    exact ⟨hstep ih.1 hok rfl, hother ih.1 ih.2 (fun _ _ => ⟨now, rfl⟩) hok rfl⟩
  | other _ hok h _ ih =>
    exact ⟨hstep ih.1 hok h, hother ih.1 ih.2 (fun _ hcpu => by cases hcpu) hok h⟩

/-! ## Rounds -/

variable (P) in
/-- One round from `s` to `v`: the request begins a task, the task is followed to its end, and the
    process goes on until the job chain is at rest. -/
inductive Round (ok : State ω τ π κ ι → Action ρ α β → Prop) (r : ρ) (s v : State ω τ π κ ι) :
    Prop where
  | mk {seed : β} {n : Next τ} {t u : State ω τ π κ ι} (hrest : s.AtRest)
      (hok : ok s (.request r seed)) (h : TaskRan P s (.request r seed) .done n t)
      (f : Tracks P ok t n u .done) (run : Run P ok u v) (hend : v.AtRest)

variable (P) in
/-- So many rounds from `s`, each begun in a state that meets `starts`, with runs before, between
    and after them. -/
inductive Rounds (ok okRound : State ω τ π κ ι → Action ρ α β → Prop) (r : ρ)
    (starts : State ω τ π κ ι → Prop) (s : State ω τ π κ ι) : Nat → State ω τ π κ ι → Prop where
  | run {t : State ω τ π κ ι} (h : Run P ok s t) : Rounds ok okRound r starts s 0 t
  | round {n : Nat} {t u v : State ω τ π κ ι} (h : Rounds ok okRound r starts s n t)
      (hs : starts t) (hround : Round P okRound r t u) (run : Run P ok u v) :
      Rounds ok okRound r starts s (n + 1) v

variable {r : ρ} {starts : State ω τ π κ ι → Prop}

theorem Round.run_all {s v : State ω τ π κ ι} (h : Round P ok r s v) : Run P ok s v := by
  obtain ⟨-, hok, h, f, run, -⟩ := h
  exact ((Run.single hok h.step).trans f.run).trans run

/-- **Descent.**  What every step keeps holds after any rounds; and when every round brings a bound
    down by one that no step raises, so many rounds bring it down by as much. -/
theorem Rounds.descent {I : State ω τ π κ ι → Prop} {B : Nat → State ω τ π κ ι → Prop}
    (hstep : ∀ {s a s'}, I s → ok s a → EventLoop.step P s a = some s' → I s')
    (hkeep : ∀ {n s a s'}, I s → B n s → ok s a → EventLoop.step P s a = some s' → B n s')
    (hround : ∀ {n s s'}, I s → B (n + 1) s → starts s → Round P ok' r s s' →
      I s' ∧ B n s')
    {n m : Nat} {s t : State ω τ π κ ι} (hs : I s) (hb : B (n + m) s)
    (h : Rounds P ok ok' r starts s n t) : I t ∧ B m t := by
  have hrun : ∀ {k u v}, I u ∧ B k u → Run P ok u v → I v ∧ B k v := fun hu hr =>
    hr.invariant (I := fun s => I s ∧ B _ s)
      (fun hI hok hst => ⟨hstep hI.1 hok hst, hkeep hI.1 hI.2 hok hst⟩) hu
  induction h generalizing m with
  | run hr =>
    rw [Nat.zero_add] at hb
    exact hrun ⟨hs, hb⟩ hr
  | @round n _ _ _ _ hst hrd hr ih =>
    have hbefore := ih (m := m + 1) (by rw [← Nat.add_assoc, Nat.add_right_comm]; exact hb)
    exact hrun (hround hbefore.1 hbefore.2 hst hrd) hr

/-! ## A task that is alone -/

/-- The state with a task at `n` and no other. -/
def State.standing (s : State ω τ π κ ι) (n : Next τ) : State ω τ π κ ι :=
  { s with
    cpu := match n with | .cpu t => some t | _ => none
    parked := match n with | .park t => [t] | _ => [] }

omit [DecidableEq ι] in
theorem standing_done {s : State ω τ π κ ι} (hcpu : s.cpu = none) (hparked : s.parked = []) :
    s.standing .done = s := by
  obtain ⟨clock, world, inFlight, queue, job, cpu, parked⟩ := s
  obtain rfl : cpu = none := hcpu
  obtain rfl : parked = [] := hparked
  rfl

theorem finish_standing {s : State ω τ π κ ι} {w : ω} {n : Next τ} :
    (s.standing .done).finish P ⟨w, n, []⟩ = ({ s with world := w } : State ω τ π κ ι).standing n := by
  cases n <;> rfl

/-- A micro-step of the only task, in its segment. -/
theorem Tracks.runTask_standing {s₀ s : State ω τ π κ ι} {n : Next τ} {t : τ} {w : ω} {m : Next τ}
    (f : Tracks P ok s₀ n (s.standing (.cpu t)) (.cpu t)) (seed : β)
    (hok : ok (s.standing (.cpu t)) (.runTask seed)) (ho : P.runTask s.clock seed s.world t = ⟨w, m, []⟩) :
    Tracks P ok s₀ n (({ s with world := w } : State ω τ π κ ι).standing m) m := by
  have hran := TaskRan.runTask (P := P) (s := s.standing (.cpu t)) seed t rfl
  change TaskRan P _ _ _ (P.runTask s.clock seed s.world t).next
    ((s.standing .done).finish P (P.runTask s.clock seed s.world t)) at hran
  rw [ho, finish_standing] at hran
  exact f.own (fun h => by cases h) hok hran

/-- A micro-step of the only task, its answer having arrived. -/
theorem Tracks.resumeTask_standing {s₀ s : State ω τ π κ ι} {n : Next τ} {t : τ} {w : ω} {m : Next τ}
    (f : Tracks P ok s₀ n (s.standing (.park t)) (.park t)) (hjob : s.job = none) {a : α}
    (hok : ok (s.standing (.park t)) (.resumeTask 0 a))
    (ho : P.resumeTask s.clock s.world t a = some ⟨w, m, []⟩) :
    Tracks P ok s₀ n (({ s with world := w } : State ω τ π κ ι).standing m) m := by
  have hfree : (s.standing (.park t)).free = true := by
    rw [State.free, show (s.standing (.park t)).job = none from hjob]
    rfl
  have hran := TaskRan.resumeTask (P := P) 0 a t ⟨w, m, []⟩ hfree rfl ho
  change TaskRan P _ _ _ m ((s.standing .done).finish P ⟨w, m, []⟩) at hran
  rw [finish_standing] at hran
  exact f.own (fun h => by cases h) hok hran

/-- The steps of the only task, all of them allowed. -/
theorem Tracks.of_runIf {check : State ω τ π κ ι → Action ρ α β → Bool}
    (hcheck : ∀ s a, check s a = true → a.ofOnly = true ∧ ok s a) {s : State ω τ π κ ι}
    {n : Next τ} : ∀ {as : List (Action ρ α β)} {t t' : State ω τ π κ ι},
    Tracks P ok s n t t.only → t.Lone → runIf P check t as = some t' →
      Tracks P ok s n t' t'.only ∧ t'.Lone
  | [], t, t', f, hl, h => by
    obtain rfl := Option.some.inj h
    exact ⟨f, hl⟩
  | a :: as, t, t', f, hl, h => by
    rw [runIf] at h
    split at h
    · rename_i hok
      obtain ⟨u, hu, hrest⟩ := Option.bind_eq_some_iff.mp h
      obtain ⟨ha, hok⟩ := hcheck t a hok
      obtain ⟨hran, hlone, hne⟩ := ran_only hl ha hu
      exact Tracks.of_runIf hcheck (f.own hne hok hran) hlone hrest
    · cases h

/-- A round in which nothing but its task moves. -/
theorem Round.of_runIf {check : State ω τ π κ ι → Action ρ α β → Bool}
    (hcheck : ∀ s a, check s a = true → a.ofOnly = true ∧ ok s a) {s t u : State ω τ π κ ι} {r : ρ}
    {seed : β} {as : List (Action ρ α β)} (hrest : s.AtRest) (hcpu : s.cpu = none) (hparked : s.parked = [])
    (hok : ok s (.request r seed)) (h : step P s (.request r seed) = some t)
    (hrun : runIf P check t as = some u) (hdone : u.only = .done) (hend : u.AtRest) : Round P ok r s u := by
  cases stepped_of_step P h with
  | request r seed hfree =>
    obtain ⟨honly, hlone⟩ := only_finish (P := P) hcpu hparked (P.request s.clock seed s.world r)
    obtain ⟨f, -⟩ := Tracks.of_runIf hcheck .refl hlone hrun
    rw [honly, hdone] at f
    exact .mk hrest hok (.request r seed hfree) f .refl hend

end

end EventLoop
