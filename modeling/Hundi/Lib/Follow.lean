/-
  Following one task of the event loop through a run.

  A state does not name its tasks, so a statement about what one task does from its request to its
  end needs the run together with where that task stands.  `TaskRan` is a step of a task with where
  the task stood and where it stands then; `Follows` is a run in which a task that a request began
  is followed, other steps coming in between.  `Follows.invariant` is the induction over it.

  `Follows.of_run` gives runs in which nothing else moves: the process has no other task.
-/
import Hundi.Lib.ProofOutline

namespace EventLoop

section

variable {ω τ π κ ι ρ α β : Type} [DecidableEq ι] (P : Program ω τ π κ ι ρ α β)

/-- A step of a task, with where the task stood and where it stands then. -/
inductive TaskRan (s : State ω τ π κ ι) : Action ρ α β → Next τ → Next τ → State ω τ π κ ι → Prop where
  | request (r : ρ) (seed : β) (hfree : s.free = true) :
      TaskRan s (.request r seed) .done (P.request s.clock seed s.world r).next
        (s.finish P (P.request s.clock seed s.world r))
  | runTask (seed : β) (t : τ) (hcpu : s.cpu = some t) :
      TaskRan s (.runTask seed) (.cpu t) (P.runTask s.clock seed s.world t).next
        (State.finish P { s with cpu := none } (P.runTask s.clock seed s.world t))
  | resumeTask (i : Nat) (a : α) (t : τ) (o : Outcome ω τ κ) (hfree : s.free = true)
      (ht : s.parked[i]? = some t) (ho : P.resumeTask s.clock s.world t a = some o) :
      TaskRan s (.resumeTask i a) (.park t) o.next
        (State.finish P { s with parked := s.parked.eraseIdx i } o)

/-- A run from `s` in which a task is followed, with where it stands in the end: it was begun, in
    the run, by a request that meets `begins`. -/
inductive Follows (ok : State ω τ π κ ι → Action ρ α β → Prop) (begins : ρ → Prop)
    (s : State ω τ π κ ι) : State ω τ π κ ι → Next τ → Prop where
  | start {t t' : State ω τ π κ ι} {r : ρ} {seed : β} {next : Next τ} (run : Run P ok s t)
      (hok : ok t (.request r seed)) (hr : begins r)
      (h : TaskRan P t (.request r seed) .done next t') : Follows ok begins s t' next
  | own {t t' : State ω τ π κ ι} {a : Action ρ α β} {n n' : Next τ} (f : Follows ok begins s t n)
      (hn : n ≠ .done) (hok : ok t a) (h : TaskRan P t a n n' t') : Follows ok begins s t' n'
  | other {t t' : State ω τ π κ ι} {a : Action ρ α β} {n : Next τ} (f : Follows ok begins s t n)
      (hok : ok t a) (h : step P t a = some t') (hstill : ∀ u, n.task? = some u → u ∈ t'.tasks) :
      Follows ok begins s t' n

variable {P} {ok : State ω τ π κ ι → Action ρ α β → Prop} {begins : ρ → Prop}

theorem TaskRan.step {s s' : State ω τ π κ ι} {a : Action ρ α β} {n n' : Next τ}
    (h : TaskRan P s a n n' s') : EventLoop.step P s a = some s' := by
  cases h with
  | request r seed hfree => rw [EventLoop.step, if_pos hfree]
  | runTask seed t hcpu => rw [EventLoop.step, hcpu]
  | resumeTask i a t o hfree ht ho => simp only [EventLoop.step, if_pos hfree, ht, ho, Option.map_some]

/-- A step of a task is a move of the specification. -/
theorem TaskRan.spec (S : Spec P) {s s' : State ω τ π κ ι} {a : Action ρ α β} {n n' : Next τ}
    (h : TaskRan P s a n n' s') :
    ∃ c, c.before = n ∧ TaskMove s a c ∧ S.task s.clock s.world c s'.world n' := by
  cases h with
  | request r seed hfree =>
    exact ⟨.request r, rfl, .request r seed hfree, by rw [finish_world]; exact S.request ..⟩
  | runTask seed t hcpu =>
    exact ⟨.running t, rfl, .runTask seed t hcpu, by rw [finish_world]; exact S.runTask ..⟩
  | resumeTask i b t o hfree ht ho =>
    exact ⟨.resumed t b, rfl, .resumeTask i b t hfree ht,
      by rw [finish_world]; exact S.resumeTask _ _ _ _ _ ho⟩

theorem Follows.run {s t : State ω τ π κ ι} {n : Next τ} (f : Follows P ok begins s t n) :
    Run P ok s t := by
  induction f with
  | start run hok hr h => exact run.tail hok h.step
  | own f hn hok h ih => exact ih.tail hok h.step
  | other f hok h hstill ih => exact ih.tail hok h

/-- **Invariance along a followed task.**  `I` is kept by every step; `A` holds where the request
    leaves the task, and is kept by the task's own steps and by the others'. -/
theorem Follows.invariant {I : State ω τ π κ ι → Prop} {A : State ω τ π κ ι → Next τ → Prop}
    (hstep : ∀ {s a s'}, I s → ok s a → EventLoop.step P s a = some s' → I s')
    (hstart : ∀ {s r seed n s'}, I s → ok s (.request r seed) → begins r →
      TaskRan P s (.request r seed) .done n s' → A s' n)
    (hown : ∀ {s a n n' s'}, I s → A s n → n ≠ .done → ok s a → TaskRan P s a n n' s' → A s' n')
    (hother : ∀ {s a n s'}, I s → A s n → ok s a → EventLoop.step P s a = some s' → A s' n)
    {s t : State ω τ π κ ι} {n : Next τ} (hs : I s) (f : Follows P ok begins s t n) :
    I t ∧ A t n := by
  induction f with
  | start run hok hr h =>
    have hI := run.invariant (fun hI hok hs => hstep hI hok hs) hs
    exact ⟨hstep hI hok h.step, hstart hI hok hr h⟩
  | own f hn hok h ih => exact ⟨hstep ih.1 hok h.step, hown ih.1 ih.2 hn hok h⟩
  | other f hok h hstill ih => exact ⟨hstep ih.1 hok h, hother ih.1 ih.2 hok h⟩

/-! ## A task that is alone -/

omit [DecidableEq ι] in
/-- Where the only task stands. -/
def State.only (s : State ω τ π κ ι) : Next τ :=
  match s.cpu, s.parked with
  | some t, _ => .cpu t
  | none, t :: _ => .park t
  | none, [] => .done

/-- There is no task but one. -/
def State.Lone (s : State ω τ π κ ι) : Prop := s.tasks.length ≤ 1

/-- An action of the only task. -/
def Action.ofOnly : Action ρ α β → Bool
  | .runTask _ => true
  | .resumeTask i _ => i == 0
  | _ => false

theorem only_finish {s : State ω τ π κ ι} (hcpu : s.cpu = none) (hparked : s.parked = [])
    (o : Outcome ω τ κ) : (s.finish P o).only = o.next ∧ (s.finish P o).Lone := by
  rw [State.only, State.Lone, State.tasks, finish_cpu, finish_parked, hcpu, hparked]
  cases o.next <;> exact ⟨rfl, Nat.le_of_ble_eq_true rfl⟩

/-- A step of the only task takes it from where it stood to where it stands then. -/
theorem ran_only {t t' : State ω τ π κ ι} {a : Action ρ α β} (hl : t.Lone) (ha : a.ofOnly = true)
    (h : step P t a = some t') : TaskRan P t a t.only t'.only t' ∧ t'.Lone ∧ t.only ≠ .done := by
  rw [State.Lone, State.tasks, List.length_append] at hl
  cases stepped_of_step P h with
  | runTask seed u hcpu =>
    rw [hcpu, Option.toList_some, List.length_singleton] at hl
    have hparked : t.parked = [] := List.length_eq_zero_iff.mp (by omega)
    obtain ⟨honly, hlone⟩ := only_finish (P := P) (s := { t with cpu := none }) rfl hparked
      (P.runTask t.clock seed t.world u)
    have hn : t.only = .cpu u := by rw [State.only, hcpu]
    rw [hn, honly]
    exact ⟨.runTask seed u hcpu, hlone, by intro hn; cases hn⟩
  | resumeTask i b u o hfree ht ho =>
    obtain rfl : i = 0 := beq_iff_eq.mp ha
    have hcpu := free_cpu hfree
    obtain ⟨rest, hparked⟩ : ∃ rest, t.parked = u :: rest := by
      cases hp : t.parked with
      | nil => rw [hp] at ht; cases ht
      | cons v rest =>
        rw [hp] at ht
        obtain rfl := Option.some.inj ht
        exact ⟨rest, rfl⟩
    have hrest : t.parked.eraseIdx 0 = [] := by
      rw [hparked, List.length_cons] at hl
      rw [hparked]
      show rest = []
      exact List.length_eq_zero_iff.mp (by omega)
    obtain ⟨honly, hlone⟩ := only_finish (P := P)
      (s := { t with parked := t.parked.eraseIdx 0 }) hcpu hrest o
    have hn : t.only = .park u := by rw [State.only, hcpu, hparked]
    rw [hn, honly]
    exact ⟨.resumeTask 0 b u o hfree ht ho, hlone, by intro hn; cases hn⟩
  | _ => cases ha

/-- A step of the only task is a step of the task that is followed. -/
theorem Follows.step_only {s t t' : State ω τ π κ ι} {a : Action ρ α β}
    (f : Follows P ok begins s t t.only) (hl : t.Lone) (ha : a.ofOnly = true) (hok : ok t a)
    (h : step P t a = some t') : Follows P ok begins s t' t'.only ∧ t'.Lone := by
  obtain ⟨hran, hlone, hne⟩ := ran_only hl ha h
  exact ⟨f.own hne hok hran, hlone⟩

/-- The steps of the only task, all of them allowed. -/
theorem Follows.of_runIf {check : State ω τ π κ ι → Action ρ α β → Bool}
    (hcheck : ∀ s a, check s a = true → a.ofOnly = true ∧ ok s a) {s : State ω τ π κ ι} :
    ∀ {as : List (Action ρ α β)} {t t' : State ω τ π κ ι}, Follows P ok begins s t t.only →
      t.Lone → runIf P check t as = some t' → Follows P ok begins s t' t'.only ∧ t'.Lone
  | [], t, t', f, hl, h => by
    obtain rfl := Option.some.inj h
    exact ⟨f, hl⟩
  | a :: as, t, t', f, hl, h => by
    rw [runIf] at h
    split at h
    · rename_i hok
      obtain ⟨u, hu, hrest⟩ := Option.bind_eq_some_iff.mp h
      obtain ⟨ha, hok⟩ := hcheck t a hok
      obtain ⟨f', hl'⟩ := f.step_only hl ha hok hu
      exact Follows.of_runIf hcheck f' hl' hrest
    · cases h

/-- The request that begins the only task. -/
theorem Follows.start_only (begins : ρ → Prop) {s t t' : State ω τ π κ ι} {r : ρ} {seed : β}
    (run : Run P ok s t) (hcpu : t.cpu = none) (hparked : t.parked = []) (hok : ok t (.request r seed)) (hr : begins r)
    (h : step P t (.request r seed) = some t') :
    Follows P ok begins s t' t'.only ∧ t'.Lone := by
  cases stepped_of_step P h with
  | request r seed hfree =>
    obtain ⟨honly, hlone⟩ := only_finish (P := P) hcpu hparked (P.request t.clock seed t.world r)
    rw [honly]
    exact ⟨.start run hok hr (.request r seed hfree), hlone⟩

end

end EventLoop
