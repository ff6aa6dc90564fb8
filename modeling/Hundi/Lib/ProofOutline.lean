/-
  Proof rules for programs of the event loop.

  A `Spec` gives the micro-steps of a program as two relations, one for tasks and one for the
  job; whoever proves something about runs does case analysis on these relations and never unfolds
  the program.  Two rules build on it:

  * `Outline.holds`      — a proof outline in the sense of Owicki and Gries: an invariant of the
                           world and an assertion wherever a micro-step can leave a task or the
                           job.  Only what is parked at an `await` has to be stable under the moves
                           of the others: a synchronous segment is not interleaved.  An
                           `Extension` is an outline on top of another one;
  * `Permit.at_most_one` — a counter on the world together with the tasks that hold a permit to
                           raise it never exceeds one.
-/
import Hundi.Lib.EventLoop
import Mathlib.Data.List.Count

namespace EventLoop

/-- What makes a micro-step of a task happen. -/
inductive TaskCause (τ ρ α : Type) where
  | request (r : ρ)
  | running (t : τ)
  | resumed (t : τ) (a : α)

/-- What makes a micro-step of the job happen. -/
inductive JobCause (π α : Type) where
  | start
  | running (p : π)
  | resumed (p : π) (a : α)

/-- Where the task stood before. -/
def TaskCause.before {τ ρ α : Type} : TaskCause τ ρ α → Next τ
  | .request _ => .done
  | .running t => .cpu t
  | .resumed t _ => .park t

/-- Where the job stood before. -/
def JobCause.before {π α : Type} : JobCause π α → Next π
  | .start => .done
  | .running p => .cpu p
  | .resumed p _ => .park p

/-- Where a phase stands. -/
def Phase.next {π : Type} : Phase π → Next π
  | .running p => .cpu p
  | .waiting p => .park p
  | .finished => .done

@[simp] theorem Phase.next_ofNext {π : Type} (n : Next π) : (Phase.ofNext n).next = n := by
  cases n <;> rfl

section

variable {ω τ π κ ι ρ α β : Type}

/-- The task moves the action `a` can make in `s`. -/
inductive TaskMove (s : State ω τ π κ ι) : Action ρ α β → TaskCause τ ρ α → Prop where
  | request (r : ρ) (seed : β) (hfree : s.free = true) : TaskMove s (.request r seed) (.request r)
  | runTask (seed : β) (t : τ) (hcpu : s.cpu = some t) : TaskMove s (.runTask seed) (.running t)
  | resumeTask (i : Nat) (a : α) (t : τ) (hfree : s.free = true) (ht : s.parked[i]? = some t) :
      TaskMove s (.resumeTask i a) (.resumed t a)

/-- The job moves the action `a` can make in `s`. -/
inductive JobMove (s : State ω τ π κ ι) : Action ρ α β → κ → JobCause π α → Prop where
  | start (seed : β) (k : κ) (rest : List κ) (hfree : s.free = true) (hjob : s.job = none)
      (hq : s.queue = k :: rest) : JobMove s (.startJob seed) k .start
  | runJob (seed : β) (k : κ) (p : π) (hjob : s.job = some (k, .running p)) :
      JobMove s (.runJob seed) k (.running p)
  | resumeJob (a : α) (k : κ) (p : π) (hfree : s.free = true) (hjob : s.job = some (k, .waiting p)) :
      JobMove s (.resumeJob a) k (.resumed p a)

variable [DecidableEq ι] {P : Program ω τ π κ ι ρ α β}

/-- What the micro-steps of a program do, as relations its code meets. -/
structure Spec (P : Program ω τ π κ ι ρ α β) where
  task : Int → ω → TaskCause τ ρ α → ω → Next τ → Prop
  job : Int → ω → κ → JobCause π α → ω → Next π → Prop
  request : ∀ now seed w r, task now w (.request r) (P.request now seed w r).world
    (P.request now seed w r).next
  runTask : ∀ now seed w t, task now w (.running t) (P.runTask now seed w t).world
    (P.runTask now seed w t).next
  resumeTask : ∀ now w t a o, P.resumeTask now w t a = some o →
    task now w (.resumed t a) o.world o.next
  startJob : ∀ now seed w k, job now w k .start (P.startJob now seed w k).1
    (P.startJob now seed w k).2
  runJob : ∀ now seed w k p, job now w k (.running p) (P.runJob now seed w k p).1
    (P.runJob now seed w k p).2
  resumeJob : ∀ now w k p a o, P.resumeJob now w k p a = some o →
    job now w k (.resumed p a) o.1 o.2

/-- How a step changes the world: not at all, or by a move of a task or of the job. -/
inductive Spec.Moved (S : Spec P) (s : State ω τ π κ ι) (a : Action ρ α β)
    (s' : State ω τ π κ ι) : Prop where
  | stays (h : s'.world = s.world)
  | task (c : TaskCause τ ρ α) (next : Next τ) (hmove : TaskMove s a c)
      (h : S.task s.clock s.world c s'.world next)
  | job (k : κ) (c : JobCause π α) (next : Next π) (hmove : JobMove s a k c)
      (h : S.job s.clock s.world k c s'.world next)

theorem Spec.moved (S : Spec P) {s s' : State ω τ π κ ι} {a : Action ρ α β}
    (h : step P s a = some s') : S.Moved s a s' := by
  cases stepped_of_step P h with
  | clock => exact .stays rfl
  | crash => exact .stays rfl
  | request r seed hfree =>
    exact .task (.request r) _ (.request r seed hfree) (by rw [finish_world]; exact S.request _ _ _ _)
  | runTask seed t hcpu =>
    exact .task (.running t) _ (.runTask seed t hcpu) (by rw [finish_world]; exact S.runTask _ _ _ _)
  | resumeTask i a t o hfree ht ho =>
    exact .task (.resumed t a) _ (.resumeTask i a t hfree ht)
      (by rw [finish_world]; exact S.resumeTask _ _ _ _ _ ho)
  | startJob seed k rest hfree hjob hq =>
    exact .job k .start _ (.start seed k rest hfree hjob hq) (S.startJob _ _ _ _)
  | runJob seed k p hjob => exact .job k (.running p) _ (.runJob seed k p hjob) (S.runJob _ _ _ _ _)
  | resumeJob a k p o hfree hjob ho =>
    exact .job k (.resumed p a) _ (.resumeJob a k p hfree hjob) (S.resumeJob _ _ _ _ _ _ ho)
  | endJob => exact .stays rfl

/-- **A relation every micro-step keeps on the world is kept by every step.** -/
theorem Spec.world_rel (S : Spec P) {R : ω → ω → Prop} (hrefl : ∀ w, R w w)
    (htask : ∀ now w c w' next, S.task now w c w' next → R w w')
    (hjob : ∀ now w k c w' next, S.job now w k c w' next → R w w')
    {s s' : State ω τ π κ ι} {a : Action ρ α β} (h : step P s a = some s') :
    R s.world s'.world := by
  cases S.moved h with
  | stays h => rw [h]; exact hrefl _
  | task c next _ h => exact htask _ _ _ _ _ h
  | job k c next _ h => exact hjob _ _ _ _ _ _ h

/-- A relation that composes and that every micro-step keeps is kept along runs. -/
theorem Spec.world_rel_run (S : Spec P) {R : ω → ω → Prop} (hrefl : ∀ w, R w w)
    (htrans : ∀ u v w, R u v → R v w → R u w)
    (htask : ∀ now w c w' next, S.task now w c w' next → R w w')
    (hjob : ∀ now w k c w' next, S.job now w k c w' next → R w w')
    {ok : State ω τ π κ ι → Action ρ α β → Prop} {s t : State ω τ π κ ι} (r : Run P ok s t) :
    R s.world t.world := by
  induction r with
  | refl => exact hrefl _
  | tail _ _ h ih => exact htrans _ _ _ ih (S.world_rel hrefl htask hjob h)

/-! ## Proof outlines -/

/-- A proof outline for the runs whose steps meet `ok`: an invariant of the world, an assertion
    for wherever a micro-step leaves a task or the job, and what the moves of tasks (`taskRel`) and
    of the job (`jobRel`) do to the world.  The assertions at an `await` are stable under the
    moves of the others. -/
structure Outline (S : Spec P) (ok : State ω τ π κ ι → Action ρ α β → Prop) where
  inv : ω → Prop
  task : ω → Next τ → Prop
  job : ω → κ → Next π → Prop
  taskRel : ω → ω → Prop
  jobRel : ω → ω → Prop
  task_done : ∀ w, task w .done
  job_done : ∀ w k, job w k .done
  taskStep : ∀ s a c w' next, inv s.world → task s.world c.before → TaskMove s a c → ok s a →
    S.task s.clock s.world c w' next → inv w' ∧ taskRel s.world w' ∧ task w' next
  jobStep : ∀ s a k c w' next, inv s.world → job s.world k c.before → JobMove s a k c → ok s a →
    S.job s.clock s.world k c w' next → inv w' ∧ jobRel s.world w' ∧ job w' k next
  task_stable : ∀ w w' t, inv w → task w (.park t) → taskRel w w' ∨ jobRel w w' → task w' (.park t)
  job_stable : ∀ w w' k p, inv w → job w k (.park p) → taskRel w w' → job w' k (.park p)

/-- The state meets the outline.  At most one synchronous segment is running. -/
structure Outline.Holds {S : Spec P} {ok : State ω τ π κ ι → Action ρ α β → Prop}
    (O : Outline S ok) (s : State ω τ π κ ι) : Prop where
  inv : O.inv s.world
  cpu : ∀ t, s.cpu = some t → O.task s.world (.cpu t)
  parked : ∀ t ∈ s.parked, O.task s.world (.park t)
  job : ∀ k ph, s.job = some (k, ph) → O.job s.world k ph.next
  excl : ∀ k p, s.job = some (k, .running p) → s.cpu = none

omit [DecidableEq ι] in
theorem not_running_of_free {s : State ω τ π κ ι} (h : s.free = true) {k : κ} {p : π} :
    s.job ≠ some (k, .running p) := by
  intro hj
  rw [State.free, hj] at h
  cases hc : s.cpu with
  | none => rw [hc] at h; exact nomatch h
  | some t => rw [hc] at h; exact nomatch h

variable {S : Spec P} {ok : State ω τ π κ ι → Action ρ α β → Prop}

omit [DecidableEq ι] in
theorem Outline.holds_boot (O : Outline S ok) {now : Int} {w : ω} (h : O.inv w) :
    O.Holds (State.boot now w) where
  inv := h
  cpu := nofun
  parked := nofun
  job := nofun
  excl := nofun

/-- A micro-step of a task keeps the outline: `s₀` is the state without the task. -/
theorem Outline.holds_finish (O : Outline S ok) {s₀ s : State ω τ π κ ι} (hs : O.Holds s)
    {o : Outcome ω τ κ} (hjob : s₀.job = s.job) (hcpu : s₀.cpu = none)
    (hparked : ∀ t ∈ s₀.parked, t ∈ s.parked) (hidle : ∀ k p, s.job ≠ some (k, .running p))
    (hinv : O.inv o.world) (hrel : O.taskRel s.world o.world) (hnext : O.task o.world o.next) :
    O.Holds (s₀.finish P o) where
  inv := by rw [finish_world]; exact hinv
  cpu := by
    intro t ht
    rw [finish_cpu] at ht
    rw [finish_world]
    cases hn : o.next with
    | done => rw [hn] at ht; rw [hcpu] at ht; exact nomatch ht
    | cpu u => rw [hn] at ht hnext; obtain rfl := Option.some.inj ht; exact hnext
    | park u => rw [hn] at ht; rw [hcpu] at ht; exact nomatch ht
  parked := by
    intro t ht
    rw [finish_parked] at ht
    rw [finish_world]
    have hold : ∀ u ∈ s₀.parked, O.task o.world (.park u) := fun u hu =>
      O.task_stable _ _ _ hs.inv (hs.parked u (hparked u hu)) (Or.inl hrel)
    cases hn : o.next with
    | done => rw [hn] at ht; exact hold t ht
    | cpu u => rw [hn] at ht; exact hold t ht
    | park u =>
      rw [hn] at ht hnext
      rcases List.mem_append.mp ht with ht | ht
      · exact hold t ht
      · rw [List.mem_singleton] at ht
        rw [ht]
        exact hnext
  job := by
    intro k ph hj
    rw [finish_job, hjob] at hj
    rw [finish_world]
    cases ph with
    | running p => exact absurd hj (hidle k p)
    | waiting p => exact O.job_stable _ _ _ _ hs.inv (hs.job k _ hj) hrel
    | finished => exact O.job_done _ _
  excl := by
    intro k p hj
    rw [finish_job, hjob] at hj
    exact absurd hj (hidle k p)

omit [DecidableEq ι] in
/-- A micro-step of the job keeps the outline. -/
theorem Outline.holds_setJob (O : Outline S ok) {s₀ s : State ω τ π κ ι}
    (hs : O.Holds s) {k : κ} {o : ω × Next π} (hcpu : s₀.cpu = s.cpu) (hparked : s₀.parked = s.parked)
    (hnone : s.cpu = none) (hinv : O.inv o.1) (hrel : O.jobRel s.world o.1)
    (hnext : O.job o.1 k o.2) : O.Holds (s₀.setJob k o) where
  inv := hinv
  cpu := by
    intro t ht
    have h : s₀.cpu = some t := ht
    rw [hcpu, hnone] at h
    exact nomatch h
  parked := by
    intro t ht
    have h : t ∈ s₀.parked := ht
    rw [hparked] at h
    exact O.task_stable _ _ _ hs.inv (hs.parked t h) (Or.inr hrel)
  job := by
    intro k' ph hj
    obtain ⟨rfl, rfl⟩ := Prod.mk.inj (Option.some.inj hj)
    rw [Phase.next_ofNext]
    exact hnext
  excl := fun _ _ _ => hcpu.trans hnone

theorem Outline.holds_step (O : Outline S ok) {s s' : State ω τ π κ ι} {a : Action ρ α β}
    (hs : O.Holds s) (hok : ok s a) (h : step P s a = some s') : O.Holds s' := by
  cases stepped_of_step P h with
  | clock now => exact ⟨hs.inv, hs.cpu, hs.parked, hs.job, hs.excl⟩
  | crash => exact O.holds_boot hs.inv
  | request r seed hfree =>
    obtain ⟨hinv, hrel, hnext⟩ := O.taskStep s _ (.request r) _ _ hs.inv (O.task_done _)
      (.request r seed hfree) hok (S.request _ _ _ _)
    exact O.holds_finish hs rfl (free_cpu hfree) (fun _ ht => ht)
      (fun _ _ => not_running_of_free hfree) hinv hrel hnext
  | runTask seed t hcpu =>
    obtain ⟨hinv, hrel, hnext⟩ := O.taskStep s _ (.running t) _ _ hs.inv (hs.cpu t hcpu)
      (.runTask seed t hcpu) hok (S.runTask _ _ _ _)
    refine O.holds_finish hs rfl rfl (fun _ hu => hu) (fun k p hj => ?_) hinv hrel hnext
    rw [hs.excl k p hj] at hcpu
    exact nomatch hcpu
  | resumeTask i a t o hfree ht ho =>
    obtain ⟨hinv, hrel, hnext⟩ := O.taskStep s _ (.resumed t a) _ _ hs.inv
      (hs.parked t (List.mem_of_getElem? ht)) (.resumeTask i a t hfree ht) hok
      (S.resumeTask _ _ _ _ _ ho)
    exact O.holds_finish hs rfl (free_cpu hfree) (fun _ hu => List.mem_of_mem_eraseIdx hu)
      (fun _ _ => not_running_of_free hfree) hinv hrel hnext
  | startJob seed k rest hfree hjob hq =>
    obtain ⟨hinv, hrel, hnext⟩ := O.jobStep s _ k .start _ _ hs.inv (O.job_done _ _)
      (.start seed k rest hfree hjob hq) hok (S.startJob _ _ _ _)
    exact O.holds_setJob hs rfl rfl (free_cpu hfree) hinv hrel hnext
  | runJob seed k p hjob =>
    obtain ⟨hinv, hrel, hnext⟩ := O.jobStep s _ k (.running p) _ _ hs.inv (hs.job k _ hjob)
      (.runJob seed k p hjob) hok (S.runJob _ _ _ _ _)
    exact O.holds_setJob hs rfl rfl (hs.excl k p hjob) hinv hrel hnext
  | resumeJob a k p o hfree hjob ho =>
    obtain ⟨hinv, hrel, hnext⟩ := O.jobStep s _ k (.resumed p a) _ _ hs.inv (hs.job k _ hjob)
      (.resumeJob a k p hfree hjob) hok (S.resumeJob _ _ _ _ _ _ ho)
    exact O.holds_setJob hs rfl rfl (free_cpu hfree) hinv hrel hnext
  | endJob k hjob => exact ⟨hs.inv, hs.cpu, hs.parked, nofun, nofun⟩

/-- **A proof outline holds in every state of every allowed run.** -/
theorem Outline.holds (O : Outline S ok) {now : Int} {w : ω} {s : State ω τ π κ ι} (hw : O.inv w)
    (r : Run P ok (State.boot now w) s) : O.Holds s :=
  r.invariant (fun hs hok h => O.holds_step hs hok h) (O.holds_boot hw)

omit [DecidableEq ι] in
/-- What the outline asserts of the task that is about to move. -/
theorem Outline.Holds.before_task {O : Outline S ok} {s : State ω τ π κ ι} {a : Action ρ α β}
    {c : TaskCause τ ρ α} (hs : O.Holds s) (hmove : TaskMove s a c) : O.task s.world c.before := by
  cases hmove with
  | request r seed hfree => exact O.task_done _
  | runTask seed t hcpu => exact hs.cpu t hcpu
  | resumeTask i a t hfree ht => exact hs.parked t (List.mem_of_getElem? ht)

omit [DecidableEq ι] in
/-- What the outline asserts of the job that is about to move. -/
theorem Outline.Holds.before_job {O : Outline S ok} {s : State ω τ π κ ι} {a : Action ρ α β}
    {k : κ} {c : JobCause π α} (hs : O.Holds s) (hmove : JobMove s a k c) :
    O.job s.world k c.before := by
  cases hmove with
  | start seed k rest hfree hjob hq => exact O.job_done _ _
  | runJob seed k p hjob => exact hs.job k _ hjob
  | resumeJob a k p hfree hjob => exact hs.job k _ hjob

/-- What the micro-steps keep under an outline holds along every allowed run. -/
theorem Outline.invariant (O : Outline S ok) {I : ω → Prop}
    (htask : ∀ now w c w' next, O.inv w → O.task w c.before → I w → S.task now w c w' next →
      O.inv w' → I w')
    (hjob : ∀ now w k c w' next, O.inv w → O.job w k c.before → I w → S.job now w k c w' next →
      O.inv w' → I w')
    {now : Int} {w : ω} {s : State ω τ π κ ι} (hw : O.inv w) (hI : I w)
    (r : Run P ok (State.boot now w) s) : I s.world := by
  have hboth : O.Holds s ∧ I s.world := by
    refine r.invariant (I := fun s => O.Holds s ∧ I s.world) (fun hs hok h => ?_)
      ⟨O.holds_boot hw, hI⟩
    have hs' := O.holds_step hs.1 hok h
    refine ⟨hs', ?_⟩
    cases S.moved h with
    | stays hstay => rw [hstay]; exact hs.2
    | task c next hmove hstep =>
      exact htask _ _ _ _ _ hs.1.inv (hs.1.before_task hmove) hs.2 hstep hs'.inv
    | job k c next hmove hstep =>
      exact hjob _ _ _ _ _ _ hs.1.inv (hs.1.before_job hmove) hs.2 hstep hs'.inv
  exact hboth.2

/-- An outline on top of another: its steps may use what the base asserts before the step, and
    the base's invariant after it. -/
structure Extension (O : Outline S ok) (ok' : State ω τ π κ ι → Action ρ α β → Prop) where
  allowed : ∀ s a, ok' s a → ok s a
  inv : ω → Prop
  task : ω → Next τ → Prop
  job : ω → κ → Next π → Prop
  taskRel : ω → ω → Prop
  jobRel : ω → ω → Prop
  task_done : ∀ w, task w .done
  job_done : ∀ w k, job w k .done
  taskStep : ∀ s a c w' next, O.inv s.world → O.task s.world c.before → inv s.world →
    task s.world c.before → TaskMove s a c → ok' s a → S.task s.clock s.world c w' next →
    O.inv w' → O.taskRel s.world w' → inv w' ∧ taskRel s.world w' ∧ task w' next
  jobStep : ∀ s a k c w' next, O.inv s.world → O.job s.world k c.before → inv s.world →
    job s.world k c.before → JobMove s a k c → ok' s a → S.job s.clock s.world k c w' next →
    O.inv w' → O.jobRel s.world w' → inv w' ∧ jobRel s.world w' ∧ job w' k next
  task_stable : ∀ w w' t, O.inv w → O.task w (.park t) → inv w → task w (.park t) →
    (O.taskRel w w' ∧ taskRel w w') ∨ (O.jobRel w w' ∧ jobRel w w') → task w' (.park t)
  job_stable : ∀ w w' k p, O.inv w → O.job w k (.park p) → inv w → job w k (.park p) →
    O.taskRel w w' → taskRel w w' → job w' k (.park p)

/-- The two outlines as one. -/
def Extension.outline {O : Outline S ok} {ok' : State ω τ π κ ι → Action ρ α β → Prop}
    (E : Extension O ok') : Outline S ok' where
  inv := fun w => O.inv w ∧ E.inv w
  task := fun w n => O.task w n ∧ E.task w n
  job := fun w k n => O.job w k n ∧ E.job w k n
  taskRel := fun w w' => O.taskRel w w' ∧ E.taskRel w w'
  jobRel := fun w w' => O.jobRel w w' ∧ E.jobRel w w'
  task_done := fun w => ⟨O.task_done w, E.task_done w⟩
  job_done := fun w k => ⟨O.job_done w k, E.job_done w k⟩
  taskStep := by
    intro s a c w' next hinv htask hmove hok h
    obtain ⟨hi, hr, ht⟩ := O.taskStep s a c w' next hinv.1 htask.1 hmove (E.allowed s a hok) h
    obtain ⟨hi', hr', ht'⟩ := E.taskStep s a c w' next hinv.1 htask.1 hinv.2 htask.2 hmove hok h hi hr
    exact ⟨⟨hi, hi'⟩, ⟨hr, hr'⟩, ht, ht'⟩
  jobStep := by
    intro s a k c w' next hinv hjob hmove hok h
    obtain ⟨hi, hr, hj⟩ := O.jobStep s a k c w' next hinv.1 hjob.1 hmove (E.allowed s a hok) h
    obtain ⟨hi', hr', hj'⟩ := E.jobStep s a k c w' next hinv.1 hjob.1 hinv.2 hjob.2 hmove hok h hi hr
    exact ⟨⟨hi, hi'⟩, ⟨hr, hr'⟩, hj, hj'⟩
  task_stable := by
    intro w w' t hinv htask hrel
    exact ⟨O.task_stable w w' t hinv.1 htask.1 (hrel.imp And.left And.left),
      E.task_stable w w' t hinv.1 htask.1 hinv.2 htask.2 hrel⟩
  job_stable := by
    intro w w' k p hinv hjob hrel
    exact ⟨O.job_stable w w' k p hinv.1 hjob.1 hrel.1,
      E.job_stable w w' k p hinv.1 hjob.1 hinv.2 hjob.2 hrel.1 hrel.2⟩

/-! ## Permits -/

/-- How many permits a place is worth. -/
def permits (holds : τ → Bool) : Next τ → Nat
  | .done => 0
  | .cpu t => if holds t then 1 else 0
  | .park t => if holds t then 1 else 0

@[simp] theorem permits_done (q : τ → Bool) : permits q .done = 0 := rfl
@[simp] theorem permits_cpu (q : τ → Bool) (t : τ) : permits q (.cpu t) = if q t then 1 else 0 := rfl
@[simp] theorem permits_park (q : τ → Bool) (t : τ) : permits q (.park t) = if q t then 1 else 0 := rfl

theorem permits_eq (q : τ → Bool) (n : Next τ) : permits q n = if n.task?.any q then 1 else 0 := by
  cases n <;> rfl

/-- A counter `used` on the world, and tasks that hold a permit to raise it.  A move of a task may
    not make more of counter and permits than there was, but it may acquire the permit while the
    counter is zero and nobody holds one. -/
structure Permit (S : Spec P) (ok : State ω τ π κ ι → Action ρ α β → Prop) where
  used : ω → Nat
  holds : τ → Bool
  taskStep : ∀ s a c w' next, TaskMove s a c → ok s a → S.task s.clock s.world c w' next →
    used w' + permits holds next ≤ used s.world + permits holds c.before ∨
    (used s.world = 0 ∧ (∀ t ∈ s.tasks, holds t = false) ∧ used w' + permits holds next ≤ 1)
  jobStep : ∀ s a k c w' next, JobMove s a k c → ok s a → S.job s.clock s.world k c w' next →
    used w' ≤ used s.world

/-- The counter and the permits given out. -/
def Permit.load (O : Permit S ok) (s : State ω τ π κ ι) : Nat :=
  O.used s.world + s.tasks.countP O.holds

theorem countP_tasks_finish (q : τ → Bool) {s : State ω τ π κ ι} (hcpu : s.cpu = none)
    (o : Outcome ω τ κ) :
    (s.finish P o).tasks.countP q = permits q o.next + s.parked.countP q := by
  rw [State.tasks, finish_cpu, finish_parked]
  cases o.next with
  | done => simp [permits, hcpu]
  | cpu t => simp [permits, List.countP_cons]; omega
  | park t => simp [permits, hcpu, List.countP_append, List.countP_cons]; omega

theorem countP_eraseIdx (q : τ → Bool) : ∀ {l : List τ} {i : Nat} {t : τ}, l[i]? = some t →
    l.countP q = (l.eraseIdx i).countP q + if q t then 1 else 0
  | a :: l, 0, t, h => by
    obtain rfl := Option.some.inj h
    rw [List.eraseIdx_cons_zero, List.countP_cons]
  | a :: l, i + 1, t, h => by
    rw [List.getElem?_cons_succ] at h
    rw [List.eraseIdx_cons_succ, List.countP_cons, List.countP_cons, countP_eraseIdx q h]
    omega

/-- **How a step changes the number of tasks of a kind**: by what the task that moves is worth.  A step
    that moves no task makes none. -/
theorem Spec.countP_tasks (S : Spec P) (q : τ → Bool) {s s' : State ω τ π κ ι} {a : Action ρ α β}
    (h : step P s a = some s') :
    (s'.tasks.countP q ≤ s.tasks.countP q ∧ (s'.world = s.world ∨
      ∃ k c next, JobMove s a k c ∧ S.job s.clock s.world k c s'.world next)) ∨
    ∃ c next, TaskMove s a c ∧ S.task s.clock s.world c s'.world next ∧
      s'.tasks.countP q + permits q c.before = s.tasks.countP q + permits q next := by
  cases stepped_of_step P h with
  | clock now => exact Or.inl ⟨Nat.le_refl _, Or.inl rfl⟩
  | crash => exact Or.inl ⟨Nat.zero_le _, Or.inl rfl⟩
  | request r seed hfree =>
    refine Or.inr ⟨.request r, _, .request r seed hfree, by rw [finish_world]; exact S.request _ _ _ _, ?_⟩
    rw [countP_tasks_finish q (free_cpu hfree), State.tasks, free_cpu hfree, Option.toList_none,
      List.nil_append, TaskCause.before, permits_done]
    omega
  | runTask seed t hcpu =>
    refine Or.inr ⟨.running t, _, .runTask seed t hcpu, by rw [finish_world]; exact S.runTask _ _ _ _, ?_⟩
    rw [countP_tasks_finish q rfl, State.tasks, hcpu, Option.toList_some, List.singleton_append,
      List.countP_cons, TaskCause.before, permits_cpu]
    simp only
    omega
  | resumeTask i a t o hfree ht ho =>
    refine Or.inr ⟨.resumed t a, _, .resumeTask i a t hfree ht,
      by rw [finish_world]; exact S.resumeTask _ _ _ _ _ ho, ?_⟩
    rw [countP_tasks_finish (s := { s with parked := s.parked.eraseIdx i }) q (free_cpu hfree),
      State.tasks, free_cpu hfree, Option.toList_none, List.nil_append, countP_eraseIdx q ht,
      TaskCause.before, permits_park]
    simp only
    omega
  | startJob seed k rest hfree hjob hq =>
    exact Or.inl ⟨Nat.le_refl _, Or.inr ⟨k, .start, _, .start seed k rest hfree hjob hq, S.startJob _ _ _ _⟩⟩
  | runJob seed k p hjob =>
    exact Or.inl ⟨Nat.le_refl _, Or.inr ⟨k, .running p, _, .runJob seed k p hjob, S.runJob _ _ _ _ _⟩⟩
  | resumeJob a k p o hfree hjob ho =>
    exact Or.inl ⟨Nat.le_refl _,
      Or.inr ⟨k, .resumed p a, _, .resumeJob a k p hfree hjob, S.resumeJob _ _ _ _ _ _ ho⟩⟩
  | endJob k hjob => exact Or.inl ⟨Nat.le_refl _, Or.inl rfl⟩

theorem Permit.load_step (O : Permit S ok) {s s' : State ω τ π κ ι} {a : Action ρ α β}
    (hs : O.load s ≤ 1) (hok : ok s a) (h : step P s a = some s') : O.load s' ≤ 1 := by
  rw [Permit.load] at hs ⊢
  cases stepped_of_step P h with
  | clock now => exact hs
  | crash =>
    simp only [State.boot, State.tasks, Option.toList_none, List.append_nil, List.countP_nil]
    omega
  | request r seed hfree =>
    rw [finish_world, countP_tasks_finish O.holds (free_cpu hfree)]
    rw [State.tasks, free_cpu hfree, Option.toList_none, List.nil_append] at hs
    rcases O.taskStep s _ _ _ _ (.request r seed hfree) hok (S.request s.clock seed s.world r) with
      h | ⟨-, hnone, h⟩
    · rw [TaskCause.before, permits_done] at h
      omega
    · have hzero : s.parked.countP O.holds = 0 := List.countP_eq_zero.mpr fun t ht => by
        simp [hnone t (List.mem_append_right _ ht)]
      omega
  | runTask seed t hcpu =>
    rw [finish_world, countP_tasks_finish O.holds rfl]
    rw [State.tasks, hcpu, Option.toList_some, List.singleton_append, List.countP_cons] at hs
    rcases O.taskStep s _ _ _ _ (.runTask seed t hcpu) hok (S.runTask s.clock seed s.world t) with
      h | ⟨-, hnone, h⟩
    · rw [TaskCause.before, permits_cpu] at h
      simp only
      omega
    · have hzero : s.parked.countP O.holds = 0 := List.countP_eq_zero.mpr fun t ht => by
        simp [hnone t (List.mem_append_right _ ht)]
      simp only
      omega
  | resumeTask i a t o hfree ht ho =>
    rw [finish_world, countP_tasks_finish (s := { s with parked := s.parked.eraseIdx i }) O.holds
      (free_cpu hfree)]
    rw [State.tasks, free_cpu hfree, Option.toList_none, List.nil_append,
      countP_eraseIdx O.holds ht] at hs
    rcases O.taskStep s _ _ _ _ (.resumeTask i a t hfree ht) hok (S.resumeTask _ _ _ _ _ ho) with
      h | ⟨-, hnone, h⟩
    · rw [TaskCause.before, permits_park] at h
      simp only
      omega
    · have hzero : s.parked.countP O.holds = 0 := List.countP_eq_zero.mpr fun t ht => by
        simp [hnone t (List.mem_append_right _ ht)]
      rw [countP_eraseIdx O.holds ht] at hzero
      simp only
      omega
  | startJob seed k rest hfree hjob hq =>
    have := O.jobStep s _ _ _ _ _ (.start seed k rest hfree hjob hq) hok
      (S.startJob s.clock seed s.world k)
    exact Nat.le_trans (Nat.add_le_add_right this _) hs
  | runJob seed k p hjob =>
    have := O.jobStep s _ _ _ _ _ (.runJob seed k p hjob) hok
      (S.runJob s.clock seed s.world k p)
    exact Nat.le_trans (Nat.add_le_add_right this _) hs
  | resumeJob a k p o hfree hjob ho =>
    have := O.jobStep s _ _ _ _ _ (.resumeJob a k p hfree hjob) hok (S.resumeJob _ _ _ _ _ _ ho)
    exact Nat.le_trans (Nat.add_le_add_right this _) hs
  | endJob k hjob => exact hs

/-- **Counter and permits together never exceed one.** -/
theorem Permit.at_most_one (O : Permit S ok) {now : Int} {w : ω} {s : State ω τ π κ ι}
    (hw : O.used w ≤ 1) (r : Run P ok (State.boot now w) s) : O.load s ≤ 1 :=
  r.invariant (fun hs hok h => O.load_step hs hok h)
    (by simpa [Permit.load, State.tasks, State.boot] using hw)

end

end EventLoop
