/-
  A single-threaded event loop over a shared world, with one serialized chain of jobs.

  This is the execution model of a server process written with `async`/`await`: code between two
  awaits runs without interleaving, a task that awaits is parked until its answer arrives, and
  answers arrive in any order.  Next to the tasks there is a job chain: kicks are queued, a kick
  whose key is already queued or running is dropped, and the next job starts only when the one
  before it has ended.  The process may crash at any moment; the world survives, everything in
  memory is lost.

  A synchronous segment is cut into micro-steps (`Next.cpu`: the segment goes on), so that a crash
  can fall between any two effects of one segment.  While a segment is running nothing else can
  move but the clock and a crash.

  `Program` gives the code, `step` the small-step semantics, `Stepped` its inversion and `Run` its
  runs.  `Run.invariant` is the induction over them: what every step keeps holds along every run.
  A run takes a side condition `ok` on its steps, so the rule also proves what holds "as long as"
  something does not happen.
-/
import Mathlib.Data.List.Basic

namespace EventLoop

/-- Where a micro-step leaves its task: at the end, in the middle of its synchronous segment, or
    at an `await`. -/
inductive Next (τ : Type) where
  | done
  | cpu (t : τ)
  | park (t : τ)

/-- The control point a micro-step ends in, if the task goes on. -/
def Next.task? {τ : Type} : Next τ → Option τ
  | .done => none
  | .cpu t => some t
  | .park t => some t

/-- What a micro-step of a task does. -/
structure Outcome (ω τ κ : Type) where
  world : ω
  next : Next τ
  kicks : List κ

/-- The code: `ω` the world, `τ`/`π` the control points of tasks and jobs, `κ`/`ι` the kicks and
    their keys, `ρ` the requests, `α` the answers awaited, `β` the random seed of a micro-step. -/
structure Program (ω τ π κ ι ρ α β : Type) where
  request : Int → β → ω → ρ → Outcome ω τ κ
  runTask : Int → β → ω → τ → Outcome ω τ κ
  resumeTask : Int → ω → τ → α → Option (Outcome ω τ κ)
  startJob : Int → β → ω → κ → ω × Next π
  runJob : Int → β → ω → κ → π → ω × Next π
  resumeJob : Int → ω → κ → π → α → Option (ω × Next π)
  key : κ → ι

/-- The head of the job chain: in a synchronous segment, at an `await`, or ended with its
    clean-up still to run. -/
inductive Phase (π : Type) where
  | running (p : π)
  | waiting (p : π)
  | finished

/-- The control point of a job that has not ended. -/
def Phase.point? {π : Type} : Phase π → Option π
  | .running p => some p
  | .waiting p => some p
  | .finished => none

/-- The phase a micro-step leaves the job in. -/
def Phase.ofNext {π : Type} : Next π → Phase π
  | .done => .finished
  | .cpu p => .running p
  | .park p => .waiting p

structure State (ω τ π κ ι : Type) where
  clock : Int
  world : ω
  inFlight : List ι
  queue : List κ
  job : Option (κ × Phase π)
  cpu : Option τ
  parked : List τ

inductive Action (ρ α β : Type) where
  | clock (now : Int)
  | crash
  | request (r : ρ) (seed : β)
  | runTask (seed : β)
  | resumeTask (i : Nat) (a : α)
  | startJob (seed : β)
  | runJob (seed : β)
  | resumeJob (a : α)
  | endJob

section

variable {ω τ π κ ι ρ α β : Type}

/-- A process that has just started over the world `w`. -/
def State.boot (now : Int) (w : ω) : State ω τ π κ ι :=
  { clock := now, world := w, inFlight := [], queue := [], job := none, cpu := none, parked := [] }

/-- No synchronous segment is running. -/
def State.free (s : State ω τ π κ ι) : Bool :=
  match s.cpu, s.job with
  | none, some (_, .running _) => false
  | none, _ => true
  | some _, _ => false

/-- The control points of all tasks. -/
def State.tasks (s : State ω τ π κ ι) : List τ := s.cpu.toList ++ s.parked

variable [DecidableEq ι] (P : Program ω τ π κ ι ρ α β)

/-- Chains a job, unless one of the same key is queued or running. -/
def State.kick (s : State ω τ π κ ι) (k : κ) : State ω τ π κ ι :=
  if P.key k ∈ s.inFlight then s
  else { s with inFlight := P.key k :: s.inFlight, queue := s.queue ++ [k] }

/-- Puts a task where its micro-step left it. -/
def State.place (s : State ω τ π κ ι) : Next τ → State ω τ π κ ι
  | .done => s
  | .cpu t => { s with cpu := some t }
  | .park t => { s with parked := s.parked ++ [t] }

/-- The state after a micro-step of a task: `s` is the state without that task. -/
def State.finish (s : State ω τ π κ ι) (o : Outcome ω τ κ) : State ω τ π κ ι :=
  o.kicks.foldl (State.kick P) (({ s with world := o.world } : State ω τ π κ ι).place o.next)

def State.setJob (s : State ω τ π κ ι) (k : κ) (o : ω × Next π) : State ω τ π κ ι :=
  { s with world := o.1, job := some (k, Phase.ofNext o.2) }

/-- One step of the process. -/
def step (s : State ω τ π κ ι) : Action ρ α β → Option (State ω τ π κ ι)
  | .clock now => some { s with clock := now }
  | .crash => some (State.boot s.clock s.world)
  | .request r seed =>
    if s.free then some (s.finish P (P.request s.clock seed s.world r)) else none
  | .runTask seed =>
    match s.cpu with
    | some t => some (State.finish P { s with cpu := none } (P.runTask s.clock seed s.world t))
    | none => none
  | .resumeTask i a =>
    if s.free then
      match s.parked[i]? with
      | some t =>
        (P.resumeTask s.clock s.world t a).map
          (State.finish P { s with parked := s.parked.eraseIdx i })
      | none => none
    else none
  | .startJob seed =>
    if s.free then
      match s.job, s.queue with
      | none, k :: rest => some (State.setJob { s with queue := rest } k
          (P.startJob s.clock seed s.world k))
      | _, _ => none
    else none
  | .runJob seed =>
    match s.job with
    | some (k, .running p) => some (s.setJob k (P.runJob s.clock seed s.world k p))
    | _ => none
  | .resumeJob a =>
    if s.free then
      match s.job with
      | some (k, .waiting p) => (P.resumeJob s.clock s.world k p a).map (s.setJob k)
      | _ => none
    else none
  | .endJob =>
    match s.job with
    | some (k, .finished) => some { s with job := none, inFlight := s.inFlight.filter (· ≠ P.key k) }
    | _ => none

/-- The state after a list of actions, `none` once one of them is not possible. -/
def run (s : State ω τ π κ ι) : List (Action ρ α β) → Option (State ω τ π κ ι)
  | [] => some s
  | a :: as => (step P s a).bind fun s' => run s' as

/-- `run`, for as long as every step passes a check. -/
def runIf (ok : State ω τ π κ ι → Action ρ α β → Bool) (s : State ω τ π κ ι) :
    List (Action ρ α β) → Option (State ω τ π κ ι)
  | [] => some s
  | a :: as => if ok s a then (step P s a).bind fun s' => runIf ok s' as else none

/-- `t` can be reached from `s` by steps that all meet `ok`. -/
inductive Run (ok : State ω τ π κ ι → Action ρ α β → Prop) (s : State ω τ π κ ι) :
    State ω τ π κ ι → Prop where
  | refl : Run ok s s
  | tail {t u : State ω τ π κ ι} {a : Action ρ α β} (r : Run ok s t) (hok : ok t a)
      (h : step P t a = some u) : Run ok s u

/-- The side condition that allows every step. -/
def anyStep (_ : State ω τ π κ ι) (_ : Action ρ α β) : Prop := True

/-! ## What a step is -/

/-- The ways a step can be made, one constructor an action. -/
inductive Stepped (s : State ω τ π κ ι) : Action ρ α β → State ω τ π κ ι → Prop where
  | clock (now : Int) : Stepped s (.clock now) { s with clock := now }
  | crash : Stepped s .crash (State.boot s.clock s.world)
  | request (r : ρ) (seed : β) (hfree : s.free = true) :
      Stepped s (.request r seed) (s.finish P (P.request s.clock seed s.world r))
  | runTask (seed : β) (t : τ) (hcpu : s.cpu = some t) :
      Stepped s (.runTask seed)
        (State.finish P { s with cpu := none } (P.runTask s.clock seed s.world t))
  | resumeTask (i : Nat) (a : α) (t : τ) (o : Outcome ω τ κ) (hfree : s.free = true)
      (ht : s.parked[i]? = some t) (ho : P.resumeTask s.clock s.world t a = some o) :
      Stepped s (.resumeTask i a) (State.finish P { s with parked := s.parked.eraseIdx i } o)
  | startJob (seed : β) (k : κ) (rest : List κ) (hfree : s.free = true) (hjob : s.job = none)
      (hq : s.queue = k :: rest) :
      Stepped s (.startJob seed)
        (State.setJob { s with queue := rest } k (P.startJob s.clock seed s.world k))
  | runJob (seed : β) (k : κ) (p : π) (hjob : s.job = some (k, .running p)) :
      Stepped s (.runJob seed) (s.setJob k (P.runJob s.clock seed s.world k p))
  | resumeJob (a : α) (k : κ) (p : π) (o : ω × Next π) (hfree : s.free = true)
      (hjob : s.job = some (k, .waiting p)) (ho : P.resumeJob s.clock s.world k p a = some o) :
      Stepped s (.resumeJob a) (s.setJob k o)
  | endJob (k : κ) (hjob : s.job = some (k, .finished)) :
      Stepped s .endJob { s with job := none, inFlight := s.inFlight.filter (· ≠ P.key k) }

theorem stepped_of_step {s s' : State ω τ π κ ι} {a : Action ρ α β} (h : step P s a = some s') :
    Stepped P s a s' := by
  cases a with
  | clock now =>
    obtain rfl := Option.some.inj h
    exact .clock now
  | crash =>
    obtain rfl := Option.some.inj h
    exact .crash
  | request r seed =>
    rw [step] at h
    split at h
    · rename_i hfree
      obtain rfl := Option.some.inj h
      exact .request r seed hfree
    · exact nomatch h
  | runTask seed =>
    rw [step] at h
    split at h
    · rename_i t hcpu
      obtain rfl := Option.some.inj h
      exact .runTask seed t hcpu
    · exact nomatch h
  | resumeTask i a =>
    rw [step] at h
    split at h
    · rename_i hfree
      split at h
      · rename_i t ht
        obtain ⟨o, ho, rfl⟩ := Option.map_eq_some_iff.mp h
        exact .resumeTask i a t o hfree ht ho
      · exact nomatch h
    · exact nomatch h
  | startJob seed =>
    rw [step] at h
    split at h
    · rename_i hfree
      split at h
      · rename_i k rest hjob hq
        obtain rfl := Option.some.inj h
        exact .startJob seed k rest hfree hjob hq
      · exact nomatch h
    · exact nomatch h
  | runJob seed =>
    rw [step] at h
    split at h
    · rename_i k p hjob
      obtain rfl := Option.some.inj h
      exact .runJob seed k p hjob
    · exact nomatch h
  | resumeJob a =>
    rw [step] at h
    split at h
    · rename_i hfree
      split at h
      · rename_i k p hjob
        obtain ⟨o, ho, rfl⟩ := Option.map_eq_some_iff.mp h
        exact .resumeJob a k p o hfree hjob ho
      · exact nomatch h
    · exact nomatch h
  | endJob =>
    rw [step] at h
    split at h
    · rename_i k hjob
      obtain rfl := Option.some.inj h
      exact .endJob k hjob
    · exact nomatch h

/-! ## Kicks touch the chain only -/

@[simp] theorem kick_world (s : State ω τ π κ ι) (k : κ) : (s.kick P k).world = s.world := by
  unfold State.kick; split <;> rfl

@[simp] theorem kick_clock (s : State ω τ π κ ι) (k : κ) : (s.kick P k).clock = s.clock := by
  unfold State.kick; split <;> rfl

@[simp] theorem kick_job (s : State ω τ π κ ι) (k : κ) : (s.kick P k).job = s.job := by
  unfold State.kick; split <;> rfl

@[simp] theorem kick_cpu (s : State ω τ π κ ι) (k : κ) : (s.kick P k).cpu = s.cpu := by
  unfold State.kick; split <;> rfl

@[simp] theorem kick_parked (s : State ω τ π κ ι) (k : κ) : (s.kick P k).parked = s.parked := by
  unfold State.kick; split <;> rfl

/-- What kicks do not touch is the same after a list of them. -/
theorem foldl_kick {γ : Type} (g : State ω τ π κ ι → γ)
    (hg : ∀ s k, g (State.kick P s k) = g s) :
    ∀ (ks : List κ) (s : State ω τ π κ ι), g (ks.foldl (State.kick P) s) = g s
  | [], _ => rfl
  | k :: ks, s => by rw [List.foldl_cons, foldl_kick g hg ks, hg]

@[simp] theorem finish_world (s : State ω τ π κ ι) (o : Outcome ω τ κ) :
    (s.finish P o).world = o.world := by
  rw [State.finish, foldl_kick P State.world (kick_world P)]
  cases o.next <;> rfl

@[simp] theorem finish_clock (s : State ω τ π κ ι) (o : Outcome ω τ κ) :
    (s.finish P o).clock = s.clock := by
  rw [State.finish, foldl_kick P State.clock (kick_clock P)]
  cases o.next <;> rfl

@[simp] theorem finish_job (s : State ω τ π κ ι) (o : Outcome ω τ κ) :
    (s.finish P o).job = s.job := by
  rw [State.finish, foldl_kick P State.job (kick_job P)]
  cases o.next <;> rfl

theorem finish_cpu (s : State ω τ π κ ι) (o : Outcome ω τ κ) :
    (s.finish P o).cpu = match o.next with | .cpu t => some t | _ => s.cpu := by
  rw [State.finish, foldl_kick P State.cpu (kick_cpu P)]
  cases o.next <;> rfl

theorem finish_parked (s : State ω τ π κ ι) (o : Outcome ω τ κ) :
    (s.finish P o).parked = match o.next with | .park t => s.parked ++ [t] | _ => s.parked := by
  rw [State.finish, foldl_kick P State.parked (kick_parked P)]
  cases o.next <;> rfl

/-- The tasks after a micro-step: the others, and where the step left its own. -/
theorem mem_tasks_finish {s : State ω τ π κ ι} {o : Outcome ω τ κ} {t : τ}
    (h : t ∈ (s.finish P o).tasks) : t ∈ s.tasks ∨ o.next.task? = some t := by
  rw [State.tasks, finish_cpu, finish_parked, List.mem_append, Option.mem_toList] at h
  rw [State.tasks, List.mem_append, Option.mem_toList]
  cases hn : o.next with
  | done =>
    rw [hn] at h
    exact Or.inl h
  | cpu u =>
    rw [hn] at h
    rcases h with h | h
    · exact Or.inr h
    · exact Or.inl (Or.inr h)
  | park u =>
    rw [hn] at h
    rcases h with h | h
    · exact Or.inl (Or.inl h)
    · rcases List.mem_append.mp h with h | h
      · exact Or.inl (Or.inr h)
      · rw [List.mem_singleton] at h
        exact Or.inr (by rw [h]; rfl)

theorem mem_inFlight_kick {s : State ω τ π κ ι} {k : κ} {i : ι} :
    i ∈ (s.kick P k).inFlight ↔ i ∈ s.inFlight ∨ i = P.key k := by
  unfold State.kick
  split
  · rename_i hin
    exact ⟨Or.inl, fun h => h.elim id fun h => h ▸ hin⟩
  · rw [List.mem_cons, or_comm]

theorem mem_inFlight_foldl {ks : List κ} {s : State ω τ π κ ι} {i : ι} :
    i ∈ (ks.foldl (State.kick P) s).inFlight ↔ i ∈ s.inFlight ∨ ∃ k ∈ ks, i = P.key k := by
  induction ks generalizing s with
  | nil => simp
  | cons k ks ih =>
    rw [List.foldl_cons, ih, mem_inFlight_kick, or_assoc, List.exists_mem_cons_iff]

/-- What is in flight after a micro-step: what was, and what it kicked. -/
theorem mem_inFlight_finish {s : State ω τ π κ ι} {o : Outcome ω τ κ} {i : ι} :
    i ∈ (s.finish P o).inFlight ↔ i ∈ s.inFlight ∨ ∃ k ∈ o.kicks, i = P.key k := by
  rw [State.finish, mem_inFlight_foldl]
  cases o.next <;> rfl

omit [DecidableEq ι] in
theorem free_cpu {s : State ω τ π κ ι} (h : s.free = true) : s.cpu = none := by
  unfold State.free at h
  split at h
  · exact absurd h (by decide)
  · assumption
  · exact absurd h (by decide)

/-! ## Runs -/

variable {P} {ok : State ω τ π κ ι → Action ρ α β → Prop}

/-- **Invariance.**  What every allowed step keeps holds along every run. -/
theorem Run.invariant {I : State ω τ π κ ι → Prop}
    (hstep : ∀ {s a s'}, I s → ok s a → step P s a = some s' → I s')
    {s t : State ω τ π κ ι} (r : Run P ok s t) (hs : I s) : I t := by
  induction r with
  | refl => exact hs
  | tail _ hok h ih => exact hstep ih hok h

theorem Run.trans {s t u : State ω τ π κ ι} (r : Run P ok s t) (r' : Run P ok t u) :
    Run P ok s u := by
  induction r' with
  | refl => exact r
  | tail _ hok h ih => exact .tail ih hok h

theorem Run.single {s t : State ω τ π κ ι} {a : Action ρ α β} (hok : ok s a)
    (h : step P s a = some t) : Run P ok s t :=
  .tail .refl hok h

/-- Runs under a stronger side condition are runs under a weaker one. -/
theorem Run.mono {ok' : State ω τ π κ ι → Action ρ α β → Prop} (himp : ∀ s a, ok s a → ok' s a)
    {s t : State ω τ π κ ι} (r : Run P ok s t) : Run P ok' s t := by
  induction r with
  | refl => exact .refl
  | tail _ hok h ih => exact .tail ih (himp _ _ hok) h

theorem Run.any {s t : State ω τ π κ ι} (r : Run P ok s t) : Run P anyStep s t :=
  r.mono fun _ _ _ => trivial

/-- The executable `run` makes runs, when each of its steps is allowed. -/
theorem Run.of_run : ∀ {as : List (Action ρ α β)} {s t : State ω τ π κ ι},
    run P s as = some t → Run P anyStep s t
  | [], s, t, h => by
    obtain rfl := Option.some.inj h
    exact .refl
  | a :: as, s, t, h => by
    rw [run, Option.bind_eq_some_iff] at h
    obtain ⟨u, hu, h⟩ := h
    exact (Run.single (a := a) trivial hu).trans (Run.of_run h)

/-- The checked `runIf` makes runs whose steps meet what the check tests for. -/
theorem Run.of_runIf {check : State ω τ π κ ι → Action ρ α β → Bool}
    (hcheck : ∀ s a, check s a = true → ok s a) : ∀ {as : List (Action ρ α β)}
    {s t : State ω τ π κ ι}, runIf P check s as = some t → Run P ok s t
  | [], s, t, h => by
    obtain rfl := Option.some.inj h
    exact .refl
  | a :: as, s, t, h => by
    rw [runIf] at h
    split at h
    · rename_i hok
      obtain ⟨u, hu, hrest⟩ := Option.bind_eq_some_iff.mp h
      exact (Run.single (hcheck s a hok) hu).trans (Run.of_runIf hcheck hrest)
    · exact nomatch h

end

end EventLoop
