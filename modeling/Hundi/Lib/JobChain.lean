/-
  The chain of jobs of the event loop.

  `State.pending` is the chain: the key of the job under way, and those of the kicks queued behind it.
  In every state of every run the chain names each key once, and the keys in flight are those it names
  (`Chained`).  A step takes the head off, when its job ends, or puts the keys of its kicks at the end,
  but for those in flight (`arrivedBy`), and only a crash empties it (`pending_step`).

  So jobs are served in the order of their kicks: `Served` is a run without a crash, with the keys of
  the jobs that have ended and of the kicks that were taken in, and the chain has lost the one at its
  front and gained the other at its end (`Served.in_order`).
-/
import Mathlib.Data.List.Nodup
import Hundi.Lib.EventLoop

namespace EventLoop

section

variable {ω τ π κ ι ρ α β : Type}

/-- The job chain is at rest: no job is under way and none is queued. -/
structure State.AtRest (s : State ω τ π κ ι) : Prop where
  job : s.job = none
  queue : s.queue = []

variable [DecidableEq ι] (P : Program ω τ π κ ι ρ α β)

/-- The keys of the job under way and of the kicks queued behind it, in their order. -/
def State.pending (s : State ω τ π κ ι) : List ι :=
  (s.job.toList.map fun j => P.key j.1) ++ s.queue.map P.key

/-- The chain names each key once, and what it names is in flight. -/
structure Chained (s : State ω τ π κ ι) : Prop where
  once : (s.pending P).Nodup
  flight : ∀ i, i ∈ s.inFlight ↔ i ∈ s.pending P

variable {P}

/-! ## What a step does to the chain -/

/-- Of these keys, in their order, the ones that are not in flight, each once. -/
def newKeys (inFlight : List ι) : List ι → List ι
  | [] => []
  | i :: is => if i ∈ inFlight then newKeys inFlight is else i :: newKeys (i :: inFlight) is

variable (P) in
/-- The kicks that a step of the program makes. -/
def kickedBy (s : State ω τ π κ ι) : Action ρ α β → List κ
  | .request r seed => (P.request s.clock seed s.world r).kicks
  | .runTask seed => (s.cpu.map fun t => (P.runTask s.clock seed s.world t).kicks).getD []
  | .resumeTask i a =>
    ((s.parked[i]?.bind fun t => P.resumeTask s.clock s.world t a).map Outcome.kicks).getD []
  | _ => []

variable (P) in
/-- The keys of the kicks that a step makes, but for those of keys in flight. -/
def arrivedBy (s : State ω τ π κ ι) (a : Action ρ α β) : List ι :=
  newKeys s.inFlight ((kickedBy P s a).map P.key)

/-- A kick is put at the end, unless its key is in flight. -/
theorem pending_kick {s : State ω τ π κ ι} (h : Chained P s) (k : κ) :
    Chained P (s.kick P k) ∧ (s.kick P k).pending P = s.pending P ++ newKeys s.inFlight [P.key k] := by
  by_cases hin : P.key k ∈ s.inFlight
  · rw [State.kick, if_pos hin, newKeys, if_pos hin]
    exact ⟨h, (List.append_nil _).symm⟩
  · rw [State.kick, if_neg hin, newKeys, if_neg hin]
    have hpending : State.pending P
        { s with inFlight := P.key k :: s.inFlight, queue := s.queue ++ [k] } =
        s.pending P ++ [P.key k] := by
      simp only [State.pending, List.map_append, List.map_cons, List.map_nil, List.append_assoc]
    have hnew : P.key k ∉ s.pending P := fun hmem => hin ((h.flight _).mpr hmem)
    refine ⟨⟨?_, fun i => ?_⟩, hpending⟩
    · rw [hpending]
      refine List.nodup_append.mpr ⟨h.once, List.nodup_singleton _, ?_⟩
      rintro i hi j hj rfl
      obtain rfl := List.mem_singleton.mp hj
      exact hnew hi
    · rw [hpending, List.mem_append, List.mem_singleton, List.mem_cons, h.flight i, or_comm]

theorem pending_kicks {s : State ω τ π κ ι} (h : Chained P s) (ks : List κ) :
    Chained P (ks.foldl (State.kick P) s) ∧
      (ks.foldl (State.kick P) s).pending P = s.pending P ++ newKeys s.inFlight (ks.map P.key) := by
  induction ks generalizing s with
  | nil => exact ⟨h, (List.append_nil _).symm⟩
  | cons k ks ih =>
    obtain ⟨hkick, hfirst⟩ := pending_kick h k
    obtain ⟨hrest, heq⟩ := ih hkick
    refine ⟨hrest, ?_⟩
    rw [List.foldl_cons, heq, hfirst, List.append_assoc, List.map_cons]
    congr 1
    by_cases hin : P.key k ∈ s.inFlight
    · simp only [State.kick, newKeys, if_pos hin, List.nil_append]
    · simp only [State.kick, newKeys, if_neg hin, List.cons_append, List.nil_append]

theorem pending_finish {s : State ω τ π κ ι} (h : Chained P s) (o : Outcome ω τ κ) :
    Chained P (s.finish P o) ∧
      (s.finish P o).pending P = s.pending P ++ newKeys s.inFlight (o.kicks.map P.key) := by
  have hplaced : Chained P (({ s with world := o.world } : State ω τ π κ ι).place o.next) ∧
      (({ s with world := o.world } : State ω τ π κ ι).place o.next).pending P = s.pending P ∧
      (({ s with world := o.world } : State ω τ π κ ι).place o.next).inFlight = s.inFlight := by
    cases o.next with
    | done => exact ⟨⟨h.once, h.flight⟩, rfl, rfl⟩
    | cpu t => exact ⟨⟨h.once, h.flight⟩, rfl, rfl⟩
    | park t => exact ⟨⟨h.once, h.flight⟩, rfl, rfl⟩
  obtain ⟨hstill, hpending, hflight⟩ := hplaced
  obtain ⟨hchained, heq⟩ := pending_kicks hstill o.kicks
  rw [hpending, hflight] at heq
  exact ⟨hchained, heq⟩

omit [DecidableEq ι] in
/-- The head of the queue has become the job, or the job has gone on. -/
theorem pending_setJob {s₀ s : State ω τ π κ ι} (h : Chained P s₀) {k : κ}
    (hflight : s.inFlight = s₀.inFlight) (hpending : s₀.pending P = P.key k :: s.queue.map P.key)
    (o : ω × Next π) : Chained P (s.setJob k o) ∧ (s.setJob k o).pending P = s₀.pending P := by
  have heq : (s.setJob k o).pending P = s₀.pending P := hpending.symm
  refine ⟨⟨?_, fun i => ?_⟩, heq⟩
  · rw [heq]
    exact h.once
  · rw [heq]
    show i ∈ s.inFlight ↔ _
    rw [hflight]
    exact h.flight i

/-- **What a step does to the chain.** -/
inductive ChainStep (P : Program ω τ π κ ι ρ α β) (s s' : State ω τ π κ ι) : Action ρ α β → Prop where
  /-- The keys of its kicks are put at the end. -/
  | arrived (a : Action ρ α β) (ha : a ≠ .endJob)
      (h : s'.pending P = s.pending P ++ arrivedBy P s a) : ChainStep P s s' a
  /-- The job at the head has ended. -/
  | ended (k : κ) (hjob : s.job = some (k, .finished)) (h : s.pending P = P.key k :: s'.pending P) :
      ChainStep P s s' .endJob
  | crashed (h : s'.pending P = []) : ChainStep P s s' .crash

omit [DecidableEq ι] in
theorem pending_job {s : State ω τ π κ ι} {k : κ} {ph : Phase π} (h : s.job = some (k, ph)) :
    s.pending P = P.key k :: s.queue.map P.key := by
  rw [State.pending, h]
  rfl

theorem pending_step {s s' : State ω τ π κ ι} {a : Action ρ α β} (h : Chained P s)
    (hstep : step P s a = some s') : Chained P s' ∧ ChainStep P s s' a := by
  cases stepped_of_step P hstep with
  | clock now => exact ⟨⟨h.once, h.flight⟩, .arrived _ (by rintro ⟨⟩) (List.append_nil _).symm⟩
  | crash => exact ⟨⟨List.nodup_nil, fun _ => Iff.rfl⟩, .crashed rfl⟩
  | request r seed hfree =>
    obtain ⟨hchained, heq⟩ := pending_finish h (P.request s.clock seed s.world r)
    exact ⟨hchained, .arrived _ (by rintro ⟨⟩) heq⟩
  | runTask seed t hcpu =>
    have hidle : Chained P { s with cpu := none } := ⟨h.once, h.flight⟩
    obtain ⟨hchained, heq⟩ := pending_finish hidle (P.runTask s.clock seed s.world t)
    refine ⟨hchained, .arrived _ (by rintro ⟨⟩) ?_⟩
    rw [arrivedBy, kickedBy, hcpu]
    exact heq
  | resumeTask i a t o hfree ht ho =>
    have hidle : Chained P { s with parked := s.parked.eraseIdx i } := ⟨h.once, h.flight⟩
    obtain ⟨hchained, heq⟩ := pending_finish hidle o
    refine ⟨hchained, .arrived _ (by rintro ⟨⟩) ?_⟩
    rw [arrivedBy, kickedBy, ht, Option.bind_some, ho]
    exact heq
  | startJob seed k rest hfree hjob hq =>
    have hhead : s.pending P = P.key k :: rest.map P.key := by
      rw [State.pending, hjob, hq]
      rfl
    obtain ⟨hchained, heq⟩ := pending_setJob (s := { s with queue := rest }) h rfl hhead
      (P.startJob s.clock seed s.world k)
    exact ⟨hchained, .arrived _ (by rintro ⟨⟩) (heq.trans (List.append_nil _).symm)⟩
  | runJob seed k p hjob =>
    obtain ⟨hchained, heq⟩ := pending_setJob h rfl (pending_job hjob)
      (P.runJob s.clock seed s.world k p)
    exact ⟨hchained, .arrived _ (by rintro ⟨⟩) (heq.trans (List.append_nil _).symm)⟩
  | resumeJob a k p o hfree hjob ho =>
    obtain ⟨hchained, heq⟩ := pending_setJob h rfl (pending_job hjob) o
    exact ⟨hchained, .arrived _ (by rintro ⟨⟩) (heq.trans (List.append_nil _).symm)⟩
  | endJob k hjob =>
    have hpending := pending_job (P := P) hjob
    have honce := h.once
    rw [hpending, List.nodup_cons] at honce
    refine ⟨⟨honce.2, fun i => ?_⟩, .ended k hjob hpending⟩
    -- the key of the job that ends is taken out, and the chain names it nowhere else
    show i ∈ s.inFlight.filter (· ≠ P.key k) ↔ i ∈ s.queue.map P.key
    rw [List.mem_filter, h.flight i, hpending, List.mem_cons, decide_eq_true_iff]
    constructor
    · rintro ⟨hi | hi, hne⟩
      · exact absurd hi hne
      · exact hi
    · intro hi
      refine ⟨Or.inr hi, ?_⟩
      rintro rfl
      exact honce.1 hi

/-- **The chain names each key once, and what it names is in flight**, in every state of every run. -/
theorem chained_run {ok : State ω τ π κ ι → Action ρ α β → Prop} {now : Int} {w : ω}
    {s : State ω τ π κ ι} (r : Run P ok (State.boot now w) s) : Chained P s :=
  r.invariant (fun hs _ hstep => (pending_step hs hstep).1) ⟨List.nodup_nil, fun _ => Iff.rfl⟩

omit [DecidableEq ι] in
/-- At rest nothing is in flight. -/
theorem Chained.not_mem {s : State ω τ π κ ι} (h : Chained P s) (hrest : s.AtRest) (i : ι) :
    i ∉ s.inFlight := by
  rw [h.flight i, State.pending, hrest.job, hrest.queue]
  exact List.not_mem_nil

/-! ## Served in order -/

variable (P) in
/-- The key of the job a step ends. -/
def endedBy (s : State ω τ π κ ι) : Action ρ α β → List ι
  | .endJob =>
    match s.job with
    | some (k, .finished) => [P.key k]
    | _ => []
  | _ => []

variable (P) in
/-- A run without a crash, with the keys of the jobs that have ended in it and those of the kicks that it
    has taken in. -/
inductive Served (s : State ω τ π κ ι) : State ω τ π κ ι → List ι → List ι → Prop where
  | refl : Served s s [] []
  | tail {t u : State ω τ π κ ι} {a : Action ρ α β} {ended kicked : List ι} (r : Served s t ended kicked)
      (ha : a ≠ .crash) (h : step P t a = some u) :
      Served s u (ended ++ endedBy P t a) (kicked ++ arrivedBy P t a)

omit [DecidableEq ι] in
theorem endedBy_ne {s : State ω τ π κ ι} {a : Action ρ α β} (ha : a ≠ .endJob) : endedBy P s a = [] := by
  cases a with
  | endJob => exact absurd rfl ha
  | _ => rfl

/-- **Jobs are served in the order of their kicks**, each once, and none is left out: what was pending
    and the kicks taken in since are what has ended and what is still pending. -/
theorem Served.in_order {s t : State ω τ π κ ι} {ended kicked : List ι} (h : Chained P s)
    (r : Served P s t ended kicked) :
    Chained P t ∧ s.pending P ++ kicked = ended ++ t.pending P := by
  induction r with
  | refl => exact ⟨h, List.append_nil _⟩
  | @tail t u a ended kicked r ha hstep ih =>
    obtain ⟨hchained, heq⟩ := ih
    obtain ⟨hnext, hdoes⟩ := pending_step hchained hstep
    refine ⟨hnext, ?_⟩
    cases hdoes with
    | arrived _ hne hnew =>
      rw [endedBy_ne hne, List.append_nil, hnew, ← List.append_assoc, ← List.append_assoc, heq]
    | ended k hjob hhead =>
      have hnone : arrivedBy P t (.endJob : Action ρ α β) = [] := rfl
      rw [hnone, List.append_nil, heq, hhead, endedBy, hjob, List.append_assoc]
      rfl
    | crashed _ => exact absurd rfl ha

variable (P) in
/-- A run without a crash along these actions, `none` once one of them is not possible. -/
def served (o : State ω τ π κ ι × List ι × List ι) :
    List (Action ρ α β) → Option (State ω τ π κ ι × List ι × List ι)
  | [] => some o
  | .crash :: _ => none
  | a :: as => (step P o.1 a).bind fun u =>
    served (u, o.2.1 ++ endedBy P o.1 a, o.2.2 ++ arrivedBy P o.1 a) as

theorem Served.of_served {s : State ω τ π κ ι} {o o' : State ω τ π κ ι × List ι × List ι}
    {as : List (Action ρ α β)} (r : Served P s o.1 o.2.1 o.2.2) (h : served P o as = some o') :
    Served P s o'.1 o'.2.1 o'.2.2 := by
  induction as generalizing o with
  | nil =>
    obtain rfl := Option.some.inj h
    exact r
  | cons a as ih =>
    by_cases ha : a = .crash
    · subst ha
      exact absurd h (by simp [served])
    · rw [served.eq_3 P o a as ha] at h
      obtain ⟨u, hu, h⟩ := Option.bind_eq_some_iff.mp h
      exact ih (o := (u, _, _)) (r.tail ha hu) h

/-! ## What is queued -/

theorem mem_queue_kick {s : State ω τ π κ ι} {k k' : κ} (h : k' ∈ s.queue) :
    k' ∈ (s.kick P k).queue := by
  unfold State.kick
  split
  · exact h
  · exact List.mem_append_left _ h

theorem mem_queue_kicks {ks : List κ} {s : State ω τ π κ ι} {k' : κ} (h : k' ∈ s.queue) :
    k' ∈ (ks.foldl (State.kick P) s).queue := by
  induction ks generalizing s with
  | nil => exact h
  | cons k ks ih => exact ih (mem_queue_kick h)

theorem mem_queue_finish {s : State ω τ π κ ι} {o : Outcome ω τ κ} {k' : κ} (h : k' ∈ s.queue) :
    k' ∈ (s.finish P o).queue := by
  refine mem_queue_kicks ?_
  cases o.next <;> exact h

/-- A key that comes into flight is that of a kick that is queued. -/
theorem queued_of_kicks {ks : List κ} {s : State ω τ π κ ι} {i : ι}
    (hi : i ∈ (ks.foldl (State.kick P) s).inFlight) (hnot : i ∉ s.inFlight) :
    ∃ k ∈ ks, P.key k = i ∧ k ∈ (ks.foldl (State.kick P) s).queue := by
  induction ks generalizing s with
  | nil => exact absurd hi hnot
  | cons k ks ih =>
    by_cases hin : i ∈ (s.kick P k).inFlight
    · obtain rfl : i = P.key k := ((mem_inFlight_kick P).mp hin).resolve_left hnot
      refine ⟨k, List.mem_cons_self, rfl, ?_⟩
      rw [List.foldl_cons]
      refine mem_queue_kicks ?_
      rw [State.kick, if_neg hnot]
      exact List.mem_append_right _ List.mem_cons_self
    · obtain ⟨k', hk', hkey, hqueue⟩ := ih hi hin
      exact ⟨k', List.mem_cons_of_mem _ hk', hkey, hqueue⟩

/-- The same for a micro-step of a task. -/
theorem queued_of_finish {s : State ω τ π κ ι} {o : Outcome ω τ κ} {i : ι}
    (hi : i ∈ (s.finish P o).inFlight) (hnot : i ∉ s.inFlight) :
    ∃ k ∈ o.kicks, P.key k = i ∧ k ∈ (s.finish P o).queue := by
  refine queued_of_kicks hi ?_
  cases o.next <;> exact hnot

end

end EventLoop
