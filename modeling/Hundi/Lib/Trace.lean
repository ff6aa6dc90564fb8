/-
  Runs of the event loop with the steps they took.

  A state does not say how it was reached.  A statement about what was once done, and a side condition
  that looks back, are about the run: `Traced` is a run with its steps, each state it left and the
  action it took there, newest first.

  * `Traced.invariant` — what every allowed step keeps holds, of the steps so far and the state;
  * `Traced.between`   — a step of the run lies between its two ends.
-/
import Hundi.Lib.EventLoop

namespace EventLoop

section

variable {ω τ π κ ι ρ α β : Type} [DecidableEq ι] (P : Program ω τ π κ ι ρ α β)

/-- `t` is reached from `s` by the steps `past`.  Whether a step is allowed may depend on the steps
    before it. -/
inductive Traced (ok : List (State ω τ π κ ι × Action ρ α β) → State ω τ π κ ι → Action ρ α β → Prop)
    (s : State ω τ π κ ι) : List (State ω τ π κ ι × Action ρ α β) → State ω τ π κ ι → Prop where
  | refl : Traced ok s [] s
  | tail {past : List (State ω τ π κ ι × Action ρ α β)} {t u : State ω τ π κ ι} {a : Action ρ α β}
      (r : Traced ok s past t) (hok : ok past t a) (h : step P t a = some u) :
      Traced ok s ((t, a) :: past) u

/-- `run` with its steps, for as long as every step passes a check. -/
def traceIf (ok : List (State ω τ π κ ι × Action ρ α β) → State ω τ π κ ι → Action ρ α β → Bool)
    (past : List (State ω τ π κ ι × Action ρ α β)) (s : State ω τ π κ ι) :
    List (Action ρ α β) → Option (List (State ω τ π κ ι × Action ρ α β) × State ω τ π κ ι)
  | [] => some (past, s)
  | a :: as =>
    if ok past s a then (step P s a).bind fun s' => traceIf ok ((s, a) :: past) s' as else none

variable {P} {ok : List (State ω τ π κ ι × Action ρ α β) → State ω τ π κ ι → Action ρ α β → Prop}
  {past : List (State ω τ π κ ι × Action ρ α β)} {s t : State ω τ π κ ι}

theorem Traced.run (r : Traced P ok s past t) : Run P anyStep s t := by
  induction r with
  | refl => exact .refl
  | tail _ _ h ih => exact ih.tail trivial h

/-- **Invariance**, with the steps so far. -/
theorem Traced.invariant {I : List (State ω τ π κ ι × Action ρ α β) → State ω τ π κ ι → Prop}
    (hstep : ∀ {past t a u}, Traced P ok s past t → I past t → ok past t a → step P t a = some u →
      I ((t, a) :: past) u) (hs : I [] s) (r : Traced P ok s past t) : I past t := by
  induction r with
  | refl => exact hs
  | tail r hok h ih => exact hstep r ih hok h

/-- Each step of a run was taken on the way. -/
theorem Traced.between (r : Traced P ok s past t) {u : State ω τ π κ ι} {a : Action ρ α β}
    (hu : (u, a) ∈ past) : Run P anyStep s u ∧ Run P anyStep u t := by
  induction r with
  | refl => exact absurd hu List.not_mem_nil
  | tail r _ h ih =>
    rcases List.mem_cons.mp hu with heq | hu
    · obtain ⟨rfl, rfl⟩ := Prod.mk.inj heq
      exact ⟨r.run, Run.single trivial h⟩
    · obtain ⟨hbefore, hafter⟩ := ih hu
      exact ⟨hbefore, hafter.tail trivial h⟩

/-- The checked `traceIf` makes runs whose steps meet what the check tests for. -/
theorem Traced.of_traceIf
    {check : List (State ω τ π κ ι × Action ρ α β) → State ω τ π κ ι → Action ρ α β → Bool}
    (hcheck : ∀ past s a, check past s a = true → ok past s a) {s₀ : State ω τ π κ ι} :
    ∀ {as : List (Action ρ α β)} {past : List (State ω τ π κ ι × Action ρ α β)}
      {s : State ω τ π κ ι} {o : List (State ω τ π κ ι × Action ρ α β) × State ω τ π κ ι},
      Traced P ok s₀ past s → traceIf P check past s as = some o → Traced P ok s₀ o.1 o.2
  | [], past, s, o, r, h => by
    obtain rfl := Option.some.inj h
    exact r
  | a :: as, past, s, o, r, h => by
    rw [traceIf] at h
    split at h
    · rename_i hok
      obtain ⟨u, hu, hrest⟩ := Option.bind_eq_some_iff.mp h
      exact Traced.of_traceIf hcheck (r.tail (hcheck past s a hok) hu) hrest
    · exact nomatch h

end

end EventLoop
