/-
  Event sourcing.

  A `Machine` reads events and may refuse one.  A journal is a list of entries, some of which are events
  about a key (`eventsAbout`).  A journal *tells* the stage of every key (`Tells`) when the machine, run
  over the events about the key, ends in that stage, and there is no event about a key without one.

  A system that appends to its journal in the transaction that changes a stage keeps `Tells`: it is
  enough that the events a step appends move each key from the stage it had to the one it has
  (`Tells.step`).
-/
import Mathlib.Data.List.Basic

namespace EventSourcing

/-- A partial automaton over events. -/
structure Machine (σ ε : Type) where
  start : σ
  next : σ → ε → Option σ

section

variable {σ ε κ η : Type} {M : Machine σ ε}

/-- The stage after some events, `none` if one of them is refused. -/
def Machine.replayFrom (M : Machine σ ε) (s : σ) (events : List ε) : Option σ := events.foldlM M.next s

def Machine.replay (M : Machine σ ε) (events : List ε) : Option σ := M.replayFrom M.start events

theorem replayFrom_nil (s : σ) : M.replayFrom s [] = some s := rfl

theorem replayFrom_one (s : σ) (e : ε) : M.replayFrom s [e] = M.next s e := by
  show (M.next s e).bind some = M.next s e
  exact Option.bind_fun_some _

theorem replayFrom_append (s : σ) (events more : List ε) :
    M.replayFrom s (events ++ more) = (M.replayFrom s events).bind fun t => M.replayFrom t more :=
  List.foldlM_append

variable [DecidableEq κ] {about : η → Option (κ × ε)}

/-- The events about a key, in their order. -/
def eventsAbout (about : η → Option (κ × ε)) (journal : List η) (k : κ) : List ε :=
  journal.filterMap fun entry => (about entry).bind fun e => if e.1 = k then some e.2 else none

theorem eventsAbout_append (journal l : List η) (k : κ) :
    eventsAbout about (journal ++ l) k = eventsAbout about journal k ++ eventsAbout about l k :=
  List.filterMap_append

theorem eventsAbout_silent {l : List η} (h : ∀ entry ∈ l, about entry = none) (k : κ) :
    eventsAbout about l k = [] := by
  refine List.filterMap_eq_nil_iff.mpr fun entry hentry => ?_
  rw [h entry hentry]
  rfl

theorem eventsAbout_one {entry : η} {k : κ} {e : ε} (h : about entry = some (k, e)) (k' : κ) :
    eventsAbout about [entry] k' = if k = k' then [e] else [] := by
  rw [eventsAbout, List.filterMap_cons, h]
  by_cases hk : k = k'
  · rw [if_pos hk]
    simp only [Option.bind_some, if_pos hk, List.filterMap_nil]
  · rw [if_neg hk]
    simp only [Option.bind_some, if_neg hk, List.filterMap_nil]

/-- The events take a key from one stage to another.  A key without a stage is yet to start. -/
def Machine.Moves (M : Machine σ ε) (before : Option σ) (events : List ε) (after : Option σ) : Prop :=
  match after with
  | none => before = none ∧ events = []
  | some s => M.replayFrom (before.getD M.start) events = some s

theorem moves_refl (stage : Option σ) : M.Moves stage [] stage := by
  cases stage with
  | none => exact ⟨rfl, rfl⟩
  | some s => exact replayFrom_nil s

/-- **The journal tells the stage of every key.** -/
structure Tells (M : Machine σ ε) (about : η → Option (κ × ε)) (journal : List η) (stage : κ → Option σ) :
    Prop where
  present : ∀ k s, stage k = some s → M.replay (eventsAbout about journal k) = some s
  absent : ∀ k, stage k = none → eventsAbout about journal k = []

theorem tells_nil : Tells M about [] (fun _ : κ => none) where
  present := fun k s h => by cases h
  absent := fun _ _ => rfl

/-- **A step that writes what it does keeps the journal telling.** -/
theorem Tells.step {journal l : List η} {stage stage' : κ → Option σ} (h : Tells M about journal stage)
    (hmoves : ∀ k, M.Moves (stage k) (eventsAbout about l k) (stage' k)) :
    Tells M about (journal ++ l) stage' := by
  have hbefore : ∀ k, M.replay (eventsAbout about journal k) = some ((stage k).getD M.start) := by
    intro k
    cases hstage : stage k with
    | none =>
      rw [h.absent k hstage]
      rfl
    | some s => exact h.present k s hstage
  constructor
  · intro k s hs
    have hmove := hmoves k
    rw [hs] at hmove
    rw [Machine.replay, eventsAbout_append, replayFrom_append, ← Machine.replay, hbefore k]
    exact hmove
  · intro k hnone
    have hmove := hmoves k
    rw [hnone] at hmove
    rw [eventsAbout_append, h.absent k hmove.1, hmove.2]
    rfl

end

end EventSourcing
