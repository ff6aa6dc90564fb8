/-
  Hash chains.

  A row of a chain carries its own hash (`own`) and the hash of the row before it (`prev`); the
  first row names `start` instead.  `Linked` says that the rows hang together, `head` is the hash
  the chain publishes.

  Two rules:

  * `linked_append_singleton` — a row that names the head extends the chain;
  * `commit`                  — when a row's own hash determines its predecessor's hash and what else
                                it is said to bind (`Same`), and no row hashes to `start`, then the
                                head alone determines the whole chain: two chains with one head have
                                the same length and agree row by row.  The induction runs backwards,
                                from the head to the start.
-/
import Mathlib.Data.List.Forall2
import Mathlib.Data.List.Induction

namespace HashChain

section Chain

variable {ι κ : Type} (prev own : ι → κ)

/-- The hash of the last row. -/
def head (start : κ) (rows : List ι) : κ := (rows.getLast?.map own).getD start

/-- Every row names the hash of the row before it. -/
def Linked (start : κ) : List ι → Prop
  | [] => True
  | row :: rows => prev row = start ∧ Linked (own row) rows

@[simp] theorem head_nil (start : κ) : head own start [] = start := rfl

@[simp] theorem head_append_singleton (start : κ) (rows : List ι) (row : ι) :
    head own start (rows ++ [row]) = own row := by
  rw [head, List.getLast?_append, List.getLast?_singleton]
  rfl

theorem head_cons (start : κ) (row : ι) (rows : List ι) :
    head own start (row :: rows) = head own (own row) rows := by
  rw [head, head, List.getLast?_cons]
  cases rows.getLast? <;> rfl

/-- **A row that names the head extends the chain.** -/
theorem linked_append_singleton (start : κ) (rows : List ι) (row : ι) :
    Linked prev own start (rows ++ [row]) ↔
      Linked prev own start rows ∧ prev row = head own start rows := by
  induction rows generalizing start with
  | nil =>
    show prev row = start ∧ True ↔ True ∧ prev row = start
    rw [and_comm]
  | cons first rows ih =>
    rw [List.cons_append, Linked, Linked, ih, head_cons, and_assoc]

/-- **The head determines the chain.** -/
theorem commit {Same : ι → ι → Prop} {start : κ} {rows rows' : List ι}
    (hl : Linked prev own start rows) (hl' : Linked prev own start rows')
    (hbind : ∀ row ∈ rows, ∀ row' ∈ rows', own row = own row' → prev row = prev row' ∧ Same row row')
    (hstart : ∀ row ∈ rows, own row ≠ start) (hstart' : ∀ row ∈ rows', own row ≠ start)
    (hhead : head own start rows = head own start rows') : List.Forall₂ Same rows rows' := by
  induction rows using List.reverseRecOn generalizing rows' with
  | nil =>
    rcases List.eq_nil_or_concat rows' with rfl | ⟨init', last', rfl⟩
    · exact List.Forall₂.nil
    · -- a chain that is not empty does not publish the start
      exfalso
      rw [List.concat_eq_append] at hstart' hhead
      rw [head_nil, head_append_singleton] at hhead
      exact hstart' last' (List.mem_append_right _ List.mem_cons_self) hhead.symm
  | append_singleton init last ih =>
    have hlast : last ∈ init ++ [last] := List.mem_append_right _ List.mem_cons_self
    rcases List.eq_nil_or_concat rows' with rfl | ⟨init', last', rfl⟩
    · exfalso
      rw [head_nil, head_append_singleton] at hhead
      exact hstart last hlast hhead
    · rw [List.concat_eq_append] at hl' hbind hstart' hhead ⊢
      have hlast' : last' ∈ init' ++ [last'] := List.mem_append_right _ List.mem_cons_self
      obtain ⟨hinit, hprev⟩ := (linked_append_singleton prev own start init last).mp hl
      obtain ⟨hinit', hprev'⟩ := (linked_append_singleton prev own start init' last').mp hl'
      rw [head_append_singleton, head_append_singleton] at hhead
      obtain ⟨hpp, hsame⟩ := hbind last hlast last' hlast' hhead
      -- the last rows name one predecessor, so the chains before them publish one head
      have hrest : head own start init = head own start init' := by
        rw [← hprev, ← hprev', hpp]
      have hinits := ih hinit hinit'
        (fun row hr row' hr' => hbind row (List.mem_append_left _ hr) row'
          (List.mem_append_left _ hr'))
        (fun row hr => hstart row (List.mem_append_left _ hr))
        (fun row hr => hstart' row (List.mem_append_left _ hr)) hrest
      exact List.rel_append hinits (List.Forall₂.cons hsame List.Forall₂.nil)

end Chain

end HashChain
