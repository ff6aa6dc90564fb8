/-
  The first entries of a list in an order: what a listing with a limit shows.

  `best le n l` sorts by `le` and keeps `n` entries.  For a total preorder nothing that is left out comes
  before anything that is kept (`best_before`), and where something is left out the limit is used up
  (`best_full`).  Where the order tells the entries apart, the list they came in does not matter
  (`best_perm`).
-/
import Mathlib.Data.List.Nodup

namespace TopK

variable {α β : Type} {le : α → α → Bool} {n : Nat} {l l' : List α} {a b : α}

/-- `l.sort(compare).slice(0, n)`. -/
def best (le : α → α → Bool) (n : Nat) (l : List α) : List α := (l.mergeSort le).take n

/-- A total preorder, as a sort needs it. -/
structure Ranks (le : α → α → Bool) : Prop where
  trans : ∀ a b c, le a b = true → le b c = true → le a c = true
  total : ∀ a b, (le a b || le b a) = true

/-- The order by a key, the greatest first. -/
theorem Ranks.byKey (key : α → Int) : Ranks fun a b => decide (key b ≤ key a) where
  trans := by
    intro a b c hab hbc
    rw [decide_eq_true_eq] at hab hbc ⊢
    omega
  total := by
    intro a b
    rw [Bool.or_eq_true, decide_eq_true_eq, decide_eq_true_eq]
    omega

theorem mem_of_mem_best (h : a ∈ best le n l) : a ∈ l := by
  rw [best] at h
  exact List.mem_mergeSort.mp (List.mem_of_mem_take h)

theorem length_best_le : (best le n l).length ≤ n := by
  rw [best, List.length_take]
  omega

theorem best_sorted (hle : Ranks le) : (best le n l).Pairwise fun a b => le a b = true :=
  (List.pairwise_mergeSort hle.trans hle.total l).sublist (List.take_sublist n _)

/-- What is left out is in the rest of the sorted list. -/
theorem mem_drop_of_not_mem_best (hb : b ∈ l) (hout : b ∉ best le n l) : b ∈ (l.mergeSort le).drop n := by
  have hsorted : b ∈ l.mergeSort le := List.mem_mergeSort.mpr hb
  rw [← List.take_append_drop n (l.mergeSort le), List.mem_append] at hsorted
  exact hsorted.resolve_left hout

/-- **Nothing that is left out comes before what is kept.** -/
theorem best_before (hle : Ranks le) (ha : a ∈ best le n l) (hb : b ∈ l) (hout : b ∉ best le n l) :
    le a b = true := by
  have hsorted := List.pairwise_mergeSort hle.trans hle.total l
  rw [← List.take_append_drop n (l.mergeSort le), List.pairwise_append] at hsorted
  exact hsorted.2.2 a ha b (mem_drop_of_not_mem_best hb hout)

/-- **Where something is left out the limit is used up.** -/
theorem best_full (hb : b ∈ l) (hout : b ∉ best le n l) : (best le n l).length = n := by
  have hpos := List.length_pos_of_mem (mem_drop_of_not_mem_best hb hout)
  rw [List.length_drop] at hpos
  rw [best, List.length_take]
  omega

theorem best_nodup {f : α → β} (h : (l.map f).Nodup) : ((best le n l).map f).Nodup := by
  have hperm : ((l.mergeSort le).map f).Nodup :=
    ((List.mergeSort_perm l le).map f).nodup_iff.mpr h
  exact hperm.sublist ((List.take_sublist n _).map f)

/-- **The list they came in does not matter**, where the order tells the entries apart. -/
theorem best_perm (hle : Ranks le)
    (hanti : ∀ a ∈ l, ∀ b ∈ l, le a b = true → le b a = true → a = b) (h : l.Perm l') :
    best le n l = best le n l' := by
  have hsame : l.mergeSort le = l'.mergeSort le := by
    apply List.Perm.eq_of_pairwise ?_
      (List.pairwise_mergeSort hle.trans hle.total l) (List.pairwise_mergeSort hle.trans hle.total l') ?_
    · intro a b ha hb hab hba
      exact hanti a (List.mem_mergeSort.mp ha) b (h.mem_iff.mpr (List.mem_mergeSort.mp hb)) hab hba
    · exact (List.mergeSort_perm l le).trans (h.trans (List.mergeSort_perm l' le).symm)
  rw [best, hsame, best]

end TopK
