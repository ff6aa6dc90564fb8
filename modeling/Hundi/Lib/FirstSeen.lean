/-
  Lists by first occurrences.

  `eraseDups` keeps each element at the place where it first stands.  Which element stands first is told
  by a cut: what is in front of it is known (`FirstOf`, `Precedes`).  A list without repetitions is known
  from its elements and from which of them precede which (`eq_of_precedes`), and neither dropping
  repetitions nor dropping other elements changes what precedes what.
-/
import Mathlib.Data.List.Basic
import Mathlib.Data.List.Nodup

namespace Js

/-! ## First occurrences -/

section

variable {α : Type} [BEq α] [LawfulBEq α]

theorem nodup_eraseDups (xs : List α) : xs.eraseDups.Nodup := by
  induction h : xs.length using Nat.strongRecOn generalizing xs with
  | ind n ih =>
    cases xs with
    | nil => exact List.nodup_nil
    | cons x xs =>
      rw [List.eraseDups_cons, List.nodup_cons]
      constructor
      · rw [List.mem_eraseDups, List.mem_filter]
        rintro ⟨-, hne⟩
        simp at hne
      · refine ih _ ?_ _ rfl
        have := List.length_filter_le (fun b => !b == x) xs
        rw [← h, List.length_cons]
        omega

theorem eraseDups_of_nodup {xs : List α} (h : xs.Nodup) : xs.eraseDups = xs := by
  induction xs with
  | nil => rfl
  | cons x xs ih =>
    rw [List.nodup_cons] at h
    rw [List.eraseDups_cons, List.filter_eq_self.mpr, ih h.2]
    intro y hy
    have hne : y ≠ x := fun heq => h.1 (heq ▸ hy)
    simp [hne]

theorem eraseDups_eraseDups_append (xs ys : List α) :
    (xs.eraseDups ++ ys).eraseDups = (xs ++ ys).eraseDups := by
  have hsame : ys.removeAll xs.eraseDups = ys.removeAll xs := by
    refine List.filter_congr fun y _ => ?_
    rw [Bool.eq_iff_iff]
    simp [List.mem_eraseDups]
  rw [List.eraseDups_append, List.eraseDups_append, eraseDups_of_nodup (nodup_eraseDups xs), hsame]

theorem eraseDups_filter (p : α → Bool) (xs : List α) :
    xs.eraseDups.filter p = (xs.filter p).eraseDups := by
  induction h : xs.length using Nat.strongRecOn generalizing xs with
  | ind n ih =>
    cases xs with
    | nil => rfl
    | cons x xs =>
      have hlen : (xs.filter fun b => !b == x).length < n := by
        have := List.length_filter_le (fun b => !b == x) xs
        rw [← h, List.length_cons]
        omega
      rw [List.eraseDups_cons]
      by_cases hx : p x = true
      · rw [List.filter_cons_of_pos hx, List.filter_cons_of_pos hx, List.eraseDups_cons, ih _ hlen _ rfl,
          List.filter_filter, List.filter_filter]
        simp only [Bool.and_comm]
      · rw [List.filter_cons_of_neg hx, List.filter_cons_of_neg hx, ih _ hlen _ rfl, List.filter_filter]
        congr 1
        refine List.filter_congr fun y _ => ?_
        by_cases hyx : y = x
        · subst hyx
          simp [hx]
        · simp [hyx]

theorem eraseDups_flatten (xss : List (List α)) :
    (xss.map List.eraseDups).flatten.eraseDups = xss.flatten.eraseDups := by
  induction xss with
  | nil => rfl
  | cons xs xss ih =>
    rw [List.map_cons, List.flatten_cons, List.flatten_cons, eraseDups_eraseDups_append,
      List.eraseDups_append, List.eraseDups_append]
    congr 1
    rw [List.removeAll, List.removeAll, ← eraseDups_filter, ← eraseDups_filter, ih]

/-- Two different elements are there if there are two first occurrences. -/
theorem one_lt_length_eraseDups {xs : List α} :
    1 < xs.eraseDups.length ↔ ∃ x ∈ xs, ∃ y ∈ xs, x ≠ y := by
  have hnodup := nodup_eraseDups xs
  have hmem : ∀ x, x ∈ xs ↔ x ∈ xs.eraseDups := fun x => List.mem_eraseDups.symm
  simp only [hmem]
  generalize xs.eraseDups = ys at hnodup
  match ys, hnodup with
  | [], _ => simp
  | [x], _ => simp
  | x :: y :: ys, hnodup =>
    refine iff_of_true (by simp) ⟨x, by simp, y, by simp, ?_⟩
    rintro rfl
    exact (List.nodup_cons.mp hnodup).1 List.mem_cons_self

end

/-! ## The first of its kind -/

section

variable {α β : Type}

/-- `x` is the first element of the list that `p` holds of. -/
def FirstOf (p : α → Prop) (xs : List α) (x : α) : Prop :=
  ∃ before after, xs = before ++ x :: after ∧ p x ∧ ∀ y ∈ before, ¬ p y

theorem firstOf_iff {p : α → Prop} [DecidablePred p] {xs : List α} {x : α} :
    FirstOf p xs x ↔ xs.find? (fun y => p y) = some x := by
  rw [List.find?_eq_some_iff_append]
  constructor
  · rintro ⟨before, after, rfl, hx, hbefore⟩
    exact ⟨decide_eq_true hx, before, after, rfl, fun y hy => by simpa using hbefore y hy⟩
  · rintro ⟨hx, before, after, rfl, hbefore⟩
    exact ⟨before, after, rfl, of_decide_eq_true hx, fun y hy => by simpa using hbefore y hy⟩

theorem firstOf_counts {p : α → Prop} {xs : List α} {x : α} : FirstOf p xs x → p x :=
  fun ⟨_, _, _, hx, _⟩ => hx

/-- The first of `xs` that counts has its counterpart in `ys`: the first that counts there, with the same
    value of `f`. -/
def FirstSurvives (counts : α → Prop) (f : α → β) (ys xs : List α) : Prop :=
  ∀ x, FirstOf counts xs x → ∃ y, FirstOf counts ys y ∧ f y = f x

/-- Where `ys` has nothing that `xs` has not, the two then have the same value, or neither has any. -/
theorem firstSurvives_iff {counts : α → Prop} [DecidablePred counts] {f : α → β} {ys xs : List α}
    (hsub : ys ⊆ xs) :
    FirstSurvives counts f ys xs ↔
      (ys.find? fun y => counts y).map f = (xs.find? fun x => counts x).map f := by
  constructor
  · intro h
    cases hx : xs.find? fun x => counts x with
    | some x =>
      obtain ⟨y, hy, hf⟩ := h x (firstOf_iff.mpr hx)
      rw [firstOf_iff.mp hy, Option.map_some, Option.map_some, hf]
    | none =>
      rw [List.find?_eq_none] at hx
      rw [List.find?_eq_none.mpr fun y hy => hx y (hsub hy)]
  · intro h x hx
    rw [firstOf_iff.mp hx, Option.map_some] at h
    obtain ⟨y, hy, hf⟩ := Option.map_eq_some_iff.mp h
    exact ⟨y, firstOf_iff.mpr hy, hf⟩

/-- The same with a default value that no element that counts has. -/
theorem firstSurvives_iff_getD {counts : α → Prop} [DecidablePred counts] {f : α → β} {ys xs : List α}
    {default : β} (hsub : ys ⊆ xs) (hdefault : ∀ x, counts x → f x ≠ default) :
    FirstSurvives counts f ys xs ↔
      ((ys.find? fun y => counts y).map f).getD default =
        ((xs.find? fun x => counts x).map f).getD default := by
  rw [firstSurvives_iff hsub]
  have hcounts : ∀ {zs : List α} {z : α}, zs.find? (fun z => counts z) = some z → f z ≠ default :=
    fun h => hdefault _ (firstOf_counts (firstOf_iff.mpr h))
  constructor
  · exact congrArg (Option.getD · default)
  · intro h
    cases hy : ys.find? fun y => counts y with
    | none =>
      cases hx : xs.find? fun x => counts x with
      | none => rfl
      | some x =>
        rw [hy, hx] at h
        exact absurd h.symm (hcounts hx)
    | some y =>
      cases hx : xs.find? fun x => counts x with
      | none =>
        rw [hy, hx] at h
        exact absurd h (hcounts hy)
      | some x =>
        rw [hy, hx] at h
        exact congrArg some h

end

/-! ## Order of first occurrences -/

section

variable {α : Type}

/-- Some `a` stands in front of every `b`. -/
def Precedes (xs : List α) (a b : α) : Prop :=
  ∃ before after, xs = before ++ a :: after ∧ b ∉ before

theorem precedes_cons {x : α} {xs : List α} {a b : α} :
    Precedes (x :: xs) a b ↔ x = a ∨ x ≠ b ∧ Precedes xs a b := by
  constructor
  · rintro ⟨before, after, heq, hb⟩
    cases before with
    | nil => exact .inl (List.cons.inj heq).1
    | cons y before =>
      obtain ⟨rfl, rfl⟩ := List.cons.inj heq
      rw [List.mem_cons, not_or] at hb
      exact .inr ⟨Ne.symm hb.1, before, after, rfl, hb.2⟩
  · rintro (rfl | ⟨hx, before, after, rfl, hb⟩)
    · exact ⟨[], xs, rfl, List.not_mem_nil⟩
    · refine ⟨x :: before, after, rfl, ?_⟩
      rw [List.mem_cons, not_or]
      exact ⟨Ne.symm hx, hb⟩

theorem precedes_filter {p : α → Bool} {xs : List α} {a b : α} (ha : p a = true) (hb : p b = true) :
    Precedes (xs.filter p) a b ↔ Precedes xs a b := by
  induction xs with
  | nil => exact Iff.rfl
  | cons x xs ih =>
    by_cases hx : p x = true
    · rw [List.filter_cons_of_pos hx, precedes_cons, precedes_cons, ih]
    · have hxa : x ≠ a := fun heq => hx (heq ▸ ha)
      have hxb : x ≠ b := fun heq => hx (heq ▸ hb)
      rw [List.filter_cons_of_neg hx, ih, precedes_cons]
      exact ⟨fun h => .inr ⟨hxb, h⟩, fun h => (h.resolve_left hxa).2⟩

theorem precedes_eraseDups [BEq α] [LawfulBEq α] {xs : List α} {a b : α} :
    Precedes xs.eraseDups a b ↔ Precedes xs a b := by
  induction h : xs.length using Nat.strongRecOn generalizing xs with
  | ind n ih =>
    cases xs with
    | nil => exact Iff.rfl
    | cons x xs =>
      have hlen : (xs.filter fun y => !y == x).length < n := by
        have := List.length_filter_le (fun y => !y == x) xs
        rw [← h, List.length_cons]
        omega
      rw [List.eraseDups_cons, precedes_cons, precedes_cons, ih _ hlen rfl]
      -- what the head equals is in front in both
      by_cases hxa : x = a
      · exact iff_of_true (.inl hxa) (.inl hxa)
      by_cases hxb : x = b
      · simp [hxb]
      rw [precedes_filter (by simpa using Ne.symm hxa) (by simpa using Ne.symm hxb)]

/-- **Same elements, same order.** -/
theorem eq_of_precedes {xs ys : List α} (hxs : xs.Nodup) (hys : ys.Nodup) (hmem : ∀ a, a ∈ xs ↔ a ∈ ys)
    (horder : ∀ a ∈ xs, ∀ b ∈ xs, Precedes xs a b → Precedes ys a b) : xs = ys := by
  induction xs generalizing ys with
  | nil =>
    rw [eq_comm, List.eq_nil_iff_forall_not_mem]
    exact fun a ha => List.not_mem_nil ((hmem a).mpr ha)
  | cons x xs ih =>
    obtain ⟨y, ys, rfl⟩ :=
      List.exists_cons_of_ne_nil (List.ne_nil_of_mem ((hmem x).mp List.mem_cons_self))
    -- the head of one precedes the head of the other
    have hxy : y = x := by
      have hy := (hmem y).mpr List.mem_cons_self
      have hprec := horder x List.mem_cons_self y hy (precedes_cons.mpr (.inl rfl))
      exact (precedes_cons.mp hprec).elim id fun h => absurd rfl h.1
    subst hxy
    rw [List.nodup_cons] at hxs hys
    rw [ih hxs.2 hys.2]
    · intro a
      have ha := hmem a
      rw [List.mem_cons, List.mem_cons] at ha
      constructor
      · intro hin
        exact (ha.mp (.inr hin)).resolve_left fun heq => hxs.1 (heq ▸ hin)
      · intro hin
        exact (ha.mpr (.inr hin)).resolve_left fun heq => hys.1 (heq ▸ hin)
    · intro a ha b hb hprec
      have hyb : y ≠ b := fun heq => hxs.1 (heq ▸ hb)
      have h := horder a (List.mem_cons_of_mem _ ha) b (List.mem_cons_of_mem _ hb)
        (precedes_cons.mpr (.inr ⟨hyb, hprec⟩))
      exact ((precedes_cons.mp h).resolve_left fun heq => hxs.1 (heq ▸ ha)).2

end

end Js
