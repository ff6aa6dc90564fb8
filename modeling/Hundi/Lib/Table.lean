/-
  Relational tables under unique indexes.

  A `Table α clash` is a list of rows no two of which `clash`.  `clash a b` says that a unique
  index forbids `a` and `b` to stand in one table: equal primary keys, equal keys of a partial
  index whose predicate both rows meet, and so on, as one Boolean.  The invariant is a field, so
  a table that breaks one of its indexes cannot be built: `insert?` and `update?` return `none`
  where the database would raise its constraint error.

  The rest is the algebra proofs need: which rows an operation leaves (`mem_insert?`,
  `mem_update?`), that rows with equal keys are one row (`eq_of_clash`), and how a weighted total
  over the rows moves (`sum_insert?`, `sum_update?`, `sum_update?_single`) and splits into groups
  (`lookup_groupSum`).
-/
import Mathlib.Data.List.Pairwise
import Mathlib.Algebra.Order.BigOperators.Group.List
import Mathlib.Tactic.Ring

/-- A counted kind that occurs at most once has one member. -/
theorem eq_of_countP_le_one {α : Type} {q : α → Bool} : ∀ {l : List α}, l.countP q ≤ 1 →
    ∀ {a b : α}, a ∈ l → q a = true → b ∈ l → q b = true → a = b
  | c :: l, h, a, b, ha, hqa, hb, hqb => by
    rw [List.countP_cons] at h
    have htail : ∀ x, x ∈ l → q x = true → 0 < l.countP q := fun x hx hqx =>
      List.countP_pos_iff.mpr ⟨x, hx, hqx⟩
    rcases List.mem_cons.mp ha with rfl | ha' <;> rcases List.mem_cons.mp hb with rfl | hb'
    · rfl
    · have hpos := htail b hb' hqb
      rw [if_pos hqa] at h
      omega
    · have hpos := htail a ha' hqa
      rw [if_pos hqb] at h
      omega
    · exact eq_of_countP_le_one (by omega) ha' hqa hb' hqb

/-- What one member alone is, is counted once. -/
theorem countP_eq_one {α : Type} {q : α → Bool} {l : List α} {a : α} (hnd : l.Nodup) (ha : a ∈ l)
    (hq : ∀ b ∈ l, q b = true ↔ b = a) : l.countP q = 1 := by
  classical
  have hcount : l.count a = 1 := by rw [hnd.count, if_pos ha]
  rw [← hcount]
  refine List.countP_congr fun b hb => ?_
  rw [hq b hb, beq_iff_eq]

/-- Rows no two of which clash. -/
structure Table (α : Type) (clash : α → α → Bool) where
  rows : List α
  unique : rows.Pairwise fun a b => clash a b = false

namespace Table

variable {α : Type} {clash : α → α → Bool}

/-- The table as `CREATE TABLE` leaves it. -/
def empty : Table α clash := ⟨[], List.Pairwise.nil⟩

/-- `INSERT`: `none` on a unique-constraint violation. -/
def insert? (t : Table α clash) (a : α) : Option (Table α clash) :=
  if h : ∀ b ∈ t.rows, clash b a = false then
    some ⟨t.rows ++ [a], List.pairwise_append.mpr
      ⟨t.unique, List.pairwise_singleton _ _, fun b hb _ hc => List.mem_singleton.mp hc ▸ h b hb⟩⟩
  else none

/-- The rows after `UPDATE … SET f WHERE p`. -/
def updateRows (p : α → Bool) (f : α → α) (rows : List α) : List α :=
  rows.map fun r => if p r then f r else r

/-- `UPDATE … SET f WHERE p`: `none` on a unique-constraint violation. -/
def update? (t : Table α clash) (p : α → Bool) (f : α → α) : Option (Table α clash) :=
  if h : (updateRows p f t.rows).Pairwise fun a b => clash a b = false then
    some ⟨updateRows p f t.rows, h⟩
  else none

/-- `DELETE … WHERE p`. -/
def delete (t : Table α clash) (p : α → Bool) : Table α clash :=
  ⟨t.rows.filter fun r => !p r, t.unique.sublist List.filter_sublist⟩

/-- `SELECT … WHERE p`, the first row of it. -/
def find? (t : Table α clash) (p : α → Bool) : Option α := t.rows.find? p

/-! ## Which rows there are afterwards -/

theorem insert?_eq_some {t t' : Table α clash} {a : α} (h : t.insert? a = some t') :
    t'.rows = t.rows ++ [a] ∧ ∀ b ∈ t.rows, clash b a = false := by
  unfold insert? at h
  split at h
  · rename_i hfree
    obtain rfl := Option.some.inj h
    exact ⟨rfl, hfree⟩
  · exact absurd h (by simp)

/-- A row that clashes with none can be inserted. -/
theorem insert?_isSome {t : Table α clash} {a : α} (h : ∀ b ∈ t.rows, clash b a = false) :
    ∃ t', t.insert? a = some t' :=
  ⟨_, dif_pos h⟩

theorem mem_insert? {t t' : Table α clash} {a r : α} (h : t.insert? a = some t') :
    r ∈ t'.rows ↔ r ∈ t.rows ∨ r = a := by
  rw [(insert?_eq_some h).1, List.mem_append, List.mem_singleton]

theorem update?_rows {t t' : Table α clash} {p : α → Bool} {f : α → α}
    (h : t.update? p f = some t') : t'.rows = updateRows p f t.rows := by
  unfold update? at h
  split at h
  · obtain rfl := Option.some.inj h
    rfl
  · exact absurd h (by simp)

theorem mem_update? {t t' : Table α clash} {p : α → Bool} {f : α → α} {r : α}
    (h : t.update? p f = some t') :
    r ∈ t'.rows ↔ (∃ r₀ ∈ t.rows, p r₀ = true ∧ r = f r₀) ∨ (r ∈ t.rows ∧ p r = false) := by
  rw [update?_rows h, updateRows, List.mem_map]
  constructor
  · rintro ⟨r₀, hr₀, rfl⟩
    by_cases hp : p r₀ = true
    · exact Or.inl ⟨r₀, hr₀, hp, if_pos hp⟩
    · rw [if_neg hp]
      exact Or.inr ⟨hr₀, Bool.eq_false_iff.mpr hp⟩
  · rintro (⟨r₀, hr₀, hp, rfl⟩ | ⟨hr, hp⟩)
    · exact ⟨r₀, hr₀, if_pos hp⟩
    · exact ⟨r, hr, by rw [if_neg (by rw [hp]; decide)]⟩

@[simp] theorem mem_delete {t : Table α clash} {p : α → Bool} {r : α} :
    r ∈ (t.delete p).rows ↔ r ∈ t.rows ∧ p r = false := by
  simp [delete]

/-- An update that keeps every index key keeps the table legal. -/
theorem update?_isSome {t : Table α clash} {p : α → Bool} {f : α → α}
    (hsame : ∀ a ∈ t.rows, ∀ b ∈ t.rows, clash a b = false →
      clash (if p a then f a else a) (if p b then f b else b) = false) :
    (t.update? p f).isSome = true := by
  have hp : (updateRows p f t.rows).Pairwise fun a b => clash a b = false := by
    rw [updateRows, List.pairwise_map]
    exact t.unique.imp_of_mem fun ha hb hab => hsame _ ha _ hb hab
  rw [update?, dif_pos hp]
  rfl

theorem find?_mem {t : Table α clash} {p : α → Bool} {r : α} (h : t.find? p = some r) :
    r ∈ t.rows ∧ p r = true :=
  ⟨List.mem_of_find?_eq_some h, List.find?_some h⟩

theorem find?_none {t : Table α clash} {p : α → Bool} (h : t.find? p = none) :
    ∀ r ∈ t.rows, p r = false := by
  intro r hr
  have := List.find?_eq_none.mp h r hr
  exact Bool.eq_false_iff.mpr this

/-! ## INSERT … ON CONFLICT DO UPDATE -/

theorem find?_insert? {t t' : Table α clash} {a : α} {p : α → Bool} (h : t.insert? a = some t')
    (hkey : ∀ b, clash b a = p b) (ha : p a = true) : t'.find? p = some a := by
  obtain ⟨hrows, hfree⟩ := insert?_eq_some h
  have hnone : t.rows.find? p = none := by
    rw [List.find?_eq_none]
    intro b hb
    rw [← hkey b, hfree b hb]
    decide
  rw [find?, hrows, List.find?_append, hnone, Option.none_or, List.find?_cons_of_pos ha]

theorem find?_update? {t t' : Table α clash} {p : α → Bool} {f : α → α} {r : α}
    (h : t.update? p f = some t') (hkeep : ∀ b, p b = true → p (f b) = true)
    (hr : t.find? p = some r) : t'.find? p = some (f r) := by
  have hrow : ∀ b, p (if p b then f b else b) = p b := by
    intro b
    by_cases hb : p b = true
    · rw [if_pos hb, hkeep b hb, hb]
    · rw [if_neg hb]
  rw [find?, update?_rows h, updateRows, List.find?_map]
  have hcomp : (p ∘ fun b => if p b then f b else b) = p := funext hrow
  rw [hcomp]
  change Option.map _ (t.find? p) = _
  rw [hr, Option.map_some, if_pos (find?_mem hr).2]

/-- **An upsert leaves a row under its key**: the inserted one, or the old one updated. -/
theorem upsert_find? {t : Table α clash} {a : α} {p : α → Bool} {f : α → α}
    (hkey : ∀ b, clash b a = p b) (ha : p a = true) (hkeep : ∀ b, p b = true → p (f b) = true)
    (hsame : ∀ b c, clash b c = false →
      clash (if p b then f b else b) (if p c then f c else c) = false) :
    (∃ t', t.insert? a = some t' ∧ t'.find? p = some a) ∨
      t.insert? a = none ∧ ∃ t' r, t.update? p f = some t' ∧ t'.find? p = some (f r) := by
  cases hins : t.insert? a with
  | some t' => exact Or.inl ⟨t', rfl, find?_insert? hins hkey ha⟩
  | none =>
    have htaken : ∃ b ∈ t.rows, p b = true := by
      by_contra hno
      have hfree : ∀ b ∈ t.rows, clash b a = false := by
        intro b hb
        rw [hkey b]
        exact Bool.eq_false_iff.mpr fun hp => hno ⟨b, hb, hp⟩
      rw [insert?, dif_pos hfree] at hins
      exact nomatch hins
    obtain ⟨r, hr⟩ := Option.isSome_iff_exists.mp (List.find?_isSome.mpr htaken)
    obtain ⟨t', ht'⟩ := Option.isSome_iff_exists.mp
      (update?_isSome (t := t) fun b _ c _ hbc => hsame b c hbc)
    exact Or.inr ⟨rfl, t', r, ht', find?_update? ht' hkeep hr⟩

/-! ## Keys -/

/-- **Two rows that clash are the same row.** -/
theorem eq_of_clash (hsymm : ∀ a b, clash a b = clash b a) (t : Table α clash) {a b : α}
    (ha : a ∈ t.rows) (hb : b ∈ t.rows) (h : clash a b = true) : a = b := by
  by_contra hne
  have hs : Std.Symm fun a b => clash a b = false := ⟨fun a b hab => by rw [hsymm]; exact hab⟩
  have hf := t.unique.forall ha hb hne
  rw [hf] at h
  exact absurd h (by decide)

/-- A table whose rows clash with themselves lists no row twice. -/
theorem nodup (hself : ∀ a, clash a a = true) (t : Table α clash) : t.rows.Nodup := by
  refine t.unique.imp ?_
  rintro a b hab rfl
  rw [hself] at hab
  exact absurd hab (by decide)

/-- Looking a row up by a predicate that only it meets finds it. -/
theorem find?_eq_some {t : Table α clash} {p : α → Bool} {r : α} (hr : r ∈ t.rows)
    (hp : p r = true) (honly : ∀ r' ∈ t.rows, p r' = true → r' = r) : t.find? p = some r := by
  cases h : t.find? p with
  | none =>
    have := find?_none h r hr
    rw [hp] at this
    exact absurd this (by decide)
  | some r' =>
    obtain ⟨hr', hp'⟩ := find?_mem h
    rw [honly r' hr' hp']

/-! ## Weighted totals -/

/-- The total of a weight over the rows. -/
def sum (t : Table α clash) (w : α → Int) : Int := (t.rows.map w).sum

theorem sum_insert? {t t' : Table α clash} {a : α} (h : t.insert? a = some t') (w : α → Int) :
    t'.sum w = t.sum w + w a := by
  rw [sum, (insert?_eq_some h).1, List.map_append, List.sum_append, sum, List.map_singleton,
    List.sum_singleton]

/-- An update that keeps the weight of every row it touches keeps the total. -/
theorem sum_update? {t t' : Table α clash} {p : α → Bool} {f : α → α} (h : t.update? p f = some t')
    (w : α → Int) (hw : ∀ r ∈ t.rows, p r = true → w (f r) = w r) : t'.sum w = t.sum w := by
  rw [sum, update?_rows h, updateRows, List.map_map, sum]
  congr 1
  refine List.map_congr_left fun r hr => ?_
  by_cases hp : p r = true
  · rw [Function.comp_apply, if_pos hp, hw r hr hp]
  · rw [Function.comp_apply, if_neg hp]

/-- Changing the weight of one member of a list. -/
theorem list_sum_single (w w' : α → Int) {r : α} : ∀ {rows : List α}, rows.Nodup → r ∈ rows →
    (∀ r' ∈ rows, r' ≠ r → w' r' = w r') → (rows.map w').sum = (rows.map w).sum - w r + w' r
  | [], _, hr, _ => absurd hr (List.not_mem_nil)
  | a :: rows, hnd, hr, hw => by
    rw [List.nodup_cons] at hnd
    rw [List.map_cons, List.map_cons, List.sum_cons, List.sum_cons]
    rcases List.mem_cons.mp hr with rfl | hr
    · have hrest : rows.map w' = rows.map w := List.map_congr_left fun b hb =>
        hw b (List.mem_cons_of_mem _ hb) fun hbr => hnd.1 (hbr ▸ hb)
      rw [hrest]
      ring
    · have hne : a ≠ r := fun har => hnd.1 (har ▸ hr)
      rw [list_sum_single w w' hnd.2 hr fun b hb => hw b (List.mem_cons_of_mem _ hb),
        hw a List.mem_cons_self hne]
      ring

/-- A weight that only one row has totals to it. -/
theorem sum_single {t : Table α clash} {w : α → Int} {r : α} (hnd : t.rows.Nodup) (hr : r ∈ t.rows)
    (hw : ∀ r' ∈ t.rows, r' ≠ r → w r' = 0) : t.sum w = w r := by
  have hzero : (t.rows.map fun _ => (0 : Int)).sum = 0 :=
    List.sum_eq_zero fun x hx => by
      obtain ⟨_, -, rfl⟩ := List.mem_map.mp hx
      rfl
  have hsum := list_sum_single (fun _ => 0) w hnd hr hw
  rw [hzero] at hsum
  show (t.rows.map w).sum = w r
  omega

/-- **An update of one row moves the total by that row's change of weight.** -/
theorem sum_update?_single {t t' : Table α clash} {p : α → Bool} {f : α → α} {r : α}
    (h : t.update? p f = some t') (hnd : t.rows.Nodup) (hr : r ∈ t.rows) (hp : p r = true)
    (honly : ∀ r' ∈ t.rows, p r' = true → r' = r) (w : α → Int) :
    t'.sum w = t.sum w - w r + w (f r) := by
  have hsum := list_sum_single w (fun a => w (if p a then f a else a)) hnd hr fun b hb hbr => by
    by_cases hpb : p b = true
    · exact absurd (honly b hb hpb) hbr
    · rw [if_neg hpb]
  rw [sum, update?_rows h, updateRows, List.map_map, sum]
  simpa only [Function.comp_def, if_pos hp] using hsum

/-- Weights that are nowhere negative have a total that is not. -/
theorem sum_nonneg {t : Table α clash} {w : α → Int} (hw : ∀ r ∈ t.rows, 0 ≤ w r) : 0 ≤ t.sum w := by
  refine List.sum_nonneg fun x hx => ?_
  obtain ⟨r, hr, rfl⟩ := List.mem_map.mp hx
  exact hw r hr

/-- Weights that are all zero have total zero. -/
theorem sum_eq_zero {t : Table α clash} {w : α → Int} (hw : ∀ r ∈ t.rows, w r = 0) : t.sum w = 0 := by
  refine List.sum_eq_zero fun x hx => ?_
  obtain ⟨r, hr, rfl⟩ := List.mem_map.mp hx
  exact hw r hr

/-- A pointwise smaller weight has a smaller total. -/
theorem sum_le_sum {t : Table α clash} {v w : α → Int} (h : ∀ r ∈ t.rows, v r ≤ w r) :
    t.sum v ≤ t.sum w :=
  List.sum_le_sum h

theorem sum_congr {t : Table α clash} {v w : α → Int} (h : ∀ r ∈ t.rows, v r = w r) :
    t.sum v = t.sum w := by
  rw [sum, List.map_congr_left h, sum]

/-! ## SELECT COUNT(*) -/

theorem countP_insert? {t t' : Table α clash} {a : α} (h : t.insert? a = some t') (q : α → Bool) :
    t'.rows.countP q = t.rows.countP q + if q a then 1 else 0 := by
  rw [(insert?_eq_some h).1, List.countP_append, List.countP_singleton]

theorem length_insert? {t t' : Table α clash} {a : α} (h : t.insert? a = some t') :
    t'.rows.length = t.rows.length + 1 := by
  rw [(insert?_eq_some h).1, List.length_append, List.length_singleton]

theorem length_update? {t t' : Table α clash} {p : α → Bool} {f : α → α} (h : t.update? p f = some t') :
    t'.rows.length = t.rows.length := by
  rw [update?_rows h, updateRows, List.length_map]

/-- An update that keeps the kind of every row it touches keeps the count. -/
theorem countP_update? {t t' : Table α clash} {p : α → Bool} {f : α → α} (h : t.update? p f = some t')
    (q : α → Bool) (hq : ∀ r ∈ t.rows, p r = true → q (f r) = q r) : t'.rows.countP q = t.rows.countP q := by
  rw [update?_rows h, updateRows, List.countP_map]
  refine List.countP_congr fun r hr => ?_
  show q (if p r = true then f r else r) = true ↔ _
  by_cases hp : p r = true
  · rw [if_pos hp, hq r hr hp]
  · rw [if_neg hp]

/-- Rows of a kind that clash with one another are one at most. -/
theorem countP_le_one (t : Table α clash) {q : α → Bool}
    (hq : ∀ a b, q a = true → q b = true → clash a b = true) : t.rows.countP q ≤ 1 := by
  have hcount : ∀ {rows : List α}, rows.Pairwise (fun a b => clash a b = false) → rows.countP q ≤ 1 := by
    intro rows hrows
    induction hrows with
    | nil => exact Nat.zero_le 1
    | @cons a rows ha _ ih =>
      rw [List.countP_cons]
      by_cases hqa : q a = true
      · have hnone : rows.countP q = 0 := by
          refine List.countP_eq_zero.mpr fun b hb hqb => ?_
          have hclash := hq a b hqa hqb
          rw [ha b hb] at hclash
          exact Bool.false_ne_true hclash
        rw [hnone, if_pos hqa]
      · rw [if_neg hqa]
        exact ih
  exact hcount t.unique

/-- An update of one row changes the count by what that row counts. -/
theorem countP_update?_single {t t' : Table α clash} {p : α → Bool} {f : α → α} {r : α}
    (h : t.update? p f = some t') (hnd : t.rows.Nodup) (hr : r ∈ t.rows) (hp : p r = true)
    (honly : ∀ r' ∈ t.rows, p r' = true → r' = r) (q : α → Bool) :
    t'.rows.countP q + (if q r then 1 else 0) = t.rows.countP q + if q (f r) then 1 else 0 := by
  have hcount : ∀ {rows : List α}, rows.Nodup → r ∈ rows → (∀ r' ∈ rows, p r' = true → r' = r) →
      (updateRows p f rows).countP q + (if q r then 1 else 0) =
        rows.countP q + if q (f r) then 1 else 0 := by
    intro rows hnd hr honly
    induction rows with
    | nil => exact absurd hr List.not_mem_nil
    | cons a rows ih =>
      rw [List.nodup_cons] at hnd
      rw [updateRows, List.map_cons, List.countP_cons, List.countP_cons]
      by_cases ha : p a = true
      · -- the row itself: nothing behind it is touched
        obtain rfl := honly a List.mem_cons_self ha
        have hrest : rows.map (fun b => if p b = true then f b else b) = rows := by
          refine (List.map_congr_left fun b hb => ?_).trans (List.map_id _)
          refine if_neg fun hpb => hnd.1 ?_
          rwa [← honly b (List.mem_cons_of_mem _ hb) hpb]
        rw [hrest, if_pos ha]
        omega
      · have hmem : r ∈ rows := (List.mem_cons.mp hr).resolve_left fun hra => ha (hra ▸ hp)
        have hrest := ih hnd.2 hmem fun b hb => honly b (List.mem_cons_of_mem _ hb)
        rw [updateRows] at hrest
        rw [if_neg ha]
        omega
  rw [update?_rows h]
  exact hcount hnd hr honly

/-! ## GROUP BY -/

section

variable {κ : Type} [BEq κ] [LawfulBEq κ]

/-- One row more in its group. -/
def addToGroup (key : κ) (n : Int) : List (κ × Int) → List (κ × Int)
  | [] => [(key, n)]
  | (k, m) :: rest => if k == key then (k, m + n) :: rest else (k, m) :: addToGroup key n rest

/-- `SELECT key, SUM(n) … GROUP BY key`. -/
def groupSum (rows : List (κ × Int)) : List (κ × Int) :=
  rows.foldl (fun groups row => addToGroup row.1 row.2 groups) []

theorem lookup_addToGroup (key k : κ) (n : Int) : ∀ groups : List (κ × Int),
    ((addToGroup key n groups).lookup k).getD 0 =
      (groups.lookup k).getD 0 + if k == key then n else 0
  | [] => by
    rw [addToGroup, List.lookup_cons]
    cases k == key <;> simp
  | (k', m) :: rest => by
    have ih := lookup_addToGroup key k n rest
    rw [addToGroup]
    by_cases hkey : k' = key
    · rw [if_pos (beq_iff_eq.mpr hkey), List.lookup_cons, List.lookup_cons, hkey]
      cases k == key <;> simp
    · rw [if_neg (mt beq_iff_eq.mp hkey), List.lookup_cons, List.lookup_cons]
      by_cases hk : k = k'
      · subst hk
        simp [hkey]
      · rw [beq_eq_false_iff_ne.mpr hk]
        exact ih

/-- **The sum of a group is the sum over its rows**, and no group is the empty sum. -/
theorem lookup_groupSum (k : κ) (rows : List (κ × Int)) :
    ((groupSum rows).lookup k).getD 0 = (rows.map fun row => if k == row.1 then row.2 else 0).sum := by
  have hfold : ∀ (rows groups : List (κ × Int)),
      ((rows.foldl (fun groups row => addToGroup row.1 row.2 groups) groups).lookup k).getD 0 =
        (groups.lookup k).getD 0 + (rows.map fun row => if k == row.1 then row.2 else 0).sum := by
    intro rows
    induction rows with
    | nil => simp
    | cons row rest ih =>
      intro groups
      rw [List.foldl_cons, ih, lookup_addToGroup, List.map_cons, List.sum_cons]
      ring
  rw [groupSum, hfold]
  simp

end

end Table
