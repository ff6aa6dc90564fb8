/-
  JSON values and their text, with unique readability.

  `JsonValue` is the JSON data a program passes around when every number in it is an integer.
  `quote` is `JSON.stringify` of a string (the well-formed one of ES2019: a lone surrogate is
  escaped, a pair is copied), and `print` writes a value out without any whitespace, members in
  the order they stand in.

  Two results about the text:

  * `print_inj`       — a value can be read back from its text (unique readability), proved as
                        "no text of a value is a proper prefix of another's" by one induction
                        over the value (`print_append_inj`), so that arrays and members can be
                        peeled one at a time;
  * `wellFormed_print` — the text never contains a lone surrogate, whatever the strings in the
                        value are, so its UTF-8 encoding loses nothing (`print_bytes_inj`).
-/
import Hundi.Lib.JsString
import Mathlib.Data.List.Sort

namespace Js

/-- A JSON value whose numbers are integers.  An object is its list of members. -/
inductive JsonValue where
  | null
  | bool (b : Bool)
  | num (n : Int)
  | str (s : JsString)
  | arr (xs : List JsonValue)
  | obj (members : List (JsString × JsonValue))

/-- The value of the first member called `k`, if `v` is an object that has one. -/
def JsonValue.get? (v : JsonValue) (k : JsString) : Option JsonValue :=
  match v with
  | .obj members => (members.find? fun m => m.1 == k).map Prod.snd
  | _ => none

/-- The text of a string value. -/
def JsonValue.str? : JsonValue → Option JsString
  | .str s => some s
  | _ => none

/-! ## Strings -/

/-- A lower-case hexadecimal digit. -/
def hexDigit (n : Nat) : UInt16 := UInt16.ofNat (if n < 10 then 0x30 + n else 0x57 + n)

/-- `\uXXXX`. -/
def unicodeEscape (c : UInt16) : JsString :=
  [0x5C, 0x75, hexDigit (c.toNat / 0x1000), hexDigit (c.toNat / 0x100 % 0x10),
    hexDigit (c.toNat / 0x10 % 0x10), hexDigit (c.toNat % 0x10)]

/-- The text of one code unit that starts no surrogate pair. -/
def escapeUnit (c : UInt16) : JsString :=
  if c = 0x22 then [0x5C, 0x22]
  else if c = 0x5C then [0x5C, 0x5C]
  else if c = 0x08 then [0x5C, 0x62]
  else if c = 0x09 then [0x5C, 0x74]
  else if c = 0x0A then [0x5C, 0x6E]
  else if c = 0x0C then [0x5C, 0x66]
  else if c = 0x0D then [0x5C, 0x72]
  else if c.toNat < 0x20 || isHighSurrogate c || isLowSurrogate c then unicodeEscape c
  else [c]

/-- The text of a string, without its quotes. -/
def escape : JsString → JsString
  | [] => []
  | [c] => escapeUnit c
  | c :: d :: rest =>
    if isHighSurrogate c && isLowSurrogate d then c :: d :: escape rest
    else escapeUnit c ++ escape (d :: rest)

/-- `JSON.stringify(s)` of a string. -/
def quote (s : JsString) : JsString := 0x22 :: (escape s ++ [0x22])

/-! ### Reading a string back -/

theorem hexDigit_inj : ∀ m < 16, ∀ n < 16, hexDigit m = hexDigit n → m = n := by decide

theorem toNat_hexDigit_bounds : ∀ n, n < 16 →
    isHighSurrogate (hexDigit n) = false ∧ isLowSurrogate (hexDigit n) = false := by decide

theorem unicodeEscape_append_inj {c d : UInt16} {r r' : JsString}
    (h : unicodeEscape c ++ r = unicodeEscape d ++ r') : c = d ∧ r = r' := by
  have hc := c.toNat_lt
  have hd := d.toNat_lt
  simp only [unicodeEscape, List.cons_append, List.nil_append, List.cons.injEq, true_and] at h
  obtain ⟨h3, h2, h1, h0, hr⟩ := h
  have e3 := hexDigit_inj _ (by omega) _ (by omega) h3
  have e2 := hexDigit_inj _ (by omega) _ (by omega) h2
  have e1 := hexDigit_inj _ (by omega) _ (by omega) h1
  have e0 := hexDigit_inj _ (by omega) _ (by omega) h0
  refine ⟨UInt16.toNat_inj.mp ?_, hr⟩
  omega

/-- The code units with a two-character escape, and the second character of it. -/
def shortEscapes : List (UInt16 × UInt16) :=
  [(0x22, 0x22), (0x5C, 0x5C), (0x08, 0x62), (0x09, 0x74), (0x0A, 0x6E), (0x0C, 0x66), (0x0D, 0x72)]

/-- Two-character escapes are told apart by their second character. -/
theorem shortEscapes_inj : ∀ p ∈ shortEscapes, ∀ q ∈ shortEscapes, p.2 = q.2 → p.1 = q.1 := by
  have hall : (shortEscapes.all fun p => shortEscapes.all fun q => p.2 = q.2 → p.1 = q.1) = true := by
    decide
  simpa only [List.all_eq_true, decide_eq_true_eq] using hall

/-- No second character of a two-character escape is a `u`, and none is a surrogate. -/
theorem shortEscapes_second : ∀ p ∈ shortEscapes, p.2 ≠ 0x75 ∧ isHighSurrogate p.2 = false ∧
    isLowSurrogate p.2 = false := by
  have hall : (shortEscapes.all fun p => p.2 ≠ 0x75 ∧ isHighSurrogate p.2 = false ∧
      isLowSurrogate p.2 = false) = true := by
    decide
  simpa only [List.all_eq_true, decide_eq_true_eq] using hall

/-- The three shapes the text of a single code unit can have. -/
theorem escapeUnit_cases (c : UInt16) :
    (∃ e : UInt16, escapeUnit c = [0x5C, e] ∧ (c, e) ∈ shortEscapes) ∨
    escapeUnit c = unicodeEscape c ∨
    (escapeUnit c = [c] ∧ c ≠ 0x22 ∧ c ≠ 0x5C ∧ isHighSurrogate c = false ∧
      isLowSurrogate c = false) := by
  unfold escapeUnit
  split
  · subst_vars; exact Or.inl ⟨0x22, rfl, by decide⟩
  split
  · subst_vars; exact Or.inl ⟨0x5C, rfl, by decide⟩
  split
  · subst_vars; exact Or.inl ⟨0x62, rfl, by decide⟩
  split
  · subst_vars; exact Or.inl ⟨0x74, rfl, by decide⟩
  split
  · subst_vars; exact Or.inl ⟨0x6E, rfl, by decide⟩
  split
  · subst_vars; exact Or.inl ⟨0x66, rfl, by decide⟩
  split
  · subst_vars; exact Or.inl ⟨0x72, rfl, by decide⟩
  split
  · exact Or.inr (Or.inl rfl)
  · rename_i hq hb _ _ _ _ _ hs
    simp only [Bool.or_eq_true, not_or, Bool.not_eq_true] at hs
    exact Or.inr (Or.inr ⟨rfl, hq, hb, hs.1.2, hs.2⟩)

/-- The texts of single code units are prefix-free. -/
theorem escapeUnit_append_inj {c d : UInt16} {r r' : JsString}
    (h : escapeUnit c ++ r = escapeUnit d ++ r') : c = d ∧ r = r' := by
  rcases escapeUnit_cases c with ⟨e, hc, hce⟩ | hc | ⟨hc, hcq, hcb, -, -⟩ <;>
  rcases escapeUnit_cases d with ⟨f, hd, hdf⟩ | hd | ⟨hd, hdq, hdb, -, -⟩ <;>
  rw [hc, hd] at h
  · simp only [List.cons_append, List.nil_append, List.cons.injEq, true_and] at h
    exact ⟨shortEscapes_inj _ hce _ hdf h.1, h.2⟩
  · simp only [unicodeEscape, List.cons_append, List.nil_append, List.cons.injEq, true_and] at h
    exact absurd h.1 (shortEscapes_second _ hce).1
  · simp only [List.cons_append, List.nil_append, List.cons.injEq] at h
    exact absurd h.1.symm hdb
  · simp only [unicodeEscape, List.cons_append, List.nil_append, List.cons.injEq, true_and] at h
    exact absurd h.1.symm (shortEscapes_second _ hdf).1
  · exact unicodeEscape_append_inj h
  · simp only [unicodeEscape, List.cons_append, List.nil_append, List.cons.injEq] at h
    exact absurd h.1.symm hdb
  · simp only [List.cons_append, List.nil_append, List.cons.injEq] at h
    exact absurd h.1 hcb
  · simp only [unicodeEscape, List.cons_append, List.nil_append, List.cons.injEq] at h
    exact absurd h.1 hcb
  · simp only [List.cons_append, List.nil_append, List.cons.injEq] at h
    exact h

/-- The text of a single code unit starts neither with a quote nor with a surrogate. -/
theorem escapeUnit_head (c : UInt16) : ∃ u rest, escapeUnit c = u :: rest ∧ u ≠ 0x22 ∧
    isHighSurrogate u = false := by
  rcases escapeUnit_cases c with ⟨e, hc, -⟩ | hc | ⟨hc, hq, -, hh, -⟩
  · exact ⟨0x5C, [e], hc, by decide, by decide⟩
  · exact ⟨0x5C, _, hc, by decide, by decide⟩
  · exact ⟨c, [], hc, hq, hh⟩

/-- How the text of a non-empty string starts: with a surrogate pair, or with a single unit. -/
theorem escape_cons_cases (c : UInt16) (s : JsString) :
    (∃ d rest, s = d :: rest ∧ isHighSurrogate c = true ∧ isLowSurrogate d = true ∧
      escape (c :: s) = c :: d :: escape rest) ∨
    escape (c :: s) = escapeUnit c ++ escape s := by
  cases s with
  | nil => exact Or.inr (by rw [escape, escape, List.append_nil])
  | cons d rest =>
    rw [escape]
    by_cases h : (isHighSurrogate c && isLowSurrogate d) = true
    · rw [if_pos h]
      rw [Bool.and_eq_true] at h
      exact Or.inl ⟨d, rest, rfl, h.1, h.2, rfl⟩
    · rw [if_neg h]
      exact Or.inr rfl

theorem isHighSurrogate_ne_quote {c : UInt16} (h : isHighSurrogate c = true) : c ≠ 0x22 := by
  rintro rfl
  revert h
  decide

/-- **String texts are prefix-free** once closed by a quote.  Strong induction on the length: each
    step peels one code unit or one surrogate pair off both sides. -/
theorem escape_append_inj : ∀ (n : Nat) (s t : JsString) (r r' : JsString), s.length ≤ n →
    escape s ++ 0x22 :: r = escape t ++ 0x22 :: r' → s = t ∧ r = r' := by
  intro n
  induction n with
  | zero =>
    intro s t r r' hs h
    obtain rfl : s = [] := List.length_eq_zero_iff.mp (by omega)
    cases t with
    | nil =>
      simp only [escape, List.nil_append, List.cons.injEq, true_and] at h
      exact ⟨rfl, h⟩
    | cons d t =>
      exfalso
      rw [escape, List.nil_append] at h
      rcases escape_cons_cases d t with ⟨e, rest, -, hd, -, heq⟩ | heq
      · rw [heq, List.cons_append, List.cons.injEq] at h
        exact isHighSurrogate_ne_quote hd h.1.symm
      · obtain ⟨u, us, hu, hq, -⟩ := escapeUnit_head d
        rw [heq, hu, List.cons_append, List.cons_append, List.cons.injEq] at h
        exact hq h.1.symm
  | succ n ih =>
    intro s t r r' hs h
    cases s with
    | nil =>
      have hz := ih [] t r r' (Nat.zero_le n) h
      exact hz
    | cons c s =>
      simp only [List.length_cons] at hs
      cases t with
      | nil =>
        exfalso
        rw [escape, List.nil_append] at h
        rcases escape_cons_cases c s with ⟨e, rest, -, hc, -, heq⟩ | heq
        · rw [heq, List.cons_append, List.cons.injEq] at h
          exact isHighSurrogate_ne_quote hc h.1
        · obtain ⟨u, us, hu, hq, -⟩ := escapeUnit_head c
          rw [heq, hu, List.cons_append, List.cons_append, List.cons.injEq] at h
          exact hq h.1
      | cons d t =>
        rcases escape_cons_cases c s with ⟨e, rest, rfl, hc, -, heq⟩ | heq <;>
        rcases escape_cons_cases d t with ⟨f, rest', rfl, hd, -, heq'⟩ | heq' <;>
        rw [heq, heq'] at h
        · -- a pair on both sides
          simp only [List.cons_append, List.cons.injEq] at h
          obtain ⟨rfl, rfl, h⟩ := h
          simp only [List.length_cons] at hs
          obtain ⟨rfl, hr⟩ := ih rest rest' r r' (by omega) h
          exact ⟨rfl, hr⟩
        · -- a pair against a single unit: the single unit starts with no high surrogate
          exfalso
          obtain ⟨u, us, hu, -, hh⟩ := escapeUnit_head d
          simp only [hu, List.cons_append, List.cons.injEq] at h
          rw [← h.1, hc] at hh
          exact Bool.noConfusion hh
        · exfalso
          obtain ⟨u, us, hu, -, hh⟩ := escapeUnit_head c
          simp only [hu, List.cons_append, List.cons.injEq] at h
          rw [h.1, hd] at hh
          exact Bool.noConfusion hh
        · -- a single unit on both sides
          rw [List.append_assoc, List.append_assoc] at h
          obtain ⟨hcd, htail⟩ := escapeUnit_append_inj h
          obtain ⟨hst, hr⟩ := ih s t r r' (by omega) htail
          exact ⟨by rw [hcd, hst], hr⟩

theorem quote_append_inj {s t r r' : JsString} (h : quote s ++ r = quote t ++ r') :
    s = t ∧ r = r' := by
  simp only [quote, List.cons_append, List.append_assoc, List.nil_append, List.cons.injEq,
    true_and] at h
  exact escape_append_inj s.length s t r r' le_rfl h

/-! ### The text is well formed -/

theorem wellFormed_unicodeEscape (c : UInt16) : WellFormed (unicodeEscape c) := by
  have hc := c.toNat_lt
  have hdigit : ∀ n, n < 16 → WellFormed [hexDigit n] := fun n hn =>
    wellFormed_unit (toNat_hexDigit_bounds n hn).1 (toNat_hexDigit_bounds n hn).2
  have h3 := hdigit (c.toNat / 0x1000) (by omega)
  have h2 := hdigit (c.toNat / 0x100 % 0x10) (by omega)
  have h1 := hdigit (c.toNat / 0x10 % 0x10) (by omega)
  have h0 := hdigit (c.toNat % 0x10) (by omega)
  have hpre : WellFormed [0x5C, 0x75] := wellFormed_js "\\u"
  exact wellFormed_append hpre (wellFormed_append h3 (wellFormed_append h2
    (wellFormed_append h1 h0)))

theorem wellFormed_escapeUnit (c : UInt16) : WellFormed (escapeUnit c) := by
  rcases escapeUnit_cases c with ⟨e, hc, hce⟩ | hc | ⟨hc, -, -, hh, hl⟩
  · rw [hc]
    obtain ⟨-, he⟩ := shortEscapes_second _ hce
    exact wellFormed_append (wellFormed_unit (c := 0x5C) (by decide) (by decide))
      (wellFormed_unit he.1 he.2)
  · rw [hc]
    exact wellFormed_unicodeEscape c
  · rw [hc]
    exact wellFormed_unit hh hl

theorem wellFormed_escape : ∀ (n : Nat) (s : JsString), s.length ≤ n → WellFormed (escape s) := by
  intro n
  induction n with
  | zero =>
    intro s hs
    obtain rfl : s = [] := List.length_eq_zero_iff.mp (by omega)
    exact wellFormed_nil
  | succ n ih =>
    intro s hs
    cases s with
    | nil => exact wellFormed_nil
    | cons c s =>
      simp only [List.length_cons] at hs
      rcases escape_cons_cases c s with ⟨d, rest, rfl, hc, hd, heq⟩ | heq <;> rw [heq]
      · simp only [List.length_cons] at hs
        exact wellFormed_append (wellFormed_pair hc hd) (ih rest (by omega))
      · exact wellFormed_append (wellFormed_escapeUnit c) (ih s (by omega))

theorem wellFormed_quote (s : JsString) : WellFormed (quote s) :=
  wellFormed_append (wellFormed_unit (c := 0x22) (by decide) (by decide))
    (wellFormed_append (wellFormed_escape s.length s le_rfl)
      (wellFormed_unit (c := 0x22) (by decide) (by decide)))

/-! ## Values -/

/-- `parts.join(sep)`. -/
def join (sep : JsString) : List JsString → JsString
  | [] => []
  | p :: ps => p ++ ps.flatMap fun q => sep ++ q

mutual

/-- The text of a value. -/
def print : JsonValue → JsString
  | .null => js "null"
  | .bool true => js "true"
  | .bool false => js "false"
  | .num n => showInt n
  | .str s => quote s
  | .arr xs => js "[" ++ join (js ",") (printElems xs) ++ js "]"
  | .obj ms => js "\x7b" ++ join (js ",") (printMembers ms) ++ js "\x7d"

/-- The texts of the elements of an array. -/
def printElems : List JsonValue → List JsString
  | [] => []
  | x :: xs => print x :: printElems xs

/-- The texts of the members of an object. -/
def printMembers : List (JsString × JsonValue) → List JsString
  | [] => []
  | (k, x) :: ms => (quote k ++ js ":" ++ print x) :: printMembers ms

end

/-! ### The first code unit tells the kind of a value -/

/-- The kind of a value, as its text's first code unit shows it. -/
def JsonValue.tag : JsonValue → Nat
  | .null => 0
  | .bool true => 1
  | .bool false => 2
  | .str _ => 3
  | .arr _ => 4
  | .obj _ => 5
  | .num _ => 6

/-- The kind of value a text starting with `u` is the text of. -/
def headTag (u : UInt16) : Nat :=
  if u = 0x6E then 0 else if u = 0x74 then 1 else if u = 0x66 then 2 else if u = 0x22 then 3
  else if u = 0x5B then 4 else if u = 0x7B then 5
  else if u = 0x2D || isDigit u then 6 else 7

theorem headTag_digit {u : UInt16} (h : isDigit u = true) : headTag u = 6 := by
  simp only [isDigit, Bool.and_eq_true, decide_eq_true_eq] at h
  have hne : ∀ c : UInt16, c.toNat < 0x30 ∨ 0x39 < c.toNat → u ≠ c := by
    rintro c hc rfl
    omega
  have hd : isDigit u = true := by
    simp only [isDigit, Bool.and_eq_true, decide_eq_true_eq]
    exact h
  rw [headTag, if_neg (hne _ (by decide)), if_neg (hne _ (by decide)), if_neg (hne _ (by decide)),
    if_neg (hne _ (by decide)), if_neg (hne _ (by decide)), if_neg (hne _ (by decide)), hd,
    Bool.or_true, if_pos rfl]

theorem decimal_head (n : Nat) : ∃ u rest, decimal n = u :: rest ∧ isDigit u = true := by
  cases h : decimal n with
  | nil => exact absurd h (decimal_ne_nil n)
  | cons u rest => exact ⟨u, rest, rfl, isDigit_decimal n u (by rw [h]; exact List.mem_cons_self)⟩

theorem print_head (v : JsonValue) : ∃ u rest, print v = u :: rest ∧ headTag u = v.tag := by
  cases v with
  | null => exact ⟨0x6E, js "ull", by rw [print]; rfl, rfl⟩
  | bool b =>
    cases b with
    | true => exact ⟨0x74, js "rue", by rw [print]; rfl, rfl⟩
    | false => exact ⟨0x66, js "alse", by rw [print]; rfl, rfl⟩
  | num n =>
    obtain ⟨u, rest, hd, hu⟩ := decimal_head n.natAbs
    rw [print, showInt]
    split
    · exact ⟨0x2D, decimal n.natAbs, rfl, rfl⟩
    · exact ⟨u, rest, hd, headTag_digit hu⟩
  | str s => exact ⟨0x22, _, by rw [print, quote], rfl⟩
  | arr xs => exact ⟨0x5B, join (js ",") (printElems xs) ++ js "]", by rw [print]; rfl, rfl⟩
  | obj ms => exact ⟨0x7B, join (js ",") (printMembers ms) ++ js "\x7d", by rw [print]; rfl, rfl⟩

theorem tag_eq_of_print_append {v w : JsonValue} {r r' : JsString}
    (h : print v ++ r = print w ++ r') : v.tag = w.tag := by
  obtain ⟨u, rest, hv, hu⟩ := print_head v
  obtain ⟨u', rest', hw, hu'⟩ := print_head w
  rw [hv, hw, List.cons_append, List.cons_append, List.cons.injEq] at h
  rw [← hu, ← hu', h.1]

/-- No value's text starts with a bracket that closes, a comma or a colon. -/
theorem print_append_ne {v : JsonValue} {r r' : JsString} {u : UInt16} (hu : headTag u = 7) :
    print v ++ r ≠ u :: r' := by
  intro h
  obtain ⟨c, rest, hv, hc⟩ := print_head v
  rw [hv, List.cons_append, List.cons.injEq] at h
  rw [h.1, hu] at hc
  cases v with
  | bool b => cases b <;> exact absurd hc (by decide)
  | _ => exact absurd hc (by simp only [JsonValue.tag]; omega)

/-! ### Numerals -/

/-- What follows a value never continues a numeral. -/
def NoDigitHead (r : JsString) : Prop := ∀ u rest, r = u :: rest → isDigit u = false

theorem noDigitHead_nil : NoDigitHead [] := by
  intro u rest h
  nomatch h

theorem noDigitHead_cons {u : UInt16} {r : JsString} (h : isDigit u = false) :
    NoDigitHead (u :: r) := by
  intro c rest hc
  rw [List.cons.injEq] at hc
  rw [← hc.1]
  exact h

/-- A run of digits followed by no digit ends where it ends. -/
theorem digits_append_inj : ∀ {s t r r' : JsString}, (∀ u ∈ s, isDigit u = true) →
    (∀ u ∈ t, isDigit u = true) → NoDigitHead r → NoDigitHead r' → s ++ r = t ++ r' →
    s = t ∧ r = r'
  | [], [], _, _, _, _, _, _, h => ⟨rfl, h⟩
  | [], u :: t, r, r', _, ht, hr, _, h => by
    have hd := ht u List.mem_cons_self
    rw [hr u (t ++ r') h] at hd
    exact Bool.noConfusion hd
  | u :: s, [], r, r', hs, _, _, hr', h => by
    have hd := hs u List.mem_cons_self
    rw [hr' u (s ++ r) h.symm] at hd
    exact Bool.noConfusion hd
  | u :: s, c :: t, r, r', hs, ht, hr, hr', h => by
    rw [List.cons_append, List.cons_append, List.cons.injEq] at h
    obtain ⟨hst, hrr⟩ := digits_append_inj (fun x hx => hs x (List.mem_cons_of_mem u hx))
      (fun x hx => ht x (List.mem_cons_of_mem c hx)) hr hr' h.2
    exact ⟨by rw [h.1, hst], hrr⟩

theorem showInt_append_inj {m n : Int} {r r' : JsString} (hr : NoDigitHead r)
    (hr' : NoDigitHead r') (h : showInt m ++ r = showInt n ++ r') : m = n ∧ r = r' := by
  have hminus : js "-" = [0x2D] := rfl
  have hpos : ∀ (k l : Nat) (t t' : JsString), decimal k ++ t ≠ js "-" ++ decimal l ++ t' := by
    intro k l t t' heq
    obtain ⟨u, rest, hd, hu⟩ := decimal_head k
    rw [hd, hminus, List.cons_append, List.append_assoc, List.singleton_append,
      List.cons.injEq] at heq
    rw [heq.1] at hu
    exact absurd hu (by decide)
  rw [showInt, showInt] at h
  split at h <;> split at h
  · rw [hminus, List.append_assoc, List.append_assoc, List.singleton_append,
      List.singleton_append, List.cons.injEq] at h
    obtain ⟨hd, hrr⟩ := digits_append_inj (isDigit_decimal _) (isDigit_decimal _) hr hr' h.2
    have habs := decimal_inj hd
    exact ⟨by omega, hrr⟩
  · exact absurd h.symm (hpos _ _ _ _)
  · exact absurd h (hpos _ _ _ _)
  · obtain ⟨hd, hrr⟩ := digits_append_inj (isDigit_decimal _) (isDigit_decimal _) hr hr' h
    have habs := decimal_inj hd
    exact ⟨by omega, hrr⟩

/-! ### Unique readability -/

/-- The texts after the first of an array's elements, up to the closing bracket. -/
theorem noDigitHead_tail (ps : List JsString) {u : UInt16} (hu : isDigit u = false) (r : JsString) :
    NoDigitHead ((ps.flatMap fun q => js "," ++ q) ++ u :: r) := by
  cases ps with
  | nil => exact noDigitHead_cons hu
  | cons p ps =>
    rw [List.flatMap_cons, List.append_assoc, List.append_assoc]
    exact noDigitHead_cons (by decide)

mutual

/-- **Unique readability.**  No value's text, followed by something that continues no numeral, is
    also another value's text followed by something else.  Induction on the first value; an array
    or an object hands over to the element and member versions. -/
theorem print_append_inj : ∀ (v w : JsonValue) (r r' : JsString), NoDigitHead r → NoDigitHead r' →
    print v ++ r = print w ++ r' → v = w ∧ r = r'
  | .null, w, r, r', _, _, h => by
    have ht := tag_eq_of_print_append h
    cases w with
    | null => exact ⟨rfl, List.append_cancel_left h⟩
    | bool b => cases b <;> exact absurd ht (by decide)
    | _ => exact absurd ht (by simp only [JsonValue.tag]; omega)
  | .bool b, w, r, r', _, _, h => by
    have ht := tag_eq_of_print_append h
    cases w with
    | bool c =>
      cases b <;> cases c
      · exact ⟨rfl, List.append_cancel_left h⟩
      · exact absurd ht (by decide)
      · exact absurd ht (by decide)
      · exact ⟨rfl, List.append_cancel_left h⟩
    | _ => cases b <;> exact absurd ht (by simp only [JsonValue.tag]; omega)
  | .num n, w, r, r', hr, hr', h => by
    have ht := tag_eq_of_print_append h
    cases w with
    | num m =>
      rw [print, print] at h
      obtain ⟨rfl, hrr⟩ := showInt_append_inj hr hr' h
      exact ⟨rfl, hrr⟩
    | bool b => cases b <;> exact absurd ht (by simp only [JsonValue.tag]; omega)
    | _ => exact absurd ht (by simp only [JsonValue.tag]; omega)
  | .str s, w, r, r', _, _, h => by
    have ht := tag_eq_of_print_append h
    cases w with
    | str t =>
      rw [print, print] at h
      obtain ⟨rfl, hrr⟩ := quote_append_inj h
      exact ⟨rfl, hrr⟩
    | bool b => cases b <;> exact absurd ht (by simp only [JsonValue.tag]; omega)
    | _ => exact absurd ht (by simp only [JsonValue.tag]; omega)
  | .arr xs, w, r, r', _, _, h => by
    have ht := tag_eq_of_print_append h
    cases w with
    | arr ys =>
      rw [print, print, List.append_assoc, List.append_assoc, List.append_assoc,
        List.append_assoc] at h
      obtain ⟨rfl, hrr⟩ := elems_append_inj xs ys r r' (List.append_cancel_left h)
      exact ⟨rfl, hrr⟩
    | bool b => cases b <;> exact absurd ht (by simp only [JsonValue.tag]; omega)
    | _ => exact absurd ht (by simp only [JsonValue.tag]; omega)
  | .obj ms, w, r, r', _, _, h => by
    have ht := tag_eq_of_print_append h
    cases w with
    | obj ns =>
      rw [print, print, List.append_assoc, List.append_assoc, List.append_assoc,
        List.append_assoc] at h
      obtain ⟨rfl, hrr⟩ := members_append_inj ms ns r r' (List.append_cancel_left h)
      exact ⟨rfl, hrr⟩
    | bool b => cases b <;> exact absurd ht (by simp only [JsonValue.tag]; omega)
    | _ => exact absurd ht (by simp only [JsonValue.tag]; omega)

theorem elems_append_inj : ∀ (xs ys : List JsonValue) (r r' : JsString),
    join (js ",") (printElems xs) ++ (js "]" ++ r) = join (js ",") (printElems ys) ++ (js "]" ++ r') →
    xs = ys ∧ r = r'
  | [], ys, r, r', h => by
    cases ys with
    | nil => exact ⟨rfl, List.append_cancel_left h⟩
    | cons y ys =>
      rw [printElems, printElems, join, join, List.append_assoc] at h
      exact absurd h.symm (print_append_ne (by decide))
  | x :: xs, ys, r, r', h => by
    cases ys with
    | nil =>
      rw [printElems, printElems, join, join, List.append_assoc] at h
      exact absurd h (print_append_ne (by decide))
    | cons y ys =>
      rw [printElems, printElems, join, join, List.append_assoc, List.append_assoc] at h
      obtain ⟨rfl, htail⟩ := print_append_inj x y _ _ (noDigitHead_tail _ (by decide) r)
        (noDigitHead_tail _ (by decide) r') h
      obtain ⟨rfl, hrr⟩ := elems_tail_inj xs ys r r' htail
      exact ⟨rfl, hrr⟩

theorem elems_tail_inj : ∀ (xs ys : List JsonValue) (r r' : JsString),
    ((printElems xs).flatMap fun q => js "," ++ q) ++ (js "]" ++ r)
      = ((printElems ys).flatMap fun q => js "," ++ q) ++ (js "]" ++ r') → xs = ys ∧ r = r'
  | [], ys, r, r', h => by
    cases ys with
    | nil => exact ⟨rfl, List.append_cancel_left h⟩
    | cons y ys =>
      rw [printElems, printElems, List.flatMap_nil, List.flatMap_cons] at h
      exact absurd (List.cons.inj h).1 (by decide)
  | x :: xs, ys, r, r', h => by
    cases ys with
    | nil =>
      rw [printElems, printElems, List.flatMap_nil, List.flatMap_cons] at h
      exact absurd (List.cons.inj h).1 (by decide)
    | cons y ys =>
      rw [printElems, printElems, List.flatMap_cons, List.flatMap_cons, List.append_assoc,
        List.append_assoc, List.append_assoc, List.append_assoc] at h
      obtain ⟨rfl, htail⟩ := print_append_inj x y _ _ (noDigitHead_tail _ (by decide) r)
        (noDigitHead_tail _ (by decide) r') (List.append_cancel_left h)
      obtain ⟨rfl, hrr⟩ := elems_tail_inj xs ys r r' htail
      exact ⟨rfl, hrr⟩

theorem members_append_inj : ∀ (ms ns : List (JsString × JsonValue)) (r r' : JsString),
    join (js ",") (printMembers ms) ++ (js "\x7d" ++ r)
      = join (js ",") (printMembers ns) ++ (js "\x7d" ++ r') → ms = ns ∧ r = r'
  | [], ns, r, r', h => by
    cases ns with
    | nil => exact ⟨rfl, List.append_cancel_left h⟩
    | cons n ns =>
      obtain ⟨l, y⟩ := n
      rw [printMembers, printMembers, join, join, quote] at h
      exact absurd (List.cons.inj h).1 (by decide)
  | (k, x) :: ms, ns, r, r', h => by
    cases ns with
    | nil =>
      rw [printMembers, printMembers, join, join, quote] at h
      exact absurd (List.cons.inj h).1 (by decide)
    | cons n ns =>
      obtain ⟨l, y⟩ := n
      rw [printMembers, printMembers, join, join, List.append_assoc, List.append_assoc,
        List.append_assoc, List.append_assoc, List.append_assoc, List.append_assoc] at h
      obtain ⟨rfl, hval⟩ := quote_append_inj h
      obtain ⟨rfl, htail⟩ := print_append_inj x y _ _ (noDigitHead_tail _ (by decide) r)
        (noDigitHead_tail _ (by decide) r') (List.append_cancel_left hval)
      obtain ⟨rfl, hrr⟩ := members_tail_inj ms ns r r' htail
      exact ⟨rfl, hrr⟩

theorem members_tail_inj : ∀ (ms ns : List (JsString × JsonValue)) (r r' : JsString),
    ((printMembers ms).flatMap fun q => js "," ++ q) ++ (js "\x7d" ++ r)
      = ((printMembers ns).flatMap fun q => js "," ++ q) ++ (js "\x7d" ++ r') → ms = ns ∧ r = r'
  | [], ns, r, r', h => by
    cases ns with
    | nil => exact ⟨rfl, List.append_cancel_left h⟩
    | cons n ns =>
      obtain ⟨l, y⟩ := n
      rw [printMembers, printMembers, List.flatMap_nil, List.flatMap_cons] at h
      exact absurd (List.cons.inj h).1 (by decide)
  | (k, x) :: ms, ns, r, r', h => by
    cases ns with
    | nil =>
      rw [printMembers, printMembers, List.flatMap_nil, List.flatMap_cons] at h
      exact absurd (List.cons.inj h).1 (by decide)
    | cons n ns =>
      obtain ⟨l, y⟩ := n
      rw [printMembers, printMembers, List.flatMap_cons, List.flatMap_cons] at h
      simp only [List.append_assoc] at h
      obtain ⟨rfl, hval⟩ := quote_append_inj (List.append_cancel_left h)
      obtain ⟨rfl, htail⟩ := print_append_inj x y _ _ (noDigitHead_tail _ (by decide) r)
        (noDigitHead_tail _ (by decide) r') (List.append_cancel_left hval)
      obtain ⟨rfl, hrr⟩ := members_tail_inj ms ns r r' htail
      exact ⟨rfl, hrr⟩

end

/-- A value can be read back from its text. -/
theorem print_inj {v w : JsonValue} (h : print v = print w) : v = w :=
  (print_append_inj v w [] [] noDigitHead_nil noDigitHead_nil (by rw [h])).1

/-! ### The text has no lone surrogate -/

theorem wellFormed_join {sep : JsString} (hsep : WellFormed sep) :
    ∀ {ps : List JsString}, (∀ p ∈ ps, WellFormed p) → WellFormed (join sep ps)
  | [], _ => wellFormed_nil
  | p :: ps, h => by
    have htail : ∀ qs : List JsString, (∀ q ∈ qs, WellFormed q) →
        WellFormed (qs.flatMap fun q => sep ++ q) := by
      intro qs
      induction qs with
      | nil => intro _; exact wellFormed_nil
      | cons q qs ih =>
        intro hq
        rw [List.flatMap_cons]
        exact wellFormed_append (wellFormed_append hsep (hq q List.mem_cons_self))
          (ih fun x hx => hq x (List.mem_cons_of_mem q hx))
    exact wellFormed_append (h p List.mem_cons_self)
      (htail ps fun x hx => h x (List.mem_cons_of_mem p hx))

mutual

theorem wellFormed_print : ∀ v : JsonValue, WellFormed (print v)
  | .null => wellFormed_js _
  | .bool true => wellFormed_js _
  | .bool false => wellFormed_js _
  | .num n => by
    rw [print]
    exact wellFormed_showInt n
  | .str s => by
    rw [print]
    exact wellFormed_quote s
  | .arr xs => by
    rw [print]
    exact wellFormed_append (wellFormed_append (wellFormed_js _)
      (wellFormed_join (wellFormed_js _) (wellFormed_printElems xs))) (wellFormed_js _)
  | .obj ms => by
    rw [print]
    exact wellFormed_append (wellFormed_append (wellFormed_js _)
      (wellFormed_join (wellFormed_js _) (wellFormed_printMembers ms))) (wellFormed_js _)

theorem wellFormed_printElems : ∀ xs : List JsonValue, ∀ p ∈ printElems xs, WellFormed p
  | [], p, h => by
    rw [printElems] at h
    exact absurd h List.not_mem_nil
  | x :: xs, p, h => by
    rw [printElems, List.mem_cons] at h
    rcases h with rfl | h
    · exact wellFormed_print x
    · exact wellFormed_printElems xs p h

theorem wellFormed_printMembers :
    ∀ ms : List (JsString × JsonValue), ∀ p ∈ printMembers ms, WellFormed p
  | [], p, h => by
    rw [printMembers] at h
    exact absurd h List.not_mem_nil
  | (k, x) :: ms, p, h => by
    rw [printMembers, List.mem_cons] at h
    rcases h with rfl | h
    · exact wellFormed_append (wellFormed_append (wellFormed_quote k) (wellFormed_js _))
        (wellFormed_print x)
    · exact wellFormed_printMembers ms p h

end

/-- **A value can be read back from the UTF-8 bytes of its text.** -/
theorem print_bytes_inj {v w : JsonValue} (h : textEncode (print v) = textEncode (print w)) :
    v = w :=
  print_inj (textEncode_inj (wellFormed_print v) (wellFormed_print w) h)

example : print (.obj [(js "a", .num 1), (js "b", .arr [.str (js "x\"y"), .null])])
    = js "\x7b\"a\":1,\"b\":[\"x\\\"y\",null]\x7d" := by decide

end Js
