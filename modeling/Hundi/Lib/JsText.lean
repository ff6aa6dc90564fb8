/-
  Texts that people type: `trim` and the words of a text, on UTF-16 code units.
-/
import Hundi.Lib.JsString
import Mathlib.Data.List.DropRight
import Mathlib.Data.List.Infix

namespace Js

/-- ECMAScript's white space and line terminators: what `trim` removes and `\s` matches. -/
def isWhiteSpace (c : UInt16) : Bool :=
  [0x09, 0x0A, 0x0B, 0x0C, 0x0D, 0x20, 0xA0, 0x1680, 0x2028, 0x2029, 0x202F, 0x205F, 0x3000,
    0xFEFF].contains c || (0x2000 ≤ c.toNat && c.toNat ≤ 0x200A)

theorem range_of_isWhiteSpace {c : UInt16} (h : isWhiteSpace c = true) :
    c.toNat ≤ 0x20 ∨ 0xA0 ≤ c.toNat := by
  rw [isWhiteSpace, Bool.or_eq_true, List.contains_iff_mem, Bool.and_eq_true, decide_eq_true_eq,
    decide_eq_true_eq] at h
  rcases h with h | h
  · simp only [List.mem_cons, List.not_mem_nil, or_false] at h
    rcases h with rfl | rfl | rfl | rfl | rfl | rfl | rfl | rfl | rfl | rfl | rfl | rfl | rfl | rfl <;>
      decide
  · omega

/-- `s.trim()`. -/
def trim (s : JsString) : JsString := (s.dropWhile isWhiteSpace).rdropWhile isWhiteSpace

/-- `s.split(/\s+/).filter(Boolean)`. -/
def words (s : JsString) : List JsString := (s.splitOnP isWhiteSpace).filter fun w => !w.isEmpty

/-- What `toLowerCase` does to the letters A to Z. -/
def asciiLower (s : JsString) : JsString :=
  s.map fun c => if 0x41 ≤ c.toNat && c.toNat ≤ 0x5A then c + 0x20 else c

/-- What `asciiLower` does to one character. -/
def lowerUnit (c : UInt16) : UInt16 := if 0x41 ≤ c.toNat && c.toNat ≤ 0x5A then c + 0x20 else c

theorem asciiLower_eq (s : JsString) : asciiLower s = s.map lowerUnit := rfl

theorem toNat_lowerUnit (c : UInt16) :
    (lowerUnit c).toNat = if 0x41 ≤ c.toNat ∧ c.toNat ≤ 0x5A then c.toNat + 0x20 else c.toNat := by
  rw [lowerUnit]
  by_cases h : 0x41 ≤ c.toNat ∧ c.toNat ≤ 0x5A
  · rw [if_pos h, if_pos (by simpa using h), UInt16.toNat_add]
    show (c.toNat + 0x20) % 2 ^ 16 = _
    omega
  · rw [if_neg h, if_neg (by simpa using h)]

/-- A character that is no lower-case letter comes from itself only. -/
theorem eq_of_lowerUnit {c d : UInt16} (h : lowerUnit c = d) (hd : d.toNat < 0x61 ∨ 0x7A < d.toNat) :
    c = d := by
  have hnat := congrArg UInt16.toNat h
  rw [toNat_lowerUnit] at hnat
  split at hnat
  · omega
  · exact UInt16.toNat_inj.mp hnat

/-- The pieces of a split text stand in it, the first at its beginning. -/
theorem splitOnP_pieces (p : UInt16 → Bool) (s : JsString) :
    (∀ w ∈ s.splitOnP p, w <:+: s) ∧ ∀ w, (s.splitOnP p).head? = some w → w <+: s := by
  induction s with
  | nil =>
    rw [List.splitOnP_nil]
    refine ⟨fun w hw => ?_, fun w hw => ?_⟩
    · rw [List.mem_singleton.mp hw]
    · rw [← Option.some.inj hw]
  | cons c s ih =>
    obtain ⟨ihmem, ihhead⟩ := ih
    rw [List.splitOnP_cons_eq_if_modifyHead]
    by_cases hc : p c = true
    · rw [if_pos hc]
      refine ⟨fun w hw => ?_, fun w hw => ?_⟩
      · rcases List.mem_cons.mp hw with rfl | hw
        · exact List.nil_infix
        · exact (ihmem w hw).trans (List.suffix_cons c s).isInfix
      · rw [← Option.some.inj hw]
        exact List.nil_prefix
    · rw [if_neg hc]
      -- the head of the rest is lengthened by `c`, the other pieces stay
      cases hsplit : s.splitOnP p with
      | nil => exact absurd hsplit (List.splitOnP_ne_nil p s)
      | cons first rest =>
        have hfirst : first <+: s := ihhead first (by rw [hsplit]; rfl)
        have hlonger : c :: first <+: c :: s := List.prefix_cons_inj c |>.mpr hfirst
        rw [List.modifyHead_cons]
        refine ⟨fun w hw => ?_, fun w hw => ?_⟩
        · rcases List.mem_cons.mp hw with rfl | hw
          · exact hlonger.isInfix
          · have hmem : w ∈ s.splitOnP p := by
              rw [hsplit]
              exact List.mem_cons_of_mem first hw
            exact (ihmem w hmem).trans (List.suffix_cons c s).isInfix
        · rw [← Option.some.inj hw]
          exact hlonger

/-- A word of a text stands in it. -/
theorem infix_of_mem_words {s w : JsString} (h : w ∈ words s) : w <:+: s :=
  (splitOnP_pieces isWhiteSpace s).1 w (List.mem_filter.mp h).1

end Js
