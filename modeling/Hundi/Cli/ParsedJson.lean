/-
  packages/cli/src/scanner.ts — values that come out of `JSON.parse`, and prices in them.

  Numbers are exact decimals here, and so are prices before they are rounded to paise.
-/
import Hundi.Lib.Decimal

namespace Hundi

open Js

inductive Json where
  | null
  | bool (b : Bool)
  | num (d : Decimal)
  | str (s : JsString)
  | arr (elems : List Json)
  | obj (members : List (JsString × Json))

namespace Json

/-- `value.key`, `none` if it is undefined.  Nothing but an object has a property that is read here. -/
def get (key : String) : Json → Option Json
  | .obj members => (members.find? fun m => m.1 = js key).map Prod.snd
  | _ => none

def isTruthy : Json → Bool
  | .null => false
  | .bool b => b
  | .num d => d.mantissa != 0
  | .str s => !s.isEmpty
  | .arr _ => true
  | .obj _ => true

/-- `value && typeof value === 'object'`. -/
def isObject : Json → Bool
  | .arr _ => true
  | .obj _ => true
  | _ => false

/-- `value`, where it is a string. -/
def str? : Json → Option JsString
  | .str s => some s
  | _ => none

/-- `value`, where it is an array. -/
def arr? : Json → Option (List Json)
  | .arr elems => some elems
  | _ => none

/-- `value`, where it is a string that is not empty. -/
def text? (v : Option Json) : Option JsString := (v.bind str?).filter fun s => !s.isEmpty

end Json

/-- `String(n)`: the digits, the point set where the value asks for it. -/
def numberToString (d : Decimal) : JsString :=
  if d.mantissa = 0 then js "0"
  else
    let all := decimal d.mantissa.natAbs
    let ds := all.rdropWhile (· = 0x30)
    let k := ds.length
    let n : Int := all.length - d.scale
    let unsigned :=
      if k ≤ n && n ≤ 21 then ds ++ List.replicate (n - k).toNat 0x30
      else if 0 < n && n ≤ 21 then ds.take n.toNat ++ js "." ++ ds.drop n.toNat
      else if -6 < n && n ≤ 0 then js "0." ++ List.replicate (-n).toNat 0x30 ++ ds
      else
        ds.take 1 ++ (if k = 1 then [] else js "." ++ ds.drop 1) ++ js "e" ++
          (if 0 < n then js "+" else []) ++ showInt (n - 1)
    if d.mantissa < 0 then js "-" ++ unsigned else unsigned

example : numberToString ⟨41234567890123, 0⟩ = js "41234567890123" := by decide
example : numberToString ⟨129900, 3⟩ = js "129.9" := by decide

/-- `toPaise(price)`. -/
def toPaise : Option Json → Option Int
  | some (.num d) => some (d.roundTimes 100)
  | some (.str s) => (parseFloat s).map fun d => d.roundTimes 100
  | _ => none

/-! ## Prices as written -/

/-- The decimal that a price is: a number, or a string that is a numeral from end to end. -/
def writtenPrice : Json → Option Decimal
  | .num d => some d
  | .str s => numeral s
  | _ => none

/-- `paise` is the price as it is written, rounded to paise, and positive. -/
def AsWritten (price : Json) (paise : Int) : Prop :=
  0 < paise ∧ ∃ d, writtenPrice price = some d ∧ paise = d.roundTimes 100

/-- A price that may be read: positive, and a numeral from end to end where it is a string. -/
def PlainPrice (price : Json) : Prop :=
  ∃ d, writtenPrice price = some d ∧ 0 < d.roundTimes 100

/-- **A price that is read** is as written exactly if it is plain. -/
theorem asWritten_iff {price : Json} {paise : Int} (h : toPaise (some price) = some paise) :
    AsWritten price paise ↔ PlainPrice price := by
  have hread : ∀ d, writtenPrice price = some d → paise = d.roundTimes 100 := by
    intro d hd
    cases price with
    | num d' =>
      obtain rfl := Option.some.inj hd
      exact (Option.some.inj h).symm
    | str s =>
      rw [toPaise, parseFloat_numeral hd] at h
      exact (Option.some.inj h).symm
    | null => exact absurd h (by simp [toPaise])
    | bool b => exact absurd h (by simp [toPaise])
    | arr elems => exact absurd h (by simp [toPaise])
    | obj members => exact absurd h (by simp [toPaise])
  constructor
  · rintro ⟨hpos, d, hd, rfl⟩
    exact ⟨d, hd, hpos⟩
  · rintro ⟨d, hd, hpos⟩
    rw [← hread d hd] at hpos
    exact ⟨hpos, d, hd, hread d hd⟩

end Hundi
