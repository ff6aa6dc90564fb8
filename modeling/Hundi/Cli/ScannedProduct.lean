/-
  packages/cli/src/scanner.ts — what a scan of a store gives: its types.
-/
import Hundi.Lib.JsString

namespace Hundi

open Js

inductive Availability where
  | in_stock | out_of_stock
  deriving DecidableEq

/-- `ScannedVariant` of @hundi/cli's scanner.ts; prices are integer paise there. -/
structure ScannedVariant where
  variantId : JsString
  label : JsString
  optionValues : List JsString
  pricePaise : Int
  available : Bool
  sku : Option JsString
  deriving DecidableEq

structure ScannedOption where
  name : JsString
  values : List JsString
  deriving DecidableEq

structure ScannedProduct where
  sku : JsString
  name : JsString
  description : JsString
  pricePaise : Int
  currency : JsString
  availability : Availability
  image : JsString
  brand : JsString
  url : JsString
  variants : Option (List ScannedVariant)
  options : Option (List ScannedOption)
  deriving DecidableEq

structure ScanResult where
  merchantId : JsString
  products : List ScannedProduct
  warnings : List JsString

end Hundi
