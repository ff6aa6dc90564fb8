/-
  packages/facilitator/src/routes/catalog-search.ts — GET /catalog/search.

  1. **Program** — `scoreProduct` adds up, field by field, a bonus for the whole query and a point for
     each of its tokens; the route filters, scores, sorts and cuts.
  2. **The score, closed** — `scoreProduct_eq`: three times the title's points, twice the brand's and
     the description's own.
  3. **Order** — `getCatalogSearch_earlier`: a higher score is returned earlier.
  4. **Title against description** — `title_outranks_iff`: the points of a title are not bounded from
     below by those of a description, so a title outranks it under a condition only.

  `toLowerCase` depends on Unicode tables; it is an argument, and nothing is assumed of it.
-/
import Hundi.Core.Reparse
import Hundi.Facilitator.Catalog
import Hundi.Lib.JsText

namespace Hundi

open Js

/-! ## The score -/

section Score

variable (toLowerCase : JsString → JsString)

/-- The body of the loop over `FIELD_WEIGHTS`: what a field adds to the score. -/
def scoreField (queryLower : JsString) (queryTokens : List JsString) (score weight : Nat)
    (value : JsString) : Nat :=
  if value.isEmpty then score
  else
    let score :=
      if value = queryLower then score + weight * 10
      else if includes value queryLower then score + weight * 5
      else score
    queryTokens.foldl (fun score token => if includes value token then score + weight else score) score

/-- `scoreProduct(product, queryLower, queryTokens)`. -/
def scoreProduct (product : FeedProduct) (queryLower : JsString) (queryTokens : List JsString) : Nat :=
  [(3, product.title), (2, product.brand), (1, product.description)].foldl
    (fun score field => scoreField queryLower queryTokens score field.1 (toLowerCase field.2)) 0

/-- `{ product, score }`. -/
structure Ranked where
  product : FeedProduct
  score : Nat

/-- `a < b` on strings. -/
def strLt (a b : JsString) : Bool := !keyLe b a

/-- `compareRanked(a, b)`. -/
def compareRanked (a b : Ranked) : Int :=
  if b.score ≠ a.score then (b.score : Int) - a.score
  else if a.product.merchantId ≠ b.product.merchantId then
    if strLt a.product.merchantId b.product.merchantId then -1 else 1
  else if strLt a.product.id b.product.id then -1
  else if strLt b.product.id a.product.id then 1
  else 0

/-! ## The route -/

/-- `parseNonNegativeIntParam(raw, code)`: `Number(raw)` is the double nearest to the numeral. -/
def parseNonNegativeIntParam (raw : Option JsString) (code : JsString) : Except JsString (Option Int) :=
  match raw with
  | none => .ok none
  | some raw =>
    if raw.isEmpty || !raw.all isDigit then .error code else .ok (some (jsRound (ofDigits raw)))

/-- `listStoreCatalogs(db)`. -/
def listStoreCatalogs (shops : Shops) : List StoreCatalogRow :=
  shops.storeCatalogs.rows.mergeSort fun a b => decide (b.createdAt ≤ a.createdAt)

/-- `loadCatalogProducts(deps, merchantId)`. -/
def loadCatalogProducts (shops : Shops) (merchantId : Option JsString) : List FeedProduct :=
  match merchantId with
  | some merchantId =>
    match getStoreCatalog shops merchantId with
    | some row => row.catalog
    | none => []
  | none => (listStoreCatalogs shops).flatMap (·.catalog)

/-- The parameters of a search request. -/
structure SearchParams where
  q : Option JsString
  merchantId : Option JsString
  maxPricePaise : Option JsString
  limit : Option JsString
  inStock : Option JsString

/-- The candidates of a request whose price bound has been parsed. -/
def searchCandidates (shops : Shops) (params : SearchParams) (maxPricePaise : Option Int) :
    List FeedProduct :=
  (loadCatalogProducts shops params.merchantId).filter fun p =>
    !(maxPricePaise.any fun bound => p.pricePaise > bound) &&
      !(params.inStock == some (js "true") && p.availability ≠ .in_stock)

/-- `q.trim().toLowerCase()`. -/
def queryLower (q : JsString) : JsString := toLowerCase (trim q)

/-- `queryLower.split(/\s+/).filter(Boolean)`. -/
def queryTokens (q : JsString) : List JsString := words (queryLower toLowerCase q)

/-- The score of a product against a query. -/
def score (q : JsString) (product : FeedProduct) : Nat :=
  scoreProduct toLowerCase product (queryLower toLowerCase q) (queryTokens toLowerCase q)

/-- The candidates that match somewhere, best first. -/
def rankCandidates (q : JsString) (candidates : List FeedProduct) : List Ranked :=
  ((candidates.map fun product => (⟨product, score toLowerCase q product⟩ : Ranked)).filter
    fun entry => 0 < entry.score).insertionSort fun a b => compareRanked a b ≤ 0

def defaultLimit : Int := 25
def maxLimit : Int := 100

/-- GET /catalog/search: the results, or the code of a 400. -/
def getCatalogSearch (shops : Shops) (params : SearchParams) : Except JsString (List FeedProduct) :=
  match params.q with
  | none => .error (js "INVALID_QUERY")
  | some q =>
    if (trim q).isEmpty then .error (js "INVALID_QUERY")
    else do
      let maxPricePaise ← parseNonNegativeIntParam params.maxPricePaise (js "INVALID_MAX_PRICE")
      let limitParam ← parseNonNegativeIntParam params.limit (js "INVALID_LIMIT")
      let limit := min (limitParam.getD defaultLimit) maxLimit
      let ranked := rankCandidates toLowerCase q (searchCandidates shops params maxPricePaise)
      return (ranked.take limit.toNat).map (·.product)

/-! ## The score, closed -/

/-- The bonus of a field for the whole query, before its weight. -/
def bonus (q value : JsString) : Nat :=
  if value = q then 10 else if includes value q then 5 else 0

/-- The tokens that stand in a field. -/
def hits (tokens : List JsString) (value : JsString) : Nat := tokens.countP fun token => includes value token

/-- What a field is worth against a query, before its weight. -/
def points (q text : JsString) : Nat :=
  let value := toLowerCase text
  if value.isEmpty then 0
  else bonus (queryLower toLowerCase q) value + hits (queryTokens toLowerCase q) value

end Score

theorem foldl_hits (value : JsString) (weight : Nat) (tokens : List JsString) (score : Nat) :
    tokens.foldl (fun score token => if includes value token then score + weight else score) score =
      score + weight * hits tokens value := by
  induction tokens generalizing score with
  | nil => simp [hits]
  | cons token tokens ih =>
    rw [List.foldl_cons, ih, hits, hits, List.countP_cons]
    split
    · rw [Nat.mul_add, Nat.mul_one]
      omega
    · rw [Nat.add_zero]

section

variable {toLowerCase : JsString → JsString}

/-- A field adds its weight times its points. -/
theorem scoreField_eq (q text : JsString) (score weight : Nat) :
    scoreField (queryLower toLowerCase q) (queryTokens toLowerCase q) score weight (toLowerCase text) =
      score + weight * points toLowerCase q text := by
  unfold scoreField points
  dsimp only
  generalize toLowerCase text = value
  by_cases hempty : value.isEmpty = true
  · rw [if_pos hempty, if_pos hempty, Nat.mul_zero, Nat.add_zero]
  · rw [if_neg hempty, if_neg hempty, foldl_hits, bonus, Nat.mul_add]
    split
    · omega
    · split
      · omega
      · omega

theorem score_eq (q : JsString) (product : FeedProduct) :
    score toLowerCase q product = 3 * points toLowerCase q product.title +
      2 * points toLowerCase q product.brand + points toLowerCase q product.description := by
  simp only [score, scoreProduct, List.foldl_cons, List.foldl_nil, scoreField_eq]
  omega

/-! ## The order of the results -/

theorem strLt_iff {a b : JsString} : strLt a b = true ↔ keyLe a b = true ∧ a ≠ b := by
  rw [strLt, Bool.not_eq_true', Bool.eq_false_iff]
  constructor
  · intro h
    exact ⟨(keyLe_total a b).resolve_right h, fun heq => h (heq ▸ (keyLe_total a a).elim id id)⟩
  · rintro ⟨hle, hne⟩ hge
    exact hne (keyLe_antisymm a b hle hge)

/-- The comparison in words: by score downwards, then by merchant, then by id. -/
theorem compareRanked_le_iff (a b : Ranked) :
    compareRanked a b ≤ 0 ↔ b.score < a.score ∨ (b.score = a.score ∧
      (strLt a.product.merchantId b.product.merchantId = true ∨
        (a.product.merchantId = b.product.merchantId ∧ keyLe a.product.id b.product.id = true))) := by
  unfold compareRanked
  by_cases hscore : b.score = a.score
  · rw [if_neg (not_not.mpr hscore)]
    by_cases hmerchant : a.product.merchantId = b.product.merchantId
    · have hlt : strLt a.product.merchantId b.product.merchantId ≠ true :=
        fun h => (strLt_iff.mp h).2 hmerchant
      rw [if_neg (not_not.mpr hmerchant)]
      have hid : keyLe a.product.id b.product.id = true ↔ strLt b.product.id a.product.id ≠ true := by
        simp [strLt]
      rw [hid]
      by_cases hba : strLt b.product.id a.product.id = true
      · have hab : strLt a.product.id b.product.id ≠ true := by
          intro hab
          obtain ⟨hle, hne⟩ := strLt_iff.mp hab
          exact hne (keyLe_antisymm _ _ hle (strLt_iff.mp hba).1)
        rw [if_neg hab, if_pos hba]
        simp [hscore, hlt, hba]
      · rw [if_neg hba]
        refine iff_of_true ?_ (Or.inr ⟨hscore, Or.inr ⟨hmerchant, hba⟩⟩)
        split
        · decide
        · exact le_rfl
    · rw [if_pos hmerchant]
      split
      · rename_i hlt
        exact iff_of_true (by decide) (Or.inr ⟨hscore, Or.inl hlt⟩)
      · rename_i hlt
        refine iff_of_false (by decide) ?_
        rintro (h | ⟨-, h | ⟨h, -⟩⟩)
        · omega
        · exact hlt h
        · exact hmerchant h
  · rw [if_pos hscore]
    constructor
    · intro h
      exact Or.inl (by omega)
    · rintro (h | ⟨h, -⟩)
      · omega
      · exact absurd h hscore

/-- The comparison is total. -/
theorem compareRanked_total (a b : Ranked) : compareRanked a b ≤ 0 ∨ compareRanked b a ≤ 0 := by
  rw [compareRanked_le_iff, compareRanked_le_iff]
  rcases Nat.lt_trichotomy a.score b.score with h | h | h
  · exact Or.inr (Or.inl h)
  · by_cases hm : a.product.merchantId = b.product.merchantId
    · rcases keyLe_total a.product.id b.product.id with hid | hid
      · exact Or.inl (Or.inr ⟨h.symm, Or.inr ⟨hm, hid⟩⟩)
      · exact Or.inr (Or.inr ⟨h, Or.inr ⟨hm.symm, hid⟩⟩)
    · rcases keyLe_total a.product.merchantId b.product.merchantId with hle | hle
      · exact Or.inl (Or.inr ⟨h.symm, Or.inl (strLt_iff.mpr ⟨hle, hm⟩)⟩)
      · exact Or.inr (Or.inr ⟨h, Or.inl (strLt_iff.mpr ⟨hle, fun heq => hm heq.symm⟩)⟩)
  · exact Or.inl (Or.inl h)

theorem strLt_trans {a b c : JsString} (hab : strLt a b = true) (hbc : strLt b c = true) :
    strLt a c = true := by
  obtain ⟨hab, hne⟩ := strLt_iff.mp hab
  obtain ⟨hbc, -⟩ := strLt_iff.mp hbc
  refine strLt_iff.mpr ⟨keyLe_trans a b c hab hbc, fun heq => hne ?_⟩
  exact keyLe_antisymm a b hab (heq ▸ hbc)

/-- The comparison is transitive. -/
theorem compareRanked_trans {a b c : Ranked} (hab : compareRanked a b ≤ 0)
    (hbc : compareRanked b c ≤ 0) : compareRanked a c ≤ 0 := by
  rw [compareRanked_le_iff] at hab hbc ⊢
  rcases hab with hab | ⟨hab, hab'⟩
  · rcases hbc with hbc | ⟨hbc, -⟩
    · exact Or.inl (hbc.trans hab)
    · exact Or.inl (hbc ▸ hab)
  · rcases hbc with hbc | ⟨hbc, hbc'⟩
    · exact Or.inl (hab ▸ hbc)
    · refine Or.inr ⟨hbc.trans hab, ?_⟩
      rcases hab' with hlt | ⟨heq, hle⟩
      · rcases hbc' with hlt' | ⟨heq', -⟩
        · exact Or.inl (strLt_trans hlt hlt')
        · exact Or.inl (heq' ▸ hlt)
      · rcases hbc' with hlt' | ⟨heq', hle'⟩
        · exact Or.inl (heq ▸ hlt')
        · exact Or.inr ⟨heq.trans heq', keyLe_trans _ _ _ hle hle'⟩

/-- No entry stands behind one of a lower score. -/
theorem rankCandidates_sorted (q : JsString) (candidates : List FeedProduct) :
    (rankCandidates toLowerCase q candidates).Pairwise fun a b => b.score ≤ a.score := by
  have htotal : Std.Total fun a b : Ranked => compareRanked a b ≤ 0 := ⟨compareRanked_total⟩
  have htrans : IsTrans Ranked fun a b => compareRanked a b ≤ 0 := ⟨fun _ _ _ => compareRanked_trans⟩
  refine (List.pairwise_insertionSort (fun a b : Ranked => compareRanked a b ≤ 0) _).imp ?_
  intro a b h
  rcases (compareRanked_le_iff a b).mp h with h | ⟨h, -⟩
  · exact h.le
  · exact h.le

theorem mem_rankCandidates {q : JsString} {candidates : List FeedProduct} {entry : Ranked} :
    entry ∈ rankCandidates toLowerCase q candidates ↔
      entry.product ∈ candidates ∧ entry.score = score toLowerCase q entry.product ∧ 0 < entry.score := by
  rw [rankCandidates, List.mem_insertionSort, List.mem_filter, List.mem_map, decide_eq_true_eq]
  constructor
  · rintro ⟨⟨product, hmem, rfl⟩, hpos⟩
    exact ⟨hmem, rfl, hpos⟩
  · rintro ⟨hmem, hscore, hpos⟩
    refine ⟨⟨entry.product, hmem, ?_⟩, hpos⟩
    rw [← hscore]

/-- Of two products one is returned earlier: it is there when the other is, and before it. -/
def ReturnedEarlier (results : List FeedProduct) (a b : FeedProduct) : Prop :=
  (b ∈ results → a ∈ results) ∧
    ∀ i j : Nat, results[i]? = some a → results[j]? = some b → i < j

/-- What is sorted by score and cut has the higher score earlier. -/
theorem returnedEarlier_take {ranked : List Ranked} {n : Nat} {a b : FeedProduct} {f : FeedProduct → Nat}
    (hsorted : ranked.Pairwise fun x y => y.score ≤ x.score)
    (hscores : ∀ entry ∈ ranked, entry.score = f entry.product)
    (ha : ∃ entry ∈ ranked, entry.product = a) (hlt : f b < f a) :
    ReturnedEarlier ((ranked.take n).map (·.product)) a b := by
  -- an occurrence of `a` cannot stand behind one of `b`
  have hbefore : ∀ (i j : Nat) (x y : Ranked), ranked[i]? = some x → ranked[j]? = some y → x.product = a →
      y.product = b → i < j := by
    intro i j x y hx hy hxa hyb
    have hxs := hscores x (List.mem_of_getElem? hx)
    have hys := hscores y (List.mem_of_getElem? hy)
    rw [hxa] at hxs
    rw [hyb] at hys
    by_contra hge
    rcases Nat.lt_or_eq_of_le (Nat.le_of_not_lt hge) with hji | rfl
    · obtain ⟨hi, rfl⟩ := List.getElem?_eq_some_iff.mp hx
      obtain ⟨hj, rfl⟩ := List.getElem?_eq_some_iff.mp hy
      have hle := List.pairwise_iff_getElem.mp hsorted j i hj hi hji
      omega
    · rw [hx] at hy
      rw [Option.some.inj hy] at hxs
      omega
  have hget : ∀ (i : Nat) (p : FeedProduct), ((ranked.take n).map (·.product))[i]? = some p →
      i < n ∧ ∃ x, ranked[i]? = some x ∧ x.product = p := by
    intro i p h
    rw [List.getElem?_map] at h
    obtain ⟨x, hx, hp⟩ := Option.map_eq_some_iff.mp h
    rw [List.getElem?_take] at hx
    split at hx
    · rename_i hi
      exact ⟨hi, x, hx, hp⟩
    · exact nomatch hx
  constructor
  · intro hb
    obtain ⟨j, hj⟩ := List.mem_iff_getElem?.mp hb
    obtain ⟨hjn, y, hy, hyb⟩ := hget j b hj
    obtain ⟨x, hx, hxa⟩ := ha
    obtain ⟨i, hi⟩ := List.mem_iff_getElem?.mp hx
    have hij := hbefore i j x y hi hy hxa hyb
    refine List.mem_map.mpr ⟨x, List.mem_iff_getElem?.mpr ⟨i, ?_⟩, hxa⟩
    rw [List.getElem?_take, if_pos (by omega), hi]
  · intro i j hi hj
    obtain ⟨-, x, hx, hxa⟩ := hget i a hi
    obtain ⟨-, y, hy, hyb⟩ := hget j b hj
    exact hbefore i j x y hx hy hxa hyb

/-- **The higher score is returned earlier**, by every search in which the product is a candidate. -/
theorem getCatalogSearch_earlier {shops : Shops} {params : SearchParams} {q : JsString}
    {maxPricePaise : Option Int} {results : List FeedProduct} {a b : FeedProduct}
    (hq : params.q = some q)
    (hmax : parseNonNegativeIntParam params.maxPricePaise (js "INVALID_MAX_PRICE") = .ok maxPricePaise)
    (ha : a ∈ searchCandidates shops params maxPricePaise)
    (hresults : getCatalogSearch toLowerCase shops params = .ok results)
    (hlt : score toLowerCase q b < score toLowerCase q a) : ReturnedEarlier results a b := by
  unfold getCatalogSearch at hresults
  rw [hq] at hresults
  dsimp only at hresults
  split at hresults
  · exact nomatch hresults
  rw [hmax] at hresults
  obtain ⟨_, hbound, hresults⟩ := bind_eq_ok.mp hresults
  obtain rfl := Except.ok.inj hbound
  obtain ⟨limit, -, hresults⟩ := bind_eq_ok.mp hresults
  obtain rfl := Except.ok.inj hresults
  refine returnedEarlier_take (f := score toLowerCase q) (rankCandidates_sorted q _) ?_ ?_ hlt
  · exact fun entry hentry => (mem_rankCandidates.mp hentry).2.1
  · exact ⟨⟨a, score toLowerCase q a⟩, mem_rankCandidates.mpr ⟨ha, rfl, by show 0 < score _ q a; omega⟩, rfl⟩

end

/-! ## Title against description -/

section Dominance

variable (toLowerCase : JsString → JsString)

/-- A field matches a query: in full, as a substring or in a token. -/
def FieldMatches (q text : JsString) : Prop :=
  toLowerCase text ≠ [] ∧ (toLowerCase text = queryLower toLowerCase q ∨
    includes (toLowerCase text) (queryLower toLowerCase q) = true ∨
    ∃ token ∈ queryTokens toLowerCase q, includes (toLowerCase text) token = true)

/-- Of title and description only the second matches. -/
def DescriptionOnly (q : JsString) (product : FeedProduct) : Prop :=
  ¬ FieldMatches toLowerCase q product.title ∧ FieldMatches toLowerCase q product.description

/-- The title has the whole query in it, or its tokens, at three points each, and the points of the
    product's own description exceed those of the other's description. -/
def TitleCarries (q : JsString) (a b : FeedProduct) : Prop :=
  includes (toLowerCase a.title) (queryLower toLowerCase q) = true ∨
    points toLowerCase q b.description <
      3 * hits (queryTokens toLowerCase q) (toLowerCase a.title) + points toLowerCase q a.description

variable {toLowerCase}

theorem bonus_le (q value : JsString) : bonus q value ≤ 10 := by
  unfold bonus
  split
  · exact le_rfl
  · split
    · decide
    · decide

theorem le_bonus {q value : JsString} (h : includes value q = true) : 5 ≤ bonus q value := by
  rw [bonus, if_pos h]
  split
  · decide
  · exact le_rfl

theorem bonus_eq_zero {q value : JsString} (h : includes value q ≠ true) : bonus q value = 0 := by
  have hne : value ≠ q := by
    rintro rfl
    exact h (includes_iff.mpr List.infix_rfl)
  rw [bonus, if_neg hne, if_neg h]

/-- A field that includes the query has each of its tokens. -/
theorem hits_of_includes {q value : JsString} (h : includes value q = true) :
    hits (words q) value = (words q).length := by
  rw [hits, List.countP_eq_length]
  exact fun token htoken => includes_iff.mpr ((infix_of_mem_words htoken).trans (includes_iff.mp h))

/-- A field is worth something exactly when it matches. -/
theorem points_pos_iff {q text : JsString} :
    0 < points toLowerCase q text ↔ FieldMatches toLowerCase q text := by
  unfold points FieldMatches
  dsimp only
  generalize toLowerCase text = value
  by_cases hempty : value = []
  · subst hempty
    exact iff_of_false (by simp) fun h => h.1 rfl
  rw [if_neg (by rw [List.isEmpty_iff]; exact hempty)]
  have hhits : 0 < hits (queryTokens toLowerCase q) value ↔
      ∃ token ∈ queryTokens toLowerCase q, includes value token = true := List.countP_pos_iff
  by_cases hincludes : includes value (queryLower toLowerCase q) = true
  · have hbonus := le_bonus hincludes
    exact iff_of_true (by omega) ⟨hempty, Or.inr (Or.inl hincludes)⟩
  · rw [bonus_eq_zero hincludes, Nat.zero_add, hhits]
    constructor
    · intro h
      exact ⟨hempty, Or.inr (Or.inr h)⟩
    · rintro ⟨-, rfl | h | h⟩
      · exact absurd (includes_iff.mpr List.infix_rfl) hincludes
      · exact absurd h hincludes
      · exact h

theorem points_le (q text : JsString) :
    points toLowerCase q text ≤ 10 + (queryTokens toLowerCase q).length := by
  have hbonus := bonus_le (queryLower toLowerCase q) (toLowerCase text)
  have hhits : hits (queryTokens toLowerCase q) (toLowerCase text) ≤
      (queryTokens toLowerCase q).length := List.countP_le_length
  unfold points
  dsimp only
  split
  · exact Nat.zero_le _
  · omega

/-- The points of a title that matches: its hits, and at least fifteen more, weighted, with the whole
    query in it. -/
theorem points_of_matches {q text : JsString} (h : FieldMatches toLowerCase q text) :
    points toLowerCase q text = bonus (queryLower toLowerCase q) (toLowerCase text) +
      hits (queryTokens toLowerCase q) (toLowerCase text) := by
  unfold points
  dsimp only
  rw [if_neg (by rw [List.isEmpty_iff]; exact h.1)]

/-- The score decides: what the title carries is what it takes. -/
theorem score_lt_iff {q : JsString} {a b : FeedProduct} (ha : FieldMatches toLowerCase q a.title)
    (hb : DescriptionOnly toLowerCase q b)
    (hbrand : points toLowerCase q a.brand = points toLowerCase q b.brand) :
    score toLowerCase q b < score toLowerCase q a ↔ TitleCarries toLowerCase q a b := by
  have htitle : points toLowerCase q b.title = 0 := by
    have hno := mt points_pos_iff.mp hb.1
    omega
  rw [score_eq, score_eq, htitle, hbrand, points_of_matches ha, TitleCarries]
  by_cases hincludes : includes (toLowerCase a.title) (queryLower toLowerCase q) = true
  · have hbonus := le_bonus hincludes
    have hhits : hits (queryTokens toLowerCase q) (toLowerCase a.title) =
        (queryTokens toLowerCase q).length := hits_of_includes hincludes
    have hle : points toLowerCase q b.description ≤ 10 + (queryTokens toLowerCase q).length :=
      points_le q b.description
    exact iff_of_true (by omega) (Or.inl hincludes)
  · rw [bonus_eq_zero hincludes]
    constructor
    · intro h
      exact Or.inr (by omega)
    · rintro (h | h)
      · exact absurd h hincludes
      · omega

/-- **A title outranks a description exactly when it carries the query**, or enough of its tokens. -/
theorem title_outranks_iff (toLowerCase : JsString → JsString) (q : JsString) (a b : FeedProduct)
    (ha : FieldMatches toLowerCase q a.title) (hb : DescriptionOnly toLowerCase q b)
    (hbrand : points toLowerCase q a.brand = points toLowerCase q b.brand) :
    (score toLowerCase q b < score toLowerCase q a ∧
      ∀ shops params maxPricePaise results, params.q = some q →
        parseNonNegativeIntParam params.maxPricePaise (js "INVALID_MAX_PRICE") = .ok maxPricePaise →
        a ∈ searchCandidates shops params maxPricePaise →
        getCatalogSearch toLowerCase shops params = .ok results → ReturnedEarlier results a b) ↔
      TitleCarries toLowerCase q a b := by
  rw [← score_lt_iff ha hb hbrand]
  constructor
  · rintro ⟨hlt, -⟩
    exact hlt
  · intro hlt
    refine ⟨hlt, fun shops params maxPricePaise results hq hmax hmem hresults => ?_⟩
    exact getCatalogSearch_earlier hq hmax hmem hresults hlt

end Dominance

/-! ## Two products and the query "red shoe" -/

/-- A scanned product with a title and a description. -/
def demoScanned (sku name description : JsString) : ScannedProduct where
  sku := sku
  name := name
  description := description
  pricePaise := 100000
  currency := js "INR"
  availability := .in_stock
  image := []
  brand := js "shop"
  url := []
  variants := none
  options := none

/-- One product is called red, the other is described as a red shoe. -/
def demoRed : FeedProduct := toFeedProduct (demoScanned (js "r") (js "Red") []) (js "shop")
def demoDescribed : FeedProduct :=
  toFeedProduct (demoScanned (js "d") (js "Loafer") (js "Red shoe")) (js "shop")

/-- For the query "red" the title has the whole of it. -/
theorem title_outranks_demo :
    score asciiLower (js "red") demoDescribed < score asciiLower (js "red") demoRed := by
  refine ((title_outranks_iff asciiLower (js "red") demoRed demoDescribed ?_ ⟨?_, ?_⟩ rfl).mpr ?_).1
  · exact points_pos_iff.mp (by decide)
  · exact mt points_pos_iff.mpr (by decide)
  · exact points_pos_iff.mp (by decide)
  · exact Or.inl (by decide)

/-- The store that has both. -/
def demoRedStore : Shops :=
  (postStoresOnboard 0 ⟨Db.empty, .empty⟩ (js "https://shop.example") (js "shop")
    (fun _ merchantId => merchantId) (.ok ⟨js "shop", [demoScanned (js "r") (js "Red") [],
      demoScanned (js "d") (js "Loafer") (js "Red shoe")], []⟩) fun _ => ([], [])).1

/-- For "red shoe" it has one token, three points, and the description the query, twelve; the search
    returns the described one first. -/
theorem description_outranks_title :
    FieldMatches asciiLower (js "red shoe") demoRed.title ∧
      DescriptionOnly asciiLower (js "red shoe") demoDescribed ∧
      points asciiLower (js "red shoe") demoRed.brand =
        points asciiLower (js "red shoe") demoDescribed.brand ∧
      score asciiLower (js "red shoe") demoRed < score asciiLower (js "red shoe") demoDescribed ∧
      getCatalogSearch asciiLower demoRedStore
        ⟨some (js "red shoe"), some (js "shop"), none, none, none⟩ = .ok [demoDescribed, demoRed] := by
  refine ⟨points_pos_iff.mp (by decide), ⟨?_, ?_⟩, rfl, by decide, rfl⟩
  · exact mt points_pos_iff.mpr (by decide)
  · exact points_pos_iff.mp (by decide)

end Hundi
