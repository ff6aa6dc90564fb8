/-
  packages/facilitator/src/routes/upsell.ts — GET /catalog/:merchant_id/upsell.

  1. **Program** — `significantTokens` and `scoreComplement` score a candidate against the base product,
     `compareComplements` orders the scored, and `getUpsell` is the route with its four refusals.
  2. **The score, closed** — `scoreComplement_eq`: ten for the brand, three for each token the titles
     share; it is positive for related products only (`scoreComplement_pos`).
  3. **The order** — by score downwards, then by id: it ranks (`upsellOrder_ranks`) and tells apart
     whatever has different ids (`upsellOrder_antisymm`).
  4. **The results** — `upsell_exact`: what is suggested, in which order, and what may be left out;
     `upsell_catalog_order`: with distinct ids the order of the catalog does not matter.

  `toLowerCase` depends on Unicode tables; it is an argument, and nothing is assumed of it.
-/
import Hundi.Facilitator.CatalogSearch
import Hundi.Lib.TopK

namespace Hundi

open Js TopK

/-! ## The score -/

/-- `[a-z0-9]`. -/
def isTokenUnit (c : UInt16) : Bool := (0x61 ≤ c.toNat && c.toNat ≤ 0x7A) || isDigit c

def minTokenLength : Nat := 3

def stopwords : List JsString :=
  [js "the", js "and", js "for", js "with", js "from", js "your", js "this", js "that", js "set"]

def brandMatchScore : Nat := 10
def tokenMatchScore : Nat := 3

section Program

variable (toLowerCase : JsString → JsString)

/-- `significantTokens(title)`, as the Set lists them.  The pieces between single separators are those
    of `split(/[^a-z0-9]+/)` and empty ones, which are too short. -/
def significantTokens (title : JsString) : List JsString :=
  (((toLowerCase title).splitOnP fun c => !isTokenUnit c).filter fun token =>
    minTokenLength ≤ token.length && !stopwords.contains token).eraseDups

/-- `scoreComplement(base, baseTokens, candidate)`. -/
def scoreComplement (base : FeedProduct) (baseTokens : List JsString) (candidate : FeedProduct) : Nat :=
  let score :=
    if 0 < base.brand.length && toLowerCase base.brand = toLowerCase candidate.brand then
      brandMatchScore
    else 0
  (significantTokens toLowerCase candidate.title).foldl
    (fun score token => if baseTokens.contains token then score + tokenMatchScore else score) score

/-- `compareRanked(a, b)` of this route. -/
def compareComplements (a b : Ranked) : Int :=
  if b.score ≠ a.score then (b.score : Int) - a.score
  else if strLt a.product.id b.product.id then -1
  else if strLt b.product.id a.product.id then 1
  else 0

def upsellOrder (a b : Ranked) : Bool := decide (compareComplements a b ≤ 0)

/-- The scored candidates before they are sorted. -/
def complements (sku : JsString) (base : FeedProduct) (catalog : List FeedProduct) : List Ranked :=
  ((catalog.filter fun p => p.id != sku && p.availability == .in_stock).map fun product =>
      (⟨product, scoreComplement toLowerCase base (significantTokens toLowerCase base.title) product⟩
        : Ranked)).filter
    fun entry => 0 < entry.score

/-! ## The route -/

structure UpsellParams where
  sku : Option JsString
  limit : Option JsString

structure UpsellAnswer where
  sku : JsString
  results : List FeedProduct
  count : Nat

def defaultUpsellLimit : Int := 4
def maxUpsellLimit : Int := 12

/-- `Math.min(limitParam ?? DEFAULT_LIMIT, MAX_LIMIT)`. -/
def upsellLimit (limitParam : Option Int) : Nat :=
  (min (limitParam.getD defaultUpsellLimit) maxUpsellLimit).toNat

/-- GET /catalog/:merchant_id/upsell: the answer, or the status and the code of a refusal. -/
def getUpsell (shops : Shops) (merchantId : JsString) (params : UpsellParams) :
    Except (Nat × JsString) UpsellAnswer :=
  match params.sku with
  | none => .error (400, js "INVALID_SKU")
  | some sku =>
    if (trim sku).isEmpty then .error (400, js "INVALID_SKU")
    else
      match getStoreCatalog shops merchantId with
      | none => .error (404, js "CATALOG_NOT_FOUND")
      | some row =>
        match row.catalog.find? fun p => p.id == sku with
        | none => .error (404, js "SKU_NOT_FOUND")
        | some base =>
          match parseNonNegativeIntParam params.limit (js "INVALID_LIMIT") with
          | .error code => .error (400, code)
          | .ok limitParam =>
            let results := (best upsellOrder (upsellLimit limitParam)
              (complements toLowerCase sku base row.catalog)).map (·.product)
            .ok ⟨sku, results, results.length⟩

end Program

/-! ## The score, closed -/

section

variable {toLowerCase : JsString → JsString}

/-- The tokens of a title that the base product's title has too. -/
def sharedTokens (toLowerCase : JsString → JsString) (base candidate : FeedProduct) : List JsString :=
  (significantTokens toLowerCase candidate.title).filter fun token =>
    (significantTokens toLowerCase base.title).contains token

def SameBrand (toLowerCase : JsString → JsString) (base candidate : FeedProduct) : Prop :=
  base.brand ≠ [] ∧ toLowerCase base.brand = toLowerCase candidate.brand

instance (base candidate : FeedProduct) : Decidable (SameBrand toLowerCase base candidate) :=
  inferInstanceAs (Decidable (_ ∧ _))

/-- What a candidate scores against the base product. -/
def upsellScore (toLowerCase : JsString → JsString) (base candidate : FeedProduct) : Nat :=
  scoreComplement toLowerCase base (significantTokens toLowerCase base.title) candidate

theorem foldl_shared (baseTokens tokens : List JsString) (score : Nat) :
    tokens.foldl (fun score token => if baseTokens.contains token then score + tokenMatchScore else score)
        score
      = score + tokenMatchScore * (tokens.filter fun token => baseTokens.contains token).length := by
  induction tokens generalizing score with
  | nil => rfl
  | cons token tokens ih =>
    rw [List.foldl_cons, ih, List.filter_cons]
    split
    · rw [List.length_cons, Nat.mul_add, Nat.mul_one]
      omega
    · rfl

/-- **Ten for the brand, three for each shared token.** -/
theorem scoreComplement_eq (base candidate : FeedProduct) :
    upsellScore toLowerCase base candidate
      = (if SameBrand toLowerCase base candidate then 10 else 0)
        + 3 * (sharedTokens toLowerCase base candidate).length := by
  rw [upsellScore, scoreComplement, foldl_shared]
  have hbrand : (0 < base.brand.length && toLowerCase base.brand = toLowerCase candidate.brand) = true ↔
      SameBrand toLowerCase base candidate := by
    rw [Bool.and_eq_true, decide_eq_true_eq, decide_eq_true_eq, List.length_pos_iff]
    exact Iff.rfl
  by_cases h : SameBrand toLowerCase base candidate
  · rw [if_pos h, if_pos (hbrand.mpr h)]
    rfl
  · rw [if_neg h, if_neg (fun h' => h (hbrand.mp h'))]
    rfl

/-- The products have the brand or a significant word of the title in common. -/
def Related (toLowerCase : JsString → JsString) (base candidate : FeedProduct) : Prop :=
  SameBrand toLowerCase base candidate ∨
    ∃ token ∈ significantTokens toLowerCase candidate.title,
      token ∈ significantTokens toLowerCase base.title

theorem scoreComplement_pos {base candidate : FeedProduct} :
    0 < upsellScore toLowerCase base candidate ↔ Related toLowerCase base candidate := by
  have hshared : 0 < (sharedTokens toLowerCase base candidate).length ↔
      ∃ token ∈ significantTokens toLowerCase candidate.title,
        token ∈ significantTokens toLowerCase base.title := by
    rw [List.length_pos_iff_exists_mem]
    simp only [sharedTokens, List.mem_filter, List.contains_iff_mem]
  rw [scoreComplement_eq, Related, ← hshared]
  by_cases h : SameBrand toLowerCase base candidate
  · rw [if_pos h]
    exact iff_of_true (by omega) (Or.inl h)
  · rw [if_neg h]
    constructor
    · intro hpos
      right
      omega
    · rintro (hbrand | hlen)
      · exact absurd hbrand h
      · omega

/-! ## The order -/

/-- The comparison in words: by score downwards, then by id. -/
theorem upsellOrder_iff (a b : Ranked) : upsellOrder a b = true ↔
    b.score < a.score ∨ (b.score = a.score ∧ keyLe a.product.id b.product.id = true) := by
  rw [upsellOrder, decide_eq_true_eq, compareComplements]
  by_cases hscore : b.score = a.score
  · rw [if_neg (not_not.mpr hscore)]
    have hle : keyLe a.product.id b.product.id = true ↔ strLt b.product.id a.product.id ≠ true := by
      simp [strLt]
    rw [hle]
    by_cases hba : strLt b.product.id a.product.id = true
    · have hab : strLt a.product.id b.product.id ≠ true := by
        intro hab
        obtain ⟨hkey, hne⟩ := strLt_iff.mp hab
        exact hne (keyLe_antisymm _ _ hkey (strLt_iff.mp hba).1)
      rw [if_neg hab, if_pos hba]
      refine iff_of_false (by decide) ?_
      rintro (hlt | ⟨-, hnot⟩)
      · omega
      · exact hnot hba
    · rw [if_neg hba]
      refine iff_of_true ?_ (Or.inr ⟨hscore, hba⟩)
      split
      · decide
      · exact le_refl 0
  · rw [if_pos hscore]
    constructor
    · intro h
      left
      omega
    · rintro (h | ⟨h, -⟩)
      · omega
      · exact absurd h hscore

theorem upsellOrder_ranks : Ranks upsellOrder where
  trans := by
    intro a b c hab hbc
    rw [upsellOrder_iff] at hab hbc ⊢
    rcases hab with hab | ⟨hab, hid⟩
    · left
      rcases hbc with hbc | ⟨hbc, -⟩
      · omega
      · omega
    · rcases hbc with hbc | ⟨hbc, hid'⟩
      · left
        omega
      · exact Or.inr ⟨hbc.trans hab, keyLe_trans _ _ _ hid hid'⟩
  total := by
    intro a b
    rw [Bool.or_eq_true, upsellOrder_iff, upsellOrder_iff]
    rcases Nat.lt_trichotomy a.score b.score with h | h | h
    · exact Or.inr (Or.inl h)
    · rcases keyLe_total a.product.id b.product.id with hid | hid
      · exact Or.inl (Or.inr ⟨h.symm, hid⟩)
      · exact Or.inr (Or.inr ⟨h, hid⟩)
    · exact Or.inl (Or.inl h)

/-- Two that come each before the other have one id. -/
theorem upsellOrder_antisymm {a b : Ranked} (hab : upsellOrder a b = true) (hba : upsellOrder b a = true) :
    a.product.id = b.product.id := by
  rw [upsellOrder_iff] at hab hba
  rcases hab with hab | ⟨hsame, hid⟩
  · rcases hba with hba | ⟨hba, -⟩
    · omega
    · omega
  · rcases hba with hba | ⟨-, hid'⟩
    · omega
    · exact keyLe_antisymm _ _ hid hid'

/-! ## The results -/

/-- What an id finds has that id. -/
theorem id_of_find? {catalog : List FeedProduct} {sku : JsString} {p : FeedProduct}
    (h : (catalog.find? fun p => p.id == sku) = some p) : p.id = sku := by
  have hbeq := List.find?_some h
  exact eq_of_beq hbeq

/-- A product that the route may suggest. -/
structure Suggestible (toLowerCase : JsString → JsString) (catalog : List FeedProduct)
    (base p : FeedProduct) : Prop where
  listed : p ∈ catalog
  other : p.id ≠ base.id
  inStock : p.availability = .in_stock
  related : Related toLowerCase base p

theorem mem_complements {sku : JsString} {base : FeedProduct} {catalog : List FeedProduct}
    (hsku : base.id = sku) {entry : Ranked} : entry ∈ complements toLowerCase sku base catalog ↔
      Suggestible toLowerCase catalog base entry.product ∧
        entry.score = upsellScore toLowerCase base entry.product := by
  rw [complements, List.mem_filter, List.mem_map, decide_eq_true_eq]
  constructor
  · rintro ⟨⟨product, hmem, rfl⟩, hpos⟩
    rw [List.mem_filter, Bool.and_eq_true, bne_iff_ne, beq_iff_eq] at hmem
    obtain ⟨hlisted, hother, hstock⟩ := hmem
    exact ⟨⟨hlisted, by rw [hsku]; exact hother, hstock, scoreComplement_pos.mp hpos⟩, rfl⟩
  · rintro ⟨hs, hscore⟩
    refine ⟨⟨entry.product, ?_, ?_⟩, ?_⟩
    · rw [List.mem_filter, Bool.and_eq_true, bne_iff_ne, beq_iff_eq, ← hsku]
      exact ⟨hs.listed, hs.other, hs.inStock⟩
    · show (⟨entry.product, upsellScore toLowerCase base entry.product⟩ : Ranked) = entry
      rw [← hscore]
    · rw [hscore]
      exact scoreComplement_pos.mpr hs.related

/-- A successful request: the sku is listed, and the results are the best of the complements. -/
theorem getUpsell_ok {shops : Shops} {merchantId : JsString} {params : UpsellParams} {answer : UpsellAnswer}
    (h : getUpsell toLowerCase shops merchantId params = .ok answer) :
    ∃ row base limitParam, params.sku = some answer.sku ∧ getStoreCatalog shops merchantId = some row ∧
      row.catalog.find? (fun p => p.id == answer.sku) = some base ∧
      parseNonNegativeIntParam params.limit (js "INVALID_LIMIT") = .ok limitParam ∧
      answer.results = (best upsellOrder (upsellLimit limitParam)
        (complements toLowerCase answer.sku base row.catalog)).map (·.product) ∧
      answer.count = answer.results.length := by
  unfold getUpsell at h
  split at h
  · cases h
  · rename_i sku hsku
    split at h
    · cases h
    · split at h
      · cases h
      · rename_i row hrow
        split at h
        · cases h
        · rename_i base hbase
          split at h
          · cases h
          · rename_i limitParam hlimit
            obtain rfl := Except.ok.inj h
            exact ⟨row, base, limitParam, hsku, hrow, hbase, hlimit, rfl, rfl⟩

/-- One product comes before another: it scores higher, or as high with the smaller id. -/
def ComesBefore (toLowerCase : JsString → JsString) (base p q : FeedProduct) : Prop :=
  upsellScore toLowerCase base q < upsellScore toLowerCase base p ∨
    (upsellScore toLowerCase base q = upsellScore toLowerCase base p ∧ keyLe p.id q.id = true)

theorem comesBefore_of_order {sku : JsString} {base : FeedProduct} {catalog : List FeedProduct}
    (hsku : base.id = sku) {a b : Ranked} (ha : a ∈ complements toLowerCase sku base catalog)
    (hb : b ∈ complements toLowerCase sku base catalog) (h : upsellOrder a b = true) :
    ComesBefore toLowerCase base a.product b.product := by
  rw [upsellOrder_iff, ((mem_complements hsku).mp ha).2, ((mem_complements hsku).mp hb).2] at h
  exact h

/-- What the results of a request are worth. -/
structure UpsellTrue (toLowerCase : JsString → JsString) (catalog : List FeedProduct) (base : FeedProduct)
    (limit : Nat) (results : List FeedProduct) : Prop where
  suggestible : ∀ p ∈ results, Suggestible toLowerCase catalog base p
  sorted : results.Pairwise (ComesBefore toLowerCase base)
  count : results.length ≤ limit
  /-- What could be suggested is left out only where the limit is used up by what comes before it. -/
  complete : ∀ p, Suggestible toLowerCase catalog base p → p ∈ results ∨
    (results.length = limit ∧ ∀ q ∈ results, ComesBefore toLowerCase base q p)

theorem best_complements_true {sku : JsString} {base : FeedProduct} {catalog : List FeedProduct}
    (hsku : base.id = sku) (limit : Nat) :
    UpsellTrue toLowerCase catalog base limit
      ((best upsellOrder limit (complements toLowerCase sku base catalog)).map (·.product)) := by
  constructor
  case suggestible =>
    intro p hp
    obtain ⟨entry, hentry, rfl⟩ := List.mem_map.mp hp
    exact ((mem_complements hsku).mp (mem_of_mem_best hentry)).1
  case sorted =>
    rw [List.pairwise_map]
    refine (best_sorted upsellOrder_ranks).imp_of_mem ?_
    intro a b ha hb hab
    exact comesBefore_of_order hsku (mem_of_mem_best ha) (mem_of_mem_best hb) hab
  case count =>
    rw [List.length_map]
    exact length_best_le
  case complete =>
    intro p hp
    have hmem : (⟨p, upsellScore toLowerCase base p⟩ : Ranked) ∈
        complements toLowerCase sku base catalog := (mem_complements hsku).mpr ⟨hp, rfl⟩
    by_cases hin : (⟨p, upsellScore toLowerCase base p⟩ : Ranked) ∈
        best upsellOrder limit (complements toLowerCase sku base catalog)
    · left
      exact List.mem_map.mpr ⟨_, hin, rfl⟩
    · right
      refine ⟨by rw [List.length_map]; exact best_full hmem hin, ?_⟩
      intro q hq
      obtain ⟨entry, hentry, rfl⟩ := List.mem_map.mp hq
      have horder := best_before upsellOrder_ranks hentry hmem hin
      exact comesBefore_of_order hsku (mem_of_mem_best hentry) hmem horder

/-- **The suggestions are exact.**  Whatever the catalog, the base product and the limit: what is
    suggested is another listed product in stock that has the brand or a word of the title in common with
    the base product, in the order of what they have in common; at most twelve are; and what could be
    suggested and is not comes behind everything that is, of which there are as many as the limit
    allows. -/
theorem upsell_exact {shops : Shops} {merchantId : JsString} {params : UpsellParams}
    {answer : UpsellAnswer} (h : getUpsell toLowerCase shops merchantId params = .ok answer) :
    ∃ row base limitParam, getStoreCatalog shops merchantId = some row ∧ base ∈ row.catalog ∧
      base.id = answer.sku ∧ params.sku = some answer.sku ∧
      parseNonNegativeIntParam params.limit (js "INVALID_LIMIT") = .ok limitParam ∧
      upsellLimit limitParam ≤ 12 ∧ answer.count = answer.results.length ∧
      UpsellTrue toLowerCase row.catalog base (upsellLimit limitParam) answer.results := by
  obtain ⟨row, base, limitParam, hsku, hrow, hbase, hlimit, hresults, hcount⟩ := getUpsell_ok h
  have hid : base.id = answer.sku := id_of_find? hbase
  refine ⟨row, base, limitParam, hrow, List.mem_of_find?_eq_some hbase, hid, hsku, hlimit, ?_, hcount, ?_⟩
  · rw [upsellLimit, maxUpsellLimit]
    omega
  · rw [hresults]
    exact best_complements_true hid _

/-- A trainer, and a sock of its brand. -/
def demoTrainer : FeedProduct where
  id := js "trainer"
  title := js "Running shoe"
  description := []
  pricePaise := 5000
  currency := js "INR"
  availability := .in_stock
  image := []
  brand := js "Acme"
  merchantId := js "shop"
  injectedPayload := none
  variants := none
  options := none

def demoSock : FeedProduct := { demoTrainer with id := js "sock", title := js "Sock", brand := js "ACME" }

def demoWardrobe (catalog : List FeedProduct) : Shops :=
  ⟨Db.empty, ⟨[⟨js "shop", js "Shop", none, catalog.length, catalog, 0⟩], List.pairwise_singleton _ _⟩⟩

/-- What goes with the trainer. -/
theorem upsell_exact_demo : ∃ answer,
    getUpsell asciiLower (demoWardrobe [demoTrainer, demoSock]) (js "shop") ⟨some (js "trainer"), none⟩
      = .ok answer ∧
    Suggestible asciiLower [demoTrainer, demoSock] demoTrainer demoSock ∧
    UpsellTrue asciiLower [demoTrainer, demoSock] demoTrainer 4 answer.results := by
  obtain ⟨answer, hanswer⟩ : ∃ answer, getUpsell asciiLower (demoWardrobe [demoTrainer, demoSock])
      (js "shop") ⟨some (js "trainer"), none⟩ = .ok answer := ⟨_, rfl⟩
  obtain ⟨row, base, limitParam, hrow, hbase, hid, hsku, hlimit, -, -, htrue⟩ := upsell_exact hanswer
  obtain rfl := Option.some.inj hrow
  obtain rfl := Except.ok.inj hlimit
  have hshoe : base = demoTrainer := by
    rw [← Option.some.inj hsku] at hid
    rcases List.mem_pair.mp hbase with rfl | rfl
    · rfl
    · exact absurd hid (by decide)
  rw [hshoe] at htrue
  refine ⟨answer, hanswer, ⟨by decide, by decide, rfl, Or.inl ⟨by decide, by decide⟩⟩, htrue⟩

/-! ## The order of the catalog -/

/-- With distinct ids an id finds the same product in any order of the list. -/
theorem find?_id_perm {catalog catalog' : List FeedProduct} (hperm : catalog.Perm catalog')
    (hids : (catalog.map (·.id)).Nodup) (sku : JsString) :
    (catalog.find? fun p => p.id == sku) = catalog'.find? fun p => p.id == sku := by
  cases h : catalog'.find? fun p => p.id == sku with
  | none =>
    rw [List.find?_eq_none] at h ⊢
    intro p hp
    exact h p (hperm.mem_iff.mp hp)
  | some q =>
    have hq : q ∈ catalog := hperm.mem_iff.mpr (List.mem_of_find?_eq_some h)
    cases h' : catalog.find? fun p => p.id == sku with
    | none => exact absurd (List.find?_some h) (List.find?_eq_none.mp h' q hq)
    | some p =>
      have hp := List.mem_of_find?_eq_some h'
      have hsame : p.id = q.id := (id_of_find? h').trans (id_of_find? h).symm
      rw [List.inj_on_of_nodup_map hids hp hq hsame]

theorem best_complements_perm {sku : JsString} {base : FeedProduct} {catalog catalog' : List FeedProduct}
    (hsku : base.id = sku) (hperm : catalog.Perm catalog') (hids : (catalog.map (·.id)).Nodup)
    (limit : Nat) :
    best upsellOrder limit (complements toLowerCase sku base catalog)
      = best upsellOrder limit (complements toLowerCase sku base catalog') := by
  apply best_perm upsellOrder_ranks
  · intro a ha b hb hab hba
    obtain ⟨hsa, hscoreA⟩ := (mem_complements hsku).mp ha
    obtain ⟨hsb, hscoreB⟩ := (mem_complements hsku).mp hb
    have hproduct : a.product = b.product :=
      List.inj_on_of_nodup_map hids hsa.listed hsb.listed (upsellOrder_antisymm hab hba)
    have hscore : a.score = b.score := by rw [hscoreA, hscoreB, hproduct]
    cases a
    cases b
    rw [Ranked.mk.injEq]
    exact ⟨hproduct, hscore⟩
  · exact ((hperm.filter _).map _).filter _

/-- **The order of the catalog does not matter.**  Two catalogs that list the same products, each id once,
    give the same answer to every request: repeated scans that find the products in another order never
    reorder, add or drop a suggestion. -/
theorem upsell_catalog_order {shops shops' : Shops} {merchantId : JsString} {row row' : StoreCatalogRow}
    (hrow : getStoreCatalog shops merchantId = some row)
    (hrow' : getStoreCatalog shops' merchantId = some row') (hperm : row.catalog.Perm row'.catalog)
    (hids : (row.catalog.map (·.id)).Nodup) (params : UpsellParams) :
    getUpsell toLowerCase shops merchantId params = getUpsell toLowerCase shops' merchantId params := by
  unfold getUpsell
  rw [hrow, hrow']
  cases params.sku with
  | none => rfl
  | some sku =>
    dsimp only
    rw [find?_id_perm hperm hids sku]
    cases hbase : row'.catalog.find? fun p => p.id == sku with
    | none => rfl
    | some base =>
      have hid : base.id = sku := id_of_find? hbase
      dsimp only
      cases parseNonNegativeIntParam params.limit (js "INVALID_LIMIT") with
      | error code => rfl
      | ok limitParam =>
        dsimp only
        rw [best_complements_perm hid hperm hids]

end

/-- The sock is suggested wherever it is listed. -/
theorem upsell_catalog_order_demo :
    getUpsell asciiLower (demoWardrobe [demoTrainer, demoSock]) (js "shop")
        ⟨some (js "trainer"), some (js "1")⟩
      = getUpsell asciiLower (demoWardrobe [demoSock, demoTrainer]) (js "shop")
          ⟨some (js "trainer"), some (js "1")⟩ :=
  upsell_catalog_order rfl rfl (List.Perm.swap demoSock demoTrainer []) (by decide) _

end Hundi
