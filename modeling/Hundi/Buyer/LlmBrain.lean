/-
  agents/llm-brain/src/llm-brain.ts — `chooseProduct`: a chat model picks a product, a guardrail
  checks the pick.

  1. **Prompt** — `buildPrompt`, from the goal and the candidates.
  2. **Program** — `askLlm`, `fallbackPick`, `resolveChoice`, `chooseProduct`.  The chat client is a
     function of the prompt, so the model may reply anything; the log is left out.
  3. **The guardrail** — it compares the product's stock and price with the goal, the line is priced
     from the variant: `bought_within_iff` says when that is enough.
  4. **The shipped client** — `parsePick` keeps no variant: `variant_choice_never_honoured`.
-/
import Hundi.Buyer.Cart
import Hundi.Buyer.LlmClient

namespace Hundi

open Js

/-! ## Goals and picks -/

/-- `ChooseProductGoal`. -/
structure ChooseProductGoal where
  query : JsString
  ceilingPaise : Int

/-- What a `ChatClient` resolves to. -/
structure ChatPick where
  chosenSku : Option JsString
  reason : Option JsString
  chosenVariantId : Option JsString

/-- `chat.chatJson({ system, user })`. -/
abbrev ChatClient := JsString → JsString → ChatPick

/-- `LlmPick`. -/
structure LlmPick where
  chosenSku : JsString
  reason : JsString
  chosenVariantId : Option JsString

inductive GuardrailOverrideReason where
  | NO_LLM_PICK | SKU_NOT_IN_CANDIDATES | OUT_OF_STOCK | OVER_CEILING | VARIANT_NOT_FOUND
  deriving DecidableEq

structure ResolvedChoice where
  product : Option FeedProduct
  overridden : Bool
  overrideReason : Option GuardrailOverrideReason
  llmReason : Option JsString
  variantId : Option JsString
  variantLabel : Option JsString

structure ChooseProductResult where
  product : Option FeedProduct
  chosenSku : Option JsString
  chosenVariantId : Option JsString
  variantLabel : Option JsString
  reason : Option JsString
  overridden : Bool
  overrideReason : Option GuardrailOverrideReason
  deriving DecidableEq

/-! ## The prompt -/

/-- In stock, and within the goal's ceiling. -/
def withinGoal (ceilingPaise : Int) (p : FeedProduct) : Bool :=
  p.availability = .in_stock && p.pricePaise ≤ ceilingPaise

def maxLlmCandidates : Nat := 90

/-- `Availability.status`. -/
def Availability.status : Availability → JsString
  | .in_stock => js "in_stock"
  | .out_of_stock => js "out_of_stock"

/-- A variant as the prompt lists it. -/
def variantEntry (v : ScannedVariant) : JsonValue :=
  .obj [(js "variant_id", .str v.variantId), (js "label", .str v.label),
    (js "available", .bool v.available)]

/-- A candidate as the prompt lists it. -/
def candidateEntry (p : FeedProduct) : JsonValue :=
  .obj ([(js "id", .str p.id), (js "title", .str p.title), (js "price_paise", .num p.pricePaise),
      (js "availability", .str p.availability.status), (js "brand", .str p.brand)] ++
    match p.variants with
    | some variants => [(js "variants", .arr (variants.map variantEntry))]
    | none => [])

/-- `buildPrompt(goal, candidates)`: the system and the user message. -/
def buildPrompt (goal : ChooseProductGoal) (candidates : List FeedProduct) : JsString × JsString :=
  let ok := withinGoal goal.ceilingPaise
  -- the comparison sorts by `ok` alone, and the sort is stable
  let ranked := candidates.insertionSort fun a b => ok a || !ok b
  let listing := (ranked.take maxLlmCandidates).map candidateEntry
  (js ("You are a careful shopping assistant. Pick the single best-fitting product for the " ++
      "shopper's stated goal from a JSON candidate list. Respond with ONLY a JSON object of " ++
      "the shape \x7b\"chosen_sku\": string, \"reason\": string, \"chosen_variant_id\": string\x7d — no " ++
      "markdown, no other text. \"reason\" is one sentence explaining the fit. If the goal names a " ++
      "size or color, the chosen product has a \"variants\" list, and one of its variants matches, " ++
      "set \"chosen_variant_id\" to that variant's id. Omit \"chosen_variant_id\" entirely when the " ++
      "goal names no size/color, or when the chosen product has no \"variants\" list at all — never " ++
      "invent a variant id that isn't in the candidate's own \"variants\" list."),
    js "Shopper goal: \"" ++ goal.query ++ js "\"\n" ++
      js "Maximum budget: " ++ showInt goal.ceilingPaise ++ js " paise.\n" ++
      js "Candidates: " ++ print (.arr listing))

/-! ## The program -/

/-- `askLlm(chat, goal, candidates)`. -/
def askLlm (chat : ChatClient) (goal : ChooseProductGoal) (candidates : List FeedProduct) :
    Option LlmPick :=
  let prompt := buildPrompt goal candidates
  let pick := chat prompt.1 prompt.2
  (givenId pick.chosenSku).map fun sku =>
    { chosenSku := sku
      reason := pick.reason.getD []
      chosenVariantId := givenId pick.chosenVariantId }

/-- `fallbackPick(candidates, ceiling_paise)`: the cheapest in stock under the ceiling. -/
def fallbackPick (candidates : List FeedProduct) (ceilingPaise : Int) : Option FeedProduct :=
  ((candidates.filter (withinGoal ceilingPaise)).insertionSort
    fun a b => a.pricePaise ≤ b.pricePaise).head?

/-- `override(reason, candidates, goal, log, pick)`. -/
def override (reason : GuardrailOverrideReason) (candidates : List FeedProduct)
    (goal : ChooseProductGoal) (pick : Option LlmPick) : ResolvedChoice where
  product := fallbackPick candidates goal.ceilingPaise
  overridden := true
  overrideReason := some reason
  llmReason := pick.map (·.reason)
  variantId := none
  variantLabel := none

/-- `resolveChoice(pick, candidates, goal, log)`. -/
def resolveChoice (pick : Option LlmPick) (candidates : List FeedProduct)
    (goal : ChooseProductGoal) : ResolvedChoice :=
  match pick with
  | none => override .NO_LLM_PICK candidates goal none
  | some pick =>
    match candidates.find? fun p => p.id == pick.chosenSku with
    | none => override .SKU_NOT_IN_CANDIDATES candidates goal (some pick)
    | some chosen =>
      if chosen.availability ≠ .in_stock then override .OUT_OF_STOCK candidates goal (some pick)
      else if chosen.pricePaise > goal.ceilingPaise then
        override .OVER_CEILING candidates goal (some pick)
      else
        match givenId pick.chosenVariantId with
        | none => ⟨some chosen, false, none, some pick.reason, none, none⟩
        | some variantId =>
          match findVariant chosen variantId with
          | none => ⟨none, true, some .VARIANT_NOT_FOUND, some pick.reason, none, none⟩
          | some variant =>
            ⟨some chosen, false, none, some pick.reason, some variant.variantId, some variant.label⟩

/-- `chooseProduct({ candidates, goal, chat })`. -/
def chooseProduct (candidates : List FeedProduct) (goal : ChooseProductGoal) (chat : ChatClient) :
    ChooseProductResult :=
  let resolved := resolveChoice (askLlm chat goal candidates) candidates goal
  { product := resolved.product
    chosenSku := resolved.product.map (·.id)
    chosenVariantId := givenId resolved.variantId
    variantLabel := (givenId resolved.variantId).bind fun _ => resolved.variantLabel
    reason := resolved.llmReason
    overridden := resolved.overridden
    overrideReason := resolved.overrideReason }

/-- `LlmConfig`. -/
structure LlmConfig where
  baseUrl : JsString
  apiKey : JsString
  model : JsString

/-- The arguments of `chatJson` for a configuration and a prompt. -/
def LlmConfig.args (config : LlmConfig) (system user : JsString) : ChatJsonArgs :=
  ⟨config.baseUrl, config.apiKey, config.model, system, user⟩

/-- `(args) => chatJson({ ...config, ...args })`. -/
def LlmConfig.chat (provider : Provider) (config : LlmConfig) : ChatClient := fun system user =>
  let pick := chatJson provider (config.args system user)
  ⟨pick.chosenSku, pick.reason, none⟩

/-- `buildDefaultChatClient(config)`; `error` is the text of what it throws. -/
def buildDefaultChatClient (provider : Provider) : Option LlmConfig → Except JsString ChatClient
  | none => .error (js "either deps.chat or config (baseUrl/apiKey/model) is required")
  | some config => .ok (config.chat provider)

/-! ## What a guardrail pick is -/

theorem givenId_idem (s : Option JsString) : givenId (givenId s) = givenId s := by
  rw [givenId, givenId, Option.filter_filter]
  simp only [Bool.and_self]

/-- The substitute is in stock and within the ceiling. -/
theorem fallbackPick_within {candidates : List FeedProduct} {ceilingPaise : Int}
    {product : FeedProduct} (h : fallbackPick candidates ceilingPaise = some product) :
    product ∈ candidates ∧ product.availability = .in_stock ∧ product.pricePaise ≤ ceilingPaise := by
  have hmem := List.mem_of_mem_head? (Option.mem_def.mpr h)
  rw [List.mem_insertionSort, List.mem_filter, withinGoal, Bool.and_eq_true, decide_eq_true_eq,
    decide_eq_true_eq] at hmem
  exact hmem

/-- The pick names a candidate the guardrail lets through. -/
structure PicksWithin (candidates : List FeedProduct) (goal : ChooseProductGoal) (pick : ChatPick)
    (product : FeedProduct) : Prop where
  named : ∃ sku, givenId pick.chosenSku = some sku ∧
    (candidates.find? fun p => p.id == sku) = some product
  inStock : product.availability = .in_stock
  price : product.pricePaise ≤ goal.ceilingPaise

/-- What the model replies to the prompt of a goal and its candidates. -/
def reply (chat : ChatClient) (goal : ChooseProductGoal) (candidates : List FeedProduct) : ChatPick :=
  chat (buildPrompt goal candidates).1 (buildPrompt goal candidates).2

/-- The variant the model asks for. -/
def askedVariant (chat : ChatClient) (goal : ChooseProductGoal) (candidates : List FeedProduct) :
    Option JsString :=
  givenId (reply chat goal candidates).chosenVariantId

theorem askLlm_eq (chat : ChatClient) (goal : ChooseProductGoal) (candidates : List FeedProduct) :
    askLlm chat goal candidates = (givenId (reply chat goal candidates).chosenSku).map fun sku =>
      ⟨sku, (reply chat goal candidates).reason.getD [], askedVariant chat goal candidates⟩ := rfl

section
variable {candidates : List FeedProduct} {goal : ChooseProductGoal} {chat : ChatClient}

/-- A product the guardrail lets through goes on with the variant the model asked for, if it has it. -/
theorem chooseProduct_of_within {product : FeedProduct}
    (h : PicksWithin candidates goal (reply chat goal candidates) product) :
    chooseProduct candidates goal chat =
      match askedVariant chat goal candidates with
      | none => ⟨some product, some product.id, none, none,
          some ((reply chat goal candidates).reason.getD []), false, none⟩
      | some id =>
        match findVariant product id with
        | none => ⟨none, none, none, none, some ((reply chat goal candidates).reason.getD []), true,
            some .VARIANT_NOT_FOUND⟩
        | some v => ⟨some product, some product.id, givenId (some v.variantId),
            (givenId (some v.variantId)).bind fun _ => some v.label,
            some ((reply chat goal candidates).reason.getD []), false, none⟩ := by
  obtain ⟨⟨sku, hsku, hfind⟩, hstock, hprice⟩ := h
  have hask : askLlm chat goal candidates =
      some ⟨sku, (reply chat goal candidates).reason.getD [], askedVariant chat goal candidates⟩ := by
    rw [askLlm_eq, hsku, Option.map_some]
  have hidem : givenId (askedVariant chat goal candidates) = askedVariant chat goal candidates :=
    givenId_idem _
  unfold chooseProduct
  rw [hask, resolveChoice]
  dsimp only
  rw [hfind]
  dsimp only
  rw [if_neg (not_not.mpr hstock), if_neg (not_lt.mpr hprice), hidem]
  cases askedVariant chat goal candidates with
  | none => rfl
  | some id =>
    dsimp only
    cases findVariant product id with
    | none => rfl
    | some v => rfl

/-- Any other pick is replaced by the substitute, without a variant. -/
theorem chooseProduct_override
    (h : ∀ product, ¬ PicksWithin candidates goal (reply chat goal candidates) product) :
    (chooseProduct candidates goal chat).product = fallbackPick candidates goal.ceilingPaise ∧
      (chooseProduct candidates goal chat).chosenVariantId = none ∧
      (chooseProduct candidates goal chat).overrideReason ≠ some .VARIANT_NOT_FOUND := by
  unfold chooseProduct
  rw [askLlm_eq]
  cases hsku : givenId (reply chat goal candidates).chosenSku with
  | none => exact ⟨rfl, rfl, by simp [resolveChoice, override]⟩
  | some sku =>
    rw [Option.map_some, resolveChoice]
    dsimp only
    cases hfind : candidates.find? fun p => p.id == sku with
    | none => exact ⟨rfl, rfl, by simp [override]⟩
    | some product =>
      dsimp only
      by_cases hstock : product.availability = .in_stock
      · by_cases hprice : product.pricePaise ≤ goal.ceilingPaise
        · exact absurd ⟨⟨sku, hsku, hfind⟩, hstock, hprice⟩ (h product)
        · rw [if_neg (not_not.mpr hstock), if_pos (not_le.mp hprice)]
          exact ⟨rfl, rfl, by simp [override]⟩
      · rw [if_pos hstock]
        exact ⟨rfl, rfl, by simp [override]⟩

end

/-! ## The guardrail -/

/-- Something in stock is bought: the variant, or the product where none is chosen. -/
def LineInStock (product : FeedProduct) (variantId : Option JsString) : Prop :=
  match givenId variantId with
  | none => product.availability = .in_stock
  | some id => ∃ v, findVariant product id = some v ∧ v.available = true

/-- The cart of one unit is built, for something in stock at no more than the ceiling. -/
def BoughtWithin (goal : ChooseProductGoal) (product : FeedProduct) (variantId : Option JsString) :
    Prop :=
  ∃ draft item, buildCartDraft [⟨product, 1, variantId⟩] none = .ok draft ∧ draft.items = [item] ∧
    item.unitPricePaise ≤ goal.ceilingPaise ∧ LineInStock product variantId

/-- A variant the model asks for, of a product that passes, is itself available and within the
    ceiling. -/
def VariantWithin (candidates : List FeedProduct) (goal : ChooseProductGoal) (pick : ChatPick) : Prop :=
  ∀ product id v, PicksWithin candidates goal pick product → givenId pick.chosenVariantId = some id →
    findVariant product id = some v → v.available = true ∧ v.pricePaise ≤ goal.ceilingPaise

/-- A variant is found under its own id. -/
theorem findVariant_variantId {product : FeedProduct} {id : JsString} {v : ScannedVariant}
    (h : findVariant product id = some v) : v.variantId = id := by
  obtain ⟨variants, -, hfind⟩ := Option.bind_eq_some_iff.mp h
  have hmatch := List.find?_some hfind
  exact beq_iff_eq.mp hmatch

/-- A cart of one line is built from it. -/
theorem buildCartDraft_single {line : CartLineInput} {item : CartItem}
    (h : cartLine line.product.merchantId line = .ok item) :
    ∃ draft, buildCartDraft [line] none = .ok draft ∧ draft.items = [item] := by
  have hdraft : buildCartDraft [line] none =
      (cartLines line.product.merchantId [line]).bind fun items =>
        .ok ⟨line.product.merchantId, items, recomputedTotal items, none⟩ := rfl
  refine ⟨⟨line.product.merchantId, [item], recomputedTotal [item], none⟩, ?_, rfl⟩
  rw [hdraft, cartLines, h]
  rfl

/-- A line without a variant has the product's price. -/
theorem cartLine_base (product : FeedProduct) :
    cartLine product.merchantId ⟨product, 1, none⟩ =
      .ok ⟨product.id, 1, product.pricePaise, none, none⟩ := by
  rw [cartLine, if_neg (not_not.mpr rfl)]
  rfl

/-- A line with one has the variant's. -/
theorem cartLine_variant {product : FeedProduct} {id : JsString} {v : ScannedVariant}
    (hid : id ≠ []) (h : findVariant product id = some v) :
    cartLine product.merchantId ⟨product, 1, some id⟩ =
      .ok ⟨product.id, 1, v.pricePaise, some v.variantId, some v.label⟩ := by
  have hgiven : givenId (some id) = some id := givenId_eq_some.mpr ⟨rfl, hid⟩
  rw [cartLine, if_neg (not_not.mpr rfl)]
  dsimp only
  rw [hgiven]
  dsimp only
  rw [h]

/-- Without a variant the product's own fields decide. -/
theorem boughtWithin_base {goal : ChooseProductGoal} {product : FeedProduct}
    (hstock : product.availability = .in_stock) (hprice : product.pricePaise ≤ goal.ceilingPaise) :
    BoughtWithin goal product none := by
  obtain ⟨draft, hdraft, hitems⟩ := buildCartDraft_single (cartLine_base product)
  exact ⟨draft, _, hdraft, hitems, hprice, hstock⟩

/-- With one, the variant's. -/
theorem boughtWithin_variant_iff {goal : ChooseProductGoal} {product : FeedProduct} {id : JsString}
    {v : ScannedVariant} (hid : id ≠ []) (h : findVariant product id = some v) :
    BoughtWithin goal product (some id) ↔ v.available = true ∧ v.pricePaise ≤ goal.ceilingPaise := by
  obtain ⟨draft, hdraft, hitems⟩ := buildCartDraft_single (cartLine_variant hid h)
  have hgiven : givenId (some id) = some id := givenId_eq_some.mpr ⟨rfl, hid⟩
  constructor
  · rintro ⟨draft', item, hdraft', hitems', hprice, hstock⟩
    obtain rfl : draft = draft' := Except.ok.inj (hdraft.symm.trans hdraft')
    obtain rfl := List.head_eq_of_cons_eq (hitems.symm.trans hitems')
    rw [LineInStock, hgiven] at hstock
    obtain ⟨v', hv', havailable⟩ := hstock
    obtain rfl : v = v' := Option.some.inj (h.symm.trans hv')
    exact ⟨havailable, hprice⟩
  · rintro ⟨havailable, hprice⟩
    refine ⟨draft, _, hdraft, hitems, hprice, ?_⟩
    rw [LineInStock, hgiven]
    exact ⟨v, h, havailable⟩

/-- **What is bought is within the goal exactly when the variant the model asks for is.**  The
    guardrail reads the product's fields only; the line has the variant's price. -/
theorem bought_within_iff (candidates : List FeedProduct) (goal : ChooseProductGoal)
    (chat : ChatClient) :
    (∀ product, (chooseProduct candidates goal chat).product = some product →
        BoughtWithin goal product (chooseProduct candidates goal chat).chosenVariantId) ↔
      VariantWithin candidates goal (reply chat goal candidates) := by
  constructor
  · intro hbought product id v hpick hid hfind
    obtain ⟨-, hne⟩ := givenId_eq_some.mp hid
    have hvid := findVariant_variantId hfind
    have hresult := chooseProduct_of_within hpick
    rw [askedVariant, hid] at hresult
    dsimp only at hresult
    rw [hfind] at hresult
    dsimp only at hresult
    rw [hvid, givenId_eq_some.mpr ⟨rfl, hne⟩] at hresult
    have hproduct := hbought product (by rw [hresult])
    rw [hresult] at hproduct
    exact (boughtWithin_variant_iff hne hfind).mp hproduct
  · intro hwithin product hproduct
    by_cases hany : ∃ chosen, PicksWithin candidates goal (reply chat goal candidates) chosen
    · obtain ⟨chosen, hpick⟩ := hany
      have hresult := chooseProduct_of_within hpick
      cases hid : askedVariant chat goal candidates with
      | none =>
        rw [hid] at hresult
        dsimp only at hresult
        rw [hresult] at hproduct ⊢
        obtain rfl := Option.some.inj hproduct
        exact boughtWithin_base hpick.inStock hpick.price
      | some id =>
        obtain ⟨-, hne⟩ := givenId_eq_some.mp hid
        rw [hid] at hresult
        dsimp only at hresult
        cases hfind : findVariant chosen id with
        | none =>
          rw [hfind] at hresult
          dsimp only at hresult
          rw [hresult] at hproduct
          exact nomatch hproduct
        | some v =>
          rw [hfind] at hresult
          dsimp only at hresult
          rw [findVariant_variantId hfind, givenId_eq_some.mpr ⟨rfl, hne⟩] at hresult
          rw [hresult] at hproduct ⊢
          obtain rfl := Option.some.inj hproduct
          exact (boughtWithin_variant_iff hne hfind).mpr (hwithin chosen id v hpick hid hfind)
    · obtain ⟨hfallback, hnone, -⟩ :=
        chooseProduct_override fun product hpick => hany ⟨product, hpick⟩
      rw [hfallback] at hproduct
      rw [hnone]
      obtain ⟨-, hstock, hprice⟩ := fallbackPick_within hproduct
      exact boughtWithin_base hstock hprice

/-- A goal between the price of the listing and that of the larger size. -/
def demoGoal : ChooseProductGoal := ⟨js "walking shoes, size 11", 330000⟩

/-- The model picks the larger size: it goes into the cart at 350000 paise under a ceiling of
    330000. -/
theorem dearer_variant_bought :
    ∃ chat : ChatClient, (chooseProduct [demoShoeListing] demoGoal chat).product = some demoShoeListing ∧
      (chooseProduct [demoShoeListing] demoGoal chat).overridden = false ∧
      ¬ BoughtWithin demoGoal demoShoeListing
        (chooseProduct [demoShoeListing] demoGoal chat).chosenVariantId := by
  have hfind : findVariant demoShoeListing (js "v11") =
      some ⟨js "v11", js "11", [js "11"], 350000, true, none⟩ := rfl
  refine ⟨fun _ _ => ⟨some (js "shoe"), some (js "size 11"), some (js "v11")⟩, rfl, rfl, ?_⟩
  show ¬ BoughtWithin demoGoal demoShoeListing (some (js "v11"))
  rw [boughtWithin_variant_iff (by decide) hfind]
  decide

/-! ## The shipped client -/

/-- Exactly the variant of the product is selected, or it is reported as not found. -/
def Honoured (result : ChooseProductResult) (product : FeedProduct) (variantId : JsString) : Prop :=
  (result.product = some product ∧ result.chosenVariantId = some variantId) ∨
    (result.product = none ∧ result.overrideReason = some .VARIANT_NOT_FOUND)

/-- A reply text with one JSON object in it, whose `chosen_sku` names a candidate in stock and within
    the ceiling and whose `chosen_variant_id` is a string. -/
structure NamesVariant (candidates : List FeedProduct) (goal : ChooseProductGoal) (text : JsString)
    (product : FeedProduct) (reason : Option JsString) (variantId : JsString) : Prop where
  object : ∃ before object after members, OneObject text before object after ∧
    parseObject object = some members ∧
    stringMember members (js "chosen_sku") = some product.id ∧ product.id ≠ [] ∧
    stringMember members (js "reason") = reason ∧
    stringMember members (js "chosen_variant_id") = some variantId
  listed : (candidates.find? fun p => p.id == product.id) = some product
  inStock : product.availability = .in_stock
  price : product.pricePaise ≤ goal.ceilingPaise

/-- A client that passes on no variant has none chosen, and none reported. -/
theorem chooseProduct_without_variant {candidates : List FeedProduct} {goal : ChooseProductGoal}
    {chat : ChatClient} (h : (reply chat goal candidates).chosenVariantId = none) :
    (chooseProduct candidates goal chat).chosenVariantId = none ∧
      (chooseProduct candidates goal chat).overrideReason ≠ some .VARIANT_NOT_FOUND := by
  by_cases hany : ∃ chosen, PicksWithin candidates goal (reply chat goal candidates) chosen
  · obtain ⟨chosen, hpick⟩ := hany
    have hresult := chooseProduct_of_within hpick
    have hnone : askedVariant chat goal candidates = none := by
      rw [askedVariant, h]
      rfl
    rw [hnone] at hresult
    rw [hresult]
    exact ⟨rfl, fun hreason => nomatch hreason⟩
  · exact (chooseProduct_override fun product hpick => hany ⟨product, hpick⟩).2

/-- The arguments that `chatJson` gets for a goal and its candidates. -/
def LlmConfig.promptArgs (config : LlmConfig) (goal : ChooseProductGoal)
    (candidates : List FeedProduct) : ChatJsonArgs :=
  config.args (buildPrompt goal candidates).1 (buildPrompt goal candidates).2

/-- A named candidate is returned as the bare product. -/
theorem NamesVariant.base {provider : Provider} {config : LlmConfig} {candidates : List FeedProduct}
    {goal : ChooseProductGoal} {text variantId : JsString} {reason : Option JsString}
    {product : FeedProduct} (hreplied : Replied provider (config.promptArgs goal candidates) text)
    (h : NamesVariant candidates goal text product reason variantId) :
    chooseProduct candidates goal (config.chat provider) =
      ⟨some product, some product.id, none, none, some (reason.getD []), false, none⟩ := by
  obtain ⟨before, object, after, members, hone, hparse, hsku, hne, hreason, -⟩ := h.object
  have hcut : text ≠ [] := by
    obtain ⟨inner, rfl⟩ := hone.braces
    rw [hone.eq]
    simp
  have hpick : chatJson provider (config.promptArgs goal candidates) = ⟨some product.id, reason⟩ := by
    rw [hreplied.chatJson hcut, parsePick_of_object hone hparse, hsku, hreason]
  have hreply : reply (config.chat provider) goal candidates = ⟨some product.id, reason, none⟩ := by
    rw [reply, LlmConfig.chat, ← LlmConfig.promptArgs, hpick]
  have hwithin : PicksWithin candidates goal (reply (config.chat provider) goal candidates) product := by
    rw [hreply]
    exact ⟨⟨product.id, givenId_eq_some.mpr ⟨rfl, hne⟩, h.listed⟩, h.inStock, h.price⟩
  rw [chooseProduct_of_within hwithin, askedVariant, hreply]
  rfl

/-- The shipped client selects no variant and reports none as not found. -/
theorem not_honoured (provider : Provider) (config : LlmConfig) (candidates : List FeedProduct)
    (goal : ChooseProductGoal) (product : FeedProduct) (variantId : JsString) :
    ¬ Honoured (chooseProduct candidates goal (config.chat provider)) product variantId := by
  have hreply : (reply (config.chat provider) goal candidates).chosenVariantId = none := rfl
  obtain ⟨hnone, hnotfound⟩ := chooseProduct_without_variant hreply
  rintro (⟨-, hvariant⟩ | ⟨-, hreason⟩)
  · rw [hnone] at hvariant
    exact nomatch hvariant
  · exact hnotfound hreason

/-- **The shipped client loses the variant.**  Whatever the provider replies, no variant is selected
    and none is reported as not found; a reply that names one gets the bare product. -/
theorem variant_choice_never_honoured (provider : Provider) (config : LlmConfig)
    (candidates : List FeedProduct) (goal : ChooseProductGoal) :
    ∃ chat, buildDefaultChatClient provider (some config) = .ok chat ∧
      (∀ product variantId, ¬ Honoured (chooseProduct candidates goal chat) product variantId) ∧
      ∀ text product reason variantId, Replied provider (config.promptArgs goal candidates) text →
        NamesVariant candidates goal text product reason variantId →
        chooseProduct candidates goal chat =
          ⟨some product, some product.id, none, none, some (reason.getD []), false, none⟩ := by
  refine ⟨config.chat provider, rfl, ?_, ?_⟩
  · exact not_honoured provider config candidates goal
  · intro text product reason variantId hreplied hnames
    exact hnames.base hreplied

/-- A reply that asks for the size 11. -/
def demoReply : JsString :=
  js "\x7b\"chosen_sku\":\"shoe\",\"reason\":\"size 11\",\"chosen_variant_id\":\"v11\"\x7d"

/-- The size 11 exists and is available; the shoe is returned without a size. -/
theorem named_variant_dropped :
    ∃ (provider : Provider) (config : LlmConfig) (chat : ChatClient) (v : ScannedVariant),
      buildDefaultChatClient provider (some config) = .ok chat ∧
      Replied provider (config.promptArgs demoGoal [demoShoeListing]) demoReply ∧
      NamesVariant [demoShoeListing] demoGoal demoReply demoShoeListing (some (js "size 11"))
        v.variantId ∧
      findVariant demoShoeListing v.variantId = some v ∧ v.available = true ∧
      ¬ Honoured (chooseProduct [demoShoeListing] demoGoal chat) demoShoeListing v.variantId := by
  have hparse : (parseObject demoReply).map (fun members =>
      (stringMember members (js "chosen_sku"), stringMember members (js "reason"),
        stringMember members (js "chosen_variant_id"))) =
      some (some (js "shoe"), some (js "size 11"), some (js "v11")) := by decide +kernel
  obtain ⟨members, hmembers, hfields⟩ := Option.map_eq_some_iff.mp hparse
  obtain ⟨hsku, hfields⟩ := Prod.mk.inj hfields
  obtain ⟨hreason, hvariant⟩ := Prod.mk.inj hfields
  have hone : OneObject demoReply [] demoReply [] :=
    ⟨(List.append_nil _).symm, List.not_mem_nil, List.not_mem_nil, demoReply.tail.dropLast, by decide⟩
  let provider : Provider := fun _ _ => some ⟨200, .text demoReply⟩
  let config : LlmConfig := ⟨js "https://llm.example/v1", js "key", js "model"⟩
  refine ⟨provider, config, config.chat provider,
    ⟨js "v11", js "11", [js "11"], 350000, true, none⟩, rfl, ?_, ?_, rfl, rfl, ?_⟩
  · exact ⟨0, by decide, fun j hj => absurd hj (Nat.not_lt_zero j), 200, le_rfl, by decide, rfl⟩
  · exact ⟨⟨[], demoReply, [], members, hone, hmembers, hsku, by decide, hreason, hvariant⟩, rfl, rfl,
      by decide⟩
  · exact not_honoured provider config _ _ _ _

end Hundi
