/-
  packages/facilitator/src/routes/verify.ts — POST /verify, and that it foretells POST /settlements.

  The dry run builds its context on the untouched database, the real run after inserting a row of
  its own.  `buildVerifyCtx_inserted` says that the two contexts are one when nothing is reserved
  (`Unreserved`): the new row has no captured amount, and it is left out of the duplicate lookup.
  From there on the two runs ask the same gate; what remains is that the real run's writes go
  through, a success lemma for each (`transitionSettlement_isOk`, `completeIdempotencyKey_isOk`).
-/
import Hundi.Facilitator.Routes

namespace Hundi

open Js EventLoop

/-! ## POST /verify -/

/-- The bodies POST /verify answers with. -/
inductive VerifyBody where
  | ok (needsApproval : Bool) (mandateCartHashHex : JsString)
  | error (code : JsString) (reason : Option JsString)
  deriving DecidableEq

/-- POST /verify. -/
def postVerify (env : Env) (now : Int) (db : Db) (intent : IntentMandate) (cart : CartMandate) :
    Except Exn VerifyBody := do
  let (ctx, _) ← buildVerifyCtx env.crypto db intent cart now none
  match ← verifyChain env.crypto intent cart ctx with
  | .fail reason detail => return .error reason.text detail
  | .ok needsApproval mandateCartHashHex => return .ok needsApproval mandateCartHashHex

/-- The body a verdict of the gate is answered with. -/
def VerifyResult.answer : VerifyResult → VerifyBody
  | .fail reason detail => .error reason.text detail
  | .ok needsApproval mandateCartHashHex => .ok needsApproval mandateCartHashHex

theorem postVerify_ok {env : Env} {now : Int} {db : Db} {intent : IntentMandate} {cart : CartMandate}
    {body : VerifyBody} (h : postVerify env now db intent cart = .ok body) :
    ∃ ctx hash result, buildVerifyCtx env.crypto db intent cart now none = .ok (ctx, hash) ∧
      verifyChain env.crypto intent cart ctx = .ok result ∧ body = result.answer := by
  rw [postVerify, bind_eq_ok] at h
  obtain ⟨⟨ctx, hash⟩, hctx, h⟩ := h
  rw [bind_eq_ok] at h
  obtain ⟨result, hresult, h⟩ := h
  refine ⟨ctx, hash, result, hctx, hresult, ?_⟩
  cases result <;> exact (Except.ok.inj h).symm

/-- The failure code a body of POST /settlements reports. -/
def CreateSettlementBody.failureCode? : CreateSettlementBody → Option JsString
  | .ok _ _ reason => reason.map RejectionCode.text
  | .error code => some code

/-- POST /settlements: the claim of the key and the transaction, with `settlementId` for the fresh
    `randomUUID()`. -/
def settle (env : Env) (now : Int) (settlementId : JsString) (w : World) (key : JsString)
    (intent : IntentMandate) (cart : CartMandate) : World :=
  let claimed := postSettlements env now w (some key) intent cart
  match claimed.next with
  | .cpu (.settlementClaimed key intent cart) =>
    (settlementClaimed env now settlementId claimed.world key intent cart).world
  | _ => claimed.world

/-! ## The schemas and the structural checks -/

theorem validateLimits_of_schema : ∀ {limits : Record}, limitsSchema limits = true →
    validateLimits limits = none
  | [], _ => rfl
  | (merchant, limit) :: rest, h => by
    rw [limitsSchema, List.all_cons, ← limitsSchema, Bool.and_eq_true] at h
    obtain ⟨hentry, hrest⟩ := h
    simp only [Bool.and_eq_true, decide_eq_true_eq] at hentry
    rw [validateLimits, validateLimits_of_schema hrest, hentry.1.1, hentry.1.2]
    simp only [returnIf, Bool.not_true, Bool.false_or, decide_eq_true_eq, if_neg (not_lt.mpr hentry.2),
      Bool.false_eq_true, if_false, Option.orElse_eq_orElse, Option.orElse_eq_or, Option.none_or]

theorem isValidSigEnvelope_eq (sig : SigEnvelope) : isValidSigEnvelope sig = sigEnvelopeSchema sig := by
  cases sig <;> rfl

/-- **An accepted intent passes the structural check.** -/
theorem validateIntentSchema_of_schema {intent : IntentMandate} (h : intentMandateSchema intent = true) :
    validateIntentSchema intent = none := by
  simp only [intentMandateSchema, Bool.and_eq_true, decide_eq_true_eq] at h
  obtain ⟨⟨⟨⟨⟨⟨⟨⟨⟨⟨⟨hid, hgoal⟩, hceiling⟩, hthreshold⟩, -⟩, hmerchants⟩, hexpires⟩, hagent⟩,
    hlimits⟩, hline⟩, hskus⟩, hsig⟩ := h
  simp only [validateIntentSchema, Option.orElse_eq_orElse, Option.orElse_eq_or,
    Option.or_eq_none_iff, returnIf_eq_none, Bool.or_eq_false_iff, Bool.not_eq_false',
    decide_eq_false_iff_not, not_le, not_lt, isValidSigEnvelope_eq]
  refine ⟨hid, hgoal, hceiling, hthreshold, ?_, hmerchants.2, hexpires, hagent, ?_, ?_, ?_, ?_, hsig⟩
  · simpa using hmerchants.1
  · cases hl : intent.perMerchantCeilingPaise with
    | none => rfl
    | some limits =>
      rw [hl, Option.all_some] at hlimits
      exact validateLimits_of_schema hlimits
  · cases hl : intent.cumulativeApprovalThresholdPaise with
    | none => rfl
    | some line =>
      rw [hl, Option.all_some, Bool.and_eq_true, decide_eq_true_eq] at hline
      rw [Option.any_some, hline.1, decide_eq_false (not_lt.mpr hline.2)]
      rfl
  · cases hs : intent.allowedSkus with
    | none => rfl
    | some skus =>
      rw [hs, Option.all_some, Bool.and_eq_true, Bool.not_eq_true'] at hskus
      rw [Option.any_some, hskus.1]
  · cases hs : intent.allowedSkus with
    | none => rfl
    | some skus =>
      rw [hs, Option.all_some, Bool.and_eq_true] at hskus
      rw [Option.any_some, hskus.2]
      rfl

theorem validateItems_of_schema : ∀ {items : List CartItem} {i : Nat},
    items.all cartItemSchema = true → validateItems items i = none
  | [], _, _ => rfl
  | item :: rest, i, h => by
    rw [List.all_cons, Bool.and_eq_true] at h
    obtain ⟨hitem, hrest⟩ := h
    simp only [cartItemSchema, Bool.and_eq_true, decide_eq_true_eq] at hitem
    obtain ⟨⟨⟨⟨hsku, hqty⟩, hprice⟩, hvariant⟩, -⟩ := hitem
    simp only [validateItems, validateCartItemSchema, validateItems_of_schema hrest,
      Option.orElse_eq_orElse, Option.orElse_eq_or, Option.or_eq_none_iff, returnIf_eq_none,
      Bool.or_eq_false_iff, Bool.not_eq_false', decide_eq_false_iff_not, not_le, not_lt]
    refine ⟨⟨hsku, hqty, hprice, ?_⟩, trivial⟩
    cases hv : item.variantId with
    | none => rfl
    | some id =>
      rw [hv, Option.all_some] at hvariant
      rw [Option.any_some, hvariant]
      rfl

/-- **An accepted cart passes the structural check.** -/
theorem validateCartSchema_of_schema {cart : CartMandate} (h : cartMandateSchema cart = true) :
    validateCartSchema cart = none := by
  simp only [cartMandateSchema, Bool.and_eq_true, decide_eq_true_eq] at h
  obtain ⟨⟨⟨⟨⟨hid, hmerchant⟩, hitems⟩, htotal⟩, hhash⟩, hsig⟩ := h
  simp only [validateCartSchema, Option.orElse_eq_orElse, Option.orElse_eq_or,
    Option.or_eq_none_iff, returnIf_eq_none, Bool.or_eq_false_iff, Bool.not_eq_false',
    decide_eq_false_iff_not, not_lt, validateItems_of_schema hitems.2]
  exact ⟨hid, hmerchant, by simpa using hitems.1, trivial, htotal, hhash, hsig⟩

/-! ## One context for both runs -/

/-- Nothing stands in the way of the reservation: the id is fresh, the mandate has no live
    settlement, and no live or captured settlement has the cart. -/
structure Unreserved (crypto : Crypto) (t : Settlements) (settlementId : JsString)
    (intent : IntentMandate) (cart : CartMandate) : Prop where
  fresh : ∀ r ∈ t.rows, r.id ≠ settlementId
  idle : ∀ r ∈ t.rows, r.mandateId = intent.mandateId → r.state.live = false
  once : ∀ r ∈ t.rows, r.state.holdsCart = true →
    computeMandateCartHash crypto intent cart ≠ .ok r.mandateCartHashHex

/-- An unreserved settlement can be inserted. -/
theorem Unreserved.insert {crypto : Crypto} {db : Db} {settlementId : JsString}
    {intent : IntentMandate} {cart : CartMandate} (h : Unreserved crypto db.settlements settlementId intent cart)
    {hash : JsString} (hhash : computeMandateCartHash crypto intent cart = .ok hash) (now : Int) :
    ∃ db', insertSettlement db (newSettlement now settlementId intent.mandateId cart hash) = .ok db' := by
  have hfree : ∀ r ∈ db.settlements.rows,
      r.clash (newSettlement now settlementId intent.mandateId cart hash) = false := by
    intro r hr
    simp only [SettlementRow.clash, SettlementRow.clashLive, SettlementRow.clashCart, newSettlement,
      Bool.or_eq_false_iff, Bool.and_eq_false_iff, beq_eq_false_iff_ne]
    refine ⟨⟨h.fresh r hr, ?_⟩, ?_⟩
    · by_cases hm : r.mandateId = intent.mandateId
      · exact Or.inl (Or.inl (h.idle r hr hm))
      · exact Or.inr hm
    · cases hc : r.state.holdsCart with
      | false => exact Or.inl (Or.inl rfl)
      | true =>
        refine Or.inr fun heq => h.once r hr hc ?_
        rw [hhash, heq]
  rw [insertSettlement, Table.insert?, dif_pos hfree]
  exact ⟨_, rfl⟩

/-- **The row a settlement inserts for itself does not show in its context.** -/
theorem buildVerifyCtx_inserted {crypto : Crypto} {db db' : Db} {row : SettlementRow}
    {intent : IntentMandate} {cart : CartMandate} {now : Int}
    (hun : Unreserved crypto db.settlements row.id intent cart)
    (hadd : SettlementAdded db.settlements db'.settlements row) (hstate : row.state ≠ .captured)
    (hdb : db' = { db with settlements := db'.settlements }) :
    buildVerifyCtx crypto db' intent cart now (some row.id) =
      buildVerifyCtx crypto db intent cart now none := by
  have hmandates : db'.mandates = db.mandates := by rw [hdb]
  have hmerchants : db'.merchants = db.merchants := by rw [hdb]
  have hrow : getMandateRow db' intent.mandateId = getMandateRow db intent.mandateId := by
    rw [getMandateRow, getMandateRow, hmandates]
  rw [buildVerifyCtx, buildVerifyCtx]
  cases hhash : computeMandateCartHash crypto intent cart with
  | error e => rfl
  | ok hash =>
    -- no other row holds the cart, and the new one is excluded
    have hfree : ∀ r ∈ db.settlements.rows, r.mandateCartHashHex = hash → r.state.holdsCart = false := by
      intro r hr heq
      rw [Bool.eq_false_iff]
      intro hc
      exact hun.once r hr hc (by rw [hhash, heq])
    have hdup : (db.settlements.rows.any fun r =>
        r.mandateCartHashHex == hash && some r.id != none && r.state.holdsCart) = false := by
      rw [List.any_eq_false]
      intro r hr hp
      simp only [Bool.and_eq_true, beq_iff_eq] at hp
      rw [hfree r hr hp.1.1] at hp
      exact nomatch hp.2
    have hdup' : (db'.settlements.rows.any fun r =>
        r.mandateCartHashHex == hash && some r.id != some row.id && r.state.holdsCart) = false := by
      rw [List.any_eq_false]
      intro r hr hp
      simp only [Bool.and_eq_true, beq_iff_eq, bne_iff_ne, ne_eq] at hp
      rcases (hadd.mem_iff r).mp hr with hr | rfl
      · rw [hfree r hr hp.1.1] at hp
        exact nomatch hp.2
      · exact hp.1.2 rfl
    simp only [bind, Except.bind, hrow, hmerchants, getCapturedSpend_added hadd hstate,
      getCapturedSpendAtMerchant_added hadd hstate, hdup, hdup']

/-! ## What the real run does with the verdict -/

/-- What becomes of a settlement under a verdict of the gate: its row, and the body of the answer. -/
def Follows (settlementId : JsString) (row : SettlementRow) (body : CreateSettlementBody) :
    VerifyResult → Prop
  | .ok approval _ => row.state = (if approval then .pending_approval else .approved) ∧
      body = .ok settlementId row.state none
  | .fail reason _ => row.state = .rejected ∧ body = .ok settlementId .rejected (some reason)

/-- The gate's verdict on a registered mandate is what becomes of the settlement. -/
theorem verifySettlement_verdict {crypto : Crypto} {db₀ db : Db} (row : SettlementRow)
    {intent : IntentMandate} {cart : CartMandate} {now : Int} {ctx : VerifyCtx} {hash : JsString}
    {result : VerifyResult} (hun : Unreserved crypto db₀.settlements row.id intent cart)
    (hadd : SettlementAdded db₀.settlements db.settlements row) (hstate : row.state = .created)
    (hdb : db = { db₀ with settlements := db.settlements })
    (hctx : buildVerifyCtx crypto db₀ intent cart now none = .ok (ctx, hash))
    (hresult : verifyChain crypto intent cart ctx = .ok result) :
    ∃ db' row' body, verifySettlement crypto db row.id intent cart now = .ok (db', ⟨202, body⟩) ∧
      SettlementAdded db₀.settlements db'.settlements row' ∧ row'.id = row.id ∧
      Follows row.id row' body result := by
  have hmem : row ∈ db.settlements.rows := (hadd.mem_iff row).mpr (Or.inr rfl)
  obtain ⟨db₁, ht₁⟩ := transitionSettlement_isOk now .verifying none hmem hstate
    (List.mem_of_elem_eq_true rfl) rfl
  obtain ⟨r₁, hid₁, hm₁, hf₁⟩ := transitionSettlement_ok ht₁
  obtain ⟨rfl, hadd₁⟩ := hadd.move hm₁ hid₁
  have hctx₁ : buildVerifyCtx crypto db₁ intent cart now (some r₁.id) = .ok (ctx, hash) := by
    have hid : (r₁.moveTo now .verifying none).id = r₁.id := moveTo_id ..
    have hdb₁ : db₁ = { db₀ with settlements := db₁.settlements } := by
      rw [hf₁, hdb]
    rw [← hid] at hun ⊢
    rw [buildVerifyCtx_inserted hun hadd₁ (by simp) hdb₁, hctx]
  have hmem₁ : r₁.moveTo now .verifying none ∈ db₁.settlements.rows := hm₁.moved_mem
  cases result with
  | fail reason detail =>
    obtain ⟨db₂, ht₂⟩ := transitionSettlement_isOk now .rejected (some reason.text)
      hmem₁ (moveTo_state ..) (List.mem_of_elem_eq_true rfl) rfl
    obtain ⟨r₂, hid₂, hm₂, hf₂⟩ := transitionSettlement_ok ht₂
    obtain ⟨rfl, hadd₂⟩ := hadd₁.move hm₂ hid₂
    have hpayload : safeMembers (rejectionPayload reason detail) = true := by
      cases detail <;> rfl
    obtain ⟨db₃, hl⟩ := appendLedger_isOk crypto now db₂
      ⟨.verify_rejected, some r₁.id, js "facilitator", rejectionPayload reason detail⟩ hpayload
    obtain ⟨lrow, -, hdb₃⟩ := appendLedger_ok hl
    rw [moveTo_id] at ht₂
    refine ⟨db₃, _, .ok r₁.id .rejected (some reason), ?_, by rw [hdb₃]; exact hadd₂, ?_,
      moveTo_state .., rfl⟩
    · simp only [verifySettlement, ht₁, hctx₁, hresult, ht₂, hl, bind, Except.bind, pure,
        Except.pure]
    · rw [moveTo_id, moveTo_id]
  | ok approval hash' =>
    obtain ⟨db₂, ht₂⟩ := transitionSettlement_isOk now .verified none
      hmem₁ (moveTo_state ..) (List.mem_of_elem_eq_true rfl) rfl
    obtain ⟨r₂, hid₂, hm₂, hf₂⟩ := transitionSettlement_ok ht₂
    obtain ⟨rfl, hadd₂⟩ := hadd₁.move hm₂ hid₂
    rw [moveTo_id] at ht₂
    -- the last transition and its ledger row, whichever state it leads to
    have hlast : ∀ dst ∈ settlementTransitions .verified, ∀ event : LedgerEventType, ∃ db₃ db₄ row',
        transitionSettlement now db₂ r₁.id .verified dst none = .ok db₃ ∧
        appendLedger crypto now db₃ ⟨event, some r₁.id, js "facilitator",
          [(js "mandate_cart_hash_hex", .str hash')]⟩ = .ok db₄ ∧
        SettlementAdded db₀.settlements db₄.settlements row' ∧ row'.id = r₁.id ∧ row'.state = dst := by
      intro dst hdst event
      obtain ⟨db₃, ht₃⟩ := transitionSettlement_isOk now dst none hm₂.moved_mem
        (moveTo_state ..) hdst rfl
      obtain ⟨r₃, hid₃, hm₃, hf₃⟩ := transitionSettlement_ok ht₃
      obtain ⟨rfl, hadd₃⟩ := hadd₂.move hm₃ hid₃
      obtain ⟨db₄, hl⟩ := appendLedger_isOk crypto now db₃
        ⟨event, some r₁.id, js "facilitator", [(js "mandate_cart_hash_hex", .str hash')]⟩ rfl
      obtain ⟨lrow, -, hdb₄⟩ := appendLedger_ok hl
      rw [moveTo_id, moveTo_id] at ht₃
      refine ⟨db₃, db₄, _, ht₃, hl, by rw [hdb₄]; exact hadd₃, ?_, moveTo_state ..⟩
      rw [moveTo_id, moveTo_id, moveTo_id]
    cases approval with
    | true =>
      obtain ⟨db₃, db₄, row', ht₃, hl, hadd₄, hid₄, hstate₄⟩ :=
        hlast .pending_approval (List.mem_of_elem_eq_true rfl) .approval_requested
      refine ⟨db₄, row', .ok r₁.id .pending_approval none, ?_, hadd₄, hid₄, hstate₄, by rw [hstate₄]⟩
      simp only [verifySettlement, ht₁, hctx₁, hresult, ht₂, ht₃, hl, bind, Except.bind, pure,
        Except.pure, if_true]
    | false =>
      obtain ⟨db₃, db₄, row', ht₃, hl, hadd₄, hid₄, hstate₄⟩ :=
        hlast .approved (List.mem_of_elem_eq_true rfl) .verify_passed
      refine ⟨db₄, row', .ok r₁.id .approved none, ?_, hadd₄, hid₄, hstate₄, by rw [hstate₄]⟩
      simp only [verifySettlement, ht₁, hctx₁, hresult, ht₂, ht₃, hl, bind, Except.bind, pure,
        Except.pure, Bool.false_eq_true, if_false]

/-- **Creating a settlement does what the gate says** on the database as it was. -/
theorem createSettlement_verdict {crypto : Crypto} {db : Db} {settlementId : JsString}
    {intent : IntentMandate} {cart : CartMandate} {now : Int} {ctx : VerifyCtx} {hash : JsString}
    {result : VerifyResult} (hun : Unreserved crypto db.settlements settlementId intent cart)
    (hintent : intentMandateSchema intent = true) (hcart : cartMandateSchema cart = true)
    (hctx : buildVerifyCtx crypto db intent cart now none = .ok (ctx, hash))
    (hresult : verifyChain crypto intent cart ctx = .ok result) :
    (∃ detail, result = .fail .MANDATE_UNKNOWN detail ∧
      createSettlement crypto db settlementId intent cart now =
        .ok (db, ⟨404, .error (js "MANDATE_UNKNOWN")⟩)) ∨
    ∃ db' row body, createSettlement crypto db settlementId intent cart now = .ok (db', ⟨202, body⟩) ∧
      SettlementAdded db.settlements db'.settlements row ∧ row.id = settlementId ∧
      Follows settlementId row body result := by
  obtain ⟨hread, hhash⟩ := buildVerifyCtx_ok hctx
  cases hm : getMandateRow db intent.mandateId with
  | none =>
    -- the structural checks pass, so the gate stops at the missing credential
    refine Or.inl ?_
    have hcredential : ctx.credential = none := by
      rw [hread.credential, hm]
      rfl
    rw [verifyChain, validateIntentSchema_of_schema hintent, validateCartSchema_of_schema hcart,
      hcredential] at hresult
    obtain rfl := Except.ok.inj hresult
    refine ⟨_, rfl, ?_⟩
    rw [createSettlement, hm]
  | some m =>
    refine Or.inr ?_
    obtain ⟨db₁, hins⟩ := hun.insert hhash now
    obtain ⟨hadd, hdb₁⟩ := insertSettlement_ok hins
    obtain ⟨db', row, body, hrun, hadd', hid, hbody⟩ :=
      verifySettlement_verdict (newSettlement now settlementId intent.mandateId cart hash) hun
        hadd rfl hdb₁ hctx hresult
    refine ⟨db', row, body, ?_, hadd', hid, hbody⟩
    rw [createSettlement, hm]
    simp only [hhash, hins, bind, Except.bind]
    exact hrun

/-! ## The two routes -/

/-- The response to a claimed key is stored under it. -/
theorem completeIdempotencyKey_isOk (db : Db) (key : JsString) (settlementId : Option JsString)
    (status : Nat) (body : CreateSettlementBody) :
    ∃ db', completeIdempotencyKey db key settlementId status body = .ok db' ∧
      db'.settlements = db.settlements := by
  have hupdate : (db.idempotencyKeys.update? (fun row => row.key == key) fun row =>
      { row with settlementId := settlementId, responseStatus := some status,
                 responseBody := some body }).isSome = true := by
    refine Table.update?_isSome fun a _ b _ hab => ?_
    simp only [IdempotencyKeyRow.clash] at hab ⊢
    split <;> split <;> exact hab
  obtain ⟨keys, hu⟩ := Option.isSome_iff_exists.mp hupdate
  refine ⟨{ db with idempotencyKeys := keys }, ?_, rfl⟩
  rw [completeIdempotencyKey, hu]

/-- A fresh key is claimed, and nothing else is written. -/
theorem postSettlements_fresh (env : Env) (now : Int) {w : World} {key : JsString}
    {intent : IntentMandate} {cart : CartMandate} (hintent : intentMandateSchema intent = true)
    (hcart : cartMandateSchema cart = true) (hkey : key ≠ [])
    (hfresh : ∀ r ∈ w.db.idempotencyKeys.rows, r.key ≠ key) :
    ∃ row keys, row.key = key ∧ row.responseStatus = none ∧
      w.db.idempotencyKeys.insert? row = some keys ∧
      postSettlements env now w (some key) intent cart =
        ⟨w.commit { w.db with idempotencyKeys := keys }, .cpu (.settlementClaimed key intent cart), []⟩ := by
  have hsafe := createSettlementBodyValue_safe hintent hcart
  obtain ⟨c, rest, rfl⟩ := List.exists_cons_of_ne_nil hkey
  have hins : ∀ row : IdempotencyKeyRow, row.key = c :: rest →
      ∃ keys, w.db.idempotencyKeys.insert? row = some keys := by
    intro row hrow
    have hfree : ∀ r ∈ w.db.idempotencyKeys.rows, r.clash row = false := by
      intro r hr
      rw [IdempotencyKeyRow.clash, beq_eq_false_iff_ne, hrow]
      exact hfresh r hr
    rw [Table.insert?, dif_pos hfree]
    exact ⟨_, rfl⟩
  obtain ⟨keys, hk⟩ := hins ⟨c :: rest, env.crypto.sha256Hex
    (textEncode (print (norm (createSettlementBodyValue intent cart)))), none, some now, none, none,
    now⟩ rfl
  refine ⟨_, keys, rfl, rfl, hk, ?_⟩
  simp only [postSettlements, canonicalJson_safe hsafe, claimIdempotencyKey, hk]

/-- What the transaction of a claimed key answers, and what it leaves of the settlements. -/
theorem settlementClaimed_run {env : Env} {now : Int} {settlementId : JsString} (key : JsString) {w : World}
    {intent : IntentMandate} {cart : CartMandate} {db' : Db} {outcome : CreateSettlementOutcome}
    (h : createSettlement env.crypto w.db settlementId intent cart now = .ok (db', outcome)) :
    (settlementClaimed env now settlementId w key intent cart).world.db.settlements =
        db'.settlements ∧
      (settlementClaimed env now settlementId w key intent cart).world.history.head? =
        some (.settlementResponse key outcome.status outcome.body) := by
  obtain ⟨db'', hkey, hsettlements⟩ := completeIdempotencyKey_isOk db' key outcome.body.settlementId?
    outcome.status outcome.body
  have htransaction : settlementTransaction env now w.db settlementId key intent cart =
      .ok (db'', outcome) := by
    simp only [settlementTransaction, h, hkey, bind, Except.bind, pure, Except.pure]
  rw [settlementClaimed, htransaction]
  refine ⟨?_, rfl⟩
  show (World.emit _ _).db.settlements = _
  rw [World.emit_db]
  split <;> exact hsettlements

/-- **The dry run foretells the real one.**  With a fresh key and nothing reserved, what POST /verify
    answers is what POST /settlements does in the same state: a settlement in the foretold state, or
    no live one and the same failure code. -/
theorem verify_agrees_with_settlements {env : Env} {now : Int} {w : World}
    {settlementId key : JsString} {intent : IntentMandate} {cart : CartMandate}
    (hintent : intentMandateSchema intent = true) (hcart : cartMandateSchema cart = true)
    (hkey : key ≠ []) (hfresh : ∀ r ∈ w.db.idempotencyKeys.rows, r.key ≠ key)
    (hun : Unreserved env.crypto w.db.settlements settlementId intent cart) :
    (∀ approval hash, postVerify env now w.db intent cart = .ok (.ok approval hash) →
      ∃ row, SettlementAdded w.db.settlements
          (settle env now settlementId w key intent cart).db.settlements row ∧
        row.id = settlementId ∧ row.state = (if approval then .pending_approval else .approved) ∧
        (settle env now settlementId w key intent cart).history.head? =
          some (.settlementResponse key 202 (.ok settlementId row.state none))) ∧
    (∀ code detail, postVerify env now w.db intent cart = .ok (.error code detail) →
      (∀ r ∈ (settle env now settlementId w key intent cart).db.settlements.rows,
        r ∈ w.db.settlements.rows ∨ r.state.live = false) ∧
      ∃ status body, (settle env now settlementId w key intent cart).history.head? =
          some (.settlementResponse key status body) ∧ body.failureCode? = some code) := by
  obtain ⟨_, keys, -, -, -, hclaim⟩ := postSettlements_fresh env now hintent hcart hkey hfresh
  have hsettle : settle env now settlementId w key intent cart =
      (settlementClaimed env now settlementId (w.commit { w.db with idempotencyKeys := keys }) key
        intent cart).world := by
    rw [settle, hclaim]
  rw [hsettle]
  let w₁ := w.commit { w.db with idempotencyKeys := keys }
  have hverdict := fun ctx hash result => @createSettlement_verdict env.crypto
    w₁.db settlementId intent cart now ctx hash result hun hintent hcart
  constructor
  · intro approval hash hdry
    obtain ⟨ctx, hash', result, hctx, hresult, hanswer⟩ := postVerify_ok hdry
    obtain ⟨approval', hash'', rfl⟩ : ∃ approval' hash'', result = .ok approval' hash'' := by
      cases result with
      | ok approval' hash'' => exact ⟨approval', hash'', rfl⟩
      | fail reason detail => exact nomatch hanswer
    obtain ⟨rfl, rfl⟩ := VerifyBody.ok.inj hanswer
    rcases hverdict ctx hash' _ hctx hresult with ⟨detail, hunknown, -⟩ | ⟨db', row, body, hrun, hadd, hid, hf⟩
    · exact nomatch hunknown
    · obtain ⟨hsettlements, hhead⟩ := settlementClaimed_run key hrun
      obtain ⟨hstate, rfl⟩ := hf
      refine ⟨row, ?_, hid, hstate, hhead⟩
      rw [hsettlements]
      exact hadd
  · intro code detail hdry
    obtain ⟨ctx, hash', result, hctx, hresult, hanswer⟩ := postVerify_ok hdry
    obtain ⟨reason, detail', rfl⟩ : ∃ reason detail', result = .fail reason detail' := by
      cases result with
      | ok approval' hash'' => exact nomatch hanswer
      | fail reason detail => exact ⟨reason, detail, rfl⟩
    obtain ⟨rfl, rfl⟩ := VerifyBody.error.inj hanswer
    rcases hverdict ctx hash' _ hctx hresult with ⟨detail, hunknown, hrun⟩ | ⟨db', row, body, hrun, hadd, hid, hf⟩
    · -- an unknown mandate: nothing is created
      obtain ⟨rfl, -⟩ := VerifyResult.fail.inj hunknown
      obtain ⟨hsettlements, hhead⟩ := settlementClaimed_run key hrun
      refine ⟨fun r hr => ?_, _, _, hhead, rfl⟩
      rw [hsettlements] at hr
      exact Or.inl hr
    · obtain ⟨hsettlements, hhead⟩ := settlementClaimed_run key hrun
      obtain ⟨hstate, rfl⟩ := hf
      refine ⟨fun r hr => ?_, _, _, hhead, rfl⟩
      rw [hsettlements] at hr
      rcases (hadd.mem_iff r).mp hr with hr | rfl
      · exact Or.inl hr
      · refine Or.inr ?_
        rw [hstate]
        rfl

/-- A mandate is registered, and nothing is settled yet. -/
def demoRegistered : List Act :=
  [.clock 1000,
    .request (.postCeremonyTokens (some (js "dashboard"))) (js "token"),
    .request (.postMandates demoIntent (.ed25519 (js "bb")) (js "token")) []]

theorem verify_agrees_with_settlements_demo : ∃ s : Sys, Reachable demoEnv s ∧
    ∃ hash, postVerify demoEnv 1000 s.world.db demoIntent demoCart = .ok (.ok false hash) ∧
      ∃ row, SettlementAdded s.world.db.settlements
          (settle demoEnv 1000 (js "s1") s.world (js "key") demoIntent demoCart).db.settlements row ∧
        row.id = js "s1" ∧ row.state = .approved ∧
        (settle demoEnv 1000 (js "s1") s.world (js "key") demoIntent demoCart).history.head? =
          some (.settlementResponse (js "key") 202 (.ok (js "s1") row.state none)) := by
  obtain ⟨s, hreach, hp⟩ := reachable_of_run demoEnv demoRegistered
    (fun s => s.world.db.settlements.rows.isEmpty && s.world.db.idempotencyKeys.rows.isEmpty &&
      match postVerify demoEnv 1000 s.world.db demoIntent demoCart with
      | .ok (.ok approval _) => !approval
      | _ => false)
    (by decide +kernel)
  simp only [Bool.and_eq_true, List.isEmpty_iff] at hp
  obtain ⟨⟨hsettlements, hkeys⟩, hdry⟩ := hp
  obtain ⟨hash, hdry⟩ : ∃ hash, postVerify demoEnv 1000 s.world.db demoIntent demoCart =
      .ok (.ok false hash) := by
    split at hdry
    · rename_i approval hash hok
      rw [Bool.not_eq_true'] at hdry
      rw [hdry] at hok
      exact ⟨hash, hok⟩
    · exact nomatch hdry
  have hun : Unreserved demoEnv.crypto s.world.db.settlements (js "s1") demoIntent demoCart := by
    constructor <;> (rw [hsettlements]; exact fun r hr => nomatch hr)
  have hfresh : ∀ r ∈ s.world.db.idempotencyKeys.rows, r.key ≠ js "key" := by
    rw [hkeys]
    exact fun r hr => nomatch hr
  exact ⟨s, hreach, hash, hdry, (verify_agrees_with_settlements (by decide) (by decide) (by decide)
    hfresh hun).1 false hash hdry⟩

end Hundi
