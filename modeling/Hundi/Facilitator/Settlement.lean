/-
  packages/facilitator/src/mandate-repo.ts, verify-logic.ts and settlement-service.ts — reading
  mandates and spend, building the gate's context, and creating a settlement.

  `createSettlement` runs inside one transaction: the row, its transitions and the ledger entry
  commit together.  `createSettlement_ok` is its specification: nothing was written, or exactly one
  settlement was added, in the state the gate's result says.
-/
import Hundi.Facilitator.StateMachine
import Hundi.Facilitator.Ledger
import Hundi.Facilitator.World

namespace Hundi

open Js

/-! ## mandate-repo.ts -/

/-- `getMandateRow(db, mandateId)`. -/
def getMandateRow (db : Db) (mandateId : JsString) : Option MandateRow :=
  db.mandates.find? fun row => row.mandateId == mandateId

/-- A row's part in the captured spend of a mandate. -/
def capturedAmount (mandateId : JsString) (row : SettlementRow) : Int :=
  if row.mandateId == mandateId && row.state == .captured then row.amountPaise else 0

/-- A row's part in the captured spend of a mandate at one merchant. -/
def capturedAmountAt (mandateId merchantId : JsString) (row : SettlementRow) : Int :=
  if row.mandateId == mandateId && row.merchantId == merchantId && row.state == .captured then
    row.amountPaise else 0

/-- `getCapturedSpend(db, mandateId)`: SQLite's integer sum, read as a JavaScript number. -/
def getCapturedSpend (db : Db) (mandateId : JsString) : Int :=
  jsRound (db.settlements.sum (capturedAmount mandateId))

/-- `getCapturedSpendAtMerchant(db, mandateId, merchantId)`. -/
def getCapturedSpendAtMerchant (db : Db) (mandateId merchantId : JsString) : Int :=
  jsRound (db.settlements.sum (capturedAmountAt mandateId merchantId))

/-! ## verify-logic.ts -/

/-- `computeMandateCartHash(intent, cart)`. -/
def computeMandateCartHash (crypto : Crypto) (intent : IntentMandate) (cart : CartMandate) :
    Except Exn JsString := do
  let intentBytes ← intentSigningBytes intent
  let cartBytes ← cartSigningBytes cart
  mandateCartHash crypto (crypto.sha256Hex intentBytes) (crypto.sha256Hex cartBytes)

/-- `buildVerifyCtx(db, intent, cart, now, { excludeSettlementId })`. -/
def buildVerifyCtx (crypto : Crypto) (db : Db) (intent : IntentMandate) (cart : CartMandate)
    (now : Int) (excludeSettlementId : Option JsString) : Except Exn (VerifyCtx × JsString) := do
  let mandateRow := getMandateRow db intent.mandateId
  let spentPaise := getCapturedSpend db intent.mandateId
  -- a name the object inherits is looked up too, to no effect: the gate compares with no number then
  let merchantSpentPaise :=
    (intent.perMerchantCeilingPaise.bind fun limits => limits.get? cart.merchantId).map fun _ =>
      getCapturedSpendAtMerchant db intent.mandateId cart.merchantId
  let mandateCartHashHex ← computeMandateCartHash crypto intent cart
  let duplicateCart := db.settlements.rows.any fun row =>
    row.mandateCartHashHex == mandateCartHashHex && some row.id != excludeSettlementId &&
      row.state.holdsCart
  let merchantRow := db.merchants.find? fun row => row.merchantId == cart.merchantId
  let ctx : VerifyCtx :=
    { now := now
      credential := mandateRow.map (·.credential)
      revoked := mandateRow.any (·.revokedAt.isSome)
      spentPaise := some spentPaise
      merchantSpentPaise := merchantSpentPaise
      catalogPrices := merchantRow.bind (·.catalogPrices)
      duplicateCart := duplicateCart
      clockSkewSec := none }
  return (ctx, mandateCartHashHex)

/-! ## settlement-service.ts -/

structure CreateSettlementOutcome where
  status : Nat
  body : CreateSettlementBody

/-- `text.includes(part)`. -/
def includes (text part : JsString) : Bool := text.tails.any fun t => part.isPrefixOf t

theorem includes_iff {text part : JsString} : includes text part = true ↔ part <:+: text := by
  rw [includes, List.any_eq_true, List.infix_iff_prefix_suffix]
  refine exists_congr fun t => ?_
  rw [List.mem_tails, List.isPrefixOf_iff_prefix]
  exact And.comm

/-- What SQLite's `UNIQUE constraint failed` names; the index created last is checked first. -/
def settlementConstraint (db : Db) (row : SettlementRow) : JsString :=
  if db.settlements.rows.any fun r => r.clashCart row then
    js "UNIQUE constraint failed: settlements.mandate_cart_hash_hex"
  else if db.settlements.rows.any fun r => r.clashLive row then
    js "UNIQUE constraint failed: settlements.mandate_id"
  else js "UNIQUE constraint failed: settlements.id"

/-- The row of `INSERT INTO settlements (id, mandate_id, cart_json, …)`: the other columns take
    their defaults. -/
def newSettlement (now : Int) (id mandateId : JsString) (cart : CartMandate) (hash : JsString) :
    SettlementRow where
  id := id
  mandateId := mandateId
  cart := cart
  mandateCartHashHex := hash
  amountPaise := cart.totalPaise
  merchantId := cart.merchantId
  state := .created
  rejectReason := none
  createdAt := now
  verifyingAt := none
  verifiedAt := none
  pendingApprovalAt := none
  approvedAt := none
  settlingAt := none
  capturedAt := none
  failedAt := none
  rejectedAt := none
  abandonedAt := none
  kickCount := 0

/-- The INSERT; rows are never deleted, so the foreign key is the caller's lookup. -/
def insertSettlement (db : Db) (row : SettlementRow) : Except Exn Db :=
  match db.settlements.insert? row with
  | some settlements => .ok { db with settlements := settlements }
  | none => .error (.sqliteConstraint (settlementConstraint db row))

/-- The ledger payload of a rejection. -/
def rejectionPayload (reason : RejectionCode) : Option JsString → List (JsString × JsonValue)
  | none => [(js "reason", .str reason.text)]
  | some detail => [(js "reason", .str reason.text), (js "detail", .str detail)]

/-- `createSettlement` after the row is in: verify, transition, record. -/
def verifySettlement (crypto : Crypto) (db : Db) (settlementId : JsString) (intent : IntentMandate)
    (cart : CartMandate) (now : Int) : Except Exn (Db × CreateSettlementOutcome) := do
  let db ← transitionSettlement now db settlementId .created .verifying none
  let (ctx, _) ← buildVerifyCtx crypto db intent cart now (some settlementId)
  let result ← verifyChain crypto intent cart ctx
  match result with
  | .fail reason detail =>
    let db ← transitionSettlement now db settlementId .verifying .rejected (some reason.text)
    let db ← appendLedger crypto now db
      ⟨.verify_rejected, some settlementId, js "facilitator", rejectionPayload reason detail⟩
    return (db, ⟨202, .ok settlementId .rejected (some reason)⟩)
  | .ok approval mandateCartHashHex =>
    let db ← transitionSettlement now db settlementId .verifying .verified none
    if approval then
      let db ← transitionSettlement now db settlementId .verified .pending_approval none
      let db ← appendLedger crypto now db ⟨.approval_requested, some settlementId, js "facilitator",
        [(js "mandate_cart_hash_hex", .str mandateCartHashHex)]⟩
      return (db, ⟨202, .ok settlementId .pending_approval none⟩)
    else
      let db ← transitionSettlement now db settlementId .verified .approved none
      let db ← appendLedger crypto now db ⟨.verify_passed, some settlementId, js "facilitator",
        [(js "mandate_cart_hash_hex", .str mandateCartHashHex)]⟩
      return (db, ⟨202, .ok settlementId .approved none⟩)

/-- `createSettlement(db, settlementId, intent, cart, now)`. -/
def createSettlement (crypto : Crypto) (db : Db) (settlementId : JsString) (intent : IntentMandate)
    (cart : CartMandate) (now : Int) : Except Exn (Db × CreateSettlementOutcome) :=
  match getMandateRow db intent.mandateId with
  | none => .ok (db, ⟨404, .error (js "MANDATE_UNKNOWN")⟩)
  | some _ => do
    let mandateCartHashHex ← computeMandateCartHash crypto intent cart
    match insertSettlement db (newSettlement now settlementId intent.mandateId cart mandateCartHashHex) with
    | .error (.sqliteConstraint message) =>
      if includes message (js "mandate_cart_hash_hex") then
        .ok (db, ⟨409, .error (js "DUPLICATE_CART")⟩)
      else if includes message (js "settlements.mandate_id") then
        .ok (db, ⟨409, .error (js "ALLOWANCE_RESERVED")⟩)
      else .error (.sqliteConstraint message)
    | .error e => .error e
    | .ok db => verifySettlement crypto db settlementId intent cart now

/-! ## Specifications -/

theorem getMandateRow_some {db : Db} {mandateId : JsString} {row : MandateRow}
    (h : getMandateRow db mandateId = some row) :
    row ∈ db.mandates.rows ∧ row.mandateId = mandateId := by
  obtain ⟨hmem, hid⟩ := Table.find?_mem h
  exact ⟨hmem, by simpa using hid⟩

/-- A stored mandate is the one its id finds. -/
theorem getMandateRow_mem {db : Db} {row : MandateRow} (h : row ∈ db.mandates.rows) :
    getMandateRow db row.mandateId = some row :=
  Table.find?_eq_some h (by simp) fun r hr hid => mandate_eq hr h (by simpa using hid)

/-- The context the gate runs in, read from one state of the database. -/
structure VerifyCtx.ReadFrom (ctx : VerifyCtx) (db : Db) (intent : IntentMandate)
    (cart : CartMandate) (now : Int) : Prop where
  now : ctx.now = now
  credential : ctx.credential = (getMandateRow db intent.mandateId).map (·.credential)
  revoked : ctx.revoked = (getMandateRow db intent.mandateId).any (·.revokedAt.isSome)
  spent : ctx.spentPaise = some (getCapturedSpend db intent.mandateId)
  merchantSpent : ctx.merchantSpentPaise =
    (intent.perMerchantCeilingPaise.bind fun limits => limits.get? cart.merchantId).map fun _ =>
      getCapturedSpendAtMerchant db intent.mandateId cart.merchantId
  prices : ctx.catalogPrices =
    (db.merchants.find? fun row => row.merchantId == cart.merchantId).bind (·.catalogPrices)
  skew : ctx.clockSkewSec = none

theorem buildVerifyCtx_ok {crypto : Crypto} {db : Db} {intent : IntentMandate} {cart : CartMandate}
    {now : Int} {exclude : Option JsString} {ctx : VerifyCtx} {hash : JsString}
    (h : buildVerifyCtx crypto db intent cart now exclude = .ok (ctx, hash)) :
    ctx.ReadFrom db intent cart now ∧ computeMandateCartHash crypto intent cart = .ok hash := by
  unfold buildVerifyCtx at h
  rw [bind_eq_ok] at h
  obtain ⟨hash', hhash, h⟩ := h
  obtain ⟨rfl, rfl⟩ := Prod.mk.inj (Except.ok.inj h)
  exact ⟨⟨rfl, rfl, rfl, rfl, rfl, rfl, rfl⟩, hhash⟩

/-- The gate ran on a settlement's cart in the context that `db` gives, and accepted it. -/
structure GatePassed (crypto : Crypto) (db : Db) (now : Int) (settlementId : JsString)
    (intent : IntentMandate) (cart : CartMandate) (ctx : VerifyCtx) : Prop where
  built : ∃ hash, buildVerifyCtx crypto db intent cart now (some settlementId) = .ok (ctx, hash)
  accepted : ∃ approval hash, verifyChain crypto intent cart ctx = .ok (.ok approval hash)

/-- One settlement was added. -/
structure SettlementAdded (t t' : Settlements) (row : SettlementRow) : Prop where
  fresh : ∀ r ∈ t.rows, r.id ≠ row.id
  mem_iff : ∀ r, r ∈ t'.rows ↔ r ∈ t.rows ∨ r = row
  sum : ∀ w, t'.sum w = t.sum w + w row

theorem insertSettlement_ok {db db' : Db} {row : SettlementRow}
    (h : insertSettlement db row = .ok db') :
    SettlementAdded db.settlements db'.settlements row ∧
      db' = { db with settlements := db'.settlements } := by
  unfold insertSettlement at h
  split at h
  · rename_i settlements hins
    obtain rfl := Except.ok.inj h
    refine ⟨⟨fun r hr hid => ?_, fun r => Table.mem_insert? hins, Table.sum_insert? hins⟩, rfl⟩
    have hclash := (Table.insert?_eq_some hins).2 r hr
    simp [SettlementRow.clash, hid] at hclash
  · cases h

/-- Moving the added settlement is adding it where it moved. -/
theorem SettlementAdded.move {now : Int} {t t₁ t₂ : Settlements} {row moved : SettlementRow}
    {src dst : SettlementState} {rejectReason : Option JsString} (h : SettlementAdded t t₁ row)
    (hm : SettlementMoved now t₁ t₂ moved src dst rejectReason) (hid : moved.id = row.id) :
    moved = row ∧ SettlementAdded t t₂ (row.moveTo now dst rejectReason) := by
  have hmem : row ∈ t₁.rows := (h.mem_iff row).mpr (Or.inr rfl)
  obtain rfl := settlement_eq hm.mem hmem hid
  refine ⟨rfl, ⟨fun r hr => by rw [moveTo_id]; exact h.fresh r hr, fun r => ?_, fun w => ?_⟩⟩
  · rw [hm.mem_iff, h.mem_iff]
    constructor
    · rintro (rfl | ⟨hr | rfl, hne⟩)
      · exact Or.inr rfl
      · exact Or.inl hr
      · exact absurd rfl hne
    · rintro (hr | rfl)
      · exact Or.inr ⟨Or.inl hr, h.fresh r hr⟩
      · exact Or.inl rfl
  · rw [hm.sum, h.sum]
    omega

/-- The cart is chained to the intent by hash, and signed by the agent the intent names. -/
def CartLinked (crypto : Crypto) (intent : IntentMandate) (cart : CartMandate) : Prop :=
  ∃ intentBytes cartBytes, intentSigningBytes intent = .ok intentBytes ∧
    cart.intentHashHex = crypto.sha256Hex intentBytes ∧ cartSigningBytes cart = .ok cartBytes ∧
    verifyMandateSignature crypto cartBytes (.ed25519 cart.agentSigHex)
      (.ed25519 intent.agentPubkeyHex) = .ok true

/-- What is known of a settlement that a request created: the columns it was given, and for one
    that was not rejected the gate's verdict on the submitted intent, with the spend at that
    moment. -/
structure CreatedFrom (crypto : Crypto) (db : Db) (now : Int) (intent : IntentMandate)
    (cart : CartMandate) (row : SettlementRow) : Prop where
  mandate : ∃ m, getMandateRow db intent.mandateId = some m
  mandateId : row.mandateId = intent.mandateId
  cart_eq : row.cart = cart
  amount : row.amountPaise = cart.totalPaise
  merchant : row.merchantId = cart.merchantId
  hash : computeMandateCartHash crypto intent cart = .ok row.mandateCartHashHex
  gate : row.state = .rejected ∨
    ValidIntent intent ∧ isSafeInt cart.totalPaise = true ∧ 0 ≤ cart.totalPaise ∧
    row.state = if needsApproval intent cart (getCapturedSpend db intent.mandateId) then
      .pending_approval else .approved
  linked : row.state = .rejected ∨ CartLinked crypto intent cart
  passed : row.state = .rejected ∨ ∃ ctx, GatePassed crypto db now row.id intent cart ctx

/-- The states a settlement is created in. -/
theorem CreatedFrom.state_cases {crypto : Crypto} {db : Db} {now : Int} {intent : IntentMandate}
    {cart : CartMandate} {row : SettlementRow} (h : CreatedFrom crypto db now intent cart row) :
    row.state = .rejected ∨ row.state = .pending_approval ∨ row.state = .approved := by
  rcases h.gate with h | ⟨-, -, -, h⟩
  · exact Or.inl h
  · split at h
    · exact Or.inr (Or.inl h)
    · exact Or.inr (Or.inr h)

/-- The ledger row of a creation. -/
def creationEvent : SettlementState → LedgerEventType
  | .rejected => .verify_rejected
  | .pending_approval => .approval_requested
  | _ => .verify_passed

/-- Adding a row that is not captured leaves the captured spend as it was. -/
theorem getCapturedSpend_added {db db' : Db} {row : SettlementRow}
    (h : SettlementAdded db.settlements db'.settlements row) (hstate : row.state ≠ .captured) (mandateId : JsString) :
    getCapturedSpend db' mandateId = getCapturedSpend db mandateId := by
  have hrow : capturedAmount mandateId row = 0 := by simp [capturedAmount, hstate]
  rw [getCapturedSpend, getCapturedSpend, h.sum, hrow]
  simp

/-- Adding a row that is not captured leaves the captured spend at a merchant as it was. -/
theorem getCapturedSpendAtMerchant_added {db db' : Db} {row : SettlementRow}
    (h : SettlementAdded db.settlements db'.settlements row) (hstate : row.state ≠ .captured)
    (mandateId merchantId : JsString) :
    getCapturedSpendAtMerchant db' mandateId merchantId =
      getCapturedSpendAtMerchant db mandateId merchantId := by
  have hrow : capturedAmountAt mandateId merchantId row = 0 := by simp [capturedAmountAt, hstate]
  rw [getCapturedSpendAtMerchant, getCapturedSpendAtMerchant, h.sum, hrow]
  simp

/-- A context that leaves the added settlement out is the context without it. -/
theorem buildVerifyCtx_added {crypto : Crypto} {db db' : Db} {row : SettlementRow}
    {intent : IntentMandate} {cart : CartMandate} {now : Int}
    (hadd : SettlementAdded db.settlements db'.settlements row) (hstate : row.state ≠ .captured)
    (hdb : db' = { db with settlements := db'.settlements }) :
    buildVerifyCtx crypto db' intent cart now (some row.id) =
      buildVerifyCtx crypto db intent cart now (some row.id) := by
  have hmandate : getMandateRow db' intent.mandateId = getMandateRow db intent.mandateId := by
    rw [hdb]
    rfl
  have hmerchants : db'.merchants = db.merchants := by rw [hdb]
  have hduplicate : ∀ hash : JsString,
      (db'.settlements.rows.any fun r => r.mandateCartHashHex == hash && some r.id != some row.id &&
        r.state.holdsCart) =
      db.settlements.rows.any fun r => r.mandateCartHashHex == hash && some r.id != some row.id &&
        r.state.holdsCart := by
    intro hash
    rw [Bool.eq_iff_iff, List.any_eq_true, List.any_eq_true]
    constructor
    · rintro ⟨r, hr, hp⟩
      rcases (hadd.mem_iff r).mp hr with hr | rfl
      · exact ⟨r, hr, hp⟩
      · simp at hp
    · rintro ⟨r, hr, hp⟩
      exact ⟨r, (hadd.mem_iff r).mpr (Or.inl hr), hp⟩
  unfold buildVerifyCtx
  simp only [hmandate, hmerchants, hduplicate, getCapturedSpend_added hadd hstate,
    getCapturedSpendAtMerchant_added hadd hstate]

theorem verifySettlement_ok {crypto : Crypto} {db₀ db db' : Db} {row : SettlementRow}
    {intent : IntentMandate} {cart : CartMandate} {now : Int} {out : CreateSettlementOutcome}
    (hadd : SettlementAdded db₀.settlements db.settlements row) (hstate : row.state = .created)
    (hdb : db = { db₀ with settlements := db.settlements })
    (h : verifySettlement crypto db row.id intent cart now = .ok (db', out)) :
    ∃ row' lrow reason, SettlementAdded db₀.settlements db'.settlements row' ∧
      db' = { db with settlements := db'.settlements, ledger := db.ledger ++ [lrow] } ∧
      lrow.eventType = creationEvent row'.state ∧ lrow.settlementId = some row'.id ∧
      out = ⟨202, .ok row.id row'.state reason⟩ ∧
      row'.id = row.id ∧ row'.mandateId = row.mandateId ∧ row'.cart = row.cart ∧
      row'.amountPaise = row.amountPaise ∧ row'.merchantId = row.merchantId ∧
      row'.mandateCartHashHex = row.mandateCartHashHex ∧
      (row'.state = .rejected ∨
        ValidIntent intent ∧ isSafeInt cart.totalPaise = true ∧ 0 ≤ cart.totalPaise ∧
        row'.state = if needsApproval intent cart (getCapturedSpend db₀ intent.mandateId) then
          .pending_approval else .approved) ∧
      (row'.state = .rejected ∨ CartLinked crypto intent cart) ∧
      (row'.state = .rejected ∨ ∃ ctx, GatePassed crypto db₀ now row'.id intent cart ctx) := by
  unfold verifySettlement at h
  rw [bind_eq_ok] at h
  obtain ⟨db₁, ht₁, h⟩ := h
  obtain ⟨r₁, hid₁, hm₁, hf₁⟩ := transitionSettlement_ok ht₁
  obtain ⟨rfl, hadd₁⟩ := hadd.move hm₁ hid₁
  rw [bind_eq_ok] at h
  obtain ⟨⟨ctx, hash⟩, hctx, h⟩ := h
  rw [bind_eq_ok] at h
  obtain ⟨result, hresult, h⟩ := h
  cases result with
  | fail reason detail =>
    rw [bind_eq_ok] at h
    obtain ⟨db₂, ht₂, h⟩ := h
    obtain ⟨r₂, hid₂, hm₂, hf₂⟩ := transitionSettlement_ok ht₂
    obtain ⟨rfl, hadd₂⟩ := hadd₁.move hm₂ (by simpa using hid₂)
    rw [bind_eq_ok] at h
    obtain ⟨db₃, hl, h⟩ := h
    obtain ⟨lrow, hrec, rfl⟩ := appendLedger_ok hl
    obtain ⟨rfl, rfl⟩ := Prod.mk.inj (Except.ok.inj h)
    refine ⟨_, lrow, some reason, hadd₂, ?_, ?_, ?_, ?_, ?_⟩
    · rw [hf₂, hf₁]
    · rw [hrec.eventType, moveTo_state]
      rfl
    · rw [hrec.settlementId, moveTo_id, moveTo_id]
    · rw [moveTo_state]
    · simp
  | ok approval hash' =>
    have hacc := verifyChain_accepted hresult
    have hvalid := validateIntentSchema_none hacc.intentSchema
    obtain ⟨hsafe, htotal, -⟩ := validateCartSchema_none hacc.cartSchema
    have hspent : ctx.spentPaise = some (getCapturedSpend db₀ intent.mandateId) := by
      rw [(buildVerifyCtx_ok hctx).1.spent, getCapturedSpend_added hadd₁ (by simp)]
    have happroval : approval = needsApproval intent cart (getCapturedSpend db₀ intent.mandateId) := by
      rw [hacc.decision, hspent]
      rfl
    have hpassed : ∃ ctx, GatePassed crypto db₀ now r₁.id intent cart ctx := by
      refine ⟨ctx, ⟨hash, ?_⟩, approval, hash', hresult⟩
      rw [← hctx, ← moveTo_id r₁ now .verifying none]
      exact (buildVerifyCtx_added hadd₁ (by simp) (by rw [hf₁, hdb])).symm
    have hlinked : CartLinked crypto intent cart := by
      obtain ⟨_, intentBytes, -, hib, -, hlink⟩ := hacc.intentSigned
      obtain ⟨cartBytes, hcb, hsig⟩ := hacc.cartSigned
      exact ⟨intentBytes, cartBytes, hib, hlink, hcb, hsig⟩
    rw [bind_eq_ok] at h
    obtain ⟨db₂, ht₂, h⟩ := h
    obtain ⟨r₂, hid₂, hm₂, hf₂⟩ := transitionSettlement_ok ht₂
    obtain ⟨rfl, hadd₂⟩ := hadd₁.move hm₂ (by simpa using hid₂)
    split at h
    · rename_i hap
      rw [bind_eq_ok] at h
      obtain ⟨db₃, ht₃, h⟩ := h
      obtain ⟨r₃, hid₃, hm₃, hf₃⟩ := transitionSettlement_ok ht₃
      obtain ⟨rfl, hadd₃⟩ := hadd₂.move hm₃ (by simpa using hid₃)
      rw [bind_eq_ok] at h
      obtain ⟨db₄, hl, h⟩ := h
      obtain ⟨lrow, hrec, rfl⟩ := appendLedger_ok hl
      obtain ⟨rfl, rfl⟩ := Prod.mk.inj (Except.ok.inj h)
      refine ⟨_, lrow, none, hadd₃, ?_, ?_, ?_, ?_, ?_⟩
      · rw [hf₃, hf₂, hf₁]
      · rw [hrec.eventType, moveTo_state]
        rfl
      · rw [hrec.settlementId, moveTo_id, moveTo_id, moveTo_id]
      · rw [moveTo_state]
      · rw [hap] at happroval
        simp [← happroval, hvalid, htotal, hsafe, hlinked, hpassed]
    · rename_i hap
      rw [bind_eq_ok] at h
      obtain ⟨db₃, ht₃, h⟩ := h
      obtain ⟨r₃, hid₃, hm₃, hf₃⟩ := transitionSettlement_ok ht₃
      obtain ⟨rfl, hadd₃⟩ := hadd₂.move hm₃ (by simpa using hid₃)
      rw [bind_eq_ok] at h
      obtain ⟨db₄, hl, h⟩ := h
      obtain ⟨lrow, hrec, rfl⟩ := appendLedger_ok hl
      obtain ⟨rfl, rfl⟩ := Prod.mk.inj (Except.ok.inj h)
      refine ⟨_, lrow, none, hadd₃, ?_, ?_, ?_, ?_, ?_⟩
      · rw [hf₃, hf₂, hf₁]
      · rw [hrec.eventType, moveTo_state]
        rfl
      · rw [hrec.settlementId, moveTo_id, moveTo_id, moveTo_id]
      · rw [moveTo_state]
      · rw [Bool.not_eq_true] at hap
        rw [hap] at happroval
        simp [← happroval, hvalid, htotal, hsafe, hlinked, hpassed]

/-- **What creating a settlement does**: nothing, answering with an error, or one added settlement
    with one ledger row. -/
theorem createSettlement_ok {crypto : Crypto} {db db' : Db} {settlementId : JsString}
    {intent : IntentMandate} {cart : CartMandate} {now : Int} {out : CreateSettlementOutcome}
    (h : createSettlement crypto db settlementId intent cart now = .ok (db', out)) :
    (db' = db ∧ ∃ status code, out = ⟨status, .error code⟩) ∨
    ∃ row lrow reason, SettlementAdded db.settlements db'.settlements row ∧ row.id = settlementId ∧
      CreatedFrom crypto db now intent cart row ∧
      db' = { db with settlements := db'.settlements, ledger := db.ledger ++ [lrow] } ∧
      lrow.eventType = creationEvent row.state ∧ lrow.settlementId = some row.id ∧
      out = ⟨202, .ok settlementId row.state reason⟩ := by
  unfold createSettlement at h
  split at h
  · obtain ⟨rfl, rfl⟩ := Prod.mk.inj (Except.ok.inj h)
    exact Or.inl ⟨rfl, _, _, rfl⟩
  rename_i m hm
  rw [bind_eq_ok] at h
  obtain ⟨hash, hhash, h⟩ := h
  split at h
  · split at h
    · obtain ⟨rfl, rfl⟩ := Prod.mk.inj (Except.ok.inj h)
      exact Or.inl ⟨rfl, _, _, rfl⟩
    split at h
    · obtain ⟨rfl, rfl⟩ := Prod.mk.inj (Except.ok.inj h)
      exact Or.inl ⟨rfl, _, _, rfl⟩
    · exact nomatch h
  · exact nomatch h
  · rename_i db₁ hins
    obtain ⟨hadd, hf⟩ := insertSettlement_ok hins
    obtain ⟨row, lrow, reason, hadd', hdb, hevent, hnames, hout, hid, hmandate, hcart, hamount, hmerchant,
      hhash', hgate, hlinked, hpassed⟩ := verifySettlement_ok hadd rfl hf h
    refine Or.inr ⟨row, lrow, reason, hadd', hid, ⟨⟨m, hm⟩, hmandate, hcart, hamount, hmerchant,
      ?_, hgate, hlinked, hpassed⟩, ?_, hevent, hnames, hout⟩
    · rw [hhash', hhash]
      rfl
    · rw [hdb, hf]

/-! ## The stamp of `settling` -/

/-- The stamps of a settlement that has not been `settling`. -/
structure SettlementRow.Unsettled (r : SettlementRow) : Prop where
  settling : r.settlingAt = none
  approved : r.state = .approved → r.approvedAt.isSome = true

/-- A row that was not there before has not been `settling`. -/
def Unstamped (t t' : Settlements) : Prop :=
  ∀ r' ∈ t'.rows, (∃ r ∈ t.rows, r.id = r'.id) ∨ r'.Unsettled

theorem moveTo_settlingAt {row : SettlementRow} {now : Int} {dst : SettlementState}
    {rejectReason : Option JsString} (h : dst ≠ .settling) :
    (row.moveTo now dst rejectReason).settlingAt = row.settlingAt := by
  cases dst <;> first | rfl | exact absurd rfl h

theorem Unstamped.moved {t₀ t t' : Settlements} (h : Unstamped t₀ t) {now : Int} {row : SettlementRow}
    {src dst : SettlementState} {rejectReason : Option JsString}
    (hm : SettlementMoved now t t' row src dst rejectReason) (hdst : dst ≠ .settling) :
    Unstamped t₀ t' := by
  intro r hr
  rcases hm.mem_iff.mp hr with rfl | ⟨hr, -⟩
  · rw [moveTo_id]
    refine (h row hm.mem).imp_right fun hrow => ⟨?_, fun hstate => ?_⟩
    · rw [moveTo_settlingAt hdst, hrow.settling]
    · rw [moveTo_state] at hstate
      subst hstate
      rfl
  · exact h r hr

theorem Unstamped.transition {t₀ : Settlements} {db db' : Db} (h : Unstamped t₀ db.settlements)
    {now : Int} {id : JsString} {src dst : SettlementState} {rejectReason : Option JsString}
    (ht : transitionSettlement now db id src dst rejectReason = .ok db') (hdst : dst ≠ .settling) :
    Unstamped t₀ db'.settlements := by
  obtain ⟨row, -, hm, -⟩ := transitionSettlement_ok ht
  exact h.moved hm hdst

theorem Unstamped.append {t₀ : Settlements} {db db' : Db} (h : Unstamped t₀ db.settlements)
    {crypto : Crypto} {now : Int} {input : AppendLedgerInput}
    (ha : appendLedger crypto now db input = .ok db') : Unstamped t₀ db'.settlements := by
  obtain ⟨row, -, rfl⟩ := appendLedger_ok ha
  exact h

theorem verifySettlement_unstamped {t₀ : Settlements} {crypto : Crypto} {db db' : Db}
    {settlementId : JsString} {intent : IntentMandate} {cart : CartMandate} {now : Int}
    {out : CreateSettlementOutcome} (hdb : Unstamped t₀ db.settlements)
    (h : verifySettlement crypto db settlementId intent cart now = .ok (db', out)) :
    Unstamped t₀ db'.settlements := by
  unfold verifySettlement at h
  rw [bind_eq_ok] at h
  obtain ⟨db₁, ht₁, h⟩ := h
  have h₁ := hdb.transition ht₁ nofun
  rw [bind_eq_ok] at h
  obtain ⟨⟨ctx, hash⟩, -, h⟩ := h
  rw [bind_eq_ok] at h
  obtain ⟨result, -, h⟩ := h
  cases result with
  | fail reason detail =>
    rw [bind_eq_ok] at h
    obtain ⟨db₂, ht₂, h⟩ := h
    rw [bind_eq_ok] at h
    obtain ⟨db₃, hl, h⟩ := h
    obtain ⟨rfl, -⟩ := Prod.mk.inj (Except.ok.inj h)
    exact (h₁.transition ht₂ nofun).append hl
  | ok approval hash' =>
    rw [bind_eq_ok] at h
    obtain ⟨db₂, ht₂, h⟩ := h
    have h₂ := h₁.transition ht₂ nofun
    split at h
    · rw [bind_eq_ok] at h
      obtain ⟨db₃, ht₃, h⟩ := h
      rw [bind_eq_ok] at h
      obtain ⟨db₄, hl, h⟩ := h
      obtain ⟨rfl, -⟩ := Prod.mk.inj (Except.ok.inj h)
      exact (h₂.transition ht₃ nofun).append hl
    · rw [bind_eq_ok] at h
      obtain ⟨db₃, ht₃, h⟩ := h
      rw [bind_eq_ok] at h
      obtain ⟨db₄, hl, h⟩ := h
      obtain ⟨rfl, -⟩ := Prod.mk.inj (Except.ok.inj h)
      exact (h₂.transition ht₃ nofun).append hl

theorem createSettlement_unstamped {crypto : Crypto} {db db' : Db} {settlementId : JsString}
    {intent : IntentMandate} {cart : CartMandate} {now : Int} {out : CreateSettlementOutcome}
    (h : createSettlement crypto db settlementId intent cart now = .ok (db', out)) :
    Unstamped db.settlements db'.settlements := by
  have hsame : Unstamped db.settlements db.settlements := fun r hr => Or.inl ⟨r, hr, rfl⟩
  unfold createSettlement at h
  split at h
  · obtain ⟨rfl, -⟩ := Prod.mk.inj (Except.ok.inj h)
    exact hsame
  rw [bind_eq_ok] at h
  obtain ⟨hash, -, h⟩ := h
  split at h
  · split at h
    · obtain ⟨rfl, -⟩ := Prod.mk.inj (Except.ok.inj h)
      exact hsame
    split at h
    · obtain ⟨rfl, -⟩ := Prod.mk.inj (Except.ok.inj h)
      exact hsame
    · exact nomatch h
  · exact nomatch h
  · rename_i db₁ hins
    obtain ⟨hadd, -⟩ := insertSettlement_ok hins
    refine verifySettlement_unstamped (fun r hr => ?_) h
    rcases (hadd.mem_iff r).mp hr with hr | rfl
    · exact Or.inl ⟨r, hr, rfl⟩
    · exact Or.inr ⟨rfl, fun hstate => by cases hstate⟩

/-- The added settlement has not been `settling`. -/
theorem SettlementAdded.unstamped {t t' : Settlements} {row : SettlementRow}
    (h : SettlementAdded t t' row) (hu : Unstamped t t') : row.Unsettled := by
  rcases hu row ((h.mem_iff row).mpr (Or.inr rfl)) with ⟨r, hr, hid⟩ | hnone
  · exact absurd hid (h.fresh r hr)
  · exact hnone

end Hundi
