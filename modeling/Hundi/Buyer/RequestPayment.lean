/-
  agents/scripted-brain/src/agent-tools.ts — `signCart`, `requestPayment` and `pollSettlement`: what a
  buyer signs, and what it takes the facilitator's answers to mean.

  1. **Program** — the signed cart, and the result the buyer reports, from the answer to its POST and
     what its GETs read.
  2. **The body** — its hash fixes the mandate it names and its cart (`body_of_requestHash`).
  3. **The facilitator** — a completed key names a settlement that a body of its hash asked for
     (`Reachable.named`), or the key has created none and will not (`refused_creates_nothing`).
  4. **The two together** — `Replies` is the step that answers the POST, `Polled` the GETs along the
     run that goes on after it, `Honest` what a result is worth then and in every later state.

  A GET can fail, and one that finds its settlement reads the state it is in at that moment.  The
  400 of `zValidator` and the 500 of `app.onError` are no answers here: `requestPayment` takes both
  for a rejection, and neither says anything of the key.
-/
import Hundi.Buyer.Cart
import Hundi.Facilitator.Idempotency
import Hundi.Facilitator.Frame
import Hundi.Facilitator.Signing

namespace Hundi

open Js EventLoop

/-! ## The program -/

/-- `AgentKeypair`; `sign` is `crypto.sign(null, digest, privateKey)`. -/
structure AgentKeypair where
  publicKeyHex : JsString
  sign : Bytes → Bytes

/-- `signPayload(privateKey, payloadBytes).signature_hex`. -/
def signPayload (crypto : Crypto) (agent : AgentKeypair) (payloadBytes : Bytes) : JsString :=
  bytesToHex (agent.sign (crypto.sha256 payloadBytes))

/-- `signCart(draft, intent, agent)`, with the cart id that `randomUUID` gives. -/
def signCart (crypto : Crypto) (uuid : JsString) (draft : CartDraft) (intent : IntentMandate)
    (agent : AgentKeypair) : Except Exn CartMandate := do
  let intentBytes ← intentSigningBytes intent
  let unsigned : CartMandate :=
    { cartId := draft.cartId.getD uuid
      merchantId := draft.merchantId
      items := draft.items
      totalPaise := draft.totalPaise
      intentHashHex := crypto.sha256Hex intentBytes
      agentSigHex := [] }
  let cartBytes ← cartSigningBytes unsigned
  return { unsigned with agentSigHex := signPayload crypto agent cartBytes }

/-- `SettlementResult`. -/
structure SettlementResult where
  settlementId : JsString
  state : SettlementState
  reason : Option JsString
  deriving DecidableEq

/-- `POLL_STOP_STATES`. -/
def pollStopStates : List SettlementState := [.pending_approval, .captured, .failed, .rejected, .abandoned]

/-- What one GET of the loop reads: the state and the reject reason, none when the body is not ok. -/
abbrev Reading := Option (SettlementState × Option JsString)

/-- `GET /settlements/:id`, as the loop reads it. -/
def readSettlement (db : Db) (settlementId : JsString) : Reading :=
  (getSettlement db settlementId).map fun settlement => (settlement.state, settlement.rejectReason)

/-- The loop of `pollSettlement(settlementId)` over what it reads before its deadline. -/
def pollSettlement (settlementId : JsString) (lastState : SettlementState)
    (lastReason : Option JsString) : List Reading → SettlementResult
  | [] => ⟨settlementId, lastState, some (lastReason.getD (js "POLL_TIMEOUT"))⟩
  | none :: readings => pollSettlement settlementId lastState lastReason readings
  | some (state, rejectReason) :: readings =>
    if pollStopStates.contains state then ⟨settlementId, state, rejectReason⟩
    else pollSettlement settlementId state rejectReason readings

/-- `idempotencyKeyContested`. -/
def idempotencyKeyContested (status : Nat) (code : JsString) : Bool :=
  status == 409 && (code == js "IN_FLIGHT" || code == js "KEY_REUSED")

/-- `requestPayment` from the answer to its POST on. -/
def requestPayment (status : Nat) (body : CreateSettlementBody) (readings : List Reading) :
    SettlementResult :=
  match body with
  | .error code => ⟨[], if idempotencyKeyContested status code then .created else .rejected, some code⟩
  | .ok settlementId state reason =>
    if pollStopStates.contains state then ⟨settlementId, state, reason.map (·.text)⟩
    else pollSettlement settlementId .created none readings

/-- A signed cart is the draft, chained to the intent, with the agent's signature. -/
theorem signCart_ok {crypto : Crypto} {uuid : JsString} {draft : CartDraft} {intent : IntentMandate}
    {agent : AgentKeypair} {cart : CartMandate} (h : signCart crypto uuid draft intent agent = .ok cart) :
    cart.merchantId = draft.merchantId ∧ cart.items = draft.items ∧ cart.totalPaise = draft.totalPaise ∧
      (∃ bytes, intentSigningBytes intent = .ok bytes ∧ cart.intentHashHex = crypto.sha256Hex bytes) ∧
      ∃ bytes, cartSigningBytes cart = .ok bytes ∧ cart.agentSigHex = signPayload crypto agent bytes := by
  unfold signCart at h
  rw [bind_eq_ok] at h
  obtain ⟨intentBytes, hintent, h⟩ := h
  dsimp only at h
  rw [bind_eq_ok] at h
  obtain ⟨cartBytes, hcart, h⟩ := h
  obtain rfl := Except.ok.inj h
  -- the signature is not among what it signs
  exact ⟨rfl, rfl, rfl, ⟨intentBytes, hintent, rfl⟩, cartBytes, hcart, rfl⟩

/-- What the loop returns is about its settlement, and it is in the last state or in one that was read. -/
theorem pollSettlement_read (settlementId : JsString) : ∀ (readings : List Reading)
    (lastState : SettlementState) (lastReason : Option JsString),
    (pollSettlement settlementId lastState lastReason readings).settlementId = settlementId ∧
      ((pollSettlement settlementId lastState lastReason readings).state = lastState ∨
        ∃ rejectReason, some ((pollSettlement settlementId lastState lastReason readings).state,
          rejectReason) ∈ readings)
  | [], lastState, lastReason => ⟨rfl, Or.inl rfl⟩
  | none :: readings, lastState, lastReason => by
    obtain ⟨hid, hstate⟩ := pollSettlement_read settlementId readings lastState lastReason
    rw [pollSettlement]
    refine ⟨hid, hstate.imp_right ?_⟩
    rintro ⟨reason, h⟩
    exact ⟨reason, List.mem_cons_of_mem _ h⟩
  | some (state, rejectReason) :: readings, lastState, lastReason => by
    rw [pollSettlement]
    split
    · exact ⟨rfl, Or.inr ⟨rejectReason, List.mem_cons_self⟩⟩
    · obtain ⟨hid, hstate⟩ := pollSettlement_read settlementId readings state rejectReason
      refine ⟨hid, Or.inr ?_⟩
      rcases hstate with hstate | ⟨reason, h⟩
      · exact ⟨rejectReason, by rw [hstate]; exact List.mem_cons_self⟩
      · exact ⟨reason, List.mem_cons_of_mem _ h⟩

/-! ## What the hash of a body is of -/

theorem bodyNames_nodup (intent cart : JsonValue) :
    ([(js "intent", intent), (js "cart", cart)].map Prod.fst).Nodup := by
  simp only [List.map_cons, List.map_nil]
  decide

theorem intentNames_nodup (intent : IntentMandate) :
    ((intentMembers intent ++ [(js "sig", intent.sig.value)]).map Prod.fst).Nodup := by
  obtain ⟨_, _, _, _, _, _, _, _, limits, line, skus, _⟩ := intent
  -- eight lists of literal keys, one for each choice of the optional fields
  cases limits <;> cases line <;> cases skus <;>
    (simp only [intentMembers, intentSigningValue, List.map_append, List.map_cons, List.map_nil]
     decide)

theorem cartNames_nodup (cart : CartMandate) :
    ([(js "cartId", JsonValue.str cart.cartId), (js "merchant_id", .str cart.merchantId),
      (js "items", .arr (cart.items.map CartItem.value)), (js "total_paise", .num cart.totalPaise),
      (js "intent_hash_hex", .str cart.intentHashHex),
      (js "agent_sig_hex", .str cart.agentSigHex)].map Prod.fst).Nodup := by
  simp only [List.map_cons, List.map_nil]
  decide

/-- The members of a cart item as JSON. -/
def CartItem.members (item : CartItem) : List (JsString × JsonValue) :=
  match item.value with
  | .obj members => members
  | _ => []

theorem CartItem.value_eq (item : CartItem) : item.value = .obj item.members := rfl

theorem CartItem.members_nodup (item : CartItem) : (item.members.map Prod.fst).Nodup := by
  obtain ⟨_, _, _, variantId, variantLabel⟩ := item
  cases variantId <;> cases variantLabel <;>
    (simp only [CartItem.members, CartItem.value, Option.toList, List.map_append, List.map_cons,
      List.map_nil]
     decide)

/-- The text of an item fixes it. -/
theorem CartItem.eq_of_norm {item other : CartItem} (h : norm item.value = norm other.value) :
    item = other := by
  have hget : ∀ k, (item.value.get? k).map norm = (other.value.get? k).map norm := by
    intro k
    rw [CartItem.value_eq, CartItem.value_eq] at h ⊢
    rw [← get?_norm item.members_nodup, ← get?_norm other.members_nodup, h]
  have hvariantId : ∀ i : CartItem, i.value.get? (js "variant_id") = i.variantId.map .str := by
    rintro ⟨_, _, _, _ | _, _ | _⟩ <;> rfl
  have hvariantLabel : ∀ i : CartItem, i.value.get? (js "variant_label") = i.variantLabel.map .str := by
    rintro ⟨_, _, _, _ | _, _ | _⟩ <;> rfl
  have hid := hget (js "variant_id")
  have hlabel := hget (js "variant_label")
  rw [hvariantId, hvariantId] at hid
  rw [hvariantLabel, hvariantLabel] at hlabel
  exact CartItem.ext (str_of_norm (hget (js "sku"))) (num_of_norm (hget (js "qty")))
    (num_of_norm (hget (js "unit_price_paise"))) (str?_of_norm hid) (str?_of_norm hlabel)

theorem CartItem.items_eq_of_norm {items others : List CartItem}
    (h : norm (.arr (items.map CartItem.value)) = norm (.arr (others.map CartItem.value))) :
    items = others := by
  rw [norm, norm, normElems_eq_map, normElems_eq_map, List.map_map, List.map_map] at h
  exact List.map_injective_iff.mpr (fun _ _ => CartItem.eq_of_norm) (JsonValue.arr.inj h)

/-- The text of a cart fixes it. -/
theorem CartMandate.eq_of_norm {cart other : CartMandate} (h : norm cart.value = norm other.value) :
    cart = other := by
  have hget : ∀ k, (cart.value.get? k).map norm = (other.value.get? k).map norm := by
    intro k
    rw [CartMandate.value, CartMandate.value] at h ⊢
    rw [← get?_norm (cartNames_nodup cart), ← get?_norm (cartNames_nodup other), h]
  exact CartMandate.ext (str_of_norm (hget (js "cartId"))) (str_of_norm (hget (js "merchant_id")))
    (CartItem.items_eq_of_norm (Option.some.inj (hget (js "items"))))
    (num_of_norm (hget (js "total_paise"))) (str_of_norm (hget (js "intent_hash_hex")))
    (str_of_norm (hget (js "agent_sig_hex")))

/-- The text of an intent fixes the mandate it is of. -/
theorem IntentMandate.mandateId_of_norm {intent other : IntentMandate}
    (h : norm intent.value = norm other.value) : intent.mandateId = other.mandateId := by
  have hget : (intent.value.get? (js "mandateId")).map norm =
      (other.value.get? (js "mandateId")).map norm := by
    rw [IntentMandate.value, IntentMandate.value] at h ⊢
    rw [← get?_norm (intentNames_nodup intent), ← get?_norm (intentNames_nodup other), h]
  exact str_of_norm hget

/-- Two bodies with different bytes and one hash: a collision of SHA-256. -/
def BodiesCollide (env : Env) (intent intent' : IntentMandate) (cart cart' : CartMandate) : Prop :=
  ∃ bytes bytes', canonicalJson (createSettlementBodyValue intent cart) = .ok bytes ∧
    canonicalJson (createSettlementBodyValue intent' cart') = .ok bytes' ∧ bytes ≠ bytes' ∧
    env.crypto.sha256Hex bytes = env.crypto.sha256Hex bytes'

/-- **Bodies of one hash are for one cart under one mandate**, or they collide. -/
theorem body_of_requestHash {env : Env} {intent intent' : IntentMandate} {cart cart' : CartMandate}
    {hash : JsString} (h : requestHash env intent cart = .ok hash)
    (h' : requestHash env intent' cart' = .ok hash) :
    (intent'.mandateId = intent.mandateId ∧ cart' = cart) ∨ BodiesCollide env intent intent' cart cart' := by
  unfold requestHash at h h'
  rw [bind_eq_ok] at h h'
  obtain ⟨bytes, hbytes, hhash⟩ := h
  obtain ⟨bytes', hbytes', hhash'⟩ := h'
  have hsame : env.crypto.sha256Hex bytes = env.crypto.sha256Hex bytes' :=
    (Except.ok.inj hhash).trans (Except.ok.inj hhash').symm
  by_cases heq : bytes = bytes'
  · rw [← heq] at hbytes'
    have hget := get?_of_canonicalJson (bodyNames_nodup _ _) (bodyNames_nodup _ _) hbytes hbytes'
    have hintent : norm intent.value = norm intent'.value := Option.some.inj (hget (js "intent"))
    have hcart : norm cart.value = norm cart'.value := Option.some.inj (hget (js "cart"))
    exact Or.inl ⟨(IntentMandate.mandateId_of_norm hintent).symm, (CartMandate.eq_of_norm hcart).symm⟩
  · exact Or.inr ⟨bytes, bytes', hbytes, hbytes', heq, hsame⟩

/-! ## What completes a key -/

/-- A move of a task completes no key, or it is the transaction of a claimed one. -/
inductive ClaimStep (env : Env) (now : Int) (w : World) (c : TaskWhy) (w' : World) : Prop where
  | keeps (hrows : ∀ row ∈ w'.db.idempotencyKeys.rows,
        row.responseBody = none ∨ row ∈ w.db.idempotencyKeys.rows)
      (hc : (∀ key intent cart, c ≠ .running (.settlementClaimed key intent cart)) ∨ w' = w)
  | transaction (key : JsString) (intent : IntentMandate) (cart : CartMandate) (settlementId : JsString)
      (out : CreateSettlementOutcome) (hc : c = .running (.settlementClaimed key intent cart))
      (htx : settlementTransaction env now w.db settlementId key intent cart = .ok (w'.db, out))

theorem ClaimStep.of_keyStep {env : Env} {now : Int} {w w' : World} {c : TaskWhy} {next : Next Task}
    (h : KeyStep env now w c w' next)
    (hc : ∀ key intent cart, c ≠ .running (.settlementClaimed key intent cart)) :
    ClaimStep env now w c w' := by
  refine .keeps ?_ (Or.inl hc)
  intro row hrow
  cases h with
  | same hkeys hn =>
    rw [hkeys] at hrow
    exact Or.inr hrow
  | claimed key hash intent cart hkey hhash hkeys hn =>
    rcases (Table.mem_insert? hkeys).mp hrow with hrow | rfl
    · exact Or.inr hrow
    · exact Or.inl rfl
  | completed key intent cart settlementId status body hrun hkeys hn => exact absurd hrun (hc _ _ _)
  | swept hkeys hn =>
    rw [hkeys, Table.mem_delete] at hrow
    exact Or.inr hrow.1

theorem claimStep_settlementClaimed {env : Env} {now : Int} {w : World} {settlementId key : JsString}
    {intent : IntentMandate} {cart : CartMandate} :
    ClaimStep env now w (.running (.settlementClaimed key intent cart))
      (settlementClaimed env now settlementId w key intent cart).world := by
  unfold settlementClaimed
  cases htx : settlementTransaction env now w.db settlementId key intent cart with
  | error e => exact .keeps (fun _ hrow => Or.inr hrow) (Or.inr rfl)
  | ok r =>
    obtain ⟨db, out⟩ := r
    refine .transaction key intent cart settlementId out rfl ?_
    rw [htx]
    simp only
    split
    · rfl
    · rfl

/-- **Only the transaction that answers a request completes its key.** -/
def claimSpec (env : Env) : Spec (facilitator env) where
  task := fun now w c w' _ => ClaimStep env now w c w'
  job := fun _ w _ _ w' _ => w'.db.idempotencyKeys = w.db.idempotencyKeys
  request := fun _ _ _ _ => .of_keyStep keyStep_handleRequest fun _ _ _ h => by cases h
  runTask := fun now seed w t => by
    by_cases hclaimed : ∃ key intent cart, t = .settlementClaimed key intent cart
    · obtain ⟨key, intent, cart, rfl⟩ := hclaimed
      exact claimStep_settlementClaimed
    · have hkeys : KeyStep env now w (.running t) (runTask env now seed w t).world
          (runTask env now seed w t).next := keyStep_runTask
      refine .of_keyStep hkeys fun key intent cart h => hclaimed ?_
      exact ⟨key, intent, cart, TaskCause.running.inj h⟩
  resumeTask := fun _ _ _ _ _ h => .of_keyStep (keyStep_resumeTask h) fun _ _ _ h => by cases h
  startJob := fun _ _ _ _ => keys_startRun ..
  runJob := fun _ _ _ _ _ => keys_runStep ..
  resumeJob := fun _ _ _ _ _ _ h => keys_resumeRun h

/-- The errors that complete a key. -/
def refusalCodes : List JsString := [js "MANDATE_UNKNOWN", js "DUPLICATE_CART", js "ALLOWANCE_RESERVED"]

/-- No stored refusal says that its key is in use. -/
theorem not_contested_of_refusal {code : JsString} (h : code ∈ refusalCodes) :
    code ≠ js "IN_FLIGHT" ∧ code ≠ js "KEY_REUSED" := by
  revert code
  decide

theorem verifySettlement_ne_error {crypto : Crypto} {db db' : Db} {settlementId : JsString}
    {intent : IntentMandate} {cart : CartMandate} {now : Int} {status : Nat} {code : JsString} :
    verifySettlement crypto db settlementId intent cart now ≠ .ok (db', ⟨status, .error code⟩) := by
  intro h
  unfold verifySettlement at h
  rw [bind_eq_ok] at h
  obtain ⟨db₁, -, h⟩ := h
  rw [bind_eq_ok] at h
  obtain ⟨⟨ctx, hash⟩, -, h⟩ := h
  dsimp only at h
  rw [bind_eq_ok] at h
  obtain ⟨result, -, h⟩ := h
  cases result with
  | fail reason detail =>
    dsimp only at h
    rw [bind_eq_ok] at h
    obtain ⟨db₂, -, h⟩ := h
    rw [bind_eq_ok] at h
    obtain ⟨db₃, -, h⟩ := h
    cases h
  | ok approval hash =>
    dsimp only at h
    rw [bind_eq_ok] at h
    obtain ⟨db₂, -, h⟩ := h
    split at h
    · rw [bind_eq_ok] at h
      obtain ⟨db₃, -, h⟩ := h
      rw [bind_eq_ok] at h
      obtain ⟨db₄, -, h⟩ := h
      cases h
    · rw [bind_eq_ok] at h
      obtain ⟨db₃, -, h⟩ := h
      rw [bind_eq_ok] at h
      obtain ⟨db₄, -, h⟩ := h
      cases h

theorem createSettlement_refusal {crypto : Crypto} {db db' : Db} {settlementId : JsString}
    {intent : IntentMandate} {cart : CartMandate} {now : Int} {status : Nat} {code : JsString}
    (h : createSettlement crypto db settlementId intent cart now = .ok (db', ⟨status, .error code⟩)) :
    code ∈ refusalCodes := by
  unfold createSettlement at h
  split at h
  · cases h
    decide
  rw [bind_eq_ok] at h
  obtain ⟨hash, -, h⟩ := h
  split at h
  · split at h
    · cases h
      decide
    split at h
    · cases h
      decide
    · cases h
  · cases h
  · exact absurd h verifySettlement_ne_error

/-- What the transaction has done to the settlements, and what it answers. -/
theorem settlementTransaction_settlements {env : Env} {now : Int} {db db' : Db}
    {settlementId key : JsString} {intent : IntentMandate} {cart : CartMandate}
    {out : CreateSettlementOutcome}
    (h : settlementTransaction env now db settlementId key intent cart = .ok (db', out)) :
    (db'.settlements = db.settlements ∧ ∃ status, ∃ code ∈ refusalCodes, out = ⟨status, .error code⟩) ∨
    ∃ row reason, SettlementAdded db.settlements db'.settlements row ∧
      CreatedFrom env.crypto db now intent cart row ∧ out = ⟨202, .ok row.id row.state reason⟩ := by
  unfold settlementTransaction at h
  rw [bind_eq_ok] at h
  obtain ⟨⟨db₁, result⟩, hcreate, h⟩ := h
  simp only at h
  rw [bind_eq_ok] at h
  obtain ⟨db₂, hcomplete, h⟩ := h
  obtain ⟨rfl, rfl⟩ := Prod.mk.inj (Except.ok.inj h)
  have hsame : db₂.settlements = db₁.settlements := by
    unfold completeIdempotencyKey at hcomplete
    split at hcomplete
    · rw [← Except.ok.inj hcomplete]
    · cases hcomplete
  rw [hsame]
  rcases createSettlement_ok hcreate with ⟨rfl, status, code, rfl⟩ |
    ⟨row, lrow, reason, hadd, rfl, hfrom, -, -, -, hout⟩
  · exact Or.inl ⟨rfl, status, code, createSettlement_refusal hcreate, rfl⟩
  · exact Or.inr ⟨row, reason, hadd, hfrom, hout⟩

/-! ## What a completed key names -/

/-- The settlement is for the cart and the mandate of a body with this hash. -/
def MadeFor (env : Env) (hash : JsString) (r : SettlementRow) : Prop :=
  ∃ intent cart, requestHash env intent cart = .ok hash ∧ r.mandateId = intent.mandateId ∧ r.cart = cart

/-- The settlement of an answer: created in the state that was answered, which is still its state if
    that one was final. -/
def Names (env : Env) (t : Settlements) (hash settlementId : JsString) (state : SettlementState) : Prop :=
  (state = .rejected ∨ state = .pending_approval ∨ state = .approved) ∧
    ∃ r ∈ t.rows, r.id = settlementId ∧ MadeFor env hash r ∧ (state.live = false → r.state = state)

theorem Names.kept {env : Env} {t t' : Settlements} {hash settlementId : JsString}
    {state : SettlementState} (h : Names env t hash settlementId state) (hk : SettlementsKept t t') :
    Names env t' hash settlementId state := by
  obtain ⟨hstate, r, hr, rfl, ⟨intent, cart, hhash, hmandate, hcart⟩, hfinal⟩ := h
  obtain ⟨r', hr', hkept⟩ := hk r hr
  refine ⟨hstate, r', hr', hkept.id, ?_, ?_⟩
  · exact ⟨intent, cart, hhash, hkept.mandateId.trans hmandate, hkept.cart.trans hcart⟩
  · intro hlive
    have hwas := hfinal hlive
    rw [hkept.final (by rw [hwas]; exact hlive), hwas]

/-- What a response says is so: it names a settlement, or it is a refusal. -/
def Sustained (env : Env) (t : Settlements) (hash : JsString) : CreateSettlementBody → Prop
  | .ok settlementId state _ => Names env t hash settlementId state
  | .error code => code ∈ refusalCodes

theorem Sustained.kept {env : Env} {t t' : Settlements} {hash : JsString} {body : CreateSettlementBody}
    (h : Sustained env t hash body) (hk : SettlementsKept t t') : Sustained env t' hash body := by
  cases body with
  | ok settlementId state reason => exact Names.kept h hk
  | error code => exact h

/-- The response of every completed key is sustained. -/
def Named (env : Env) (w : World) : Prop :=
  ∀ row ∈ w.db.idempotencyKeys.rows, ∀ body, row.responseBody = some body →
    Sustained env w.db.settlements row.requestHashHex body

theorem named_step {env : Env} {s s' : Sys} {a : Act} (hs : (keyOutline env).Holds s)
    (h : sysStep env s a = some s') (hn : Named env s.world) : Named env s'.world := by
  have hkept : SettlementsKept s.world.db.settlements s'.world.db.settlements :=
    (persists_step h).settlements
  intro row hrow body hbody
  have hold : row ∈ s.world.db.idempotencyKeys.rows →
      Sustained env s'.world.db.settlements row.requestHashHex body := by
    intro hrow
    exact (hn row hrow body hbody).kept hkept
  cases (claimSpec env).moved h with
  | stays hstay =>
    rw [hstay] at hrow
    exact hold hrow
  | job k c next hmove hkeys =>
    have hkeys : s'.world.db.idempotencyKeys = s.world.db.idempotencyKeys := hkeys
    rw [hkeys] at hrow
    exact hold hrow
  | task c next hmove hclaim =>
    have hheld : ClaimHeld env s.world c.before := hs.before_task hmove
    cases (show ClaimStep env s.clock s.world c s'.world from hclaim) with
    | keeps hrows hc =>
      rcases hrows row hrow with hnone | hrow
      · rw [hbody] at hnone
        cases hnone
      · exact hold hrow
    | transaction key intent cart fresh out hc htx =>
      rcases (Table.mem_update? (settlementTransaction_keys htx)).mp hrow with
        ⟨row₁, hrow₁, hkey, rfl⟩ | ⟨hrow, -⟩
      · -- the completed row was locked for this body
        obtain ⟨row₀, hrow₀, hkey₀, -, hhash⟩ := hheld key intent cart (by rw [hc]; rfl)
        have hsame : row₁ = row₀ := idempotencyKey_eq hrow₁ hrow₀ ((beq_iff_eq.mp hkey).trans hkey₀.symm)
        rw [← hsame] at hhash
        obtain rfl : out.body = body := Option.some.inj hbody
        rcases settlementTransaction_settlements htx with ⟨-, status, code, hcode, rfl⟩ |
          ⟨new, why, hadd, hfrom, rfl⟩
        · exact hcode
        · exact ⟨hfrom.state_cases, new, (hadd.mem_iff new).mpr (Or.inr rfl), rfl,
            ⟨intent, cart, hhash, hfrom.mandateId, hfrom.cart_eq⟩, fun _ => rfl⟩
      · exact hold hrow

/-- **A completed key names a settlement that a body of its hash asked for.** -/
theorem Reachable.named {env : Env} {s : Sys} (h : Reachable env s) : Named env s.world := by
  induction h with
  | refl => exact fun _ hrow => absurd hrow List.not_mem_nil
  | tail r _ hstep ih => exact named_step (Reachable.keyOutline r) hstep ih

/-! ## What a refused key has created -/

/-- A creation completes the key with the settlement it created. -/
theorem CreatesUnder.completes_ok {env : Env} {s s' : Sys} {a : Act} {key : JsString}
    (hs : (keyOutline env).Holds s) (h : sysStep env s a = some s') (hc : CreatesUnder key s s') :
    ∃ intent cart status settlementId state reason,
      CompletedFor env s'.world key intent cart status (.ok settlementId state reason) := by
  obtain ⟨intent, cart, hcpu, new, hnew, hfresh⟩ := hc
  have hmoved : s'.world ≠ s.world := by
    intro hsame
    rw [hsame] at hnew
    exact hfresh new hnew rfl
  have hbusy : s.free = false := by
    rw [State.free, hcpu]
  cases (claimSpec env).moved h with
  | stays hstay => exact absurd hstay hmoved
  | job k c next hmove hkeys =>
    -- no run moves while the request has the segment
    cases hmove with
    | start seed k rest hfree hjob hq =>
      rw [hbusy] at hfree
      cases hfree
    | runJob seed k p hjob =>
      rw [hs.excl k p hjob] at hcpu
      cases hcpu
    | resumeJob a k p hfree hjob =>
      rw [hbusy] at hfree
      cases hfree
  | task c next hmove hclaim =>
    have hrun : c = .running (.settlementClaimed key intent cart) := by
      cases hmove with
      | request r seed hfree =>
        rw [hbusy] at hfree
        cases hfree
      | runTask seed t ht => rw [Option.some.inj (hcpu.symm.trans ht)]
      | resumeTask i a t hfree ht =>
        rw [hbusy] at hfree
        cases hfree
    have hheld : Locked env s.world key intent cart := hs.cpu _ hcpu key intent cart rfl
    cases (show ClaimStep env s.clock s.world c s'.world from hclaim) with
    | keeps hrows hc =>
      rcases hc with hc | hsame
      · exact absurd hrun (hc _ _ _)
      · exact absurd hsame hmoved
    | transaction key' intent' cart' fresh out hc htx =>
      obtain ⟨rfl, rfl, rfl⟩ := Task.settlementClaimed.inj (TaskCause.running.inj (hrun.symm.trans hc))
      rcases settlementTransaction_settlements htx with ⟨hsame, -⟩ | ⟨row, reason, -, -, rfl⟩
      · rw [hsame] at hnew
        exact absurd rfl (hfresh new hnew)
      · obtain ⟨locked, hlocked, hkey, -, hhash⟩ := hheld
        refine ⟨intent, cart, 202, row.id, row.state, reason, locked.complete (some row.id) 202 _, ?_, hkey,
          rfl, rfl, hhash⟩
        exact (Table.mem_update? (settlementTransaction_keys htx)).mpr
          (Or.inl ⟨locked, hlocked, beq_iff_eq.mpr hkey, rfl⟩)

/-- A key is completed with one response. -/
theorem CompletedFor.body_eq {env : Env} {w : World} {key : JsString} {intent intent' : IntentMandate}
    {cart cart' : CartMandate} {status status' : Nat} {body body' : CreateSettlementBody}
    (h : CompletedFor env w key intent cart status body)
    (h' : CompletedFor env w key intent' cart' status' body') : body = body' := by
  obtain ⟨row, hrow, hkey, -, hbody, -⟩ := h
  obtain ⟨row', hrow', hkey', -, hbody', -⟩ := h'
  rw [idempotencyKey_eq hrow hrow' (hkey.trans hkey'.symm), hbody'] at hbody
  exact (Option.some.inj hbody).symm

/-- **A key that is completed with an error has created no settlement and creates none.** -/
theorem refused_creates_nothing {env : Env} {s : Sys} {key : JsString} {intent : IntentMandate}
    {cart : CartMandate} {status : Nat} {code : JsString} (h : Reachable env s)
    (hdone : CompletedFor env s.world key intent cart status (.error code)) {u u' : Sys} {a : Act}
    (hu : Reachable env u) (hstep : sysStep env u a = some u') (hcreates : CreatesUnder key u u') :
    ¬ Run (facilitator env) anyStep u' s ∧ ¬ Run (facilitator env) anyStep s u := by
  constructor
  · intro r
    obtain ⟨_, _, _, _, _, _, hcompleted⟩ := hcreates.completes_ok hu.keyOutline hstep
    have hu' : (keyOutline env).Holds u' := (keyOutline env).holds_step hu.keyOutline trivial hstep
    have hsame := (hcompleted.kept hu' r).body_eq hdone
    cases hsame
  · intro r
    obtain ⟨row, hrow, hkey, hstatus, -⟩ := hdone.kept h.keyOutline r
    obtain ⟨intent', cart', hcpu, -⟩ := hcreates
    -- whoever creates under the key holds its lock
    obtain ⟨row', hrow', hkey', hnone, -⟩ := hu.keyOutline.cpu _ hcpu key intent' cart' rfl
    rw [idempotencyKey_eq hrow hrow' (hkey.trans hkey'.symm), hnone] at hstatus
    cases hstatus

/-! ## The buyer and the facilitator -/

/-- The step answers the POST of this body under the key, with a response of the route itself: that of
    the transaction, the one stored, or that the key is contested. -/
structure Replies (env : Env) (key : JsString) (intent : IntentMandate) (cart : CartMandate) (s s' : Sys)
    (status : Nat) (body : CreateSettlementBody) : Prop where
  asked : (∃ seed, sysStep env s (.request (.postSettlements (some key) intent cart) seed) = some s') ∨
    (s.cpu = some (.settlementClaimed key intent cart) ∧ ∃ seed, sysStep env s (.runTask seed) = some s')
  told : ∃ earlier, s'.world.history = .settlementResponse key status body :: earlier ∧
    s.world.history <:+ earlier

/-- The GETs of the loop along a run: each reads its settlement in the state the facilitator is in, or
    it fails. -/
inductive Polled (env : Env) (settlementId : JsString) : Sys → List Reading → Sys → Prop where
  | stop {s t : Sys} (r : Run (facilitator env) anyStep s t) : Polled env settlementId s [] t
  | read {s u t : Sys} {readings : List Reading} (r : Run (facilitator env) anyStep s u)
      (rest : Polled env settlementId u readings t) :
      Polled env settlementId s (readSettlement u.world.db settlementId :: readings) t
  | failed {s t : Sys} {readings : List Reading} (rest : Polled env settlementId s readings t) :
      Polled env settlementId s (none :: readings) t

/-- What the facilitator's answer says of the key: its response, or that it is in use. -/
inductive KeyAnswered (env : Env) (key : JsString) (intent : IntentMandate) (cart : CartMandate) (s' : Sys)
    (status : Nat) (body : CreateSettlementBody) : Prop where
  | completed (h : CompletedFor env s'.world key intent cart status body)
  | contested (code : JsString) (hbody : body = .error code)
      (hcode : idempotencyKeyContested status code = true) (row : IdempotencyKeyRow)
      (hrow : row ∈ s'.world.db.idempotencyKeys.rows) (hkey : row.key = key)
      (huse : requestHash env intent cart ≠ .ok row.requestHashHex ∨ row.responseStatus = none ∨
        row.responseBody = none)

/-- What a claim that does not get the key has found. -/
theorem claimIdempotencyKey_found {now : Int} {db db' : Db} {key hash : JsString} {claim : IdempotencyClaim}
    (h : claimIdempotencyKey now db key hash = .ok (db', claim)) :
    claim = .claimed ∨ ∃ row ∈ db.idempotencyKeys.rows, row.key = key ∧
      ((claim = .hash_mismatch ∧ row.requestHashHex ≠ hash) ∨
        (claim = .in_flight ∧ (row.responseStatus = none ∨ row.responseBody = none)) ∨
        ∃ status body, claim = .completed status body ∧ row.requestHashHex = hash ∧
          row.responseStatus = some status ∧ row.responseBody = some body) := by
  unfold claimIdempotencyKey at h
  split at h
  · exact Or.inl (Prod.mk.inj (Except.ok.inj h)).2.symm
  split at h
  · cases h
  rename_i row hfind
  obtain ⟨hrow, hkey⟩ := Table.find?_mem hfind
  refine Or.inr ⟨row, hrow, beq_iff_eq.mp hkey, ?_⟩
  split at h
  · rename_i hne
    exact Or.inl ⟨(Prod.mk.inj (Except.ok.inj h)).2.symm, hne⟩
  rename_i hsame
  cases hstatus : row.responseStatus with
  | none =>
    rw [hstatus] at h
    exact Or.inr (Or.inl ⟨(Prod.mk.inj (Except.ok.inj h)).2.symm, Or.inl rfl⟩)
  | some status =>
    cases hbody : row.responseBody with
    | none =>
      rw [hstatus, hbody] at h
      exact Or.inr (Or.inl ⟨(Prod.mk.inj (Except.ok.inj h)).2.symm, Or.inr rfl⟩)
    | some body =>
      rw [hstatus, hbody] at h
      exact Or.inr (Or.inr ⟨status, body, (Prod.mk.inj (Except.ok.inj h)).2.symm,
        not_not.mp hsame, rfl, rfl⟩)

/-- An answer that is told is not the silence before it. -/
theorem told_ne {w w' : World} {e : Event}
    (h : ∃ earlier, w'.history = e :: earlier ∧ w.history <:+ earlier) : w'.history ≠ w.history := by
  obtain ⟨earlier, htold, hsuffix⟩ := h
  intro hsame
  have hle := hsuffix.length_le
  rw [← hsame, htold, List.length_cons] at hle
  omega

theorem replied_postSettlements {env : Env} {now : Int} {w : World} {key : JsString}
    {intent : IntentMandate} {cart : CartMandate} {status : Nat} {body : CreateSettlementBody} {s' : Sys}
    (hworld : s'.world = (postSettlements env now w (some key) intent cart).world)
    (htold : ∃ earlier, s'.world.history = .settlementResponse key status body :: earlier ∧
      w.history <:+ earlier) : KeyAnswered env key intent cart s' status body := by
  have hne := told_ne htold
  obtain ⟨earlier, htold, -⟩ := htold
  cases key with
  | nil => exact absurd (congrArg World.history hworld) hne
  | cons ch rest =>
    rw [hworld] at hne htold
    unfold postSettlements at hworld htold hne
    dsimp only at hworld htold hne
    cases hbytes : canonicalJson (createSettlementBodyValue intent cart) with
    | error e =>
      rw [hbytes] at hne
      exact absurd rfl hne
    | ok bytes =>
      have hhash : requestHash env intent cart = .ok (env.crypto.sha256Hex bytes) := by
        rw [requestHash, hbytes]
        rfl
      rw [hbytes] at hworld htold hne
      dsimp only at hworld htold hne
      cases hclaim : claimIdempotencyKey now w.db (ch :: rest) (env.crypto.sha256Hex bytes) with
      | error e =>
        rw [hclaim] at hne
        exact absurd rfl hne
      | ok found =>
        obtain ⟨db, claim⟩ := found
        rw [hclaim] at hworld htold hne
        rcases claimIdempotencyKey_found hclaim with rfl | ⟨row, hrow, hkey, hfound⟩
        · exact absurd (show (w.commit db).history = w.history from rfl) hne
        rcases hfound with ⟨rfl, hother⟩ | ⟨rfl, hopen⟩ | ⟨stored, response, rfl, hsame, hstatus, hbody⟩
        · have hevent := (List.cons.inj htold).1
          obtain ⟨-, rfl, rfl⟩ := Event.settlementResponse.inj hevent
          refine .contested _ rfl rfl row (by rw [hworld]; exact hrow) hkey (Or.inl fun h => hother ?_)
          exact (Except.ok.inj (hhash.symm.trans h)).symm
        · have hevent := (List.cons.inj htold).1
          obtain ⟨-, rfl, rfl⟩ := Event.settlementResponse.inj hevent
          exact .contested _ rfl rfl row (by rw [hworld]; exact hrow) hkey (Or.inr hopen)
        · have hevent := (List.cons.inj htold).1
          obtain ⟨-, rfl, rfl⟩ := Event.settlementResponse.inj hevent
          exact .completed ⟨row, by rw [hworld]; exact hrow, hkey, hstatus, hbody, by rw [hhash, hsame]⟩

/-- **What an answer says of its key is so.** -/
theorem Replies.replied {env : Env} {key : JsString} {intent : IntentMandate} {cart : CartMandate}
    {s s' : Sys} {status : Nat} {body : CreateSettlementBody}
    (h : Replies env key intent cart s s' status body) (hs : Reachable env s) :
    KeyAnswered env key intent cart s' status body := by
  have hne := told_ne h.told
  rcases h.asked with ⟨seed, hstep⟩ | ⟨hcpu, seed, hstep⟩
  · cases stepped_of_step (facilitator env) hstep with
    | request r seed hfree =>
      have hworld : (s.finish (facilitator env)
          ((facilitator env).request s.clock seed s.world (.postSettlements (some key) intent cart))).world =
          (handleRequest env s.clock seed s.world (.postSettlements (some key) intent cart)).world := by
        rw [finish_world]
        rfl
      by_cases hvalid : (Request.postSettlements (some key) intent cart).valid = true
      · rw [handleRequest, if_pos hvalid] at hworld
        exact replied_postSettlements hworld h.told
      · rw [handleRequest, if_neg hvalid] at hworld
        exact absurd (congrArg World.history hworld) hne
  · rcases claimed_step hs.keyOutline hcpu hstep with hsame | ⟨status', body', hdone, hhead⟩
    · exact absurd (congrArg World.history hsame) hne
    · obtain ⟨earlier, htold, -⟩ := h.told
      rw [htold] at hhead
      obtain ⟨-, rfl, rfl⟩ := Event.settlementResponse.inj (Option.some.inj hhead)
      exact .completed hdone

theorem Replies.run {env : Env} {key : JsString} {intent : IntentMandate} {cart : CartMandate}
    {s s' : Sys} {status : Nat} {body : CreateSettlementBody}
    (h : Replies env key intent cart s s' status body) : Run (facilitator env) anyStep s s' := by
  rcases h.asked with ⟨seed, hstep⟩ | ⟨-, seed, hstep⟩
  · exact Run.single trivial hstep
  · exact Run.single trivial hstep

theorem Polled.run {env : Env} {settlementId : JsString} {s t : Sys} {readings : List Reading}
    (h : Polled env settlementId s readings t) : Run (facilitator env) anyStep s t := by
  induction h with
  | stop r => exact r
  | read r rest ih => exact r.trans ih
  | failed rest ih => exact ih

/-- A state that was read is one the settlement was in. -/
theorem Polled.seen {env : Env} {settlementId : JsString} {s t : Sys} {readings : List Reading}
    {state : SettlementState} {rejectReason : Option JsString} (h : Polled env settlementId s readings t)
    (hread : some (state, rejectReason) ∈ readings) :
    ∃ u, Run (facilitator env) anyStep u t ∧
      ∃ r ∈ u.world.db.settlements.rows, r.id = settlementId ∧ r.state = state := by
  induction h with
  | stop r => exact absurd hread List.not_mem_nil
  | @read s u t readings r rest ih =>
    rcases List.mem_cons.mp hread with hnow | hlater
    · refine ⟨u, rest.run, ?_⟩
      obtain ⟨row, hfind, hreading⟩ := Option.map_eq_some_iff.mp hnow.symm
      obtain ⟨hmem, hid⟩ := Table.find?_mem hfind
      exact ⟨row, hmem, beq_iff_eq.mp hid, (Prod.mk.inj hreading).1⟩
    · exact ih hlater
  | failed rest ih =>
    rcases List.mem_cons.mp hread with hnone | hlater
    · cases hnone
    · exact ih hlater

/-- What the result of a purchase is worth in the state `t` it is returned in; `s'` is the state of the
    answer to the POST. -/
structure Honest (env : Env) (key : JsString) (intent : IntentMandate) (cart : CartMandate) (s' t : Sys)
    (body : CreateSettlementBody) (result : SettlementResult) : Prop where
  /-- It names the settlement that a body of this hash asked for. -/
  made : ∀ settlementId, body.settlementId? = some settlementId → result.settlementId = settlementId ∧
    ∃ hash, requestHash env intent cart = .ok hash ∧
      ∃ r ∈ t.world.db.settlements.rows, r.id = settlementId ∧ MadeFor env hash r
  /-- A final state is the settlement's, now and in every later state. -/
  final : body.settlementId?.isSome = true → result.state.live = false →
    ∀ u, Run (facilitator env) anyStep t u →
      ∃ r ∈ u.world.db.settlements.rows, r.id = result.settlementId ∧ r.state = result.state
  /-- A rejection that names no settlement is of a key that has created none and will create none. -/
  refused : body.settlementId? = none → result.state = .rejected →
    ∀ u a u', Reachable env u → sysStep env u a = some u' → CreatesUnder key u u' →
      ¬ Run (facilitator env) anyStep u' t ∧ ¬ Run (facilitator env) anyStep t u
  /-- Anything else that names no settlement is of a key that is in use. -/
  contested : body.settlementId? = none →
    (result.state ≠ .rejected ∨ result.reason = some (js "IN_FLIGHT") ∨
      result.reason = some (js "KEY_REUSED")) →
    ∃ row ∈ s'.world.db.idempotencyKeys.rows, row.key = key ∧
      (requestHash env intent cart ≠ .ok row.requestHashHex ∨ row.responseStatus = none ∨
        row.responseBody = none)

/-- A settlement that was seen in a final state is in it from then on. -/
theorem final_kept {env : Env} {u t : Sys} {settlementId : JsString} {state : SettlementState}
    (hfinal : state.live = false) (r : Run (facilitator env) anyStep u t)
    (h : ∃ row ∈ u.world.db.settlements.rows, row.id = settlementId ∧ row.state = state) :
    ∃ row ∈ t.world.db.settlements.rows, row.id = settlementId ∧ row.state = state := by
  obtain ⟨row, hrow, rfl, rfl⟩ := h
  obtain ⟨row', hrow', hkept⟩ := (persists_run r).settlements row hrow
  exact ⟨row', hrow', hkept.id, hkept.final hfinal⟩

/-- **A buyer's result is honest**, whatever the facilitator did between its answer and the readings. -/
theorem requestPayment_honest {env : Env} {key : JsString} {intent : IntentMandate} {cart : CartMandate}
    {s s' t : Sys} {status : Nat} {body : CreateSettlementBody} {readings : List Reading}
    (hs : Reachable env s) (ha : Replies env key intent cart s s' status body)
    (hp : Polled env (body.settlementId?.getD []) s' readings t) :
    Honest env key intent cart s' t body (requestPayment status body readings) := by
  have hs' : Reachable env s' := Run.trans hs ha.run
  have ht : Reachable env t := Run.trans hs' hp.run
  cases body with
  | error code =>
    refine
      { made := fun _ h => by cases h
        final := fun h => by cases h
        refused := ?_
        contested := ?_ }
    · intro _ hstate u a u' hu hstep hcreates
      cases ha.replied hs with
      | completed hdone =>
        have hlater := hdone.kept hs'.keyOutline hp.run
        exact refused_creates_nothing ht hlater hu hstep hcreates
      | contested code' hbody hcode row hrow hkey huse =>
        obtain rfl := CreateSettlementBody.error.inj hbody
        rw [requestPayment, if_pos hcode] at hstate
        cases hstate
    · intro _ hin
      cases ha.replied hs with
      | contested code' hbody hcode row hrow hkey huse => exact ⟨row, hrow, hkey, huse⟩
      | completed hdone =>
        obtain ⟨row, hrow, -, -, hbody, -⟩ := hdone
        have hplain := not_contested_of_refusal (hs'.named row hrow _ hbody)
        rcases hin with hstate | hreason | hreason
        · have hfree : idempotencyKeyContested status code = false := by
            rw [idempotencyKeyContested, Bool.and_eq_false_iff, Bool.or_eq_false_iff]
            exact Or.inr ⟨beq_eq_false_iff_ne.mpr hplain.1, beq_eq_false_iff_ne.mpr hplain.2⟩
          rw [requestPayment, hfree] at hstate
          exact absurd rfl hstate
        · exact absurd (Option.some.inj hreason) hplain.1
        · exact absurd (Option.some.inj hreason) hplain.2
  | ok settlementId state reason =>
    have hdone : CompletedFor env s'.world key intent cart status (.ok settlementId state reason) := by
      cases ha.replied hs with
      | completed hdone => exact hdone
      | contested code hbody hcode row hrow hkey huse => cases hbody
    obtain ⟨row, hrow, -, -, hbody, hhash⟩ := hdone
    have hnames : Names env t.world.db.settlements row.requestHashHex settlementId state :=
      Names.kept (hs'.named row hrow _ hbody) (persists_run hp.run).settlements
    obtain ⟨-, r, hr, hid, hmade, hfinal⟩ := hnames
    have hresult : (requestPayment status (.ok settlementId state reason) readings).settlementId =
        settlementId ∧
        ((requestPayment status (.ok settlementId state reason) readings).state.live = false →
          ∃ row ∈ t.world.db.settlements.rows, row.id = settlementId ∧
            row.state = (requestPayment status (.ok settlementId state reason) readings).state) := by
      rw [requestPayment]
      split
      · exact ⟨rfl, fun hlive => ⟨r, hr, hid, hfinal hlive⟩⟩
      · obtain ⟨hsame, hread⟩ := pollSettlement_read settlementId readings .created none
        refine ⟨hsame, fun hlive => ?_⟩
        rcases hread with hlast | ⟨rejectReason, hread⟩
        · rw [hlast] at hlive
          cases hlive
        · obtain ⟨u, hrun, hseen⟩ := hp.seen hread
          exact final_kept hlive hrun hseen
    refine
      { made := ?_
        final := ?_
        refused := fun h => by cases h
        contested := fun h => by cases h }
    · intro id h
      obtain rfl := Option.some.inj h
      exact ⟨hresult.1, row.requestHashHex, hhash, r, hr, hid, hmade⟩
    · intro _ hlive u hrun
      rw [hresult.1]
      exact final_kept hlive hrun (hresult.2 hlive)

/-- The settlement is under the mandate of the purchase, for the very cart that was signed and the
    amount told; or the body it was created for collides with the one that was sent. -/
def BoughtFor (env : Env) (intent : IntentMandate) (cart : CartMandate) (t : Sys) (settlementId : JsString)
    (amountPaise : Int) : Prop :=
  ∃ r ∈ t.world.db.settlements.rows, r.id = settlementId ∧
    ((r.mandateId = intent.mandateId ∧ r.cart = cart ∧ r.amountPaise = amountPaise) ∨
      ∃ intent', r.mandateId = intent'.mandateId ∧ BodiesCollide env intent intent' cart r.cart)

theorem Honest.boughtFor {env : Env} {key : JsString} {intent : IntentMandate} {cart : CartMandate}
    {s' t : Sys} {body : CreateSettlementBody} {result : SettlementResult} (ht : Reachable env t)
    (h : Honest env key intent cart s' t body result) (hsome : body.settlementId?.isSome = true) :
    BoughtFor env intent cart t result.settlementId cart.totalPaise := by
  obtain ⟨id, hid⟩ := Option.isSome_iff_exists.mp hsome
  obtain ⟨hname, hash, hhash, r, hr, hrid, intent', cart', hhash', hmandate, hcart⟩ := h.made id hid
  refine ⟨r, hr, hrid.trans hname.symm, ?_⟩
  rcases body_of_requestHash hhash hhash' with ⟨hsame, rfl⟩ | hcollide
  · exact Or.inl ⟨hmandate.trans hsame, hcart, by rw [(ht.sound.settlement r hr).amount, hcart]⟩
  · exact Or.inr ⟨intent', hmandate, by rw [hcart]; exact hcollide⟩

/-! ## A small buyer -/

/-- A bag of rice, as its store lists it. -/
def demoRice : FeedProduct :=
  { demoShoeListing with
    id := js "rice", title := js "Rice", pricePaise := 200, merchantId := js "shop", variants := none
    options := none }

def demoAgent : AgentKeypair where
  publicKeyHex := js "aa"
  sign := fun _ => [0]

end Hundi
