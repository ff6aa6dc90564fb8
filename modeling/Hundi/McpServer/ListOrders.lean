/-
  packages/mcp-server/src/tools/list-orders.ts — list_orders: what an agent has bought, newest first.

  1. **Program** — GET /settlements, and the handler over it and over GET /mandates.
  2. **What is listed** — `orders_are_true`: the agent's own orders and no others, once each, and of what
     is left out none is newer.  The two reads are two requests, so anything may happen in between.
  3. **With the purchase tool** — `bought_order_is_listed`: what request_purchase told as captured is found
     again later, for the amount that was told.
-/
import Hundi.Lib.TopK
import Hundi.McpServer.PurchaseTool

namespace Hundi

open Js EventLoop TopK

/-! ## The program -/

/-- `ORDER BY created_at DESC`, and the comparison of the tool's own sort. -/
def newestFirst (a b : SettlementRow) : Bool := decide (b.createdAt ≤ a.createdAt)

/-- `VALID_SETTLEMENT_STATES`. -/
def validSettlementStates : List JsString :=
  [SettlementState.created, .verifying, .verified, .pending_approval, .approved, .settling, .captured, .failed,
    .rejected, .abandoned].map (·.text)

/-- `GET /settlements`, with its query parameter `state`. -/
def getSettlements (db : Db) (state : Option JsString) : Except JsString (List SettlementRow) :=
  if state.any fun s => !validSettlementStates.contains s then .error (js "INVALID_STATE")
  else
    .ok ((db.settlements.rows.filter fun row => (givenId state).all fun s => row.state.text == s).mergeSort
      newestFirst)

/-- An entry of `orders`; an item has its sku, its quantity and its variant label. -/
structure OrderEntry where
  settlementId : JsString
  mandateId : JsString
  merchantId : JsString
  state : SettlementState
  amountPaise : Int
  amountDisplay : JsString
  createdAt : Int
  rejectReason : Option JsString
  items : List (JsString × Int × Option JsString)

/-- The entry of a settlement. -/
def orderEntry (formatRupees : Int → JsString) (s : SettlementRow) : OrderEntry where
  settlementId := s.id
  mandateId := s.mandateId
  merchantId := s.merchantId
  state := s.state
  amountPaise := s.amountPaise
  amountDisplay := formatRupees s.amountPaise
  createdAt := s.createdAt
  rejectReason := s.rejectReason
  items := s.cart.items.map fun item => (item.sku, item.qty, givenId item.variantLabel)

/-- `DEFAULT_LIMIT`. -/
def defaultOrdersLimit : Nat := 20

/-- The mandate ids that authorize the agent. -/
def ownMandateIds (agentPublicKeyHex : JsString) (mandates : List MandateListing) : List JsString :=
  (mandates.filter fun m => m.intent.agentPubkeyHex == agentPublicKeyHex).map (·.mandateId)

/-- The settlements that the tool's filters let through. -/
def ownSettlements (agentPublicKeyHex : JsString) (mandates : List MandateListing)
    (settlements : List SettlementRow) (state : Option JsString) : List SettlementRow :=
  (settlements.filter fun s => (ownMandateIds agentPublicKeyHex mandates).contains s.mandateId).filter fun s =>
    (givenId state).all fun asked => s.state.text == asked

/-- The handler of list_orders on what `listMandates()` and `listSettlements()` gave. -/
def listOrders (formatRupees : Int → JsString) (agentPublicKeyHex : JsString) (mandates : List MandateListing)
    (settlements : List SettlementRow) (limit : Option Nat) (state : Option JsString) : List OrderEntry :=
  (best newestFirst (limit.getD defaultOrdersLimit)
    (ownSettlements agentPublicKeyHex mandates settlements state)).map (orderEntry formatRupees)

/-! ## What is listed -/

/-- The settlement is in the state that was asked for, if one was. -/
def StateAsked (state : Option JsString) (s : SettlementRow) : Prop :=
  ∀ asked, givenId state = some asked → s.state.text = asked

/-- The mandate authorizes the agent. -/
def Authorizes (agentPublicKeyHex : JsString) (m : MandateRow) : Prop :=
  m.intent.agentPubkeyHex = agentPublicKeyHex

/-- What a history is worth: the mandates were read in `u`, the settlements in `v`. -/
structure HistoryTrue (formatRupees : Int → JsString) (agentPublicKeyHex : JsString) (u v : Sys) (limit : Nat)
    (state : Option JsString) (orders : List OrderEntry) : Prop where
  /-- Every entry is a settlement's, in the state asked for, and the mandate it is under authorizes the
      agent. -/
  own : ∀ o ∈ orders, ∃ r ∈ v.world.db.settlements.rows, o = orderEntry formatRupees r ∧ StateAsked state r ∧
    ∀ m ∈ v.world.db.mandates.rows, m.mandateId = r.mandateId → Authorizes agentPublicKeyHex m
  /-- A settlement of a mandate that authorizes the agent is left out only where the limit is used up by
      others, none of them older. -/
  complete : ∀ r ∈ v.world.db.settlements.rows, StateAsked state r →
    (∃ m ∈ u.world.db.mandates.rows, m.mandateId = r.mandateId ∧ Authorizes agentPublicKeyHex m) →
    orderEntry formatRupees r ∈ orders ∨ (orders.length = limit ∧ ∀ o ∈ orders, r.createdAt ≤ o.createdAt)
  once : (orders.map (·.settlementId)).Nodup
  newest : orders.Pairwise fun a b => b.createdAt ≤ a.createdAt
  count : orders.length ≤ limit

theorem newestFirst_ranks : Ranks newestFirst := Ranks.byKey fun r : SettlementRow => r.createdAt

/-- A mandate id is among the agent's own when a listed mandate of that id authorizes it. -/
theorem mem_ownMandateIds {agentPublicKeyHex mandateId : JsString} {db : Db} {now : Int} :
    mandateId ∈ ownMandateIds agentPublicKeyHex (getMandates db now) ↔
      ∃ m ∈ db.mandates.rows, m.mandateId = mandateId ∧ Authorizes agentPublicKeyHex m := by
  rw [ownMandateIds, List.mem_map]
  constructor
  · rintro ⟨listing, hlisting, rfl⟩
    obtain ⟨hlisted, hagent⟩ := List.mem_filter.mp hlisting
    obtain ⟨m, hm, rfl⟩ := mem_getMandates.mp hlisted
    exact ⟨m, hm, rfl, beq_iff_eq.mp hagent⟩
  · rintro ⟨m, hm, rfl, hagent⟩
    exact ⟨enrich (getCapturedSpendByMandate db) now m,
      List.mem_filter.mpr ⟨mem_getMandates.mpr ⟨m, hm, rfl⟩, beq_iff_eq.mpr hagent⟩, rfl⟩

theorem mem_ownSettlements {agentPublicKeyHex : JsString} {db : Db} {now : Int}
    {settlements : List SettlementRow} {state : Option JsString} {r : SettlementRow} :
    r ∈ ownSettlements agentPublicKeyHex (getMandates db now) settlements state ↔
      r ∈ settlements ∧ StateAsked state r ∧
        ∃ m ∈ db.mandates.rows, m.mandateId = r.mandateId ∧ Authorizes agentPublicKeyHex m := by
  have hasked : ((givenId state).all fun asked => r.state.text == asked) = true ↔ StateAsked state r := by
    rw [StateAsked]
    cases givenId state with
    | none =>
      constructor
      · intro _ asked h
        cases h
      · intro _
        rfl
    | some asked =>
      rw [Option.all_some, beq_iff_eq]
      exact ⟨fun h asked h' => h.trans (Option.some.inj h'), fun h => h asked rfl⟩
  rw [ownSettlements, List.mem_filter, List.mem_filter, hasked, List.contains_iff_mem, mem_ownMandateIds]
  exact ⟨fun h => ⟨h.1.1, h.2, h.1.2⟩, fun h => ⟨⟨h.1, h.2.2⟩, h.2.1⟩⟩

/-- No two settlements have one id. -/
theorem settlementIds_nodup (t : Settlements) : (t.rows.map (·.id)).Nodup := by
  rw [List.Nodup, List.pairwise_map]
  refine t.unique.imp ?_
  intro a b hfree hsame
  simp only [SettlementRow.clash, Bool.or_eq_false_iff, beq_eq_false_iff_ne] at hfree
  exact hfree.1.1 hsame

/-- The settlements that GET /settlements lists without a filter. -/
theorem getSettlements_none (db : Db) : ∃ settlements, getSettlements db none = .ok settlements ∧
    settlements.Perm db.settlements.rows := by
  refine ⟨_, rfl, (List.mergeSort_perm _ _).trans ?_⟩
  rw [List.filter_eq_self.mpr]
  intro r _
  rfl

/-- **The history lists the agent's own orders and no others**, whatever happened between its two reads. -/
theorem orders_are_true {env : Env} {u v : Sys} {now : Int} {formatRupees : Int → JsString}
    {agentPublicKeyHex : JsString} {settlements : List SettlementRow} {limit : Option Nat}
    {state : Option JsString} (r : Run (facilitator env) anyStep u v)
    (hread : getSettlements v.world.db none = .ok settlements) :
    HistoryTrue formatRupees agentPublicKeyHex u v (limit.getD defaultOrdersLimit) state
      (listOrders formatRupees agentPublicKeyHex (getMandates u.world.db now) settlements limit state) := by
  obtain ⟨_, hlisted, hperm⟩ := getSettlements_none v.world.db
  obtain rfl := Except.ok.inj (hread.symm.trans hlisted)
  constructor
  case own =>
    intro o ho
    obtain ⟨row, hrow, rfl⟩ := List.mem_map.mp ho
    obtain ⟨hmem, hasked, m, hm, hid, hagent⟩ := mem_ownSettlements.mp (mem_of_mem_best hrow)
    refine ⟨row, hperm.mem_iff.mp hmem, rfl, hasked, ?_⟩
    intro m' hm' hid'
    -- the mandate is the one that was listed
    obtain ⟨m'', hm'', hkept⟩ := (persists_run r).mandates m hm
    rw [mandate_eq hm' hm'' (hid'.trans (hid.symm.trans hkept.id.symm)), Authorizes, hkept.intent]
    exact hagent
  case complete =>
    intro row hrow hasked hmandate
    have hmem : row ∈ ownSettlements agentPublicKeyHex (getMandates u.world.db now) settlements state :=
      mem_ownSettlements.mpr ⟨hperm.mem_iff.mpr hrow, hasked, hmandate⟩
    by_cases hin : row ∈ best newestFirst (limit.getD defaultOrdersLimit)
        (ownSettlements agentPublicKeyHex (getMandates u.world.db now) settlements state)
    · exact Or.inl (List.mem_map.mpr ⟨row, hin, rfl⟩)
    · refine Or.inr ⟨?_, ?_⟩
      · rw [listOrders, List.length_map]
        exact best_full hmem hin
      · intro o ho
        obtain ⟨other, hother, rfl⟩ := List.mem_map.mp ho
        exact of_decide_eq_true (best_before newestFirst_ranks hother hmem hin)
  case once =>
    rw [listOrders, List.map_map]
    show ((best newestFirst _ _).map (·.id)).Nodup
    refine best_nodup ?_
    have hall : (settlements.map (·.id)).Nodup :=
      (hperm.map _).nodup_iff.mpr (settlementIds_nodup v.world.db.settlements)
    exact hall.sublist ((List.filter_sublist.trans List.filter_sublist).map _)
  case newest =>
    rw [listOrders, List.pairwise_map]
    exact (best_sorted newestFirst_ranks).imp of_decide_eq_true
  case count =>
    rw [listOrders, List.length_map]
    exact length_best_le

/-- The demo agent's history after its capture. -/
theorem orders_are_true_demo : ∃ (s : Sys) (settlements : List SettlementRow),
    getSettlements s.world.db none = .ok settlements ∧ settlements.length = 1 ∧
    HistoryTrue (fun _ => []) (js "aa") s s 20 none
      (listOrders (fun _ => []) (js "aa") (getMandates s.world.db 1000) settlements none none) := by
  obtain ⟨s, hreach, hp⟩ := reachable_of_run demoEnv demoCaptured
    (fun (s : Sys) => decide (s.world.db.settlements.rows.length = 1)) (by decide +kernel)
  rw [decide_eq_true_eq] at hp
  obtain ⟨settlements, hread, hperm⟩ := getSettlements_none s.world.db
  have hself : Run (facilitator demoEnv) anyStep s s := .refl
  have htrue : HistoryTrue (fun _ => []) (js "aa") s s ((none : Option Nat).getD defaultOrdersLimit) none
      (listOrders (fun _ => []) (js "aa") (getMandates s.world.db 1000) settlements none none) :=
    orders_are_true hself hread
  exact ⟨s, settlements, hread, hperm.length_eq.trans hp, htrue⟩

/-! ## With the purchase tool -/

/-- **What was told as captured is found again.**  request_purchase ended in `t`; the agent asks for its
    history later, for every state or for the captured ones. -/
theorem bought_order_is_listed {env : Env} {key : JsString} {intent : IntentMandate} {cart : CartMandate}
    {s s' t u v : Sys} {status : Nat} {body : CreateSettlementBody} {readings : List Reading}
    {formatRupees : Int → JsString} {qty : Int} {title : JsString} {variant : Option ScannedVariant}
    {detail : Option SettlementDetail} {settlementId : JsString} {paymentId : Option JsString}
    {amountPaise now : Int} {told : Option (JsString × JsString)} {message agentPublicKeyHex : JsString}
    {settlements : List SettlementRow} {limit : Option Nat} {state : Option JsString} {m : MandateRow}
    (hs : Reachable env s) (hreply : Replies env key intent cart s s' status body)
    (hpolled : Polled env (body.settlementId?.getD []) s' readings t)
    (htold : reportPurchase formatRupees qty title variant cart.totalPaise
      (requestPayment status body readings) detail =
        .captured settlementId paymentId amountPaise told message)
    (hm : m ∈ s.world.db.mandates.rows) (hid : m.mandateId = intent.mandateId)
    (hagent : m.intent.agentPubkeyHex = agentPublicKeyHex)
    (hlater : Run (facilitator env) anyStep t u) (r : Run (facilitator env) anyStep u v)
    (hread : getSettlements v.world.db none = .ok settlements)
    (hstate : state = none ∨ state = some (js "captured")) :
    ∃ row ∈ v.world.db.settlements.rows, row.id = settlementId ∧ row.state = .captured ∧
      ((∃ intent', row.mandateId = intent'.mandateId ∧ BodiesCollide env intent intent' cart row.cart) ∨
        (row.amountPaise = amountPaise ∧ row.cart = cart ∧
          (orderEntry formatRupees row ∈
              listOrders formatRupees agentPublicKeyHex (getMandates u.world.db now) settlements limit state ∨
            ((listOrders formatRupees agentPublicKeyHex (getMandates u.world.db now) settlements limit
                state).length = limit.getD defaultOrdersLimit ∧
              ∀ o ∈ listOrders formatRupees agentPublicKeyHex (getMandates u.world.db now) settlements limit
                state, row.createdAt ≤ o.createdAt)))) := by
  have hhonest := requestPayment_honest hs hreply hpolled
  have hst : Run (facilitator env) anyStep s t := hreply.run.trans hpolled.run
  have htv : Run (facilitator env) anyStep t v := hlater.trans r
  obtain ⟨hcaptured, rfl, rfl, -⟩ := reportPurchase_captured htold
  have hsome : body.settlementId?.isSome = true := by
    cases body with
    | ok settlementId state reason => rfl
    | error code =>
      rcases (requestPayment_error status code readings).2 with h | h
      · rw [hcaptured] at h
        cases h
      · rw [hcaptured] at h
        cases h
  have hfinal := hhonest.final hsome (by rw [hcaptured]; rfl) v htv
  rw [hcaptured] at hfinal
  obtain ⟨row, hrow, hrowId, hrowState⟩ := hfinal
  refine ⟨row, hrow, hrowId, hrowState, ?_⟩
  -- the row is the one the purchase was told of
  obtain ⟨row₀, hrow₀, hrowId₀, hbought⟩ := hhonest.boughtFor (Run.trans hs hst) hsome
  obtain ⟨row₁, hrow₁, hkept⟩ := (persists_run htv).settlements row₀ hrow₀
  have hsame : row₁ = row := settlement_eq hrow₁ hrow (hkept.id.trans (hrowId₀.trans hrowId.symm))
  rw [hsame] at hkept
  rcases hbought with ⟨hmandate, hcart, hamount⟩ | ⟨intent', hmandate, hcollide⟩
  · refine Or.inr ⟨hkept.amount.trans hamount, hkept.cart.trans hcart, ?_⟩
    obtain ⟨m', hm', hkeptMandate⟩ := (persists_run (hst.trans hlater)).mandates m hm
    refine (orders_are_true r hread).complete row hrow ?_ ⟨m', hm', ?_, ?_⟩
    · intro asked h
      rcases hstate with rfl | rfl
      · cases h
      · rw [hrowState, ← Option.some.inj h]
        rfl
    · rw [hkeptMandate.id, hid, hkept.mandateId, hmandate]
    · rw [Authorizes, hkeptMandate.intent, hagent]
  · exact Or.inl ⟨intent', hkept.mandateId.trans hmandate, by rw [hkept.cart]; exact hcollide⟩

/-- The demo purchase is asked for again after its capture; the history of captured orders has it. -/
theorem bought_order_is_listed_demo : ∃ (s' : Sys) (settlements : List SettlementRow),
    getSettlements s'.world.db none = .ok settlements ∧
    ∃ row ∈ s'.world.db.settlements.rows, row.id = js "s1" ∧ row.state = .captured ∧
      ((∃ intent', row.mandateId = intent'.mandateId ∧
          BodiesCollide demoEnv demoIntent intent' demoCart row.cart) ∨
        (row.amountPaise = 400 ∧ row.cart = demoCart ∧
          (orderEntry (fun _ => []) row ∈ listOrders (fun _ => []) (js "aa") (getMandates s'.world.db 1000)
              settlements (some 5) (some (js "captured")) ∨
            ((listOrders (fun _ => []) (js "aa") (getMandates s'.world.db 1000) settlements (some 5)
                (some (js "captured"))).length = 5 ∧
              ∀ o ∈ listOrders (fun _ => []) (js "aa") (getMandates s'.world.db 1000) settlements (some 5)
                (some (js "captured")), row.createdAt ≤ o.createdAt)))) := by
  obtain ⟨s, hreach, hp⟩ := reachable_of_run demoEnv demoCaptured
    (fun (s : Sys) => (s.world.db.mandates.rows.any fun m =>
        decide (m.mandateId = js "m1" ∧ m.intent.agentPubkeyHex = js "aa")) &&
      (sysStep demoEnv s (.request (.postSettlements (some (js "key")) demoIntent demoCart) [])).any
        fun (s' : Sys) =>
          decide (s'.world.history =
            .settlementResponse (js "key") 202 (.ok (js "s1") .approved none) :: s.world.history) &&
          decide (readSettlement s'.world.db (js "s1") = some (.captured, none)))
    (by decide +kernel)
  rw [Bool.and_eq_true] at hp
  obtain ⟨hregistered, hp⟩ := hp
  obtain ⟨m, hm, hmandate⟩ := List.any_eq_true.mp hregistered
  rw [decide_eq_true_eq] at hmandate
  obtain ⟨s', hstep, hp⟩ := (Option.any_eq_true _ _).mp hp
  rw [Bool.and_eq_true, decide_eq_true_eq, decide_eq_true_eq] at hp
  obtain ⟨htold, hreading⟩ := hp
  have hreply : Replies demoEnv (js "key") demoIntent demoCart s s' 202 (.ok (js "s1") .approved none) :=
    ⟨Or.inl ⟨[], hstep⟩, s.world.history, htold, List.suffix_refl _⟩
  have hpolled : Polled demoEnv (js "s1") s' [readSettlement s'.world.db (js "s1")] s' :=
    .read .refl (.stop .refl)
  rw [hreading] at hpolled
  obtain ⟨settlements, hread, -⟩ := getSettlements_none s'.world.db
  have hreport : ∃ message, reportPurchase (fun _ => []) 2 (js "Rice") none demoCart.totalPaise
      (requestPayment 202 (.ok (js "s1") .approved none) [some (.captured, none)]) none =
        .captured (js "s1") none 400 none message := ⟨_, rfl⟩
  obtain ⟨message, hreport⟩ := hreport
  exact ⟨s', settlements, hread, bought_order_is_listed hreach hreply hpolled hreport hm hmandate.1
    hmandate.2 .refl .refl hread (Or.inr rfl)⟩

end Hundi
