/-
  No purchase over a line settles without a human.

  Whether a settlement needs an approval is decided once, at its creation, from the intent that was
  submitted.  `Vetted` carries that decision along: whatever is `approved` or further has a signed
  approval, or was under the submitted intent's lines when it was created.  Entering `settling`
  recomputes the mandate-cart hash from the stored intent; as long as SHA-256 has no collision among
  the strings hashed so far, an equal hash means equal lines (`lines_of_cartHash`).
-/
import Hundi.Facilitator.Mediation

namespace Hundi

open Js EventLoop

/-! ## What is hashed -/

/-- The intent a settlement was created for. -/
def Event.intent? : Event → Option IntentMandate
  | .settlementCreated _ _ intent => some intent
  | _ => none

/-- The signing bytes of the stored intents and of the submitted ones. -/
def Books.intentBytes (b : Books) : List Bytes :=
  (b.mandates.rows.map (·.intent) ++ b.history.filterMap Event.intent?).filterMap fun intent =>
    (intentSigningBytes intent).toOption

/-- The signing bytes of the stored carts. -/
def Books.cartBytes (b : Books) : List Bytes :=
  b.settlements.rows.filterMap fun row => (cartSigningBytes row.cart).toOption

/-- What `computeMandateCartHash` hashes for every intent and cart. -/
def Books.pairBytes (crypto : Crypto) (b : Books) : List Bytes :=
  b.intentBytes.flatMap fun intent => b.cartBytes.filterMap fun cart =>
    (canonicalJson (mandateCartValue (crypto.sha256Hex intent) (crypto.sha256Hex cart))).toOption

/-- The byte strings hashed for the intents and carts of the books. -/
def Books.hashed (crypto : Crypto) (b : Books) : List Bytes :=
  b.intentBytes ++ b.cartBytes ++ b.pairBytes crypto

theorem mem_filterMap_toOption {α : Type} {f : α → Except Exn Bytes} {l : List α} {a : α} {bytes : Bytes}
    (ha : a ∈ l) (h : f a = .ok bytes) : bytes ∈ l.filterMap fun x => (f x).toOption :=
  List.mem_filterMap.mpr ⟨a, ha, by rw [h]; rfl⟩

theorem computeMandateCartHash_ok {crypto : Crypto} {intent : IntentMandate} {cart : CartMandate}
    {hash : JsString} (h : computeMandateCartHash crypto intent cart = .ok hash) :
    ∃ intentBytes cartBytes bytes, intentSigningBytes intent = .ok intentBytes ∧
      cartSigningBytes cart = .ok cartBytes ∧
      canonicalJson (mandateCartValue (crypto.sha256Hex intentBytes) (crypto.sha256Hex cartBytes))
        = .ok bytes ∧
      hash = crypto.sha256Hex bytes := by
  unfold computeMandateCartHash mandateCartHash at h
  rw [bind_eq_ok] at h
  obtain ⟨intentBytes, hi, h⟩ := h
  rw [bind_eq_ok] at h
  obtain ⟨cartBytes, hc, h⟩ := h
  rw [bind_eq_ok] at h
  obtain ⟨bytes, hb, h⟩ := h
  exact ⟨intentBytes, cartBytes, bytes, hi, hc, hb, (Except.ok.inj h).symm⟩

/-- The canonical text of an intent hash and a cart hash determines the intent hash. -/
theorem intentHash_of_mandateCartValue {i j c d : JsString} {b : Bytes}
    (h : canonicalJson (mandateCartValue i c) = .ok b)
    (h' : canonicalJson (mandateCartValue j d) = .ok b) : i = j := by
  have hnorm := congrArg (·.get? (js "intent_hash")) (canonicalJson_inj h h')
  have hnd : ∀ x y : JsonValue, ([(js "intent_hash", x), (js "cart_hash", y)].map Prod.fst).Nodup := by
    intro x y
    show [js "intent_hash", js "cart_hash"].Nodup
    decide
  simp only [mandateCartValue] at hnorm
  rw [get?_norm (hnd _ _), get?_norm (hnd _ _)] at hnorm
  exact JsonValue.str.inj (Option.some.inj hnorm)

theorem intentBytes_hashed {crypto : Crypto} {b : Books} {bytes : Bytes} (h : bytes ∈ b.intentBytes) :
    bytes ∈ b.hashed crypto := by
  rw [Books.hashed, List.mem_append, List.mem_append]
  exact Or.inl (Or.inl h)

theorem pairBytes_hashed {crypto : Crypto} {b : Books} {intent cart bytes : Bytes}
    (hi : intent ∈ b.intentBytes) (hc : cart ∈ b.cartBytes)
    (h : canonicalJson (mandateCartValue (crypto.sha256Hex intent) (crypto.sha256Hex cart)) = .ok bytes) :
    bytes ∈ b.hashed crypto := by
  rw [Books.hashed, List.mem_append, Books.pairBytes, List.mem_flatMap]
  exact Or.inr ⟨intent, hi, mem_filterMap_toOption (f := fun cart =>
    canonicalJson (mandateCartValue (crypto.sha256Hex intent) (crypto.sha256Hex cart))) hc h⟩

/-- **Equal mandate-cart hashes mean equal intents**, as far as they are signed. -/
theorem intentBytes_of_cartHash {crypto : Crypto} {b : Books}
    (hcf : crypto.CollisionFree (b.hashed crypto)) {i j : IntentMandate} {r : SettlementRow}
    {hash : JsString}
    (hi : i ∈ b.mandates.rows.map (·.intent) ++ b.history.filterMap Event.intent?)
    (hj : j ∈ b.mandates.rows.map (·.intent) ++ b.history.filterMap Event.intent?)
    (hr : r ∈ b.settlements.rows) (h : computeMandateCartHash crypto i r.cart = .ok hash)
    (h' : computeMandateCartHash crypto j r.cart = .ok hash) :
    ∃ bytes, intentSigningBytes i = .ok bytes ∧ intentSigningBytes j = .ok bytes := by
  obtain ⟨ib, cb, pb, hib, hcb, hpb, hhash⟩ := computeMandateCartHash_ok h
  obtain ⟨jb, db, qb, hjb, hdb, hqb, hhash'⟩ := computeMandateCartHash_ok h'
  have himem : ib ∈ b.intentBytes := mem_filterMap_toOption hi hib
  have hjmem : jb ∈ b.intentBytes := mem_filterMap_toOption hj hjb
  have hcmem : cb ∈ b.cartBytes :=
    mem_filterMap_toOption (f := fun row : SettlementRow => cartSigningBytes row.cart) hr hcb
  have hdmem : db ∈ b.cartBytes :=
    mem_filterMap_toOption (f := fun row : SettlementRow => cartSigningBytes row.cart) hr hdb
  have hpair : pb = qb := Crypto.sha256Hex_inj hcf (pairBytes_hashed himem hcmem hpb)
    (pairBytes_hashed hjmem hdmem hqb) (hhash.symm.trans hhash')
  rw [hpair] at hpb
  have hintent : ib = jb := Crypto.sha256Hex_inj hcf (intentBytes_hashed himem)
    (intentBytes_hashed hjmem) (intentHash_of_mandateCartValue hpb hqb)
  rw [hintent] at hib
  exact ⟨jb, hib, hjb⟩

/-! ## The two lines -/

/-- The purchase is under both lines of the intent. -/
structure UnderLines (intent : IntentMandate) (amountPaise spentPaise : Int) : Prop where
  threshold : amountPaise ≤ intent.approvalThresholdPaise
  line : ∀ line, intent.cumulativeApprovalThresholdPaise = some line →
    spentPaise + amountPaise ≤ line

/-- What is created without asking a human is under the lines of the submitted intent. -/
theorem CreatedFrom.underLines {crypto : Crypto} {w : World} {now : Int} {intent : IntentMandate}
    {cart : CartMandate} {row : SettlementRow} (h : CreatedFrom crypto w.db now intent cart row)
    (hs : Sound crypto w.books) (hstate : row.state = .approved) :
    UnderLines intent row.amountPaise (w.db.settlements.sum (capturedAmount row.mandateId)) := by
  rcases h.gate with hrej | ⟨hvalid, -, htotal, hgate⟩
  · rw [hrej] at hstate
    exact nomatch hstate
  · have hneeds : needsApproval intent cart (getCapturedSpend w.db intent.mandateId) = false := by
      rw [hstate] at hgate
      by_contra hne
      rw [Bool.not_eq_false] at hne
      rw [if_pos hne] at hgate
      exact nomatch hgate
    have hspent : 0 ≤ w.db.settlements.sum (capturedAmount row.mandateId) := by
      rw [capturedAmount_eq]
      exact spent_nonneg hs
    rw [getCapturedSpend, ← h.mandateId] at hneeds
    obtain ⟨hcart, hline⟩ := not_needsApproval hvalid (jsRound_nonneg hspent) htotal hneeds
    rw [h.amount]
    exact ⟨hcart, fun line hl =>
      jsRound_spend hspent htotal (le_maxSafe (hvalid.line line hl)) (hline line hl)⟩

/-! ## The invariant -/

/-- The settlement needs no further decision. -/
def SettlementState.vetted : SettlementState → Bool
  | .approved | .settling | .captured => true
  | _ => false

/-- A human approved the settlement, under the registered credential. -/
def HumanApproved (crypto : Crypto) (b : Books) (r : SettlementRow) : Prop :=
  ∃ a ∈ b.approvals.rows, a.decision = .approved ∧
    ∃ m ∈ b.mandates.rows, m.mandateId = r.mandateId ∧ SignedDecision crypto r m a

/-- What is known of a stored settlement: the events of its creation, the decision on it, and, once
    it has entered, that its hash is the stored intent's. -/
structure VettedRow (crypto : Crypto) (b : Books) (r : SettlementRow) : Prop where
  created : ∃ spentPaise intent, .settlementCreated r.id spentPaise intent ∈ b.history
  submitted : ∀ spentPaise intent, .settlementCreated r.id spentPaise intent ∈ b.history →
    computeMandateCartHash crypto intent r.cart = .ok r.mandateCartHashHex
  decided : r.state.vetted = true → HumanApproved crypto b r ∨
    ∀ spentPaise intent, .settlementCreated r.id spentPaise intent ∈ b.history →
      UnderLines intent r.amountPaise spentPaise
  stored : r.state.entered = true → ∀ m ∈ b.mandates.rows, m.mandateId = r.mandateId →
    computeMandateCartHash crypto m.intent r.cart = .ok r.mandateCartHashHex

structure Vetted (crypto : Crypto) (b : Books) : Prop where
  event : ∀ id spentPaise intent, .settlementCreated id spentPaise intent ∈ b.history →
    ∃ r ∈ b.settlements.rows, r.id = id
  row : ∀ r ∈ b.settlements.rows, VettedRow crypto b r

theorem HumanApproved.later {crypto : Crypto} {b b' : Books} {r r' : SettlementRow}
    (h : HumanApproved crypto b r) (hp : Persists b b') (hk : SettlementKept r r') :
    HumanApproved crypto b' r' := by
  obtain ⟨a, ha, hd, m, hm, hmid, hsigned⟩ := h
  obtain ⟨m', hm', hmk⟩ := hp.mandates m hm
  refine ⟨a, hp.approvals a ha, hd, m', hm', ?_, ?_, ?_, ?_⟩
  · rw [hmk.id, hmid, hk.mandateId]
  · rw [hsigned.settlementId, hk.id]
  · rw [hmk.intent, hk.cart]
    exact hsigned.hash
  · rw [hk.id, hmk.credential]
    exact hsigned.signed

/-- The mandate a settlement had before is the one it has. -/
theorem mandate_before {crypto : Crypto} {b b' : Books} (hs : Sound crypto b) (hp : Persists b b')
    {r r' : SettlementRow} (hr : r ∈ b.settlements.rows) (hk : SettlementKept r r') {m' : MandateRow}
    (hm' : m' ∈ b'.mandates.rows) (hid : m'.mandateId = r'.mandateId) :
    ∃ m ∈ b.mandates.rows, m.mandateId = r.mandateId ∧ m'.intent = m.intent := by
  obtain ⟨m, hm, hmid⟩ := (hs.settlement r hr).mandate
  obtain ⟨m'', hm'', hmk⟩ := hp.mandates m hm
  have hsame : m' = m'' := mandate_eq hm' hm'' (by rw [hid, hk.mandateId, hmk.id, hmid])
  exact ⟨m, hm, hmid, by rw [hsame, hmk.intent]⟩

/-- What is known of a row whose trace leads into `settling`. -/
theorem SettlementTrace.stored {crypto : Crypto} {now : Int} {w w' : World} {r r' : SettlementRow}
    (h : SettlementTrace crypto now w w' r r') (hv : Vetted crypto w.books)
    (hr : r ∈ w.books.settlements.rows) (he : r'.state.entered = true) {m : MandateRow}
    (hm : m ∈ w.books.mandates.rows) (hid : m.mandateId = r.mandateId) :
    computeMandateCartHash crypto m.intent r.cart = .ok r.mandateCartHashHex := by
  cases h with
  | same h => exact (hv.row r hr).stored (by rw [← h]; exact he) m hm hid
  | closed h' => rcases h' with h' | h' <;> rw [h'] at he <;> exact nomatch he
  | approved approval mandateRow happroval hdecision hmandate hsigned h h' =>
    rw [h'] at he
    exact nomatch he
  | entered mandateRow ctx hre hhistory h h' =>
    obtain ⟨hmem, hmid⟩ := getMandateRow_some hre.mandate
    rw [mandate_eq hm hmem (hid.trans hmid.symm)]
    exact hre.hash
  | captured h h' => exact (hv.row r hr).stored (by rw [h]; rfl) m hm hid

/-- A row that is vetted after a step was vetted before, or a human has just approved it. -/
theorem SettlementTrace.vetted {crypto : Crypto} {now : Int} {w w' : World} {r r' : SettlementRow}
    (h : SettlementTrace crypto now w w' r r') (hp : Persists w.books w'.books)
    (hk : SettlementKept r r') (hvet : r'.state.vetted = true) :
    r.state.vetted = true ∨ HumanApproved crypto w'.books r' := by
  cases h with
  | same h => exact Or.inl (by rw [← h]; exact hvet)
  | closed h' => rcases h' with h' | h' <;> rw [h'] at hvet <;> exact nomatch hvet
  | approved approval mandateRow happroval hdecision hmandate hsigned h h' =>
    obtain ⟨hmem, hmid⟩ := getMandateRow_some hmandate
    obtain ⟨m', hm', hmk⟩ := hp.mandates mandateRow hmem
    refine Or.inr ⟨approval, happroval, hdecision, m', hm', ?_, ?_, ?_, ?_⟩
    · rw [hmk.id, hmid, hk.mandateId]
    · rw [hsigned.settlementId, hk.id]
    · rw [hmk.intent, hk.cart]
      exact hsigned.hash
    · rw [hk.id, hmk.credential]
      exact hsigned.signed
  | entered mandateRow ctx hre hhistory h h' => exact Or.inl (by rw [h]; rfl)
  | captured h h' => exact Or.inl (by rw [h]; rfl)

/-- A row that was there before the step. -/
theorem Vetted.later {crypto : Crypto} {now : Int} {w w' : World} (hv : Vetted crypto w.books)
    (hs : Sound crypto w.books) (hp : Persists w.books w'.books)
    (hevents : ∀ id spentPaise intent, .settlementCreated id spentPaise intent ∈ w'.history →
      (∃ r ∈ w.books.settlements.rows, r.id = id) →
      .settlementCreated id spentPaise intent ∈ w.history)
    {r r' : SettlementRow} (hr : r ∈ w.books.settlements.rows) (hk : SettlementKept r r')
    (htrace : SettlementTrace crypto now w w' r r') : VettedRow crypto w'.books r' := by
  have hrow := hv.row r hr
  have hold : ∀ {spentPaise intent}, .settlementCreated r'.id spentPaise intent ∈ w'.history →
      .settlementCreated r.id spentPaise intent ∈ w.books.history := fun he => by
    rw [hk.id] at he
    exact hevents _ _ _ he ⟨r, hr, rfl⟩
  constructor
  case created =>
    obtain ⟨spentPaise, intent, he⟩ := hrow.created
    rw [hk.id]
    exact ⟨spentPaise, intent, hp.history.subset he⟩
  case submitted =>
    intro spentPaise intent he
    rw [hk.cart, hk.hash]
    exact hrow.submitted spentPaise intent (hold he)
  case decided =>
    intro hvet
    rcases htrace.vetted hp hk hvet with hvet | happroved
    · rcases hrow.decided hvet with happroved | hunder
      · exact Or.inl (happroved.later hp hk)
      · refine Or.inr fun spentPaise intent he => ?_
        rw [hk.amount]
        exact hunder spentPaise intent (hold he)
    · exact Or.inl happroved
  case stored =>
    intro he m hm hid
    obtain ⟨m₀, hm₀, hmid, hintent⟩ := mandate_before hs hp hr hk hm hid
    rw [hk.cart, hk.hash, hintent]
    exact htrace.stored hv hr he hm₀ hmid

/-- Who had a row before is not created again. -/
theorem TaskStep.created_before {env : Env} {now : Int} {w w' : World} {c : TaskWhy}
    {next : Next Task} (h : TaskStep env now w c w' next) {id : JsString} {spentPaise : Int}
    {intent : IntentMandate} (he : .settlementCreated id spentPaise intent ∈ w'.history) :
    .settlementCreated id spentPaise intent ∈ w.history ∨
    ∃ row cart, row.id = id ∧ spentPaise = w.db.settlements.sum (capturedAmount row.mandateId) ∧
      SettlementAdded w.db.settlements w'.db.settlements row ∧
      CreatedFrom env.crypto w.db now intent cart row := by
  obtain ⟨l, hl, hkind⟩ := h.emitted
  rw [hl] at he
  rcases List.mem_append.mp he with he | he
  · rcases hkind _ he with h | h | ⟨row, intent', cart, heq, hadd, hfrom⟩
    · exact nomatch h
    · exact nomatch h
    · obtain ⟨rfl, rfl, rfl⟩ := Event.settlementCreated.inj heq
      exact Or.inr ⟨row, cart, rfl, rfl, hadd, hfrom⟩
  · exact Or.inl he

theorem JobStep.created_before {env : Env} {now : Int} {w w' : World} {k : Kick} {c : RunWhy}
    {next : Next RunPoint} (h : JobStep env now w k c w' next) {id : JsString} {spentPaise : Int}
    {intent : IntentMandate} (he : .settlementCreated id spentPaise intent ∈ w'.history) :
    .settlementCreated id spentPaise intent ∈ w.history := by
  obtain ⟨l, hl, hkind⟩ := h.emitted
  rw [hl] at he
  rcases List.mem_append.mp he with he | he
  · exact nomatch hkind _ he
  · exact he

/-- A row that a request has just created. -/
theorem TaskStep.vetted_created {env : Env} {now : Int} {w w' : World} {c : TaskWhy}
    {next : Next Task} (h : TaskStep env now w c w' next) (hs : Sound env.crypto w.books)
    (hv : Vetted env.crypto w.books) {r' : SettlementRow} {intent' : IntentMandate}
    {cart' : CartMandate} {spent' : Int}
    (hadd' : SettlementAdded w.db.settlements w'.db.settlements r')
    (hfrom' : CreatedFrom env.crypto w.db now intent' cart' r')
    (hevent : .settlementCreated r'.id spent' intent' ∈ w'.history) :
    VettedRow env.crypto w'.books r' := by
  have hmem : r' ∈ w'.db.settlements.rows := (hadd'.mem_iff r').mpr (Or.inr rfl)
  have hstate : r'.state.entered = false ∧ (r'.state.vetted = true → r'.state = .approved) := by
    rcases hfrom'.state_cases with h | h | h <;> rw [h]
    · exact ⟨rfl, nofun⟩
    · exact ⟨rfl, nofun⟩
    · exact ⟨rfl, fun _ => rfl⟩
  -- no event names the fresh id before, so every event of it is of this creation
  have hnew : ∀ spentPaise intent, .settlementCreated r'.id spentPaise intent ∈ w'.history →
      ∃ cart, spentPaise = w.db.settlements.sum (capturedAmount r'.mandateId) ∧
        CreatedFrom env.crypto w.db now intent cart r' := by
    intro spentPaise intent he
    rcases h.created_before he with he | ⟨row, cart, hid, hspent, hadd, hfrom⟩
    · obtain ⟨r, hr, hid⟩ := hv.event _ _ _ he
      exact absurd hid (hadd'.fresh r hr)
    · have hsame : row = r' := settlement_eq ((hadd.mem_iff row).mpr (Or.inr rfl)) hmem hid
      rw [hsame] at hspent hfrom
      exact ⟨cart, hspent, hfrom⟩
  constructor
  case created => exact ⟨spent', intent', hevent⟩
  case submitted =>
    intro spentPaise intent he
    obtain ⟨cart, -, hfrom⟩ := hnew spentPaise intent he
    rw [hfrom.cart_eq]
    exact hfrom.hash
  case decided =>
    intro hvet
    refine Or.inr fun spentPaise intent he => ?_
    obtain ⟨cart, rfl, hfrom⟩ := hnew spentPaise intent he
    exact hfrom.underLines hs (hstate.2 hvet)
  case stored =>
    intro he
    rw [hstate.1] at he
    exact nomatch he

theorem TaskStep.vetted {env : Env} {now : Int} {w w' : World} {c : TaskWhy} {next : Next Task}
    (h : TaskStep env now w c w' next) (hs : Sound env.crypto w.books)
    (hv : Vetted env.crypto w.books) : Vetted env.crypto w'.books := by
  have hp := h.persists
  have hevents : ∀ id spentPaise intent, .settlementCreated id spentPaise intent ∈ w'.history →
      (∃ r ∈ w.books.settlements.rows, r.id = id) →
      .settlementCreated id spentPaise intent ∈ w.history := by
    rintro id spentPaise intent he ⟨r, hr, rfl⟩
    rcases h.created_before he with he | ⟨row, cart, hid, -, hadd, -⟩
    · exact he
    · exact absurd hid.symm (hadd.fresh r hr)
  refine ⟨fun id spentPaise intent he => ?_, fun r' hr' => ?_⟩
  · rcases h.created_before he with he | ⟨row, cart, hid, -, hadd, -⟩
    · obtain ⟨r, hr, rfl⟩ := hv.event id spentPaise intent he
      obtain ⟨r', hr', hk⟩ := hp.settlements r hr
      exact ⟨r', hr', hk.id⟩
    · exact ⟨row, (hadd.mem_iff row).mpr (Or.inr rfl), hid⟩
  · rcases h.row_cases hr' with ⟨r, hr, hk, htrace⟩ | ⟨intent, cart, hadd, hfrom, hevent⟩
    · exact hv.later hs hp hevents hr hk htrace
    · exact h.vetted_created hs hv hadd hfrom hevent

theorem JobStep.vetted {env : Env} {now : Int} {w w' : World} {k : Kick} {c : RunWhy}
    {next : Next RunPoint} (h : JobStep env now w k c w' next) (hs : Sound env.crypto w.books)
    (hv : Vetted env.crypto w.books) : Vetted env.crypto w'.books := by
  have hp := h.persists
  refine ⟨fun id spentPaise intent he => ?_, fun r' hr' => ?_⟩
  · obtain ⟨r, hr, rfl⟩ := hv.event id spentPaise intent (h.created_before he)
    obtain ⟨r', hr', hk⟩ := hp.settlements r hr
    exact ⟨r', hr', hk.id⟩
  · obtain ⟨r, hr, hk, htrace⟩ := h.row_cases hr'
    exact hv.later hs hp (fun _ _ _ he _ => h.created_before he) hr hk htrace

theorem vetted_initial (crypto : Crypto) : Vetted crypto World.initial.books where
  event := fun _ _ _ h => absurd h List.not_mem_nil
  row := fun _ h => absurd h List.not_mem_nil

theorem Reachable.vetted {env : Env} {s : Sys} (h : Reachable env s) :
    Vetted env.crypto s.world.books :=
  (soundOutline env).invariant (I := fun w => Vetted env.crypto w.books)
    (fun _ _ _ _ _ hs _ hv hstep _ => TaskStep.vetted hstep hs hv)
    (fun _ _ _ _ _ _ hs _ hv hstep _ => JobStep.vetted hstep hs hv)
    (sound_initial env.crypto) (vetted_initial env.crypto) h

/-! ## The results -/

/-- The submitted intent of an entered settlement has the stored intent's lines. -/
theorem Reachable.underLines {env : Env} {s : Sys} (h : Reachable env s)
    (hcf : env.crypto.CollisionFree (s.world.books.hashed env.crypto)) {r : SettlementRow}
    (hr : r ∈ s.world.db.settlements.rows) (he : r.state.entered = true) {m : MandateRow}
    (hm : m ∈ s.world.db.mandates.rows) (hid : m.mandateId = r.mandateId)
    (hnot : ¬ HumanApproved env.crypto s.world.books r) {spentPaise : Int} {intent : IntentMandate}
    (hevent : .settlementCreated r.id spentPaise intent ∈ s.world.history) :
    UnderLines m.intent r.amountPaise spentPaise := by
  have hrow := h.vetted.row r hr
  have hvet : r.state.vetted = true := by
    revert he
    cases r.state <;> simp [SettlementState.entered, SettlementState.vetted]
  have hunder := (hrow.decided hvet).resolve_left hnot spentPaise intent hevent
  obtain ⟨bytes, hstored, hsubmitted⟩ := intentBytes_of_cartHash hcf
    (List.mem_append_left _ (List.mem_map_of_mem hm))
    (List.mem_append_right _ (List.mem_filterMap.mpr ⟨_, hevent, rfl⟩)) hr
    (hrow.stored he m hm hid) (hrow.submitted spentPaise intent hevent)
  obtain ⟨hthreshold, hline⟩ := thresholds_of_intentSigningBytes hstored hsubmitted
  exact ⟨by rw [hthreshold]; exact hunder.threshold,
    fun line hl => hunder.line line (by rw [← hline]; exact hl)⟩

/-- The approval of an entered settlement is for the hash the settlement has. -/
theorem HumanApproved.signed {crypto : Crypto} {b : Books} {r : SettlementRow}
    (h : HumanApproved crypto b r) (hrow : VettedRow crypto b r) (he : r.state.entered = true)
    {m : MandateRow} (hm : m ∈ b.mandates.rows) (hid : m.mandateId = r.mandateId) :
    ∃ a ∈ b.approvals.rows, a.settlementId = r.id ∧ a.decision = .approved ∧
      a.mandateCartHashHex = r.mandateCartHashHex ∧
      ∃ bytes, canonicalJson (approvalValue r.id r.mandateCartHashHex .approved) = .ok bytes ∧
        verifyMandateSignature crypto bytes a.sig m.credential = .ok true := by
  obtain ⟨a, ha, hdecision, m', hm', hid', hsigned⟩ := h
  obtain rfl := mandate_eq hm hm' (hid.trans hid'.symm)
  have hhash : a.mandateCartHashHex = r.mandateCartHashHex :=
    Except.ok.inj (hsigned.hash.symm.trans (hrow.stored he m hm hid))
  obtain ⟨bytes, hbytes, hverified⟩ := hsigned.signed
  rw [hhash, hdecision] at hbytes
  exact ⟨a, ha, hsigned.settlementId, hdecision, hhash, bytes, hbytes, hverified⟩

/-- The step that creates a settlement notes the spend it found. -/
theorem created_event {env : Env} {s s' : Sys} {a : Act} (hstep : sysStep env s a = some s')
    {id : JsString} (hnone : ∀ r ∈ s.world.db.settlements.rows, r.id ≠ id)
    (hsome : ∃ r ∈ s'.world.db.settlements.rows, r.id = id) :
    ∃ r' ∈ s'.world.db.settlements.rows, ∃ intent, r'.id = id ∧
      .settlementCreated id (spent s.world.db.settlements r'.mandateId none) intent
        ∈ s'.world.history := by
  obtain ⟨r', hr', rfl⟩ := hsome
  cases (facilitatorSpec env).moved hstep with
  | stays hstay => rw [hstay] at hr'; exact absurd rfl (hnone r' hr')
  | task c next hmove hmoved =>
    rcases TaskStep.row_cases hmoved hr' with ⟨r, hr, hk, -⟩ | ⟨intent, cart, hadd, hfrom, he⟩
    · exact absurd hk.id.symm (hnone r hr)
    · rw [capturedAmount_eq] at he
      exact ⟨r', hr', intent, rfl, he⟩
  | job k c next hmove hmoved =>
    obtain ⟨r, hr, hk, -⟩ := JobStep.row_cases hmoved hr'
    exact absurd hk.id.symm (hnone r hr)

/-- The settlement was created by a step of the run to `s`, when so much of its mandate's money was
    captured. -/
def CreatedAtSpend (env : Env) (s : Sys) (r : SettlementRow) (spentPaise : Int) : Prop :=
  ∃ s₁ a s₂, Reachable env s₁ ∧ sysStep env s₁ a = some s₂ ∧ Run (facilitator env) anyStep s₂ s ∧
    (∀ r₁ ∈ s₁.world.db.settlements.rows, r₁.id ≠ r.id) ∧
    (∃ r₂ ∈ s₂.world.db.settlements.rows, r₂.id = r.id) ∧
    spentPaise = spent s₁.world.db.settlements r.mandateId none

theorem CreatedAtSpend.event {env : Env} {s : Sys} {r : SettlementRow} {spentPaise : Int}
    (h : CreatedAtSpend env s r spentPaise) (hr : r ∈ s.world.db.settlements.rows) :
    ∃ intent, .settlementCreated r.id spentPaise intent ∈ s.world.history := by
  obtain ⟨s₁, a, s₂, -, hstep, hrun, hnone, hsome, rfl⟩ := h
  obtain ⟨r₂, hr₂, intent, hid, he⟩ := created_event hstep hnone hsome
  obtain ⟨r', hr', hk⟩ := (persists_run hrun).settlements r₂ hr₂
  have hsame : r' = r := settlement_eq hr' hr (hk.id.trans hid)
  rw [← hk.mandateId, hsame] at he
  exact ⟨intent, (persists_run hrun).history.subset he⟩

/-- **Human approval cannot be bypassed.**  A settlement that is `settling` or `captured` and is over
    the stored intent's per-cart threshold, or was over its cumulative line when it was created, has
    an approval signed under the registered credential for its own mandate-cart hash. -/
theorem approval_not_bypassed {env : Env} {s : Sys} (h : Reachable env s)
    (hcf : env.crypto.CollisionFree (s.world.books.hashed env.crypto)) {r : SettlementRow}
    (hr : r ∈ s.world.db.settlements.rows) (he : r.state = .settling ∨ r.state = .captured)
    {m : MandateRow} (hm : m ∈ s.world.db.mandates.rows) (hid : m.mandateId = r.mandateId)
    (hover : m.intent.approvalThresholdPaise < r.amountPaise ∨
      ∃ line spentPaise, m.intent.cumulativeApprovalThresholdPaise = some line ∧
        CreatedAtSpend env s r spentPaise ∧ line < r.amountPaise + spentPaise) :
    ∃ a ∈ s.world.db.approvals.rows, a.settlementId = r.id ∧ a.decision = .approved ∧
      a.mandateCartHashHex = r.mandateCartHashHex ∧
      ∃ bytes, canonicalJson (approvalValue r.id r.mandateCartHashHex .approved) = .ok bytes ∧
        verifyMandateSignature env.crypto bytes a.sig m.credential = .ok true := by
  have hentered : r.state.entered = true := by rcases he with he | he <;> rw [he] <;> rfl
  have hrow := h.vetted.row r hr
  by_cases happroved : HumanApproved env.crypto s.world.books r
  · exact happroved.signed hrow hentered hm hid
  · exfalso
    rcases hover with hcart | ⟨line, spentPaise, hline, hcreated, hspent⟩
    · obtain ⟨spentPaise, intent, hevent⟩ := hrow.created
      have hunder := h.underLines hcf hr hentered hm hid happroved hevent
      have := hunder.threshold
      omega
    · obtain ⟨intent, hevent⟩ := hcreated.event hr
      have hunder := h.underLines hcf hr hentered hm hid happroved hevent
      have := hunder.line line hline
      omega

/-- A cart over the per-cart threshold of `demoIntent`. -/
def demoLargeCart : CartMandate :=
  { demoCart with items := [⟨js "rice", 2, 300, none, none⟩], totalPaise := 600 }

/-- The large cart is submitted, approved by the mandate's holder, and enters `settling`. -/
def demoApproved : List Act :=
  [.clock 1000,
    .request (.postCeremonyTokens (some (js "dashboard"))) (js "token"),
    .request (.postMandates demoIntent (.ed25519 (js "bb")) (js "token")) [],
    .request (.postSettlements (some (js "key")) demoIntent demoLargeCart) [],
    .runTask (js "s1"),
    .request (.postApprovals (js "s1")
      (match computeMandateCartHash demoCrypto demoIntent demoLargeCart with
        | .ok hash => hash
        | .error _ => []) .approved (.ed25519 (js "00"))) [],
    .startJob []]

/-- The large cart is settling, so its approval is there. -/
theorem approval_not_bypassed_demo : ∃ s r m, Reachable demoEnv s ∧
    r ∈ s.world.db.settlements.rows ∧ r.state = .settling ∧ r.amountPaise = 600 ∧
    m ∈ s.world.db.mandates.rows ∧
    ∃ a ∈ s.world.db.approvals.rows, a.settlementId = r.id ∧ a.decision = .approved ∧
      a.mandateCartHashHex = r.mandateCartHashHex ∧
      ∃ bytes, canonicalJson (approvalValue r.id r.mandateCartHashHex .approved) = .ok bytes ∧
        verifyMandateSignature demoCrypto bytes a.sig m.credential = .ok true := by
  obtain ⟨s, hreach, hp⟩ := reachable_of_run demoEnv demoApproved
    (fun s => decide (demoCrypto.CollisionFree (s.world.books.hashed demoCrypto)) &&
      s.world.db.settlements.rows.any fun r => r.state == .settling && r.amountPaise == 600 &&
        s.world.db.mandates.rows.any fun m => m.mandateId == r.mandateId && m.intent == demoIntent)
    (by decide +kernel)
  rw [Bool.and_eq_true, decide_eq_true_eq] at hp
  obtain ⟨r, hr, hp'⟩ := List.any_eq_true.mp hp.2
  simp only [Bool.and_eq_true, beq_iff_eq] at hp'
  obtain ⟨⟨hstate, hamount⟩, hany⟩ := hp'
  obtain ⟨m, hm, hp''⟩ := List.any_eq_true.mp hany
  simp only [Bool.and_eq_true, beq_iff_eq] at hp''
  exact ⟨s, r, m, hreach, hr, hstate, hamount, hm, approval_not_bypassed hreach hp.1 hr (Or.inl hstate)
    hm hp''.1 (Or.inl (by rw [hp''.2, hamount]; decide))⟩

end Hundi
