/-
  What no step of the facilitator takes away.

  Rows are never deleted and their identifying columns never change; a row in a final state stays
  in it; the ledger and the history only grow.  `Persists` says so of two states of the books, and
  `persists_run` of any two states of a run.
-/
import Hundi.Facilitator.Steps

namespace Hundi

open Js EventLoop

/-- Money is moving or has moved for the settlement. -/
def SettlementState.entered : SettlementState → Bool
  | .settling | .captured => true
  | _ => false

/-- The same settlement, later. -/
structure SettlementKept (r r' : SettlementRow) : Prop where
  id : r'.id = r.id
  mandateId : r'.mandateId = r.mandateId
  cart : r'.cart = r.cart
  hash : r'.mandateCartHashHex = r.mandateCartHashHex
  amount : r'.amountPaise = r.amountPaise
  merchant : r'.merchantId = r.merchantId
  final : r.state.live = false → r'.state = r.state
  entered : r.state.entered = true → r'.state.entered = true

/-- The same attempt, later. -/
structure AttemptKept (a a' : AttemptRow) : Prop where
  id : a'.id = a.id
  settlementId : a'.settlementId = a.settlementId
  method : a'.method = a.method
  receipt : a'.receipt = a.receipt
  final : a.state.active = false →
    a'.state = a.state ∧ a'.providerPaymentId = a.providerPaymentId

/-- The same mandate, later. -/
structure MandateKept (m m' : MandateRow) : Prop where
  id : m'.mandateId = m.mandateId
  intent : m'.intent = m.intent
  hash : m'.intentHashHex = m.intentHashHex
  credential : m'.credential = m.credential
  revoked : m.revokedAt.isSome = true → m'.revokedAt.isSome = true

def SettlementsKept (t t' : Settlements) : Prop := ∀ r ∈ t.rows, ∃ r' ∈ t'.rows, SettlementKept r r'

def AttemptsKept (t t' : Attempts) : Prop := ∀ a ∈ t.rows, ∃ a' ∈ t'.rows, AttemptKept a a'

def MandatesKept (t t' : Mandates) : Prop := ∀ m ∈ t.rows, ∃ m' ∈ t'.rows, MandateKept m m'

/-- Nothing in the books is lost. -/
structure Persists (b b' : Books) : Prop where
  mandates : MandatesKept b.mandates b'.mandates
  settlements : SettlementsKept b.settlements b'.settlements
  attempts : AttemptsKept b.attempts b'.attempts
  approvals : ∀ a ∈ b.approvals.rows, a ∈ b'.approvals.rows
  ledger : b.ledger <+: b'.ledger
  history : b.history <:+ b'.history

/-! ## Keeping is reflexive and transitive -/

theorem SettlementKept.refl (r : SettlementRow) : SettlementKept r r :=
  ⟨rfl, rfl, rfl, rfl, rfl, rfl, fun _ => rfl, fun h => h⟩

theorem AttemptKept.refl (a : AttemptRow) : AttemptKept a a :=
  ⟨rfl, rfl, rfl, rfl, fun _ => ⟨rfl, rfl⟩⟩

theorem MandateKept.refl (m : MandateRow) : MandateKept m m := ⟨rfl, rfl, rfl, rfl, fun h => h⟩

theorem SettlementsKept.refl (t : Settlements) : SettlementsKept t t := fun r hr => ⟨r, hr, .refl r⟩

theorem AttemptsKept.refl (t : Attempts) : AttemptsKept t t := fun a ha => ⟨a, ha, .refl a⟩

theorem MandatesKept.refl (t : Mandates) : MandatesKept t t := fun m hm => ⟨m, hm, .refl m⟩

theorem Persists.refl (b : Books) : Persists b b :=
  ⟨.refl _, .refl _, .refl _, fun _ h => h, List.prefix_refl _, List.suffix_refl _⟩

theorem SettlementKept.trans {r s t : SettlementRow} (h : SettlementKept r s)
    (h' : SettlementKept s t) : SettlementKept r t where
  id := h'.id.trans h.id
  mandateId := h'.mandateId.trans h.mandateId
  cart := h'.cart.trans h.cart
  hash := h'.hash.trans h.hash
  amount := h'.amount.trans h.amount
  merchant := h'.merchant.trans h.merchant
  final := fun hf => (h'.final (by rw [h.final hf]; exact hf)).trans (h.final hf)
  entered := fun he => h'.entered (h.entered he)

theorem AttemptKept.trans {a b c : AttemptRow} (h : AttemptKept a b) (h' : AttemptKept b c) :
    AttemptKept a c where
  id := h'.id.trans h.id
  settlementId := h'.settlementId.trans h.settlementId
  method := h'.method.trans h.method
  receipt := h'.receipt.trans h.receipt
  final := fun hf => by
    obtain ⟨hs, hp⟩ := h.final hf
    obtain ⟨hs', hp'⟩ := h'.final (by rw [hs]; exact hf)
    exact ⟨hs'.trans hs, hp'.trans hp⟩

theorem MandateKept.trans {l m n : MandateRow} (h : MandateKept l m) (h' : MandateKept m n) :
    MandateKept l n :=
  ⟨h'.id.trans h.id, h'.intent.trans h.intent, h'.hash.trans h.hash,
    h'.credential.trans h.credential, fun hr => h'.revoked (h.revoked hr)⟩

theorem Persists.trans {b c d : Books} (h : Persists b c) (h' : Persists c d) : Persists b d where
  mandates := fun m hm => by
    obtain ⟨m₁, hm₁, hk₁⟩ := h.mandates m hm
    obtain ⟨m₂, hm₂, hk₂⟩ := h'.mandates m₁ hm₁
    exact ⟨m₂, hm₂, hk₁.trans hk₂⟩
  settlements := fun r hr => by
    obtain ⟨r₁, hr₁, hk₁⟩ := h.settlements r hr
    obtain ⟨r₂, hr₂, hk₂⟩ := h'.settlements r₁ hr₁
    exact ⟨r₂, hr₂, hk₁.trans hk₂⟩
  attempts := fun a ha => by
    obtain ⟨a₁, ha₁, hk₁⟩ := h.attempts a ha
    obtain ⟨a₂, ha₂, hk₂⟩ := h'.attempts a₁ ha₁
    exact ⟨a₂, ha₂, hk₁.trans hk₂⟩
  approvals := fun a ha => h'.approvals a (h.approvals a ha)
  ledger := h.ledger.trans h'.ledger
  history := h.history.trans h'.history

/-! ## What each effect keeps -/

theorem SettlementAdded.kept {t t' : Settlements} {row : SettlementRow}
    (h : SettlementAdded t t' row) : SettlementsKept t t' :=
  fun r hr => ⟨r, (h.mem_iff r).mpr (Or.inl hr), .refl r⟩

/-- A transition keeps every row; one that leaves `settling` has to end in `captured`. -/
theorem SettlementMoved.kept {now : Int} {t t' : Settlements} {row : SettlementRow}
    {src dst : SettlementState} {rejectReason : Option JsString}
    (h : SettlementMoved now t t' row src dst rejectReason) (hdst : src = .settling → dst = .captured) :
    SettlementsKept t t' := by
  intro r hr
  by_cases hid : r.id = row.id
  · obtain rfl := settlement_eq hr h.mem hid
    refine ⟨_, h.moved_mem, ⟨moveTo_id .., moveTo_mandateId .., moveTo_cart .., moveTo_hash ..,
      moveTo_amountPaise .., moveTo_merchantId .., fun hf => ?_, fun he => ?_⟩⟩
    · -- a final state has no transition
      have hallowed := h.allowed
      rw [h.state] at hf
      cases src <;> first | exact absurd hf (by decide) | exact nomatch hallowed
    · have hallowed := h.allowed
      rw [h.state] at he
      rw [moveTo_state]
      cases src with
      | settling => rw [hdst rfl]; rfl
      | captured => exact nomatch hallowed
      | _ => exact nomatch he
  · exact ⟨r, h.mem_iff.mpr (Or.inr ⟨hr, hid⟩), .refl r⟩

theorem KickBumped.kept {t t' : Settlements} {id : JsString} (h : KickBumped t t' id) :
    SettlementsKept t t' := by
  intro r hr
  by_cases hp : (r.id == id && r.state == .approved) = true
  · exact ⟨_, (Table.mem_update? h).mpr (Or.inl ⟨r, hr, hp, rfl⟩),
      ⟨rfl, rfl, rfl, rfl, rfl, rfl, fun _ => rfl, fun he => he⟩⟩
  · exact ⟨r, (Table.mem_update? h).mpr (Or.inr ⟨hr, Bool.eq_false_iff.mpr hp⟩), .refl r⟩

theorem AttemptAdded.kept {t t' : Attempts} {row : AttemptRow} (h : AttemptAdded t t' row) :
    AttemptsKept t t' :=
  fun a ha => ⟨a, (h.mem_iff a).mpr (Or.inl ha), .refl a⟩

theorem AttemptMoved.kept {now : Int} {t t' : Attempts} {row : AttemptRow} {src dst : AttemptState}
    (h : AttemptMoved now t t' row src dst) : AttemptsKept t t' := by
  intro a ha
  by_cases hid : a.id = row.id
  · obtain rfl := attempt_eq ha h.mem hid
    refine ⟨_, h.mem_iff.mpr (Or.inl rfl), ⟨rfl, rfl, rfl, rfl, fun hf => ?_⟩⟩
    rw [h.active] at hf
    exact nomatch hf
  · exact ⟨a, h.mem_iff.mpr (Or.inr ⟨ha, hid⟩), .refl a⟩

theorem AttemptCaptured.kept {now : Int} {t t' : Attempts} {row : AttemptRow} {src : AttemptState}
    {paymentId : JsString} (h : AttemptCaptured now t t' row src paymentId) : AttemptsKept t t' := by
  intro a ha
  by_cases hid : a.id = row.id
  · obtain rfl := attempt_eq ha h.mem hid
    refine ⟨_, (h.mem_iff _).mpr (Or.inl rfl), ⟨rfl, rfl, rfl, rfl, fun hf => ?_⟩⟩
    rw [h.active] at hf
    exact nomatch hf
  · exact ⟨a, (h.mem_iff a).mpr (Or.inr ⟨ha, hid⟩), .refl a⟩

theorem AttemptFailed.kept {now : Int} {t t' : Attempts} {attemptId : JsString} {src : AttemptState}
    (h : AttemptFailed now t t' attemptId src) : AttemptsKept t t' := by
  rcases h with ⟨rfl, -⟩ | ⟨row, -, hm⟩
  · exact .refl _
  · exact hm.kept

theorem OrderIdSet.kept {now : Int} {t t' : Attempts} {attemptId providerOrderId : JsString}
    (h : OrderIdSet now t t' attemptId providerOrderId) : AttemptsKept t t' := by
  intro a ha
  by_cases hid : a.id = attemptId
  · exact ⟨_, (h _).mpr (Or.inl ⟨a, ha, hid, rfl⟩), ⟨rfl, rfl, rfl, rfl, fun _ => ⟨rfl, rfl⟩⟩⟩
  · exact ⟨a, (h a).mpr (Or.inr ⟨ha, hid⟩), .refl a⟩

theorem LinkIssued.kept {now : Int} {t t' : Attempts} {lastAttemptId : JsString} {link : AttemptRow}
    (h : LinkIssued now t t' lastAttemptId link) : AttemptsKept t t' := by
  obtain ⟨t₁, rfl | ⟨row, -, hm⟩, hadd⟩ := h.superseded
  · exact hadd.kept
  · intro a ha
    obtain ⟨a₁, ha₁, hk₁⟩ := hm.kept a ha
    obtain ⟨a₂, ha₂, hk₂⟩ := hadd.kept a₁ ha₁
    exact ⟨a₂, ha₂, hk₁.trans hk₂⟩

theorem MandateAdded.kept {crypto : Crypto} {t t' : Mandates} {row : MandateRow}
    (h : MandateAdded crypto t t' row) : MandatesKept t t' :=
  fun m hm => ⟨m, (h.mem_iff m).mpr (Or.inl hm), .refl m⟩

theorem MandateRevoked.kept {now : Int} {t t' : Mandates} {mandateId : JsString}
    (h : MandateRevoked now t t' mandateId) : MandatesKept t t' := by
  intro m hm
  by_cases hid : m.mandateId = mandateId
  · exact ⟨_, (h _).mpr (Or.inl ⟨m, hm, hid, rfl⟩), ⟨rfl, rfl, rfl, rfl, fun _ => rfl⟩⟩
  · exact ⟨m, (h m).mpr (Or.inr ⟨hm, hid⟩), .refl m⟩

/-! ## Steps and runs -/

/-- The books with other attempts and a longer ledger. -/
theorem Persists.ofAttempts {b : Books} {t : Attempts} {l : List LedgerRow} (h : AttemptsKept b.attempts t) :
    Persists b { b with attempts := t, ledger := b.ledger ++ l } :=
  ⟨.refl _, .refl _, h, fun _ ha => ha, List.prefix_append _ _, List.suffix_refl _⟩

/-- The books with other settlements and a longer ledger. -/
theorem Persists.ofSettlements {b : Books} {t : Settlements} {l : List LedgerRow}
    (h : SettlementsKept b.settlements t) :
    Persists b { b with settlements := t, ledger := b.ledger ++ l } :=
  ⟨.refl _, h, .refl _, fun _ ha => ha, List.prefix_append _ _, List.suffix_refl _⟩

/-- The books with a longer ledger and history. -/
theorem Persists.ofEvents {b : Books} {l : List LedgerRow} {e : List Event} :
    Persists b { b with ledger := b.ledger ++ l, history := e ++ b.history } :=
  ⟨.refl _, .refl _, .refl _, fun _ ha => ha, List.prefix_append _ _, List.suffix_append _ _⟩

/-- The books with a longer history. -/
theorem Persists.ofHistory {b : Books} (e : List Event) :
    Persists b { b with history := e ++ b.history } :=
  ⟨.refl _, .refl _, .refl _, fun _ ha => ha, List.prefix_refl _, List.suffix_append _ _⟩

theorem TaskStep.persists {env : Env} {now : Int} {w w' : World} {c : TaskWhy} {next : Next Task}
    (h : TaskStep env now w c w' next) : Persists w.books w'.books := by
  cases h with
  | quiet l hl hw hn => rw [hw]; exact .ofAttempts (.refl _)
  | responded key status body hw hn => rw [hw]; exact .ofHistory [_]
  | mandateRegistered l row hl hschema hadd hw hn =>
    rw [hw]
    exact ⟨hadd.kept, .refl _, .refl _, fun _ ha => ha, List.prefix_append _ _, List.suffix_refl _⟩
  | mandateRevoked l mandateId hl hrev hw hn =>
    rw [hw]
    exact ⟨hrev.kept, .refl _, .refl _, fun _ ha => ha, List.prefix_append _ _, List.suffix_refl _⟩
  | settlementCreated l row intent cart key status body hl hadd hfrom hstamp hw hn =>
    rw [hw]
    exact ⟨.refl _, hadd.kept, .refl _, fun _ ha => ha, List.prefix_append _ _,
      List.suffix_append [_, _] _⟩
  | decided l row mandateRow approval rejectReason hl hmandate hsigned happrovals hm hw hn =>
    rw [hw]
    exact ⟨.refl _, hm.kept nofun, .refl _, fun a ha => (happrovals a).mpr (Or.inl ha),
      List.prefix_append _ _, List.suffix_refl _⟩
  | abandoned l row src hl hsrc hm hw hn =>
    rw [hw]; exact .ofSettlements (hm.kept fun h => absurd h hsrc)
  | kickBumped id hb hw hn =>
    rw [hw]
    exact ⟨.refl _, hb.kept, .refl _, fun _ ha => ha, List.prefix_refl _, List.suffix_refl _⟩
  | attemptFailed l row src hl hm hwhy hw hn => rw [hw]; exact .ofAttempts hm.kept
  | reconciling caller attempt orderId hfind hw hn => rw [hw]; exact .refl _
  | captured caller copy orderId payments latest attempt settlement lrow hc hlast hstatus hid hsid
      hattempt hm hrec hw hn =>
    rw [hw]
    exact ⟨.refl _, hm.kept fun _ => rfl, hattempt.kept, fun _ ha => ha, List.prefix_append _ _,
      List.suffix_refl _⟩
  | captureLost caller copy orderId payments latest hc hlast hstatus hactive hstale hw hn =>
    rw [hw]; exact .refl _
  | refundCalled caller attempt paymentId hdue hnone hw hn => rw [hw]; exact .ofHistory [_]
  | refunded caller settlementId attemptId paymentId refundId lrow hc hrec hw hn =>
    rw [hw]; exact .ofEvents (e := [_])
  | operatorRefundCalled settlement attempt paymentId hc hmem hstate hnone hattempt hof
      hcaptured hpayment hw hn => rw [hw]; exact .ofHistory [_]
  | operatorRefunded settlementId attemptId paymentId refundId amountPaise lrow hc hrec hw hn =>
    rw [hw]; exact .ofEvents (e := [_, _])
  | operatorRefundUnrecorded settlementId attemptId paymentId refundId amountPaise hc hinexact hw hn =>
    rw [hw]; exact .ofHistory [_]
  | refundReplayed settlementId refundId hfind hw hn => rw [hw]; exact .ofHistory [_]
  | again t hc hw hn => rw [hw]; exact .refl _

theorem JobStep.persists {env : Env} {now : Int} {w w' : World} {k : Kick} {c : RunWhy}
    {next : Next RunPoint} (h : JobStep env now w k c w' next) : Persists w.books w'.books := by
  cases h with
  | quiet l hl hw hn => rw [hw]; exact .ofAttempts (.refl _)
  | entered row mandateRow ctx hc hkick hre hm hw hn =>
    rw [hw]
    exact ⟨.refl _, hm.kept nofun, .refl _, fun _ ha => ha, List.prefix_refl _, List.suffix_refl _⟩
  | gateRejected l row reason hl hc hkick hre hm hw hn => rw [hw]; exact .ofSettlements (hm.kept nofun)
  | resumed row hc hkick hmem hstate hidle hw hn => rw [hw]; exact .refl _
  | attemptInitiated l settlement attemptNum lastAttemptId attemptId receipt hl hc hnum hadd hw hn =>
    rw [hw]; exact .ofAttempts hadd.kept
  | linkCalled settlement attemptNum lastAttemptId linkAttemptId receipt hc hnum hw hn =>
    rw [hw]; exact .ofHistory [_]
  | orderCalled settlement attemptNum attemptId receipt hc hw hn => rw [hw]; exact .ofHistory [_]
  | orderFailed l settlement attemptNum attemptId receipt err row hl hc hid hm hw hn =>
    rw [hw]; exact .ofAttempts hm.kept
  | orderSet settlement attemptNum attemptId receipt providerOrderId hc hset hw hn =>
    rw [hw]
    exact ⟨.refl _, .refl _, hset.kept, fun _ ha => ha, List.prefix_refl _, List.suffix_refl _⟩
  | checkoutCalled settlement attemptNum attemptId providerOrderId hc hw hn =>
    rw [hw]; exact .ofHistory [_]
  | captured copy attemptNum attemptId providerOrderId result paymentId attempt settlement lrow hc
      hpaid hid hsid hattempt hm hrec hw hn =>
    rw [hw]
    exact ⟨.refl _, hm.kept fun _ => rfl, hattempt.kept, fun _ ha => ha, List.prefix_append _ _,
      List.suffix_refl _⟩
  | captureLost settlement attemptNum attemptId providerOrderId result paymentId hc hpaid hlost hn =>
    rcases hlost with ⟨hw, -⟩ | ⟨attempt, -, hattempt, -, hw⟩
    · rw [hw]; exact .refl _
    · rw [hw]
      exact ⟨.refl _, .refl _, hattempt.kept, fun _ ha => ha, List.prefix_refl _,
        List.suffix_refl _⟩
  | retried l settlement attemptNum attemptId providerOrderId result hl hc hm hw hn =>
    rw [hw]; exact .ofAttempts hm.kept
  | linkIssued l settlement lastAttemptId linkAttemptId receipt linkId shortUrl hl hc hissued hw hn =>
    rw [hw]; exact .ofAttempts hissued.kept
  | again p hc hw hn => rw [hw]; exact .refl _

/-- **Nothing in the books is lost along a run.** -/
theorem persists_run {env : Env} {ok : Sys → Act → Prop} {s t : Sys}
    (r : Run (facilitator env) ok s t) : Persists s.world.books t.world.books :=
  (facilitatorSpec env).world_rel_run (R := fun w w' => Persists w.books w'.books)
    (fun _ => .refl _) (fun _ _ _ h h' => h.trans h') (fun _ _ _ _ _ h => TaskStep.persists h)
    (fun _ _ _ _ _ _ h => JobStep.persists h) r

theorem persists_step {env : Env} {s s' : Sys} {a : Act} (h : sysStep env s a = some s') :
    Persists s.world.books s'.world.books :=
  persists_run (Run.single (show anyStep s a from trivial) h)

/-! ## What a step does to a settlement -/

/-- The ways a stored settlement goes from one state of the world to the next. -/
inductive SettlementTrace (crypto : Crypto) (now : Int) (w w' : World) (r r' : SettlementRow) :
    Prop where
  | same (h : r'.state = r.state)
  | closed (h' : r'.state = .rejected ∨ r'.state = .abandoned)
  | approved (approval : ApprovalRow) (mandateRow : MandateRow)
      (happroval : approval ∈ w'.db.approvals.rows) (hdecision : approval.decision = .approved)
      (hmandate : getMandateRow w.db r.mandateId = some mandateRow)
      (hsigned : SignedDecision crypto r mandateRow approval)
      (h : r.state = .pending_approval) (h' : r'.state = .approved)
  | entered (mandateRow : MandateRow) (ctx : VerifyCtx)
      (hre : Reverified crypto w.db now r mandateRow ctx) (hhistory : w'.history = w.history)
      (h : r.state = .approved) (h' : r'.state = .settling)
  | captured (h : r.state = .settling) (h' : r'.state = .captured)

/-- The row a row of the table after a transition was. -/
theorem SettlementMoved.before {now : Int} {t t' : Settlements} {row : SettlementRow}
    {src dst : SettlementState} {rejectReason : Option JsString}
    (h : SettlementMoved now t t' row src dst rejectReason) (hdst : src = .settling → dst = .captured)
    {r' : SettlementRow} (hr' : r' ∈ t'.rows) :
    ∃ r ∈ t.rows, SettlementKept r r' ∧ (r' = r ∨ r = row ∧ r'.state = dst) := by
  rcases h.mem_iff.mp hr' with rfl | ⟨hr, -⟩
  · obtain ⟨r', hr', hkept⟩ := h.kept hdst row h.mem
    have hsame := settlement_eq h.moved_mem hr' ((moveTo_id ..).trans hkept.id.symm)
    rw [hsame]
    exact ⟨row, h.mem, hkept, Or.inr ⟨rfl, by rw [← hsame, moveTo_state]⟩⟩
  · exact ⟨r', hr, .refl r', Or.inl rfl⟩

/-- **Where a row comes from when a task has moved**: the row it was, or a request. -/
theorem TaskStep.row_cases {env : Env} {now : Int} {w w' : World} {c : TaskWhy} {next : Next Task}
    (h : TaskStep env now w c w' next) {r' : SettlementRow} (hr' : r' ∈ w'.books.settlements.rows) :
    (∃ r ∈ w.books.settlements.rows, SettlementKept r r' ∧
      SettlementTrace env.crypto now w w' r r') ∨
    ∃ intent cart, SettlementAdded w.db.settlements w'.db.settlements r' ∧
      CreatedFrom env.crypto w.db now intent cart r' ∧
      .settlementCreated r'.id (w.db.settlements.sum (capturedAmount r'.mandateId)) intent
        ∈ w'.history := by
  cases h with
  | settlementCreated l row intent cart key status body hl hadd hfrom hstamp hw hn =>
    have hhistory := congrArg Books.history hw
    rw [hw] at hr'
    rcases (hadd.mem_iff r').mp hr' with hr | rfl
    · exact Or.inl ⟨r', hr, .refl r', .same rfl⟩
    · refine Or.inr ⟨intent, cart, hadd, hfrom, ?_⟩
      show _ ∈ w'.books.history
      rw [hhistory]
      exact List.mem_cons_of_mem _ List.mem_cons_self
  | decided l row mandateRow approval rejectReason hl hmandate hsigned happrovals hm hw hn =>
    rw [hw] at hr'
    obtain ⟨r, hr, hkept, rfl | ⟨rfl, hstate⟩⟩ := hm.before nofun hr'
    · exact Or.inl ⟨r', hr, hkept, .same rfl⟩
    · refine Or.inl ⟨r, hr, hkept, ?_⟩
      cases hd : approval.decision with
      | approved =>
        rw [hd] at hstate
        exact .approved approval mandateRow ((happrovals approval).mpr (Or.inr rfl)) hd hmandate
          hsigned hm.state hstate
      | rejected => rw [hd] at hstate; exact .closed (Or.inl hstate)
  | abandoned l row src hl hsrc hm hw hn =>
    rw [hw] at hr'
    obtain ⟨r, hr, hkept, rfl | ⟨rfl, hstate⟩⟩ := hm.before (fun hs => absurd hs hsrc) hr'
    · exact Or.inl ⟨r', hr, hkept, .same rfl⟩
    · exact Or.inl ⟨r, hr, hkept, .closed (Or.inr hstate)⟩
  | kickBumped id hb hw hn =>
    rw [hw] at hr'
    rcases (Table.mem_update? hb).mp hr' with ⟨r, hr, -, rfl⟩ | ⟨hr, -⟩
    · exact Or.inl ⟨r, hr, ⟨rfl, rfl, rfl, rfl, rfl, rfl, fun _ => rfl, fun he => he⟩, .same rfl⟩
    · exact Or.inl ⟨r', hr, .refl r', .same rfl⟩
  | captured caller copy orderId payments latest attempt settlement lrow hc hlast hstatus hid hsid
      hattempt hm hrec hw hn =>
    rw [hw] at hr'
    obtain ⟨r, hr, hkept, rfl | ⟨rfl, hstate⟩⟩ := hm.before (fun _ => rfl) hr'
    · exact Or.inl ⟨r', hr, hkept, .same rfl⟩
    · exact Or.inl ⟨r, hr, hkept, .captured hm.state hstate⟩
  | _ =>
    rename_i hw _
    rw [hw] at hr'
    exact Or.inl ⟨r', hr', .refl r', .same rfl⟩

/-- **Where a row comes from when a run has moved.** -/
theorem JobStep.row_cases {env : Env} {now : Int} {w w' : World} {k : Kick} {c : RunWhy}
    {next : Next RunPoint} (h : JobStep env now w k c w' next) {r' : SettlementRow}
    (hr' : r' ∈ w'.books.settlements.rows) :
    ∃ r ∈ w.books.settlements.rows, SettlementKept r r' ∧
      SettlementTrace env.crypto now w w' r r' := by
  cases h with
  | entered row mandateRow ctx hc hkick hre hm hw hn =>
    have hhistory : w'.history = w.history := congrArg Books.history hw
    rw [hw] at hr'
    obtain ⟨r, hr, hkept, rfl | ⟨rfl, hstate⟩⟩ := hm.before nofun hr'
    · exact ⟨r', hr, hkept, .same rfl⟩
    · exact ⟨r, hr, hkept, .entered mandateRow ctx hre hhistory hm.state hstate⟩
  | gateRejected l row reason hl hc hkick hre hm hw hn =>
    rw [hw] at hr'
    obtain ⟨r, hr, hkept, rfl | ⟨rfl, hstate⟩⟩ := hm.before nofun hr'
    · exact ⟨r', hr, hkept, .same rfl⟩
    · exact ⟨r, hr, hkept, .closed (Or.inl hstate)⟩
  | captured copy attemptNum attemptId providerOrderId result paymentId attempt settlement lrow hc
      hpaid hid hsid hattempt hm hrec hw hn =>
    rw [hw] at hr'
    obtain ⟨r, hr, hkept, rfl | ⟨rfl, hstate⟩⟩ := hm.before (fun _ => rfl) hr'
    · exact ⟨r', hr, hkept, .same rfl⟩
    · exact ⟨r, hr, hkept, .captured hm.state hstate⟩
  | captureLost settlement attemptNum attemptId providerOrderId result paymentId hc hpaid hlost hn =>
    rcases hlost with ⟨hw, -⟩ | ⟨attempt, -, -, -, hw⟩ <;> rw [hw] at hr' <;>
      exact ⟨r', hr', .refl r', .same rfl⟩
  | _ =>
    rename_i hw _
    rw [hw] at hr'
    exact ⟨r', hr', .refl r', .same rfl⟩

/-! ## What a step adds to the history -/

inductive EventKind where
  | created | charge | refund | response
  deriving DecidableEq

def Event.kind : Event → EventKind
  | .settlementCreated _ _ _ => .created
  | .createOrder _ _ => .charge
  | .settleViaCheckout _ _ => .charge
  | .createPaymentLink _ _ => .charge
  | .refundPayment _ _ _ => .refund
  | .refundSucceeded _ _ _ _ => .refund
  | .refundResponse _ _ => .response
  | .settlementResponse _ _ _ => .response

/-- A task emits refunds and responses, and the creation of a settlement it has added. -/
theorem TaskStep.emitted {env : Env} {now : Int} {w w' : World} {c : TaskWhy} {next : Next Task}
    (h : TaskStep env now w c w' next) : ∃ l, w'.history = l ++ w.history ∧ ∀ e ∈ l,
      e.kind = .refund ∨ e.kind = .response ∨
      ∃ row intent cart, e = .settlementCreated row.id
          (w.db.settlements.sum (capturedAmount row.mandateId)) intent ∧
        SettlementAdded w.db.settlements w'.db.settlements row ∧
        CreatedFrom env.crypto w.db now intent cart row := by
  cases h with
  | responded key status body hw hn => exact ⟨[_], congrArg Books.history hw, by simp [Event.kind]⟩
  | settlementCreated l row intent cart key status body hl hadd hfrom hstamp hw hn =>
    refine ⟨[_, _], congrArg Books.history hw, fun e he => ?_⟩
    rcases List.mem_cons.mp he with rfl | he
    · exact Or.inr (Or.inl rfl)
    · rw [List.mem_singleton] at he
      exact Or.inr (Or.inr ⟨row, intent, cart, he, hadd, hfrom⟩)
  | refundCalled caller attempt paymentId hdue hnone hw hn =>
    exact ⟨[_], congrArg Books.history hw, by simp [Event.kind]⟩
  | refunded caller settlementId attemptId paymentId refundId lrow hc hrec hw hn =>
    exact ⟨[_], congrArg Books.history hw, by simp [Event.kind]⟩
  | operatorRefundCalled settlement attempt paymentId hc hmem hstate hnone hattempt hof
      hcaptured hpayment hw hn => exact ⟨[_], congrArg Books.history hw, by simp [Event.kind]⟩
  | operatorRefunded settlementId attemptId paymentId refundId amountPaise lrow hc hrec hw hn =>
    exact ⟨[_, _], congrArg Books.history hw, by simp [Event.kind]⟩
  | operatorRefundUnrecorded settlementId attemptId paymentId refundId amountPaise hc hinexact hw hn =>
    exact ⟨[_], congrArg Books.history hw, by simp [Event.kind]⟩
  | refundReplayed settlementId refundId hfind hw hn =>
    exact ⟨[_], congrArg Books.history hw, by simp [Event.kind]⟩
  | _ =>
    rename_i hw _
    exact ⟨[], congrArg Books.history hw, fun e he => absurd he List.not_mem_nil⟩

/-- A run emits the executor's calls. -/
theorem JobStep.emitted {env : Env} {now : Int} {w w' : World} {k : Kick} {c : RunWhy}
    {next : Next RunPoint} (h : JobStep env now w k c w' next) :
    ∃ l, w'.history = l ++ w.history ∧ ∀ e ∈ l, e.kind = .charge := by
  cases h with
  | linkCalled settlement attemptNum lastAttemptId linkAttemptId receipt hc hnum hw hn =>
    exact ⟨[_], congrArg Books.history hw, by simp [Event.kind]⟩
  | orderCalled settlement attemptNum attemptId receipt hc hw hn =>
    exact ⟨[_], congrArg Books.history hw, by simp [Event.kind]⟩
  | checkoutCalled settlement attemptNum attemptId providerOrderId hc hw hn =>
    exact ⟨[_], congrArg Books.history hw, by simp [Event.kind]⟩
  | captureLost settlement attemptNum attemptId providerOrderId result paymentId hc hpaid hlost hn =>
    rcases hlost with ⟨hw, -⟩ | ⟨attempt, -, -, -, hw⟩ <;>
      exact ⟨[], congrArg Books.history hw, fun e he => absurd he List.not_mem_nil⟩
  | _ =>
    rename_i hw _
    exact ⟨[], congrArg Books.history hw, fun e he => absurd he List.not_mem_nil⟩

end Hundi
