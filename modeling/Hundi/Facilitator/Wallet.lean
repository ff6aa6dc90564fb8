/-
  packages/facilitator/src/routes/read.ts, `GET /mandates` — the balance shown of a mandate.

  The listing sums the captured settlements of all mandates in one query and has its own copy of the
  expiry rule; the gate sums one mandate at a time inside `verifyChain`.  `displayed_wallet_is_enforced`
  says that they agree: on when a mandate is over, and on how much a cart may still cost.
-/
import Hundi.Facilitator.Spending

namespace Hundi

open Js

/-! ## The listing -/

/-- `MandateWalletState`; `error` is for an `intent_json` that does not parse, and ours does. -/
inductive MandateWalletState where
  | active | consumed | expired | revoked
  deriving DecidableEq

structure MandateListing where
  mandateId : JsString
  intent : IntentMandate
  revokedAt : Option Int
  createdAt : Int
  spentPaise : Int
  remainingPaise : Int
  state : MandateWalletState

/-- `getCapturedSpendByMandate(db)`. -/
def getCapturedSpendByMandate (db : Db) : List (JsString × Int) :=
  let rows := (db.settlements.rows.filter fun row => row.state == .captured).map fun row =>
    (row.mandateId, row.amountPaise)
  (Table.groupSum rows).map fun row => (row.1, jsRound row.2)

/-- `CLOCK_SKEW_SEC`. -/
def clockSkewSec : Int := 60

/-- One row of the listing. -/
def enrich (spentByMandate : List (JsString × Int)) (now : Int) (row : MandateRow) : MandateListing :=
  let spentPaise := (spentByMandate.lookup row.mandateId).getD 0
  let remainingPaise := max 0 (jsRound (row.intent.ceilingPaise - spentPaise))
  { mandateId := row.mandateId
    intent := row.intent
    revokedAt := row.revokedAt
    createdAt := row.createdAt
    spentPaise := spentPaise
    remainingPaise := remainingPaise
    state :=
      if row.revokedAt.isSome then .revoked
      else if now > row.intent.expiresAt + clockSkewSec then .expired
      else if remainingPaise ≤ 0 then .consumed
      else .active }

/-- The handler of `GET /mandates` at the clock `now`. -/
def getMandates (db : Db) (now : Int) : List MandateListing :=
  (db.mandates.rows.mergeSort fun a b => decide (b.createdAt ≤ a.createdAt)).map
    (enrich (getCapturedSpendByMandate db) now)

theorem mem_getMandates {db : Db} {now : Int} {listing : MandateListing} :
    listing ∈ getMandates db now ↔
      ∃ m ∈ db.mandates.rows, enrich (getCapturedSpendByMandate db) now m = listing := by
  rw [getMandates, List.mem_map]
  exact exists_congr fun m => and_congr_left' List.mem_mergeSort

theorem lookup_map_snd {κ α β : Type} [BEq κ] (f : α → β) (k : κ) : ∀ l : List (κ × α),
    (l.map fun e => (e.1, f e.2)).lookup k = (l.lookup k).map f
  | [] => rfl
  | (k', a) :: l => by
    rw [List.map_cons, List.lookup_cons, List.lookup_cons]
    cases k == k' with
    | true => rfl
    | false => exact lookup_map_snd f k l

/-- **The grouped sum of a mandate is the sum of the gate.** -/
theorem lookup_getCapturedSpendByMandate (db : Db) (mandateId : JsString) :
    ((getCapturedSpendByMandate db).lookup mandateId).getD 0 = getCapturedSpend db mandateId := by
  have hround : ∀ o : Option Int, (o.map jsRound).getD 0 = jsRound (o.getD 0) := by
    rintro (_ | n)
    · decide
    · rfl
  rw [getCapturedSpendByMandate, lookup_map_snd, hround, getCapturedSpend, Table.lookup_groupSum,
    Table.sum]
  congr 1
  generalize db.settlements.rows = rows
  induction rows with
  | nil => rfl
  | cons row rest ih =>
    rw [List.map_cons, List.sum_cons, ← ih, List.filter_cons, capturedAmount]
    by_cases hcaptured : row.state = .captured
    · by_cases hid : mandateId = row.mandateId
      · simp [hcaptured, hid]
      · have hid' : ¬ row.mandateId = mandateId := fun h => hid h.symm
        simp [hcaptured, hid, hid']
    · simp [hcaptured]

/-! ## What is left of a mandate -/

theorem jsRound_nonpos {n : Int} (h : n ≤ 0) : jsRound n ≤ 0 := by
  rcases Int.lt_or_eq_of_le h with hlt | rfl
  · rw [jsRound, if_pos hlt]
    omega
  · decide

/-- The displayed remainder is exact, however the spend was rounded. -/
theorem remaining_exact {ceiling spent : Int} (hceiling : ceiling ≤ maxSafe) (hspent : 0 ≤ spent) :
    max 0 (jsRound (ceiling - spent)) = max 0 (ceiling - spent) := by
  rcases Int.lt_or_le (ceiling - spent) 0 with hover | hleft
  · have hround := jsRound_nonpos (Int.le_of_lt hover)
    omega
  · rw [jsRound_of_safe hleft (by omega)]

/-! ## The gate -/

/-- The codes of the checks of `verifyChain`, in their order. -/
def checkOrder : List RejectionCode :=
  [.SCHEMA_INVALID, .MANDATE_UNKNOWN, .SIG_INVALID_INTENT, .HASH_LINK_MISMATCH, .SIG_INVALID_CART,
    .LINE_ITEM_INVALID, .PRICE_MISMATCH, .CURRENCY_MISMATCH, .MERCHANT_NOT_IN_SCOPE, .MANDATE_EXPIRED,
    .MANDATE_REVOKED, .GOAL_MISMATCH, .AMOUNT_EXCEEDS_CEILING, .MERCHANT_LIMIT_EXCEEDED,
    .DUPLICATE_CART]

def VerifyResult.Rejects (result : VerifyResult) (code : RejectionCode) : Prop :=
  ∃ detail, result = .fail code detail

/-- None of the checks before that of the code has failed. -/
def VerifyResult.Reaches (result : VerifyResult) (code : RejectionCode) : Prop :=
  ∀ earlier ∈ checkOrder.takeWhile (· ≠ code), ¬ result.Rejects earlier

/-- The gate ends in one of its checks on form and signatures, or as the checks on policy say. -/
theorem verifyChain_result {crypto : Crypto} {intent : IntentMandate} {cart : CartMandate}
    {ctx : VerifyCtx} {result : VerifyResult}
    (h : verifyChain crypto intent cart ctx = .ok result) :
    (∃ code ∈ checkOrder.takeWhile (· ≠ .PRICE_MISMATCH), result.Rejects code) ∨
    (validateIntentSchema intent = none ∧ validateCartSchema cart = none ∧
      recomputedTotal cart.items = cart.totalPaise ∧
      ((∃ code detail, verifyPolicy intent cart ctx = some (code, detail) ∧
          result = .fail code detail) ∨
        verifyPolicy intent cart ctx = none ∧ ∃ approval hash, result = .ok approval hash)) := by
  have hfail : ∀ {code : RejectionCode} {detail : Option JsString},
      (.ok (.fail code detail) : Except Exn VerifyResult) = .ok result →
      code ∈ checkOrder.takeWhile (· ≠ .PRICE_MISMATCH) →
      ∃ code ∈ checkOrder.takeWhile (· ≠ .PRICE_MISMATCH), result.Rejects code := by
    intro code detail heq hcode
    obtain rfl := Except.ok.inj heq
    exact ⟨code, hcode, detail, rfl⟩
  unfold verifyChain at h
  split at h
  · exact Or.inl (hfail h (by decide))
  rename_i hintent
  split at h
  · exact Or.inl (hfail h (by decide))
  rename_i hcart
  split at h
  · exact Or.inl (hfail h (by decide))
  rw [bind_eq_ok] at h
  obtain ⟨intentBytes, -, h⟩ := h
  rw [bind_eq_ok] at h
  obtain ⟨intentSigned, -, h⟩ := h
  split at h
  · exact Or.inl (hfail h (by decide))
  simp only at h
  split at h
  · exact Or.inl (hfail h (by decide))
  rw [bind_eq_ok] at h
  obtain ⟨cartBytes, -, h⟩ := h
  rw [bind_eq_ok] at h
  obtain ⟨cartSigned, -, h⟩ := h
  split at h
  · exact Or.inl (hfail h (by decide))
  split at h
  · exact Or.inl (hfail h (by decide))
  rename_i htotal
  refine Or.inr ⟨hintent, hcart, by simpa using htotal, ?_⟩
  split at h
  · rename_i code detail hpolicy
    exact Or.inl ⟨code, detail, hpolicy, (Except.ok.inj h).symm⟩
  · rename_i hpolicy
    rw [bind_eq_ok] at h
    obtain ⟨hash, -, h⟩ := h
    exact Or.inr ⟨hpolicy, _, hash, (Except.ok.inj h).symm⟩

/-- Which check on policy fails first, as far as the expiry and the ceiling are concerned. -/
theorem verifyPolicy_some {intent : IntentMandate} {cart : CartMandate} {ctx : VerifyCtx}
    {code : RejectionCode} {detail : Option JsString}
    (h : verifyPolicy intent cart ctx = some (code, detail)) :
    code ∈ [.PRICE_MISMATCH, .CURRENCY_MISMATCH, .MERCHANT_NOT_IN_SCOPE] ∨
    (code = .MANDATE_EXPIRED ∧ ctx.now > intent.expiresAt + ctx.clockSkewSec.getD 60) ∨
    (ctx.now ≤ intent.expiresAt + ctx.clockSkewSec.getD 60 ∧
      (code ∈ [.MANDATE_REVOKED, .GOAL_MISMATCH] ∨
        (code = .AMOUNT_EXCEEDS_CEILING ∧
          jsAdd (ctx.spentPaise.getD 0) cart.totalPaise > intent.ceilingPaise) ∨
        (jsAdd (ctx.spentPaise.getD 0) cart.totalPaise ≤ intent.ceilingPaise ∧
          code ∈ [.MERCHANT_LIMIT_EXCEEDED, .DUPLICATE_CART]))) := by
  simp only [verifyPolicy, Option.orElse_eq_orElse, Option.orElse_eq_or, Option.or_eq_some_iff,
    Option.map_eq_some_iff, Option.bind_eq_some_iff, returnIf_eq_some, returnIf_eq_none,
    Prod.mk.injEq, decide_eq_true_eq, decide_eq_false_iff_not, not_lt, gt_iff_lt] at h
  rcases h with ⟨item, -, rfl, -⟩ | ⟨-, h⟩
  · exact Or.inl (by decide)
  rcases h with ⟨-, rfl, -⟩ | ⟨-, h⟩
  · exact Or.inl (by decide)
  rcases h with ⟨-, rfl, -⟩ | ⟨-, h⟩
  · exact Or.inl (by decide)
  rcases h with ⟨hexpired, rfl, -⟩ | ⟨hlive, h⟩
  · exact Or.inr (Or.inl ⟨rfl, hexpired⟩)
  refine Or.inr (Or.inr ⟨hlive, ?_⟩)
  rcases h with ⟨-, rfl, -⟩ | ⟨-, h⟩
  · exact Or.inl (by decide)
  rcases h with ⟨-, -, -, -, rfl, -⟩ | ⟨-, h⟩
  · exact Or.inl (by decide)
  rcases h with ⟨hover, rfl, -⟩ | ⟨hfits, h⟩
  · exact Or.inr (Or.inl ⟨rfl, hover⟩)
  refine Or.inr (Or.inr ⟨hfits, ?_⟩)
  rcases h with ⟨-, -, -, rfl, -⟩ | ⟨-, -, rfl, -⟩
  · decide
  · decide

/-- **The gate says "expired" when the mandate is past its expiry and the grace period**, of a cart
    that passes the checks before. -/
theorem rejects_expired_iff {crypto : Crypto} {intent : IntentMandate} {cart : CartMandate}
    {ctx : VerifyCtx} {result : VerifyResult} (h : verifyChain crypto intent cart ctx = .ok result)
    (hreaches : result.Reaches .MANDATE_EXPIRED) :
    result.Rejects .MANDATE_EXPIRED ↔ ctx.now > intent.expiresAt + ctx.clockSkewSec.getD 60 := by
  rcases verifyChain_result h with ⟨code, hcode, hrejects⟩ | ⟨-, -, -, hpolicy⟩
  · exact absurd hrejects (hreaches code (by revert hcode; cases code <;> decide))
  rcases hpolicy with ⟨code, detail, hsome, rfl⟩ | ⟨hnone, approval, hash, rfl⟩
  · have hthis : ∀ {c : RejectionCode}, (VerifyResult.fail code detail).Rejects c ↔ code = c :=
      ⟨fun ⟨_, heq⟩ => (VerifyResult.fail.inj heq).1, fun heq => ⟨detail, by rw [heq]⟩⟩
    rw [hthis]
    rcases verifyPolicy_some hsome with hearlier | ⟨rfl, hexpired⟩ | ⟨hlive, hlater⟩
    · exact absurd (hthis.mpr rfl) (hreaches code (by revert hearlier; cases code <;> decide))
    · exact ⟨fun _ => hexpired, fun _ => rfl⟩
    · refine ⟨?_, fun hexpired => absurd hexpired (by omega)⟩
      rintro rfl
      rcases hlater with hmem | ⟨hamount, -⟩ | ⟨-, hmem⟩
      · exact absurd hmem (by decide)
      · exact nomatch hamount
      · exact absurd hmem (by decide)
  · have hlive := (verifyPolicy_none hnone).2.2.2.1
    exact ⟨fun ⟨_, heq⟩ => (nomatch heq), fun hexpired => absurd hexpired (by omega)⟩

/-- **The gate says "exceeds the ceiling" when spend and total together do**, of a cart that passes
    the checks before. -/
theorem rejects_ceiling_iff {crypto : Crypto} {intent : IntentMandate} {cart : CartMandate}
    {ctx : VerifyCtx} {result : VerifyResult} (h : verifyChain crypto intent cart ctx = .ok result)
    (hreaches : result.Reaches .AMOUNT_EXCEEDS_CEILING) :
    (result.Rejects .AMOUNT_EXCEEDS_CEILING ↔
      jsAdd (ctx.spentPaise.getD 0) cart.totalPaise > intent.ceilingPaise) ∧
    validateIntentSchema intent = none ∧ validateCartSchema cart = none ∧
    recomputedTotal cart.items = cart.totalPaise := by
  rcases verifyChain_result h with ⟨code, hcode, hrejects⟩ | ⟨hintent, hcart, htotal, hpolicy⟩
  · exact absurd hrejects (hreaches code (by revert hcode; cases code <;> decide))
  refine ⟨?_, hintent, hcart, htotal⟩
  rcases hpolicy with ⟨code, detail, hsome, rfl⟩ | ⟨hnone, approval, hash, rfl⟩
  · have hthis : ∀ {c : RejectionCode}, (VerifyResult.fail code detail).Rejects c ↔ code = c :=
      ⟨fun ⟨_, heq⟩ => (VerifyResult.fail.inj heq).1, fun heq => ⟨detail, by rw [heq]⟩⟩
    rw [hthis]
    rcases verifyPolicy_some hsome with hearlier | ⟨rfl, -⟩ | ⟨-, hmem | ⟨rfl, hover⟩ | ⟨hfits, hmem⟩⟩
    · exact absurd (hthis.mpr rfl) (hreaches code (by revert hearlier; cases code <;> decide))
    · exact absurd (hthis.mpr rfl) (hreaches _ (by decide))
    · exact absurd (hthis.mpr rfl) (hreaches code (by revert hmem; cases code <;> decide))
    · exact ⟨fun _ => hover, fun _ => rfl⟩
    · refine ⟨?_, fun hover => absurd hover (by omega)⟩
      rintro rfl
      exact absurd hmem (by decide)
  · have hfits := (verifyPolicy_none hnone).2.2.2.2.2.2.1
    exact ⟨fun ⟨_, heq⟩ => (nomatch heq), fun hover => absurd hover (by omega)⟩

/-- The quantities and prices of valid items are positive. -/
theorem validateItems_pos : ∀ {items : List CartItem} {i : Nat}, validateItems items i = none →
    ∀ item ∈ items, 0 < item.qty ∧ 0 < item.unitPricePaise
  | [], _, _, item, hitem => absurd hitem List.not_mem_nil
  | first :: rest, i, h, item, hitem => by
    rw [validateItems, Option.orElse_eq_orElse, Option.orElse_eq_or, Option.or_eq_none_iff] at h
    obtain ⟨hfirst, hrest⟩ := h
    rcases List.mem_cons.mp hitem with rfl | hitem
    · simp only [validateCartItemSchema, Option.orElse_eq_orElse, Option.orElse_eq_or,
        Option.or_eq_none_iff, returnIf_eq_none, Bool.or_eq_false_iff, decide_eq_false_iff_not,
        not_lt, not_le] at hfirst
      obtain ⟨-, hqty, hprice, -⟩ := hfirst
      exact ⟨by omega, by omega⟩
    · exact validateItems_pos hrest item hitem

/-- **A valid cart costs something.** -/
theorem total_pos {cart : CartMandate} (hcart : validateCartSchema cart = none)
    (htotal : recomputedTotal cart.items = cart.totalPaise) : 0 < cart.totalPaise := by
  obtain ⟨hsafe, -, hitems⟩ := validateCartSchema_none hcart
  have hexact := recomputedTotal_exact hitems (by rw [htotal]; exact le_maxSafe hsafe)
  simp only [validateCartSchema, Option.orElse_eq_orElse, Option.orElse_eq_or,
    Option.or_eq_none_iff, returnIf_eq_none] at hcart
  obtain ⟨-, -, hnonempty, hvalid, -⟩ := hcart
  rw [← htotal, hexact]
  cases hlist : cart.items with
  | nil => rw [hlist] at hnonempty; exact nomatch hnonempty
  | cons item rest =>
    rw [hlist] at hvalid hitems
    have hpos : 0 < item.qty * item.unitPricePaise :=
      Int.mul_pos (validateItems_pos hvalid item List.mem_cons_self).1
        (validateItems_pos hvalid item List.mem_cons_self).2
    have hrest : 0 ≤ (rest.map fun item => item.qty * item.unitPricePaise).sum := by
      refine List.sum_nonneg fun x hx => ?_
      obtain ⟨it, hit, rfl⟩ := List.mem_map.mp hx
      have hnonneg := hitems it (List.mem_cons_of_mem _ hit)
      exact Int.mul_nonneg hnonneg.1 hnonneg.2
    rw [List.map_cons, List.sum_cons]
    omega

/-! ## The displayed and the enforced wallet -/

/-- What the listing of a mandate says, in the gate's terms. -/
structure MandateListing.Enforced (env : Env) (db : Db) (now : Int) (m : MandateRow)
    (listing : MandateListing) : Prop where
  expired : ∀ cart exclude ctx hash result,
    buildVerifyCtx env.crypto db m.intent cart now exclude = .ok (ctx, hash) →
    verifyChain env.crypto m.intent cart ctx = .ok result → result.Reaches .MANDATE_EXPIRED →
    (listing.state = .expired ↔ result.Rejects .MANDATE_EXPIRED)
  remaining : ∀ cart exclude ctx hash result,
    buildVerifyCtx env.crypto db m.intent cart now exclude = .ok (ctx, hash) →
    verifyChain env.crypto m.intent cart ctx = .ok result → result.Reaches .AMOUNT_EXCEEDS_CEILING →
    (result.Rejects .AMOUNT_EXCEEDS_CEILING ↔ cart.totalPaise > listing.remainingPaise)
  consumed : listing.state ≠ .expired → (listing.remainingPaise = 0 ↔ listing.state = .consumed)

theorem enrich_enforced {env : Env} {db : Db} {now : Int} {m : MandateRow}
    (hlive : m.revokedAt = none) (hid : m.mandateId = m.intent.mandateId)
    (hspent : 0 ≤ getCapturedSpend db m.mandateId) :
    (enrich (getCapturedSpendByMandate db) now m).Enforced env db now m := by
  have hstate : (enrich (getCapturedSpendByMandate db) now m).state =
      if now > m.intent.expiresAt + 60 then .expired
      else if (enrich (getCapturedSpendByMandate db) now m).remainingPaise ≤ 0 then .consumed
      else .active := by
    rw [enrich, hlive]
    rfl
  have hremaining : (enrich (getCapturedSpendByMandate db) now m).remainingPaise =
      max 0 (jsRound (m.intent.ceilingPaise - getCapturedSpend db m.mandateId)) := by
    rw [enrich, lookup_getCapturedSpendByMandate]
  constructor
  case expired =>
    intro cart exclude ctx hash result hctx hresult hreaches
    have hread := (buildVerifyCtx_ok hctx).1
    rw [rejects_expired_iff hresult hreaches, hread.now, hread.skew, hstate]
    split
    · rename_i hexpired
      exact ⟨fun _ => hexpired, fun _ => rfl⟩
    · rename_i hexpired
      refine ⟨fun h => ?_, fun h => absurd h hexpired⟩
      split at h <;> exact nomatch h
  case remaining =>
    intro cart exclude ctx hash result hctx hresult hreaches
    have hread := (buildVerifyCtx_ok hctx).1
    obtain ⟨hiff, hintent, hcart, htotal⟩ := rejects_ceiling_iff hresult hreaches
    have hceiling := le_maxSafe (validateIntentSchema_none hintent).ceiling
    have hpos := total_pos hcart htotal
    rw [hiff, hread.spent, ← hid, Option.getD_some,
      jsAdd_gt_iff hspent (Int.le_of_lt hpos) hceiling, hremaining, remaining_exact hceiling hspent]
    omega
  case consumed =>
    intro hnot
    have hzero : 0 ≤ (enrich (getCapturedSpendByMandate db) now m).remainingPaise := by
      rw [hremaining]
      exact le_max_left _ _
    rw [hstate] at hnot ⊢
    split at hnot
    · exact absurd rfl hnot
    · rename_i hexpired
      rw [if_neg hexpired]
      split
      · exact ⟨fun _ => rfl, fun _ => by omega⟩
      · exact ⟨fun _ => by omega, fun h => nomatch h⟩

/-- **The displayed wallet equals the enforced wallet.**  In every reachable state and at every
    clock, `GET /mandates` lists each mandate once; and if the mandate is not revoked, its listing
    says `expired` exactly when the gate would, its remainder is what the gate lets a cart cost, and
    it says `consumed` exactly when nothing remains. -/
theorem displayed_wallet_is_enforced {env : Env} {s : Sys} (h : Reachable env s) {m : MandateRow}
    (hm : m ∈ s.world.db.mandates.rows) (hlive : m.revokedAt = none) (now : Int) :
    ∃ listing ∈ getMandates s.world.db now, listing.mandateId = m.mandateId ∧
      (∀ other ∈ getMandates s.world.db now, other.mandateId = m.mandateId → other = listing) ∧
      listing.Enforced env s.world.db now m := by
  have hsound := h.sound
  refine ⟨_, mem_getMandates.mpr ⟨m, hm, rfl⟩, rfl, fun other hother hid => ?_, ?_⟩
  · obtain ⟨m', hm', rfl⟩ := mem_getMandates.mp hother
    rw [mandate_eq hm' hm hid]
  · refine enrich_enforced hlive (hsound.mandate m hm).id (jsRound_nonneg ?_)
    rw [capturedAmount_eq]
    exact spent_nonneg hsound

/-- A mandate with a captured purchase, and its listing. -/
theorem displayed_wallet_is_enforced_demo : ∃ (s : Sys) (m : MandateRow) (listing : MandateListing),
    m ∈ s.world.db.mandates.rows ∧ 0 < getCapturedSpend s.world.db m.mandateId ∧
    listing ∈ getMandates s.world.db 1000 ∧ listing.Enforced demoEnv s.world.db 1000 m := by
  obtain ⟨s, hreach, hp⟩ := reachable_of_run demoEnv
    (demoCheckout ++
      [.resumeJob (.checkout (.ok ⟨true, some (js "p1"), some (js "captured"), none⟩))])
    (fun s => s.world.db.mandates.rows.any fun m =>
      m.revokedAt.isNone && decide (0 < getCapturedSpend s.world.db m.mandateId)) (by decide +kernel)
  obtain ⟨m, hm, hp⟩ := List.any_eq_true.mp hp
  rw [Bool.and_eq_true, Option.isNone_iff_eq_none, decide_eq_true_eq] at hp
  obtain ⟨listing, hlisting, -, -, henforced⟩ := displayed_wallet_is_enforced hreach hm hp.1 1000
  exact ⟨s, m, listing, hm, hp.2, hlisting, henforced⟩

end Hundi
