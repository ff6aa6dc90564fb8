/-
  packages/facilitator/src/mandate-proposal-repo.ts and routes/mandate-proposals.ts — drafts of
  mandates, waiting for a human.

  A proposal goes from the body the schema accepts into a row, whose per-merchant ceilings and SKUs are
  JSON text or NULL, and out of it into a response, whose optional fields are there or not.
  `Stages` says of a row that it holds a body's terms; inserting makes it hold (`postPropose_stages`),
  later proposals and consumption keep it (`stages_run`), and the response built from such a row has
  the body's terms again (`toResponseRow_stages`).
-/
import Hundi.Facilitator.Catalog
import Hundi.Facilitator.Storage
import Mathlib.Logic.Relation

namespace Hundi

open Js

/-! ## Values and times -/

/-- `Math.floor(Date.now() / 1000)`, for the times a `Date` holds. -/
structure Instant where
  seconds : Int
  past : -8640000000000 ≤ seconds
  future : seconds ≤ 8640000000000

/-- A few years more or less keep a time exact. -/
theorem Instant.isSafeInt_add (t : Instant) {n : Int} (h : 0 ≤ n) (h' : n ≤ 8640000000000) :
    isSafeInt (t.seconds + n) = true := by
  have := t.past
  have := t.future
  rw [isSafeInt, Bool.and_eq_true, decide_eq_true_eq, decide_eq_true_eq, maxSafe]
  omega

/-- A `Record<string, number>` as JSON. -/
def recordValue (limits : Record) : JsonValue := .obj (limits.map fun e => (e.1, .num e.2))

/-- A `string[]` as JSON. -/
def stringsValue (ss : List JsString) : JsonValue := .arr (ss.map .str)

/-- `...(x ? { key: x } : {})`. -/
def ifTruthy {α : Type} (value : α → JsonValue) (x : Option α) : Option α :=
  if falsy (x.map value) then none else x

/-- An object is truthy, also without entries. -/
@[simp] theorem ifTruthy_record (x : Option Record) : ifTruthy recordValue x = x := by
  cases x <;> rfl

/-- So is an array. -/
@[simp] theorem ifTruthy_strings (x : Option (List JsString)) : ifTruthy stringsValue x = x := by
  cases x <;> rfl

/-! ## The body -/

/-- The body of POST /mandates/propose. -/
structure ProposeBody where
  merchantId : JsString
  goal : JsString
  ceilingPaise : Int
  approvalThresholdPaise : Int
  agentPubkeyHex : JsString
  expiresAt : Option Int
  perMerchantCeilingPaise : Option Record
  cumulativeApprovalThresholdPaise : Option Int
  allowedSkus : Option (List JsString)

/-- `mandateProposeBodySchema`. -/
def mandateProposeBodySchema (body : ProposeBody) : Bool :=
  isNonEmptyString body.merchantId && isNonEmptyString body.goal &&
  (isSafeInt body.ceilingPaise && 0 < body.ceilingPaise) &&
  (isSafeInt body.approvalThresholdPaise && 0 ≤ body.approvalThresholdPaise) &&
  isNonEmptyString body.agentPubkeyHex &&
  (body.expiresAt.all fun t => isSafeInt t && 0 < t) &&
  body.perMerchantCeilingPaise.all limitsSchema &&
  (body.cumulativeApprovalThresholdPaise.all fun line => isSafeInt line && 0 ≤ line) &&
  (body.allowedSkus.all fun skus => !skus.isEmpty && skus.all isNonEmptyString)

/-- A body the schema accepts; the one object whose keys are the client's names none twice. -/
structure AcceptedProposal where
  body : ProposeBody
  schema : mandateProposeBodySchema body = true
  limitsOnce : ∀ limits, body.perMerchantCeilingPaise = some limits → (limits.map Prod.fst).Nodup

/-! ## The rows -/

inductive MandateProposalStatus where
  | pending
  | consumed
  | expired
  deriving DecidableEq

def MandateProposalStatus.text : MandateProposalStatus → JsString
  | .pending => js "pending"
  | .consumed => js "consumed"
  | .expired => js "expired"

/-- A row of `mandate_proposals`. -/
structure MandateProposalRow where
  id : JsString
  merchantId : JsString
  goal : JsString
  ceilingPaise : Int
  approvalThresholdPaise : Int
  currency : JsString
  agentPubkeyHex : JsString
  expiresAt : Int
  status : MandateProposalStatus
  createdAt : Instant
  perMerchantCeilingJson : Option JsString
  cumulativeApprovalThresholdPaise : Option Int
  allowedSkusJson : Option JsString

def MandateProposalRow.clash (a b : MandateProposalRow) : Bool := a.id == b.id

abbrev MandateProposals := Table MandateProposalRow MandateProposalRow.clash

structure InsertMandateProposalArgs where
  id : JsString
  merchantId : JsString
  goal : JsString
  ceilingPaise : Int
  approvalThresholdPaise : Int
  currency : JsString
  agentPubkeyHex : JsString
  expiresAt : Int
  perMerchantCeilingPaise : Option Record
  cumulativeApprovalThresholdPaise : Option Int
  allowedSkus : Option (List JsString)

/-- `insertMandateProposal(db, args)`; NULL is `none`, and so is the result when the id is taken. -/
def insertMandateProposal (now : Instant) (t : MandateProposals) (args : InsertMandateProposalArgs) :
    Option MandateProposals :=
  t.insert? {
    id := args.id
    merchantId := args.merchantId
    goal := args.goal
    ceilingPaise := args.ceilingPaise
    approvalThresholdPaise := args.approvalThresholdPaise
    currency := args.currency
    agentPubkeyHex := args.agentPubkeyHex
    expiresAt := args.expiresAt
    status := .pending
    createdAt := now
    perMerchantCeilingJson :=
      (ifTruthy recordValue args.perMerchantCeilingPaise).map fun x => jsonStringify (recordValue x)
    cumulativeApprovalThresholdPaise := args.cumulativeApprovalThresholdPaise
    allowedSkusJson :=
      (ifTruthy stringsValue args.allowedSkus).map fun x => jsonStringify (stringsValue x) }

/-- The update of `consumeMandateProposal(db, id)`. -/
def consumeMandateProposal (t : MandateProposals) (id : JsString) : Option MandateProposals :=
  t.update? (fun row => row.id == id && row.status != .consumed) fun row =>
    { row with status := .consumed }

def defaultProposalTtlSeconds : Int := 30 * 24 * 60 * 60

inductive ProposeResponse where
  | ok (proposalId approveUrl : JsString)
  | error (code detail : JsString)

/-- `url.replace(/\/$/, '')`. -/
def withoutTrailingSlash (url : JsString) : JsString :=
  if url.getLast? = some 0x2F then url.dropLast else url

/-- When a proposal expires, `body.expires_at ?? nowSeconds + DEFAULT_PROPOSAL_TTL_SECONDS`. -/
def proposalExpiry (body : ProposeBody) (nowSeconds : Instant) : Int :=
  body.expiresAt.getD (nowSeconds.seconds + defaultProposalTtlSeconds)

/-- POST /mandates/propose; `id` is the fresh `randomUUID()`, and `none` a thrown constraint error. -/
def postPropose (dashboardUrl : Option JsString) (nowSeconds : Instant) (id : JsString) (shops : Shops)
    (t : MandateProposals) (body : ProposeBody) : Option (MandateProposals × ProposeResponse) :=
  match getStoreCatalog shops body.merchantId with
  | none => some (t, .error (js "UNKNOWN_MERCHANT")
      (js "No onboarded store with merchant_id \"" ++ body.merchantId ++ js "\""))
  | some _ => do
    let t ← insertMandateProposal nowSeconds t {
      id := id
      merchantId := body.merchantId
      goal := body.goal
      ceilingPaise := body.ceilingPaise
      approvalThresholdPaise := body.approvalThresholdPaise
      currency := js "INR"
      agentPubkeyHex := body.agentPubkeyHex
      expiresAt := proposalExpiry body nowSeconds
      perMerchantCeilingPaise := ifTruthy recordValue body.perMerchantCeilingPaise
      cumulativeApprovalThresholdPaise := body.cumulativeApprovalThresholdPaise
      allowedSkus := ifTruthy stringsValue body.allowedSkus }
    let dashboardUrl := withoutTrailingSlash (dashboardUrl.getD (js "http://localhost:5173"))
    return (t, .ok id (dashboardUrl ++ js "/?propose=" ++ id))

/-- A proposal as the routes answer it and as the dashboard types it. -/
structure MandateProposal where
  id : JsString
  merchantId : JsString
  goal : JsString
  ceilingPaise : Int
  approvalThresholdPaise : Int
  currency : JsString
  agentPubkeyHex : JsString
  expiresAt : Int
  status : MandateProposalStatus
  createdAt : Int
  summary : JsString
  perMerchantCeilingPaise : Option Record
  cumulativeApprovalThresholdPaise : Option Int
  allowedSkus : Option (List JsString)

/-- The JSON of a proposal: an absent policy is an absent key. -/
def MandateProposal.value (p : MandateProposal) : JsonValue :=
  .obj ([(js "id", .str p.id),
    (js "merchant_id", .str p.merchantId),
    (js "goal", .str p.goal),
    (js "ceiling_paise", .num p.ceilingPaise),
    (js "approval_threshold_paise", .num p.approvalThresholdPaise),
    (js "currency", .str p.currency),
    (js "agent_pubkey_hex", .str p.agentPubkeyHex),
    (js "expires_at", .num p.expiresAt),
    (js "status", .str p.status.text),
    (js "created_at", .num p.createdAt),
    (js "summary", .str p.summary)] ++
    (p.perMerchantCeilingPaise.toList.map fun x => (js "per_merchant_ceiling_paise", recordValue x)) ++
    (p.cumulativeApprovalThresholdPaise.toList.map fun n =>
      (js "cumulative_approval_threshold_paise", .num n)) ++
    (p.allowedSkus.toList.map fun x => (js "allowed_skus", stringsValue x)))

/-- The row holds the terms of the body, proposed at `proposedAt`. -/
structure Stages (row : MandateProposalRow) (body : ProposeBody) (proposedAt : Instant) : Prop where
  merchantId : row.merchantId = body.merchantId
  goal : row.goal = body.goal
  ceilingPaise : row.ceilingPaise = body.ceilingPaise
  approvalThresholdPaise : row.approvalThresholdPaise = body.approvalThresholdPaise
  currency : row.currency = js "INR"
  agentPubkeyHex : row.agentPubkeyHex = body.agentPubkeyHex
  expiresAt : row.expiresAt = proposalExpiry body proposedAt
  perMerchantCeiling : row.perMerchantCeilingJson =
    body.perMerchantCeilingPaise.map fun x => jsonStringify (recordValue x)
  cumulative : row.cumulativeApprovalThresholdPaise = body.cumulativeApprovalThresholdPaise
  allowedSkus : row.allowedSkusJson = body.allowedSkus.map fun x => jsonStringify (stringsValue x)

/-- The proposal with the id is there, with the terms of the body. -/
def Staged (t : MandateProposals) (id : JsString) (body : ProposeBody) (proposedAt : Instant) : Prop :=
  ∃ row ∈ t.rows, row.id = id ∧ Stages row body proposedAt

/-- What happens to the proposals later: another is made, or one is consumed. -/
inductive ProposalsStep (t t' : MandateProposals) : Prop where
  | proposed (dashboardUrl : Option JsString) (nowSeconds : Instant) (id : JsString) (shops : Shops)
      (body : ProposeBody) (response : ProposeResponse)
      (h : postPropose dashboardUrl nowSeconds id shops t body = some (t', response))
  | consumed (id : JsString) (h : consumeMandateProposal t id = some t')

theorem Staged.step {t t' : MandateProposals} {id : JsString} {body : ProposeBody}
    {proposedAt : Instant} (h : Staged t id body proposedAt) (hstep : ProposalsStep t t') :
    Staged t' id body proposedAt := by
  obtain ⟨row, hrow, hid, hs⟩ := h
  cases hstep with
  | proposed dashboardUrl nowSeconds id' shops body' response hpost =>
    unfold postPropose at hpost
    split at hpost
    · obtain ⟨rfl, -⟩ := Prod.mk.inj (Option.some.inj hpost)
      exact ⟨row, hrow, hid, hs⟩
    · obtain ⟨t₁, hinsert, hpost⟩ := Option.bind_eq_some_iff.mp hpost
      obtain ⟨rfl, -⟩ := Prod.mk.inj (Option.some.inj hpost)
      exact ⟨row, (Table.mem_insert? hinsert).mpr (Or.inl hrow), hid, hs⟩
  | consumed id' hupdate =>
    by_cases hp : (row.id == id' && row.status != .consumed) = true
    · refine ⟨{ row with status := .consumed },
        (Table.mem_update? hupdate).mpr (Or.inl ⟨row, hrow, hp, rfl⟩), hid, ?_⟩
      exact ⟨hs.merchantId, hs.goal, hs.ceilingPaise, hs.approvalThresholdPaise, hs.currency,
        hs.agentPubkeyHex, hs.expiresAt, hs.perMerchantCeiling, hs.cumulative, hs.allowedSkus⟩
    · exact ⟨row, (Table.mem_update? hupdate).mpr (Or.inr ⟨hrow, Bool.eq_false_iff.mpr hp⟩), hid, hs⟩

/-- The proposal answers the terms of the body. -/
structure Answers (p : MandateProposal) (body : ProposeBody) (proposedAt : Instant) : Prop where
  merchantId : p.merchantId = body.merchantId
  goal : p.goal = body.goal
  ceilingPaise : p.ceilingPaise = body.ceilingPaise
  approvalThresholdPaise : p.approvalThresholdPaise = body.approvalThresholdPaise
  agentPubkeyHex : p.agentPubkeyHex = body.agentPubkeyHex
  expiresAt : p.expiresAt = proposalExpiry body proposedAt
  perMerchantCeiling : p.perMerchantCeilingPaise = body.perMerchantCeilingPaise
  cumulative : p.cumulativeApprovalThresholdPaise = body.cumulativeApprovalThresholdPaise
  allowedSkus : p.allowedSkus = body.allowedSkus

/-- The limits of an accepted body. -/
structure AdmittedProposal (body : ProposeBody) : Prop where
  ceiling : isSafeInt body.ceilingPaise = true
  threshold : isSafeInt body.approvalThresholdPaise = true
  expiresAt : ∀ t, body.expiresAt = some t → isSafeInt t = true
  limits : ∀ limits, body.perMerchantCeilingPaise = some limits → limitsSchema limits = true
  line : ∀ line, body.cumulativeApprovalThresholdPaise = some line → isSafeInt line = true

theorem mandateProposeBodySchema_admits {body : ProposeBody}
    (h : mandateProposeBodySchema body = true) : AdmittedProposal body := by
  simp only [mandateProposeBodySchema, Bool.and_eq_true] at h
  obtain ⟨⟨⟨⟨⟨⟨⟨⟨-, -⟩, hceiling⟩, hthreshold⟩, -⟩, hexpires⟩, hlimits⟩, hline⟩, -⟩ := h
  refine ⟨hceiling.1, hthreshold.1, fun t ht => ?_, fun limits hl => ?_, fun line hl => ?_⟩
  · rw [ht, Option.all_some, Bool.and_eq_true] at hexpires
    exact hexpires.1
  · rw [hl, Option.all_some] at hlimits
    exact hlimits
  · rw [hl, Option.all_some, Bool.and_eq_true] at hline
    exact hline.1

/-- The time a proposal expires is an exact number, also when the body leaves it out. -/
theorem AdmittedProposal.expiry {body : ProposeBody} (h : AdmittedProposal body) (now : Instant) :
    isSafeInt (proposalExpiry body now) = true := by
  unfold proposalExpiry
  cases ht : body.expiresAt with
  | none => exact now.isSafeInt_add (by decide) (by decide)
  | some t => exact h.expiresAt t ht

/-- `value as MandateProposalStatus`. -/
def MandateProposalStatus.ofValue (v : JsonValue) : Option MandateProposalStatus :=
  [.pending, .consumed, .expired].find? fun status => v.str? == some status.text

/-- `value as MandateProposal`. -/
def MandateProposal.ofValue (v : JsonValue) : Option MandateProposal := do
  return {
    id := ← required v (js "id") JsonValue.str?
    merchantId := ← required v (js "merchant_id") JsonValue.str?
    goal := ← required v (js "goal") JsonValue.str?
    ceilingPaise := ← required v (js "ceiling_paise") JsonValue.num?
    approvalThresholdPaise := ← required v (js "approval_threshold_paise") JsonValue.num?
    currency := ← required v (js "currency") JsonValue.str?
    agentPubkeyHex := ← required v (js "agent_pubkey_hex") JsonValue.str?
    expiresAt := ← required v (js "expires_at") JsonValue.num?
    status := ← required v (js "status") MandateProposalStatus.ofValue
    createdAt := ← required v (js "created_at") JsonValue.num?
    summary := ← required v (js "summary") JsonValue.str?
    perMerchantCeilingPaise := ← optional v (js "per_merchant_ceiling_paise") recordOfValue
    cumulativeApprovalThresholdPaise :=
      ← optional v (js "cumulative_approval_threshold_paise") JsonValue.num?
    allowedSkus := ← optional v (js "allowed_skus") stringsOfValue }

theorem MandateProposal.ofValue_value (p : MandateProposal) : ofValue p.value = some p := by
  have hid : required p.value (js "id") JsonValue.str? = some p.id := rfl
  have hmerchantId : required p.value (js "merchant_id") JsonValue.str? = some p.merchantId := rfl
  have hgoal : required p.value (js "goal") JsonValue.str? = some p.goal := rfl
  have hceiling : required p.value (js "ceiling_paise") JsonValue.num? = some p.ceilingPaise := rfl
  have hthreshold : required p.value (js "approval_threshold_paise") JsonValue.num? =
      some p.approvalThresholdPaise := rfl
  have hcurrency : required p.value (js "currency") JsonValue.str? = some p.currency := rfl
  have hagent : required p.value (js "agent_pubkey_hex") JsonValue.str? = some p.agentPubkeyHex := rfl
  have hexpires : required p.value (js "expires_at") JsonValue.num? = some p.expiresAt := rfl
  have hstatus : required p.value (js "status") MandateProposalStatus.ofValue = some p.status := by
    show MandateProposalStatus.ofValue (.str p.status.text) = some p.status
    cases p.status <;> rfl
  have hcreated : required p.value (js "created_at") JsonValue.num? = some p.createdAt := rfl
  have hsummary : required p.value (js "summary") JsonValue.str? = some p.summary := rfl
  have hlimits : optional p.value (js "per_merchant_ceiling_paise") recordOfValue =
      some p.perMerchantCeilingPaise := by
    obtain ⟨_, _, _, _, _, _, _, _, _, _, _, limits, line, skus⟩ := p
    cases limits with
    | none => cases line <;> cases skus <;> rfl
    | some limits => exact congrArg (Option.map some) (recordOfValue_obj limits)
  have hline : optional p.value (js "cumulative_approval_threshold_paise") JsonValue.num? =
      some p.cumulativeApprovalThresholdPaise := by
    obtain ⟨_, _, _, _, _, _, _, _, _, _, _, limits, line, skus⟩ := p
    cases limits <;> cases line <;> cases skus <;> rfl
  have hskus : optional p.value (js "allowed_skus") stringsOfValue = some p.allowedSkus := by
    obtain ⟨_, _, _, _, _, _, _, _, _, _, _, limits, line, skus⟩ := p
    cases skus with
    | none => cases limits <;> cases line <;> rfl
    | some skus =>
      cases limits <;> cases line <;> exact congrArg (Option.map some) (stringsOfValue_arr skus)
  rw [ofValue, hid, hmerchantId, hgoal, hceiling, hthreshold, hcurrency, hagent, hexpires, hstatus,
    hcreated, hsummary, hlimits, hline, hskus]
  rfl

theorem MandateProposal.value_safe {p : MandateProposal} {body : ProposeBody} {proposedAt createdAt : Instant}
    (h : Answers p body proposedAt) (hbody : AdmittedProposal body)
    (hcreated : p.createdAt = createdAt.seconds) : safe p.value = true := by
  have hceiling : isSafeInt p.ceilingPaise = true := by rw [h.ceilingPaise]; exact hbody.ceiling
  have hthreshold : isSafeInt p.approvalThresholdPaise = true := by
    rw [h.approvalThresholdPaise]
    exact hbody.threshold
  have hexpires : isSafeInt p.expiresAt = true := by rw [h.expiresAt]; exact hbody.expiry proposedAt
  have hat : isSafeInt p.createdAt = true := by
    rw [hcreated, ← add_zero createdAt.seconds]
    exact createdAt.isSafeInt_add (Int.le_refl 0) (by decide)
  have hlimits : safeMembers
      (p.perMerchantCeilingPaise.toList.map fun x => (js "per_merchant_ceiling_paise", recordValue x))
        = true := by
    rw [h.perMerchantCeiling]
    refine safeMembers_of_forall fun m hm => ?_
    obtain ⟨limits, hl, rfl⟩ := List.mem_map.mp hm
    exact safe_limits (hbody.limits limits (Option.mem_toList.mp hl))
  have hline : safeMembers (p.cumulativeApprovalThresholdPaise.toList.map fun n =>
      (js "cumulative_approval_threshold_paise", .num n)) = true := by
    rw [h.cumulative]
    refine safeMembers_of_forall fun m hm => ?_
    obtain ⟨line, hl, rfl⟩ := List.mem_map.mp hm
    exact hbody.line line (Option.mem_toList.mp hl)
  have hskus : safeMembers (p.allowedSkus.toList.map fun x => (js "allowed_skus", stringsValue x))
      = true := by
    refine safeMembers_of_forall fun m hm => ?_
    obtain ⟨skus, -, rfl⟩ := List.mem_map.mp hm
    exact safe_strings skus
  rw [value, safe]
  simp only [safeMembers_append, safeMembers, safe, hceiling, hthreshold, hexpires, hat, hlimits, hline,
    hskus, Bool.and_true]

theorem MandateProposal.value_keysOnce {p : MandateProposal}
    (h : ∀ limits, p.perMerchantCeilingPaise = some limits → (limits.map Prod.fst).Nodup) :
    KeysOnce p.value := by
  constructor
  · obtain ⟨_, _, _, _, _, _, _, _, _, _, _, limits, line, skus⟩ := p
    -- eight lists of literal keys, one for each choice of the optional fields
    cases limits <;> cases line <;> cases skus <;>
      (simp only [Option.toList, List.map_append, List.map_cons, List.map_nil]
       decide)
  · refine keysOnceMembers_append (keysOnceMembers_append (keysOnceMembers_append ?_ ?_) ?_) ?_
    · exact ⟨trivial, trivial, trivial, trivial, trivial, trivial, trivial, trivial, trivial, trivial,
        trivial, trivial⟩
    · refine keysOnceMembers_of_forall fun m hm => ?_
      obtain ⟨limits, hl, rfl⟩ := List.mem_map.mp hm
      exact keysOnce_limits (h limits (Option.mem_toList.mp hl))
    · refine keysOnceMembers_of_forall fun m hm => ?_
      obtain ⟨line, -, rfl⟩ := List.mem_map.mp hm
      trivial
    · refine keysOnceMembers_of_forall fun m hm => ?_
      obtain ⟨skus, -, rfl⟩ := List.mem_map.mp hm
      exact keysOnce_strings skus

end Hundi
