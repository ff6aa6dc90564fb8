/-
  packages/mcp-server/src/tools/get-agent-identity.ts — what an agent is told of its wallets.

  The tool lists the mandates that authorize the agent's key, each with the facilitator's accounting, and
  tells the agent to plan with it.  So what it tells must keep: between two calls the facilitator may do
  anything, but

  1. a wallet is never lost: `authorizing_kept` (rows stay, and the intent of a row stays);
  2. what is spent only grows: `spent_step`, one step as a move of the allowance, and `spent_run`;
  3. a wallet only closes: `MandateWalletState.rank` never falls (`state_closes`).

  `wallet_only_shrinks` puts them together; what is captured between the calls fits what was told to
  remain.
-/
import Hundi.Facilitator.Revocation
import Hundi.Facilitator.Wallet

namespace Hundi

open Js EventLoop

/-! ## The tool -/

/-- An entry of `authorizing_mandates`. -/
structure AuthorizingMandate where
  mandateId : JsString
  goal : JsString
  ceilingPaise : Int
  approvalThresholdPaise : Int
  spentPaise : Int
  remainingPaise : Int
  remainingDisplay : JsString
  state : MandateWalletState
  merchants : List JsString
  expiresAt : Int
  revoked : Bool

def authorizingMandate (formatRupees : Int → JsString) (m : MandateListing) : AuthorizingMandate where
  mandateId := m.mandateId
  goal := m.intent.goal
  ceilingPaise := m.intent.ceilingPaise
  approvalThresholdPaise := m.intent.approvalThresholdPaise
  spentPaise := m.spentPaise
  remainingPaise := m.remainingPaise
  remainingDisplay := formatRupees m.remainingPaise
  state := m.state
  merchants := m.intent.merchants
  expiresAt := m.intent.expiresAt
  revoked := m.revokedAt.isSome

structure AgentIdentity where
  agentPublicKeyHex : JsString
  authorizingMandates : List AuthorizingMandate
  mandateLookupError : Option JsString

/-- The handler of get_agent_identity on what `listMandates()` gave, or the message of what it threw. -/
def getAgentIdentity (formatRupees : Int → JsString) (publicKeyHex : JsString)
    (listed : Except JsString (List MandateListing)) : AgentIdentity :=
  let mandates := listed.toOption.getD []
  { agentPublicKeyHex := publicKeyHex
    authorizingMandates :=
      (mandates.filter fun m => m.intent.agentPubkeyHex == publicKeyHex).map
        (authorizingMandate formatRupees)
    mandateLookupError := match listed with
      | .ok _ => none
      | .error message => some message }

/-! ## What is spent only grows -/

/-- The mandate's spend and hold, as an allowance, make a move, or stay. -/
theorem allowance_step {env : Env} {s s' : Sys} {a : Act} (hreach : Reachable env s)
    (h : sysStep env s a = some s') {m : MandateRow} (hm : m ∈ s.world.db.mandates.rows) :
    (allowance s.world.db.settlements m.mandateId none m.intent.ceilingPaise).Step
      (allowance s'.world.db.settlements m.mandateId none m.intent.ceilingPaise) := by
  cases (facilitatorSpec env).moved h with
  | stays h =>
    rw [h]
    exact .stay
  | task c next hmove h => exact taskStep_allowance h
  | job k c next hmove h => exact jobStep_allowance h hreach.sound hm rfl

theorem spent_step {env : Env} {s s' : Sys} {a : Act} (hreach : Reachable env s)
    (h : sysStep env s a = some s') {m : MandateRow} (hm : m ∈ s.world.db.mandates.rows) :
    spent s.world.db.settlements m.mandateId none ≤ spent s'.world.db.settlements m.mandateId none :=
  (allowance_step hreach h hm).spent_mono (held_nonneg hreach.sound)

/-- **What is spent only grows**, whatever happens. -/
theorem spent_run {env : Env} {s t : Sys} (hreach : Reachable env s)
    (r : Run (facilitator env) anyStep s t) {m : MandateRow} (hm : m ∈ s.world.db.mandates.rows) :
    spent s.world.db.settlements m.mandateId none ≤ spent t.world.db.settlements m.mandateId none := by
  induction r with
  | refl => exact le_refl _
  | @tail u v a r hok hstep ih =>
    obtain ⟨m', hm', hkept⟩ := (persists_run r).mandates m hm
    have hgrows := spent_step (hreach.trans r) hstep hm'
    rw [hkept.id] at hgrows
    exact ih.trans hgrows

/-! ## What is told is exact -/

/-- The ceiling of a registered mandate is an exact number. -/
theorem MandateSound.ceiling_safe {crypto : Crypto} {m : MandateRow} (h : MandateSound crypto m) :
    m.intent.ceilingPaise ≤ maxSafe := by
  have hschema := h.schema
  simp only [intentMandateSchema, Bool.and_eq_true] at hschema
  obtain ⟨⟨⟨⟨⟨⟨⟨⟨⟨⟨-, hceiling⟩, -⟩, -⟩, -⟩, -⟩, -⟩, -⟩, -⟩, -⟩, -⟩ := hschema
  exact le_maxSafe hceiling.1

/-- The accounting of a listing is that of the table, unrounded. -/
theorem enrich_exact {env : Env} {s : Sys} (hreach : Reachable env s) {m : MandateRow}
    (hm : m ∈ s.world.db.mandates.rows) (now : Int) :
    (enrich (getCapturedSpendByMandate s.world.db) now m).spentPaise
        = spent s.world.db.settlements m.mandateId none ∧
      (enrich (getCapturedSpendByMandate s.world.db) now m).remainingPaise
        = m.intent.ceilingPaise - spent s.world.db.settlements m.mandateId none ∧
      spent s.world.db.settlements m.mandateId none ≤ m.intent.ceilingPaise := by
  have hsafe := (hreach.sound.mandate m hm).ceiling_safe
  have hnonneg : 0 ≤ spent s.world.db.settlements m.mandateId none := spent_nonneg hreach.sound
  have hheld : 0 ≤ held s.world.db.settlements m.mandateId none := held_nonneg hreach.sound
  have hwithin : spent s.world.db.settlements m.mandateId none +
      held s.world.db.settlements m.mandateId none ≤ m.intent.ceilingPaise :=
    hreach.withinLimits m hm none _ rfl
  have hspent : (enrich (getCapturedSpendByMandate s.world.db) now m).spentPaise
      = spent s.world.db.settlements m.mandateId none := by
    show ((getCapturedSpendByMandate s.world.db).lookup m.mandateId).getD 0 = _
    rw [lookup_getCapturedSpendByMandate, getCapturedSpend, capturedAmount_eq]
    have hbound : spent s.world.db.settlements m.mandateId none ≤ maxSafe := by omega
    exact jsRound_of_safe hnonneg hbound
  refine ⟨hspent, ?_, by omega⟩
  show max 0 (jsRound (m.intent.ceilingPaise -
    (enrich (getCapturedSpendByMandate s.world.db) now m).spentPaise)) = _
  rw [hspent, remaining_exact hsafe hnonneg]
  omega

/-! ## A wallet only closes -/

/-- The states of a wallet in the order in which they are left. -/
def MandateWalletState.rank : MandateWalletState → Nat
  | .active => 0
  | .consumed => 1
  | .expired => 2
  | .revoked => 3

theorem MandateWalletState.rank_le (state : MandateWalletState) : state.rank ≤ 3 := by
  cases state <;> decide

theorem state_closes {spends spends' : List (JsString × Int)} {now now' : Int} {m m' : MandateRow}
    (hkept : MandateKept m m') (hnow : now ≤ now')
    (hremaining : (enrich spends' now' m').remainingPaise ≤ (enrich spends now m).remainingPaise) :
    (enrich spends now m).state.rank ≤ (enrich spends' now' m').state.rank := by
  have hrevoked := hkept.revoked
  have hexpires : m'.intent.expiresAt = m.intent.expiresAt := by rw [hkept.intent]
  show MandateWalletState.rank (if m.revokedAt.isSome then .revoked
      else if now > m.intent.expiresAt + clockSkewSec then .expired
      else if (enrich spends now m).remainingPaise ≤ 0 then .consumed else .active) ≤
    MandateWalletState.rank (if m'.revokedAt.isSome then .revoked
      else if now' > m'.intent.expiresAt + clockSkewSec then .expired
      else if (enrich spends' now' m').remainingPaise ≤ 0 then .consumed else .active)
  by_cases hrev' : m'.revokedAt.isSome = true
  · rw [if_pos hrev']
    exact MandateWalletState.rank_le _
  · rw [if_neg hrev', if_neg fun h => hrev' (hrevoked h)]
    by_cases hexp : now > m.intent.expiresAt + clockSkewSec
    · rw [if_pos hexp, if_pos (by rw [hexpires]; omega)]
    · rw [if_neg hexp]
      by_cases hcons : (enrich spends now m).remainingPaise ≤ 0
      · rw [if_pos hcons]
        split
        · decide
        · rw [if_pos (by omega)]
      · rw [if_neg hcons]
        exact Nat.zero_le _

/-! ## Between two calls -/

theorem mem_authorizingMandates {formatRupees : Int → JsString} {key : JsString} {db : Db} {now : Int}
    {e : AuthorizingMandate} :
    e ∈ (getAgentIdentity formatRupees key (.ok (getMandates db now))).authorizingMandates ↔
      ∃ m ∈ db.mandates.rows, m.intent.agentPubkeyHex = key ∧
        authorizingMandate formatRupees (enrich (getCapturedSpendByMandate db) now m) = e := by
  show e ∈ ((getMandates db now).filter fun m => m.intent.agentPubkeyHex == key).map
    (authorizingMandate formatRupees) ↔ _
  rw [List.mem_map]
  constructor
  · rintro ⟨listing, hlisting, rfl⟩
    rw [List.mem_filter, beq_iff_eq] at hlisting
    obtain ⟨m, hm, rfl⟩ := mem_getMandates.mp hlisting.1
    exact ⟨m, hm, hlisting.2, rfl⟩
  · rintro ⟨m, hm, hkey, rfl⟩
    refine ⟨_, List.mem_filter.mpr ⟨mem_getMandates.mpr ⟨m, hm, rfl⟩, ?_⟩, rfl⟩
    exact beq_iff_eq.mpr hkey

/-- What an entry of a later call is to one of an earlier call. -/
structure Shrunk (e e' : AuthorizingMandate) : Prop where
  mandateId : e'.mandateId = e.mandateId
  goal : e'.goal = e.goal
  ceiling : e'.ceilingPaise = e.ceilingPaise
  threshold : e'.approvalThresholdPaise = e.approvalThresholdPaise
  merchants : e'.merchants = e.merchants
  expiresAt : e'.expiresAt = e.expiresAt
  spent : e.spentPaise ≤ e'.spentPaise
  /-- What was captured in between fits what was told to remain. -/
  fits : e'.spentPaise - e.spentPaise ≤ e.remainingPaise
  remaining : e'.remainingPaise ≤ e.remainingPaise
  state : e.state.rank ≤ e'.state.rank
  revoked : e.revoked = true → e'.revoked = true

/-- **A wallet only shrinks.**  What get_agent_identity tells of a mandate adds up to its ceiling; and
    whatever the facilitator does until a later call, the mandate is told again, once, with the same terms,
    with no less spent and no more remaining, and in no earlier of the states active, consumed, expired and
    revoked; what was captured in between fits what remained. -/
theorem wallet_only_shrinks {env : Env} {u v : Sys} (hreach : Reachable env u)
    (r : Run (facilitator env) anyStep u v) {now now' : Int} (hnow : now ≤ now')
    {formatRupees : Int → JsString} {key : JsString} {e : AuthorizingMandate}
    (he : e ∈ (getAgentIdentity formatRupees key
      (.ok (getMandates u.world.db now))).authorizingMandates) :
    e.spentPaise + e.remainingPaise = e.ceilingPaise ∧ 0 ≤ e.spentPaise ∧ 0 ≤ e.remainingPaise ∧
    ∃ e' ∈ (getAgentIdentity formatRupees key (.ok (getMandates v.world.db now'))).authorizingMandates,
      Shrunk e e' ∧
      ∀ other ∈ (getAgentIdentity formatRupees key
        (.ok (getMandates v.world.db now'))).authorizingMandates,
        other.mandateId = e.mandateId → other = e' := by
  obtain ⟨m, hm, hkey, rfl⟩ := mem_authorizingMandates.mp he
  obtain ⟨m', hm', hkept⟩ := (persists_run r).mandates m hm
  have hreach' : Reachable env v := hreach.trans r
  obtain ⟨hspent, hremaining, hwithin⟩ := enrich_exact hreach hm now
  obtain ⟨hspent', hremaining', hwithin'⟩ := enrich_exact hreach' hm' now'
  have hnonneg : 0 ≤ spent u.world.db.settlements m.mandateId none := spent_nonneg hreach.sound
  have hgrows := spent_run hreach r hm
  rw [hkept.id, hkept.intent] at hremaining' hwithin'
  rw [hkept.id] at hspent'
  -- the accounting of both calls, in terms of the tables
  have hspentTold : (authorizingMandate formatRupees
      (enrich (getCapturedSpendByMandate u.world.db) now m)).spentPaise = _ := hspent
  have hremainingTold : (authorizingMandate formatRupees
      (enrich (getCapturedSpendByMandate u.world.db) now m)).remainingPaise = _ := hremaining
  have hspentTold' : (authorizingMandate formatRupees
      (enrich (getCapturedSpendByMandate v.world.db) now' m')).spentPaise = _ := hspent'
  have hremainingTold' : (authorizingMandate formatRupees
      (enrich (getCapturedSpendByMandate v.world.db) now' m')).remainingPaise = _ := hremaining'
  have hkey' : m'.intent.agentPubkeyHex = key := by
    rw [hkept.intent]
    exact hkey
  refine ⟨?_, ?_, ?_, _, mem_authorizingMandates.mpr ⟨m', hm', hkey', rfl⟩, ?_, ?_⟩
  · rw [hspentTold, hremainingTold]
    show _ = m.intent.ceilingPaise
    omega
  · rw [hspentTold]
    exact hnonneg
  · rw [hremainingTold]
    omega
  · have hsame : m'.intent = m.intent := hkept.intent
    constructor
    case mandateId => exact hkept.id
    case goal => exact congrArg IntentMandate.goal hsame
    case ceiling => exact congrArg IntentMandate.ceilingPaise hsame
    case threshold => exact congrArg IntentMandate.approvalThresholdPaise hsame
    case merchants => exact congrArg IntentMandate.merchants hsame
    case expiresAt => exact congrArg IntentMandate.expiresAt hsame
    case spent =>
      rw [hspentTold, hspentTold']
      exact hgrows
    case fits =>
      rw [hspentTold, hspentTold', hremainingTold]
      omega
    case remaining =>
      rw [hremainingTold, hremainingTold']
      omega
    case state =>
      apply state_closes hkept hnow
      rw [hremaining, hremaining']
      omega
    case revoked => exact hkept.revoked
  · intro other hother hid
    obtain ⟨m'', hm'', -, rfl⟩ := mem_authorizingMandates.mp hother
    have hids : m''.mandateId = m'.mandateId := Eq.trans hid hkept.id.symm
    rw [mandate_eq hm'' hm' hids]

/-- The wallet of the demo agent before and after its purchase of 400. -/
theorem wallet_only_shrinks_demo : ∃ (u v : Sys) (e e' : AuthorizingMandate), Reachable demoEnv u ∧
    e ∈ (getAgentIdentity (fun _ => []) (js "aa")
      (.ok (getMandates u.world.db 1000))).authorizingMandates ∧
    e' ∈ (getAgentIdentity (fun _ => []) (js "aa")
      (.ok (getMandates v.world.db 1001))).authorizingMandates ∧
    spent v.world.db.settlements e.mandateId none = 400 ∧ Shrunk e e' := by
  obtain ⟨u, hreach, hp⟩ := reachable_of_run demoEnv demoCheckout
    (fun (s : Sys) => s.world.db.mandates.rows.any fun m => m.intent.agentPubkeyHex == js "aa" &&
      (sysStep demoEnv s
        (.resumeJob (.checkout (.ok ⟨true, some (js "p1"), some (js "captured"), none⟩)))).any fun t =>
          spent t.world.db.settlements m.mandateId none == 400)
    (by decide +kernel)
  obtain ⟨m, hm, hp⟩ := List.any_eq_true.mp hp
  rw [Bool.and_eq_true, beq_iff_eq] at hp
  obtain ⟨v, hv, hspent⟩ := (Option.any_eq_true _ _).mp hp.2
  have he : authorizingMandate (fun _ => []) (enrich (getCapturedSpendByMandate u.world.db) 1000 m) ∈
      (getAgentIdentity (fun _ => []) (js "aa") (.ok (getMandates u.world.db 1000))).authorizingMandates :=
    mem_authorizingMandates.mpr ⟨m, hm, hp.1, rfl⟩
  have r : Run (facilitator demoEnv) anyStep u v := Run.single (show anyStep u _ from trivial) hv
  obtain ⟨-, -, -, e', he', hshrunk, -⟩ :=
    wallet_only_shrinks hreach r (show (1000 : Int) ≤ 1001 by decide) he
  exact ⟨u, v, _, e', hreach, he, he', beq_iff_eq.mp hspent, hshrunk⟩

end Hundi
