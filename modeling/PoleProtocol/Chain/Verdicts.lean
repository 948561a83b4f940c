import PoleProtocol.Chain.PlayTime

/-!
# What a verdict says

The counts and the weight of a verdict are read off the stored evidence before any defect is looked
for. A verdict is valid when the counts reach their thresholds, and only then carries its weight.
-/

namespace PoleProtocol.Chain

open Framework KeeperState

/-- A settlement without defect reaches every threshold. -/
theorem settlementDefect_eq_none_iff {params : Params} {settlement : SessionSettlement}
    {distinctRewardAddrs declaredSeconds : ℕ} :
    settlementDefect params settlement distinctRewardAddrs declaredSeconds = none ↔
      params.minWitnessCount ≤ settlement.witnessCount ∧
      params.minWitnessCount ≤ distinctRewardAddrs ∧
      params.minDistinctObservations ≤ settlement.distinctObservationCount ∧
      params.minHeartbeatCount ≤ settlement.heartbeatCount ∧
      params.minHeartbeatCoverageBps ≤ settlement.heartbeatCoverageBps ∧
      declaredSeconds ≠ 0 := by
  unfold settlementDefect
  simp only [ite_eq_iff, reduceCtorEq, and_false, false_or, and_true, not_lt]

namespace KeeperState

section Draft

variable (s : KeeperState) (sessionIdHex : String)

/-- The observations that the attestations of a session cite. -/
def citedObservations : List String :=
  ((s.witnessAttestationsForSession sessionIdHex).map (·.witnessObservationCid)).filter (· ≠ "")

/-- The payout addresses that the witnesses of a session are counted under. -/
def citedRewardAddresses : List String :=
  (s.witnessAttestationsForSession sessionIdHex).map fun attestation =>
    s.witnessRewardAddress attestation.witnessAddress

/-- The play time that the heartbeats of a session allow. -/
def coveredSeconds (session : PlaySession) : ℕ :=
  min session.playSeconds
    (wrap64 ((s.playHeartbeatsForSession sessionIdHex).length * s.getParams.bucketSeconds))

/-- What a settlement counts, before its defects are looked for. -/
def settlementDraft (ctx : Ctx) (session : PlaySession) : SessionSettlement where
  sessionIdHex := session.sessionIdHex
  epochId := session.epochId
  appId := session.appId
  nodeAddress := session.nodeAddress
  playSeconds := s.coveredSeconds sessionIdHex session
  gameWeightPpm := s.gameWeightPpmForApp session.appId session.epochId
  playerWeightUnits := computePlayerHourWeight (s.coveredSeconds sessionIdHex session)
    (s.gameWeightPpmForApp session.appId session.epochId)
  witnessCount :=
    ((s.witnessAttestationsForSession sessionIdHex).map (·.witnessAddress)).dedup.length
  distinctObservationCount := (s.citedObservations sessionIdHex).dedup.length
  heartbeatCount := (s.playHeartbeatsForSession sessionIdHex).length
  heartbeatCoverageBps := heartbeatCoverageBps (s.playHeartbeatsForSession sessionIdHex).length
    session.playSeconds s.getParams.bucketSeconds
  settledAtHeight := ctx.height

variable (ctx : Ctx) (session : PlaySession)

def verdictDefect : Option String :=
  settlementDefect s.getParams (s.settlementDraft sessionIdHex ctx session)
    (s.citedRewardAddresses sessionIdHex).dedup.length session.playSeconds

theorem sessionVerdict_eq : s.sessionVerdict ctx sessionIdHex session =
    match s.verdictDefect sessionIdHex ctx session with
    | none => { s.settlementDraft sessionIdHex ctx session with valid := true }
    | some reason => { s.settlementDraft sessionIdHex ctx session with
        invalidReason := reason, playerWeightUnits := 0 } := rfl

theorem sessionVerdict_valid_iff :
    (s.sessionVerdict ctx sessionIdHex session).valid = true ↔
      s.verdictDefect sessionIdHex ctx session = none := by
  rw [sessionVerdict_eq]
  cases s.verdictDefect sessionIdHex ctx session with
  | none => exact iff_of_true rfl rfl
  | some reason => exact iff_of_false Bool.false_ne_true (Option.some_ne_none reason)

@[simp] theorem sessionVerdict_playSeconds :
    (s.sessionVerdict ctx sessionIdHex session).playSeconds =
      s.coveredSeconds sessionIdHex session := by
  rw [sessionVerdict_eq]
  cases s.verdictDefect sessionIdHex ctx session <;> rfl

@[simp] theorem sessionVerdict_heartbeatCoverageBps :
    (s.sessionVerdict ctx sessionIdHex session).heartbeatCoverageBps =
      heartbeatCoverageBps (s.playHeartbeatsForSession sessionIdHex).length session.playSeconds
        s.getParams.bucketSeconds := by
  rw [sessionVerdict_eq]
  cases s.verdictDefect sessionIdHex ctx session <;> rfl

theorem sessionVerdict_playerWeightUnits :
    (s.sessionVerdict ctx sessionIdHex session).playerWeightUnits =
      if (s.sessionVerdict ctx sessionIdHex session).valid then
        computePlayerHourWeight (s.coveredSeconds sessionIdHex session)
          (s.gameWeightPpmForApp session.appId session.epochId)
      else 0 := by
  rw [sessionVerdict_eq]
  cases s.verdictDefect sessionIdHex ctx session <;> rfl

end Draft

end KeeperState

theorem computePlayerHourWeight_eq (effectivePlaySeconds gameWeightPpm : ℕ) :
    computePlayerHourWeight effectivePlaySeconds gameWeightPpm =
      wrap64 (effectivePlaySeconds * gameWeightPpm) := by
  unfold computePlayerHourWeight
  split
  · next hzero =>
      rcases hzero with rfl | rfl
      · rw [Nat.zero_mul]
        rfl
      · rw [Nat.mul_zero]
        rfl
  · rfl

end PoleProtocol.Chain
