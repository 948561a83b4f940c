import PoleProtocol.Chain.Verdicts
import PoleProtocol.Framework.Rounding

/-!
# What the words hold

Validation adds shares and settlement multiplies counts in fixed-width words. The results are the
exact ones as long as the words hold the exact numbers, which validation does not ensure.
-/

namespace PoleProtocol.Chain

open Framework

/-! ## Reward shares -/

namespace Params

/-- The shares that a reward is split by. -/
def rewardShares (params : Params) : List ℕ :=
  [params.playerRewardAllocationBps, params.serviceRewardAllocationBps, params.collectRewardBps,
    params.storeRewardBps, params.verifyRewardBps, params.proposeRewardBps]

/-- Player and service get at most the whole, the service shares make up the whole, and no share
exceeds it. -/
structure SharesLimited (params : Params) : Prop where
  allocations : params.playerRewardAllocationBps + params.serviceRewardAllocationBps ≤ 10000
  service : params.collectRewardBps + params.storeRewardBps + params.verifyRewardBps +
    params.proposeRewardBps = 10000
  each : ∀ share ∈ params.rewardShares, share ≤ 10000

/-- The two sums are 32-bit words. -/
def SumsFit (params : Params) : Prop :=
  params.playerRewardAllocationBps + params.serviceRewardAllocationBps < 2 ^ 32 ∧
    params.collectRewardBps + params.storeRewardBps + params.verifyRewardBps +
      params.proposeRewardBps < 2 ^ 32

theorem validate_sums {params : Params} {u : Unit} (h : params.validate = .ok u) :
    wrap32 (params.playerRewardAllocationBps + params.serviceRewardAllocationBps) ≤ 10000 ∧
      wrap32 (params.collectRewardBps + params.storeRewardBps + params.verifyRewardBps +
        params.proposeRewardBps) = 10000 := by
  simp only [validate, validateBps, ensure_bind_eq_ok, ensure_eq_ok] at h
  exact ⟨h.2.2.2.2.2.2.2.1, h.2.2.2.2.2.2.2.2.1⟩

/-- Accepted parameters respect the limits exactly when the two sums do not wrap. -/
theorem sharesLimited_iff {params : Params} (hvalid : params.validate = .ok ()) :
    params.SharesLimited ↔ params.SumsFit := by
  obtain ⟨hallocations, hservice⟩ := validate_sums hvalid
  constructor
  · rintro ⟨hallocated, hsplit, _⟩
    exact ⟨by omega, by omega⟩
  · rintro ⟨hallocated, hsplit⟩
    have hfirst : params.playerRewardAllocationBps + params.serviceRewardAllocationBps ≤ 10000 := by
      rwa [wrap32, Nat.mod_eq_of_lt hallocated] at hallocations
    have hsecond : params.collectRewardBps + params.storeRewardBps + params.verifyRewardBps +
        params.proposeRewardBps = 10000 := by
      rwa [wrap32, Nat.mod_eq_of_lt hsplit] at hservice
    refine ⟨hfirst, hsecond, ?_⟩
    simp only [rewardShares, List.forall_mem_cons, List.not_mem_nil, false_implies, implies_true,
      and_true]
    omega

end Params

theorem sharesLimited_iff_default :
    (defaultParams.SharesLimited ↔ defaultParams.SumsFit) ∧ defaultParams.SharesLimited := by
  have hvalid : defaultParams.validate = .ok () := by decide
  have hiff := Params.sharesLimited_iff hvalid
  exact ⟨hiff, hiff.mpr ⟨by decide, by decide⟩⟩

/-- Two shares of words that add up to a small word. -/
def wideShareParams : Params :=
  { defaultParams with playerRewardAllocationBps := 2 ^ 32 - 1, serviceRewardAllocationBps := 8001 }

/-- The player gets 429496 times the reward, and the parameters are accepted. -/
theorem wide_shares_accepted :
    wideShareParams.validate = .ok () ∧ (∀ share ∈ wideShareParams.rewardShares, share < 2 ^ 32) ∧
      ¬ wideShareParams.SharesLimited := by
  refine ⟨by decide, by decide, ?_⟩
  rintro ⟨hallocated, _, _⟩
  exact absurd hallocated (by decide)

/-! ## Settlement -/

/-- The share of the buckets of a session that have a heartbeat, in basis points. -/
def exactCoverageBps (heartbeatCount playSeconds bucketSeconds : ℕ) : ℕ :=
  let buckets := ratioCeil playSeconds bucketSeconds
  ratioFloor (min heartbeatCount buckets) buckets 10000

def exactDeviationPpm (a b : ℕ) : ℕ := ratioFloor (max a b - min a b) (max a b) 1000000

namespace KeeperState

/-- The weights that the valid settlements of an epoch carry. -/
def validSessionWeights (s : KeeperState) (epochId : ℕ) : List ℕ :=
  (s.playSessionsForEpoch epochId).filterMap fun session =>
    s.sessionSettlements[session.sessionIdHex]?.bind fun settlement =>
      if settlement.valid then some settlement.playerWeightUnits else none

/-- The sum that the player reward of an epoch is divided by. -/
def validSessionWeightUnitsForEpoch (s : KeeperState) (epochId : ℕ) : ℕ :=
  wrap64 (s.validSessionWeights epochId).sum

end KeeperState

/-- Coverage is exact when neither the rounding up nor the product wraps. -/
theorem heartbeatCoverageBps_eq {heartbeatCount playSeconds bucketSeconds : ℕ}
    (hbucket : 0 < bucketSeconds) (hbuckets : playSeconds + bucketSeconds - 1 < 2 ^ 64)
    (hcovered : min heartbeatCount (ratioCeil playSeconds bucketSeconds) * 10000 < 2 ^ 64) :
    heartbeatCoverageBps heartbeatCount playSeconds bucketSeconds =
      exactCoverageBps heartbeatCount playSeconds bucketSeconds := by
  have hceil := ratioCeil_eq playSeconds hbucket
  have hle := ratioFloor_le 10000
    (Nat.min_le_right heartbeatCount (ratioCeil playSeconds bucketSeconds))
  unfold heartbeatCoverageBps exactCoverageBps
  dsimp only
  rw [wrap64_of_lt hbuckets, ← hceil, wrap64_of_lt hcovered, ← ratioFloor_eq, Nat.min_eq_left hle]
  by_cases hseconds : playSeconds = 0
  · have hnone : ratioCeil playSeconds bucketSeconds = 0 := by
      rw [hceil, hseconds, Nat.zero_add]
      exact Nat.div_eq_of_lt (by omega)
    rw [if_pos (.inl hseconds), hnone, ratioFloor_eq, Nat.min_zero, Nat.zero_mul, Nat.zero_div]
  · have hsome : ratioCeil playSeconds bucketSeconds ≠ 0 := by
      rw [hceil]
      exact Nat.ne_of_gt (Nat.div_pos (by omega) hbucket)
    rw [if_neg (by omega), if_neg hsome]

theorem difference_fits_iff {a b : ℕ} : (max a b - min a b) * 1000000 < 2 ^ 64 ↔
    a ≤ b + 18446744073709 ∧ b ≤ a + 18446744073709 := by
  omega

theorem observationDeviationPpm_eq {a b : ℕ}
    (hdifference : (max a b - min a b) * 1000000 < 2 ^ 64) :
    observationDeviationPpm a b = exactDeviationPpm a b := by
  have hle : exactDeviationPpm a b ≤ 1000000 := ratioFloor_le 1000000 (Nat.sub_le _ _)
  unfold observationDeviationPpm
  by_cases hsame : a = b
  · subst hsame
    rw [if_pos rfl, exactDeviationPpm, ratioFloor_eq, Nat.max_self, Nat.min_self, Nat.sub_self,
      Nat.zero_mul, Nat.zero_div]
  · have hlarger : max a b ≠ 0 := by omega
    have hdiff : (if b < a then a - b else b - a) = max a b - min a b := by
      split <;> omega
    rw [if_neg hsame]
    dsimp only
    rw [if_neg hlarger, hdiff, wrap64_of_lt hdifference, ← ratioFloor_eq]
    exact Nat.min_eq_left hle

namespace KeeperState

section Exact

variable (ctx : Ctx) (s : KeeperState) (sessionIdHex : String) (session : PlaySession)
  (epochId a b : ℕ)

/-- No expression of the mutual-proof path wraps, and its results are the exact ones: of a session,
of the sum of an epoch, and of two observed player counts. -/
structure ArithmeticExact : Prop where
  buckets : wrap64 (session.playSeconds + s.getParams.bucketSeconds - 1) =
    session.playSeconds + s.getParams.bucketSeconds - 1
  covered : wrap64 (min (s.playHeartbeatsForSession sessionIdHex).length
        (wrap64 (session.playSeconds + s.getParams.bucketSeconds - 1) /
          s.getParams.bucketSeconds) * 10000) =
    min (s.playHeartbeatsForSession sessionIdHex).length
        (wrap64 (session.playSeconds + s.getParams.bucketSeconds - 1) /
          s.getParams.bucketSeconds) * 10000
  seconds : wrap64 ((s.playHeartbeatsForSession sessionIdHex).length * s.getParams.bucketSeconds) =
    (s.playHeartbeatsForSession sessionIdHex).length * s.getParams.bucketSeconds
  weight : wrap64 (s.coveredSeconds sessionIdHex session *
      s.gameWeightPpmForApp session.appId session.epochId) =
    s.coveredSeconds sessionIdHex session *
      s.gameWeightPpmForApp session.appId session.epochId
  total : wrap64 (s.validSessionWeights epochId).sum = (s.validSessionWeights epochId).sum
  difference : wrap64 ((max a b - min a b) * 1000000) = (max a b - min a b) * 1000000
  exactCoverage : (s.sessionVerdict ctx sessionIdHex session).heartbeatCoverageBps =
    exactCoverageBps (s.playHeartbeatsForSession sessionIdHex).length session.playSeconds
      s.getParams.bucketSeconds
  exactWeight : (s.sessionVerdict ctx sessionIdHex session).playerWeightUnits =
    if (s.sessionVerdict ctx sessionIdHex session).valid then
      min session.playSeconds
          ((s.playHeartbeatsForSession sessionIdHex).length * s.getParams.bucketSeconds) *
        s.gameWeightPpmForApp session.appId session.epochId
    else 0
  exactTotal : s.validSessionWeightUnitsForEpoch epochId = (s.validSessionWeights epochId).sum
  exactDeviation : observationDeviationPpm a b = exactDeviationPpm a b

/-- The numbers that have to fit into a word, as bounds on counts and seconds. -/
structure FitsWords : Prop where
  buckets : session.playSeconds + s.getParams.bucketSeconds ≤ 2 ^ 64
  covered : min (s.playHeartbeatsForSession sessionIdHex).length
    (ratioCeil session.playSeconds s.getParams.bucketSeconds) ≤ 1844674407370955
  seconds : (s.playHeartbeatsForSession sessionIdHex).length * s.getParams.bucketSeconds < 2 ^ 64
  weight : min session.playSeconds
      ((s.playHeartbeatsForSession sessionIdHex).length * s.getParams.bucketSeconds) *
    s.gameWeightPpmForApp session.appId session.epochId < 2 ^ 64
  total : (s.validSessionWeights epochId).sum < 2 ^ 64
  difference : a ≤ b + 18446744073709 ∧ b ≤ a + 18446744073709

/-- The arithmetic of the mutual proofs is exact if and only if the numbers fit. -/
theorem arithmetic_exact_iff :
    ArithmeticExact ctx s sessionIdHex session epochId a b ↔
      FitsWords s sessionIdHex session epochId a b := by
  have hbucket := s.getParams.bucketSeconds_pos
  have hceil := ratioCeil_eq session.playSeconds hbucket
  constructor
  · rintro ⟨hbuckets, hcovered, hseconds, hweight, htotal, hdifference, _, _, _, _⟩
    rw [wrap64_eq_iff] at hbuckets hseconds htotal hdifference
    rw [wrap64_of_lt hbuckets, ← hceil, wrap64_eq_iff] at hcovered
    rw [coveredSeconds, wrap64_of_lt hseconds, wrap64_eq_iff] at hweight
    exact ⟨by omega, by omega, hseconds, hweight, htotal, difference_fits_iff.mp hdifference⟩
  · rintro ⟨hbuckets, hcovered, hseconds, hweight, htotal, hdifference⟩
    have hrounded : session.playSeconds + s.getParams.bucketSeconds - 1 < 2 ^ 64 := by omega
    have hproduct : min (s.playHeartbeatsForSession sessionIdHex).length
        (ratioCeil session.playSeconds s.getParams.bucketSeconds) * 10000 < 2 ^ 64 :=
      lt_of_le_of_lt (Nat.mul_le_mul_right 10000 hcovered) (by norm_num)
    have hapart := difference_fits_iff.mpr hdifference
    have hplayed : s.coveredSeconds sessionIdHex session =
        min session.playSeconds
          ((s.playHeartbeatsForSession sessionIdHex).length * s.getParams.bucketSeconds) := by
      rw [coveredSeconds, wrap64_of_lt hseconds]
    refine ⟨wrap64_of_lt hrounded, ?_, wrap64_of_lt hseconds, ?_, wrap64_of_lt htotal,
      wrap64_of_lt hapart, ?_, ?_, wrap64_of_lt htotal, observationDeviationPpm_eq hapart⟩
    · rw [wrap64_of_lt hrounded, ← hceil]
      exact wrap64_of_lt hproduct
    · rw [hplayed]
      exact wrap64_of_lt hweight
    · rw [sessionVerdict_heartbeatCoverageBps]
      exact heartbeatCoverageBps_eq hbucket hrounded hproduct
    · rw [sessionVerdict_playerWeightUnits, hplayed, computePlayerHourWeight_eq,
        wrap64_of_lt hweight]

end Exact

end KeeperState

namespace Sample

/-- One hour of play that nobody observed. -/
def unobservedPlay : PlaySession where
  sessionIdHex := "01"
  nodeAddress := alice
  appId := 730
  epochId := 7
  playSeconds := 3600

def playClaimMsg : MsgSubmitPlaySession := ⟨alice, some unobservedPlay⟩

end Sample

open Sample KeeperState in
/-- A count of `2 ^ 58` players deviates by nothing from a count of none. -/
theorem distant_counts_agree :
    ∃ s, (next env genesis (register alice)).submitPlaySession (ctx 2) playClaimMsg = .ok s ∧
      s.getParams.validate = .ok () ∧ observationDeviationPpm (2 ^ 58) 0 = 0 ∧
      ¬ ArithmeticExact (ctx 3) s "01" unobservedPlay 7 (2 ^ 58) 0 := by
  have hparams : (next env genesis (register alice)).getParams.validate = .ok () := by
    decide +kernel
  refine ⟨_, rfl, hparams, by decide, fun hexact => ?_⟩
  have hdeviation := hexact.exactDeviation
  rw [exactDeviationPpm, ratioFloor_eq] at hdeviation
  exact absurd hdeviation (by decide)

end PoleProtocol.Chain
