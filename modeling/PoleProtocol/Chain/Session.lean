import PoleProtocol.Chain.Keeper

/-!
# Play sessions

What the chain makes of a play session: who may witness it, what its heartbeats cover, how it is
settled, and how the witness reward pool is split over the corroborations that were recorded.
-/

namespace PoleProtocol.Chain

open Framework

def weightScalePpm : ℕ := 1000000

def computePlayerHourWeight (effectivePlaySeconds gameWeightPpm : ℕ) : ℕ :=
  if effectivePlaySeconds = 0 ∨ gameWeightPpm = 0 then 0
  else wrap64 (effectivePlaySeconds * gameWeightPpm)

/-- Relative deviation of two player counts, in ppm of the larger one. -/
def observationDeviationPpm (a b : ℕ) : ℕ :=
  if a = b then 0
  else
    let larger := max a b
    if larger = 0 then 0
    else
      let diff := if b < a then a - b else b - a
      min (wrap64 (diff * 1000000) / larger) 1000000

/-- Share of the declared window covered by distinct heartbeat buckets. A bucket count that
wraps to zero covers nothing. -/
def heartbeatCoverageBps (heartbeatCount playSeconds bucketSeconds : ℕ) : ℕ :=
  if playSeconds = 0 ∨ bucketSeconds = 0 then 0
  else
    let expectedBuckets := wrap64 (playSeconds + bucketSeconds - 1) / bucketSeconds
    if expectedBuckets = 0 then 0
    else
      let covered := min heartbeatCount expectedBuckets
      min (wrap64 (covered * 10000) / expectedBuckets) 10000

namespace KeeperState

def playHeartbeatsForSession (s : KeeperState) (sessionIdHex : String) : List PlayHeartbeat :=
  prefixedValues (·.sessionIdHex) s.playHeartbeats sessionIdHex

def witnessAttestationsForSession (s : KeeperState) (sessionIdHex : String) :
    List WitnessAttestation :=
  prefixedValues (·.sessionIdHex) s.witnessAttestations sessionIdHex

/-- Keep the entry that took effect latest among those of the application that do not lie in the
epoch's future; a later entry of the iteration wins a tie. -/
def laterGameWeight (appId epochId : ℕ) (best : Option GameWeightEntry)
    (entry : GameWeightEntry) : Option GameWeightEntry :=
  if entry.appId ≠ appId ∨ epochId < entry.effectiveFromEpochId then best
  else
    match best with
    | none => some entry
    | some found =>
        if found.effectiveFromEpochId ≤ entry.effectiveFromEpochId then some entry else best

def gameWeightPpmForApp (s : KeeperState) (appId epochId : ℕ) : ℕ :=
  let entries := s.gameWeightEntries.toList.map (·.2)
  match entries.foldl (laterGameWeight appId epochId) none with
  | none => weightScalePpm
  | some entry => if entry.gameWeightPpm = 0 then weightScalePpm else entry.gameWeightPpm

/-! ## Witness independence -/

/-- An attestation comes from an active, bonded collector with an observation of its own, who is
neither the player nor the collector of the session. -/
def validateWitnessIndependence (s : KeeperState) (session : PlaySession)
    (attestation : WitnessAttestation) (params : Params) : Except String Unit := do
  let address := attestation.witnessAddress
  ensure (address ≠ session.nodeAddress)
    s!"witness {address} cannot attest its own play session"
  ensure (session.collectorAddress = "" ∨ address ≠ session.collectorAddress)
    s!"witness {address} cannot attest a session it collected"
  let witness ← require s.nodes[address]? s!"witness {address} is not a registered node"
  ensure (witness.active = true) s!"witness {address} is not active"
  ensure ((witness.capabilities.map (·.collect)).getD false = true)
    s!"witness {address} lacks the collect capability"
  let threshold := requiredBondedTokensForNode witness
  ensure (witness.isPlayer = true ∨ threshold ≤ witness.bondedTokens)
    s!"witness {address} has bonded tokens {witness.bondedTokens} below required threshold {threshold}"
  let playerRewardAddress := (s.nodes[session.nodeAddress]?.map (·.rewardAddress)).getD ""
  ensure (playerRewardAddress = "" ∨ witness.rewardAddress = "" ∨
    playerRewardAddress ≠ witness.rewardAddress)
    s!"witness {address} shares reward address {witness.rewardAddress} with player {session.nodeAddress} (sybil self-attestation rejected)"
  ensure (s.isPlayerCollector address session.epochId = true)
    s!"witness {address} has no observation of its own for epoch {session.epochId}"
  ensure (attestation.witnessObservationCid ≠ "") "witness_observation_cid is required"
  ensure (session.observationCid = "" ∨ attestation.witnessObservationCid ≠ session.observationCid)
    "witness observation must not reuse the session observation payload"
  let deviation := observationDeviationPpm attestation.observedPlayers session.observedPlayers
  ensure (deviation ≤ params.minWitnessObservationTolerancePpm)
    s!"witness observation deviates {deviation} ppm from the claim, tolerance is {params.minWitnessObservationTolerancePpm} ppm"

/-- An accepted witness is neither the player nor the collector. The empty address counts as no
collector, and an accepted witness is a stored node. -/
theorem validateWitnessIndependence_ok {s : KeeperState} {session : PlaySession}
    {attestation : WitnessAttestation} {params : Params} {u : Unit}
    (h : s.validateWitnessIndependence session attestation params = .ok u) :
    attestation.witnessAddress ≠ session.nodeAddress ∧
      (session.collectorAddress = "" ∨
        attestation.witnessAddress ≠ session.collectorAddress) := by
  simp only [validateWitnessIndependence, ensure_bind_eq_ok] at h
  exact ⟨h.1, h.2.1⟩

/-! ## Settlement -/

/-- The payout address a witness is counted under: its node's, or its own when it has none. -/
def witnessRewardAddress (s : KeeperState) (witnessAddress : String) : String :=
  match s.nodes[witnessAddress]? with
  | some node => if node.rewardAddress = "" then witnessAddress else node.rewardAddress
  | none => witnessAddress

/-- Why the evidence does not support a session, or `none` when it does. -/
def settlementDefect (params : Params) (settlement : SessionSettlement)
    (distinctRewardAddrs declaredSeconds : ℕ) : Option String :=
  if settlement.witnessCount < params.minWitnessCount then
    some s!"insufficient witnesses ({settlement.witnessCount} < {params.minWitnessCount})"
  else if distinctRewardAddrs < params.minWitnessCount then
    some s!"insufficient distinct witness reward addresses ({distinctRewardAddrs} < {params.minWitnessCount})"
  else if settlement.distinctObservationCount < params.minDistinctObservations then
    some s!"insufficient distinct witness observations ({settlement.distinctObservationCount} < {params.minDistinctObservations})"
  else if settlement.heartbeatCount < params.minHeartbeatCount then
    some s!"insufficient play heartbeats ({settlement.heartbeatCount} < {params.minHeartbeatCount})"
  else if settlement.heartbeatCoverageBps < params.minHeartbeatCoverageBps then
    some s!"heartbeat coverage {settlement.heartbeatCoverageBps} bps < {params.minHeartbeatCoverageBps} bps"
  else if declaredSeconds = 0 then some "play_seconds must be greater than 0"
  else none

/-- The verdict on a session, computed from the stored evidence alone. -/
def sessionVerdict (ctx : Ctx) (s : KeeperState) (sessionIdHex : String) (session : PlaySession) :
    SessionSettlement :=
  let params := s.getParams
  let attestations := s.witnessAttestationsForSession sessionIdHex
  let witnesses := (attestations.map (·.witnessAddress)).dedup
  let observations :=
    ((attestations.map (·.witnessObservationCid)).filter (· ≠ "")).dedup
  let rewardAddrs :=
    (attestations.map fun a => s.witnessRewardAddress a.witnessAddress).dedup
  let bucketSeconds := if params.heartbeatBucketSeconds = 0 then 1 else params.heartbeatBucketSeconds
  let heartbeatCount := (s.playHeartbeatsForSession sessionIdHex).length
  let gameWeightPpm := s.gameWeightPpmForApp session.appId session.epochId
  let effectivePlaySeconds := min session.playSeconds (wrap64 (heartbeatCount * bucketSeconds))
  let settlement : SessionSettlement :=
    { sessionIdHex := session.sessionIdHex
      epochId := session.epochId
      appId := session.appId
      nodeAddress := session.nodeAddress
      playSeconds := effectivePlaySeconds
      gameWeightPpm
      playerWeightUnits := computePlayerHourWeight effectivePlaySeconds gameWeightPpm
      witnessCount := witnesses.length
      distinctObservationCount := observations.length
      heartbeatCount
      heartbeatCoverageBps := heartbeatCoverageBps heartbeatCount session.playSeconds bucketSeconds
      settledAtHeight := ctx.height }
  match settlementDefect params settlement rewardAddrs.length session.playSeconds with
  | none => { settlement with valid := true }
  | some reason => { settlement with invalidReason := reason, playerWeightUnits := 0 }

def settlePlaySession (ctx : Ctx) (s : KeeperState) (sessionIdHex : String) :
    Except ChainError KeeperState := do
  let session ← require s.playSessions[sessionIdHex]?
    (.plain s!"play session {sessionIdHex} not found")
  return s.setSessionSettlement (s.sessionVerdict ctx sessionIdHex session)

/-! ## Witness credits -/

/-- How many settled valid sessions of the epoch each witness corroborated. -/
def witnessCreditsForEpoch (s : KeeperState) (epochId : ℕ) : OrderedMap String ℕ :=
  let corroborated := (s.playSessionsForEpoch epochId).filter fun session =>
    (s.sessionSettlements[session.sessionIdHex]?.map (·.valid)).getD false
  let witnesses := corroborated.flatMap fun session =>
    (s.witnessAttestationsForSession session.sessionIdHex).map (·.witnessAddress)
  witnesses.foldl
    (fun credits witness => credits.insert witness (wrap64 (credits[witness]?.getD 0 + 1))) ∅

end KeeperState

/-- Largest remainder first; equal remainders go by address. -/
def remainderBefore (a b : String × ℕ) : Prop :=
  b.2 < a.2 ∨ (a.2 = b.2 ∧ compare a.1 b.1 ≠ .gt)

instance : DecidableRel remainderBefore := fun _ _ => inferInstanceAs (Decidable (_ ∨ _))

/-- Split a pool in proportion to credits; the dust goes one unit each to the largest
remainders. -/
def allocateWitnessRewards (credits : OrderedMap String ℕ) (pool : ℕ) : OrderedMap String ℕ :=
  let entries := credits.toList
  let nothing := entries.foldl (fun allocation entry => allocation.insert entry.1 0) ∅
  let totalCredits := wrap64 (entries.map (·.2)).sum
  if pool = 0 ∨ totalCredits = 0 then nothing
  else
    let witnesses := entries.filter (·.2 ≠ 0)
    let wholes := witnesses.map fun entry => (entry.1, wrap64 (pool * entry.2 / totalCredits))
    let distributed := wrap64 (wholes.map (·.2)).sum
    let remainders := (witnesses.map fun entry => (entry.1, pool * entry.2 % totalCredits)).insertionSort
      remainderBefore
    let allocation := wholes.foldl (fun allocation entry => allocation.insert entry.1 entry.2) nothing
    (remainders.take (pool - distributed)).foldl
      (fun allocation entry =>
        allocation.insert entry.1 (wrap64 (allocation[entry.1]?.getD 0 + 1))) allocation

end PoleProtocol.Chain
