import PoleProtocol.Chain.Effects

/-!
# Well-formed states

Every collection the later arguments read stores its records under their own keys, and the
stored parameters passed their validation. Default genesis is well formed and every step keeps
it so.
-/

namespace PoleProtocol.Chain

open Framework OrderedMap

structure WellFormed (s : KeeperState) : Prop where
  commits : KeyedBy (·.epochId) s.epochCommits
  challenges : KeyedBy (·.challengeIdHex) s.challenges
  rewards : KeyedBy (fun record => (record.epochId, record.recipient)) s.rewardRecords
  sessions : KeyedBy (·.sessionIdHex) s.playSessions
  attestations : KeyedBy (fun attestation => (attestation.sessionIdHex, attestation.witnessAddress))
    s.witnessAttestations
  params : s.getParams.validate = .ok ()

theorem wellFormed_defaultGenesis (bank : Bank) (genesisUnix : ℤ) :
    WellFormed (defaultGenesis bank genesisUnix) where
  commits := keyedBy_empty _
  challenges := keyedBy_empty _
  rewards := keyedBy_empty _
  sessions := keyedBy_empty _
  attestations := keyedBy_empty _
  params := show defaultParams.validate = .ok () by decide

namespace KeeperState

variable {s : KeeperState}

theorem wellFormed_setEpochCommit (h : WellFormed s) (commit : EpochCommit) :
    WellFormed (s.setEpochCommit commit) :=
  { h with commits := keyedBy_insert _ h.commits commit }

theorem wellFormed_setChallenge (h : WellFormed s) (challenge : Challenge) :
    WellFormed (s.setChallenge challenge) :=
  { h with challenges := keyedBy_insert _ h.challenges challenge }

theorem wellFormed_setRewardRecord (h : WellFormed s) (record : RewardRecord) :
    WellFormed (s.setRewardRecord record) :=
  { h with rewards := keyedBy_insert _ h.rewards record }

theorem wellFormed_setRewardRecords (h : WellFormed s) (records : List RewardRecord) :
    WellFormed (records.foldl setRewardRecord s) := by
  induction records generalizing s with
  | nil => exact h
  | cons record records ih => exact ih (wellFormed_setRewardRecord h record)

theorem wellFormed_bank (h : WellFormed s) (bank : Bank) : WellFormed { s with bank } :=
  { h with }

theorem wellFormed_refreshAggregatesCommitment (h : WellFormed s) (env : Env) (epochId : ℕ) :
    WellFormed (s.refreshAggregatesCommitment env epochId) := by
  rcases refreshAggregatesCommitment_cases env s epochId with heq | ⟨commit, _, _, heq⟩
  · rw [heq]
    exact h
  · rw [heq]
    exact wellFormed_setEpochCommit h _

theorem wellFormed_slashTarget {challenge : Challenge} {s' : KeeperState} (h : WellFormed s)
    (hslash : s.slashTarget challenge = .ok s') : WellFormed s' := by
  rcases slashTarget_ok hslash with rfl | ⟨_, _, bank, _, _, _, _, _, rfl⟩
  · exact h
  · exact wellFormed_setRewardRecord (wellFormed_bank h bank) _

theorem wellFormed_rewardChallenger (h : WellFormed s) (challenge : Challenge) :
    WellFormed (s.rewardChallenger challenge) := by
  unfold rewardChallenger
  split
  · exact h
  · exact wellFormed_setRewardRecord h _

end KeeperState

open KeeperState

theorem wellFormed_of_effect {env : Env} {s s' : KeeperState} {input : Input}
    (heffect : Effect env s input s') (h : WellFormed s) : WellFormed s' := by
  cases heffect with
  | quiet => exact { h with }
  | params ctx msg params valid => exact { h with params := valid }
  | aggregate ctx msg record =>
      have hset : WellFormed (s.setAggregateRecord record) := { h with }
      exact wellFormed_refreshAggregatesCommitment hset env record.epochId
  | commit => exact wellFormed_setEpochCommit h _
  | finalized => exact wellFormed_setEpochCommit h _
  | opened ctx msg challenge bank => exact wellFormed_setChallenge (wellFormed_bank h bank) _
  | resolved ctx msg stored settled slashed rewarded commit found authorized final settles
      slashes rewards committed =>
      obtain ⟨bank, rfl⟩ := settleChallengeBond_frame settles
      have hslashed : WellFormed slashed := wellFormed_slashTarget (wellFormed_bank h bank) slashes
      have hrewarded : WellFormed rewarded := rewards ▸ wellFormed_rewardChallenger hslashed _
      exact wellFormed_setChallenge (wellFormed_setEpochCommit hrewarded _) _
  | claimed => exact { h with }
  | rewards ctx msg commit records => exact wellFormed_setRewardRecords h records
  | burned => exact { h with }
  | session => exact { h with sessions := keyedBy_insert _ h.sessions _ }
  | attested => exact { h with attestations := keyedBy_insert _ h.attestations _ }
  | settled => exact { h with }
  | emitted => exact { h with }

theorem wellFormed_next {env : Env} {s : KeeperState} (h : WellFormed s) (input : Input) :
    WellFormed (next env s input) :=
  next_preserves (fun _ heffect => wellFormed_of_effect heffect h) h

/-- Every state of a run from a well-formed state is well formed. -/
theorem wellFormed_run (env : Env) {s : KeeperState} (h : WellFormed s) (inputs : List Input) :
    WellFormed (run (next env) s inputs) :=
  run_preserves (P := WellFormed) (fun _ input hwf => wellFormed_next hwf input) inputs h

/-! ## Reward records of one epoch -/

namespace KeeperState

variable {env : Env} {s : KeeperState} {e : ℕ}

theorem rewardRecordOrNew_key (h : WellFormed s) (epochId : ℕ) (recipient : String) :
    (s.rewardRecordOrNew epochId recipient).epochId = epochId ∧
      (s.rewardRecordOrNew epochId recipient).recipient = recipient := by
  unfold rewardRecordOrNew
  cases hget : s.rewardRecords[(epochId, recipient)]? with
  | none => exact ⟨rfl, rfl⟩
  | some record => exact Prod.mk.inj (h.rewards _ _ hget)

theorem rewardRecordsForEpoch_setRewardRecord (s : KeeperState) {record : RewardRecord}
    (hepoch : record.epochId ≠ e) :
    (s.setRewardRecord record).rewardRecordsForEpoch e = s.rewardRecordsForEpoch e :=
  prefixedValues_insert_ne _ _ _ hepoch

theorem rewardRecordsForEpoch_setRewardRecords (s : KeeperState) {records : List RewardRecord}
    (hepoch : ∀ record ∈ records, record.epochId ≠ e) :
    (records.foldl setRewardRecord s).rewardRecordsForEpoch e = s.rewardRecordsForEpoch e := by
  induction records generalizing s with
  | nil => rfl
  | cons record records ih =>
      have hrest := ih (s.setRewardRecord record)
        (fun r hr => hepoch r (List.mem_cons_of_mem record hr))
      have hfirst := rewardRecordsForEpoch_setRewardRecord s (hepoch record List.mem_cons_self)
      exact hrest.trans hfirst

/-- A resolution moves reward records of its own epoch only. -/
theorem rewardRecordsForEpoch_resolution (hwf : WellFormed s) {challenge : Challenge}
    {settled slashed : KeeperState} (hepoch : challenge.epochId ≠ e)
    (hsettles : s.settleChallengeBond env challenge = .ok settled)
    (hslashes : settled.slashTarget challenge = .ok slashed) :
    (slashed.rewardChallenger challenge).rewardRecordsForEpoch e = s.rewardRecordsForEpoch e := by
  obtain ⟨bank, rfl⟩ := settleChallengeBond_frame hsettles
  have hsettled : WellFormed { s with bank } := wellFormed_bank hwf bank
  have hslashed : slashed.rewardRecordsForEpoch e = s.rewardRecordsForEpoch e := by
    rcases slashTarget_ok hslashes with rfl | ⟨_, _, _, _, _, _, _, _, rfl⟩
    · rfl
    · have hrecord :=
        (rewardRecordOrNew_key hsettled challenge.epochId challenge.targetAddress).1
      exact rewardRecordsForEpoch_setRewardRecord _ (hrecord.trans_ne hepoch)
  unfold rewardChallenger
  split
  · exact hslashed
  · have hrecord := (rewardRecordOrNew_key (wellFormed_slashTarget hsettled hslashes)
      challenge.epochId challenge.challenger).1
    refine (rewardRecordsForEpoch_setRewardRecord _ ?_).trans hslashed
    exact hrecord.trans_ne hepoch

end KeeperState

/-! ## A small chain

Surroundings for concrete runs: three accounts with coins, the governance account, and nodes that
register as players, so that no stake is asked for. -/

namespace Sample

def alice : String := "cosmos1qyqszqgpqyqszqgpqyqszqgpqyqszqgpjnp7du"
def bob : String := "cosmos1qgpqyqszqgpqyqszqgpqyqszqgpqyqszrh8mx2"
def carol : String := "cosmos1qvpsxqcrqvpsxqcrqvpsxqcrqvpsxqcrz8x6vt"
def governance : String := "cosmos10d07y265gmmuvt4z0w9aw880jnsr700j6zn9kn"

def decodeAddress (text : String) : Except String Bytes :=
  if text = alice then .ok (List.replicate 20 1)
  else if text = bob then .ok (List.replicate 20 2)
  else if text = carol then .ok (List.replicate 20 3)
  else .error "decoding bech32 failed"

/-- The runs below hash nothing whose digest they look at. -/
def env : Env where
  sha256 _ := List.replicate 32 0
  accAddressFromBech32 := decodeAddress
  consAddressFromBech32 _ := .error "decoding bech32 failed"

def ctx (height : ℤ) : Ctx where
  height
  blockTime := 0
  isAuthority := fun sender => sender = governance
  staking := none

def bank : Bank where
  pool := 0
  accounts _ := 100
  supply := 300

def genesis : KeeperState := defaultGenesis bank 0

/-- A player node with every capability. -/
def register (operator : String) : Input :=
  .deliver (ctx 1) (.upsertNode
    { operator
      node := some
        { operatorAddress := operator
          role := .coordinator
          capabilities := some { collect := true, store := true, verify := true, propose := true }
          active := true
          isPlayer := true } })

/-- A commitment to no records. -/
def emptyCommitment : MerkleCommitment := merkleRootHexForRecords env.sha256 ([] : List RewardRecord)

/-- An epoch commit over no records, with its challenge window at heights two to three. -/
def emptyCommit (epochId : ℕ) : EpochCommit where
  epochId
  rewards := some emptyCommitment
  aggregates := some emptyCommitment
  proposerAddress := alice
  challengeOpenHeight := 2
  challengeDeadlineHeight := 3

def propose (commit : EpochCommit) : Input :=
  .deliver (ctx 2) (.commitEpoch { proposer := alice, epochCommit := some commit })

/-- Governance turns the verification gates off. -/
def relax : Input :=
  .deliver (ctx 1) (.updateParams
    { authority := governance
      params := some { defaultParams with minVerificationCount := 0, minPlayerVerifierShareBps := 0 } })

def finalize (epochId : ℕ) : Input :=
  .deliver (ctx 10) (.finalizeEpoch { finalizer := alice, epochId })

/-- A challenge of epoch seven with a bond. -/
def challengeMsg (challenger id : String) (bondAmount : UInt64) : MsgOpenChallenge where
  challenger
  challenge := some
    { challengeIdHex := id, epochId := 7, challenger, bondAmount, deadlineHeight := 9 }

def resolveMsg (id : String) (finalState : ChallengeState) : MsgResolveChallenge where
  resolver := governance
  challengeIdHex := id
  finalState

end Sample

end PoleProtocol.Chain
