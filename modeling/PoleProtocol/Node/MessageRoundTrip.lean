import PoleProtocol.Chain.Unmarshal
import PoleProtocol.Node.MessageEncoding

/-!
# Reward and parameter messages

What the node writes is what the chain reads: every field is read under its number and at its
width, and two messages have the same bytes only if they are the same.
-/

namespace PoleProtocol.Node

open Framework Framework.Protobuf Ledger

/-! ## The messages -/

structure RewardRecordWire where
  epochId : UInt64
  recipient : String
  playerReward : UInt64
  collectReward : UInt64
  storeReward : UInt64
  verifyReward : UInt64
  proposeReward : UInt64
  slashDebit : UInt64
  netReward : UInt64
  deriving DecidableEq

structure ParamsWire where
  rewardBlockDurationSeconds : UInt64
  baseHourlyReward : UInt64
  targetNetworkWeightUnits : UInt64
  rewardAdjustmentCapBps : UInt32
  challengeWindowBlocks : UInt64
  minRetentionEpochs : UInt64
  playerRewardAllocationBps : UInt32
  serviceRewardAllocationBps : UInt32
  collectRewardBps : UInt32
  storeRewardBps : UInt32
  verifyRewardBps : UInt32
  proposeRewardBps : UInt32
  tier1WeightPpm : UInt32
  tier2WeightMinPpm : UInt32
  tier2WeightMaxPpm : UInt32
  tier3WeightMinPpm : UInt32
  tier3WeightMaxPpm : UInt32
  feeBurnBps : UInt32
  rewardBurnThreshold : UInt64
  rewardBurnBps : UInt32
  governanceBurnBps : UInt32
  minVerificationCount : UInt64
  minPlayerVerifierShareBps : UInt32
  minWitnessCount : UInt64
  minWitnessObservationTolerancePpm : UInt32
  minDistinctObservations : UInt64
  sessionSlashBps : UInt32
  minHeartbeatCount : UInt64
  heartbeatBucketSeconds : UInt64
  minHeartbeatCoverageBps : UInt32
  challengeBondBurnBps : UInt32
  deriving DecidableEq

def encodeRewardRecordInner (r : RewardRecordWire) : Bytes :=
  [encodeUint64 1 r.epochId,
    encodeString 2 r.recipient,
    encodeUint64 3 r.playerReward,
    encodeUint64 4 r.collectReward,
    encodeUint64 5 r.storeReward,
    encodeUint64 6 r.verifyReward,
    encodeUint64 7 r.proposeReward,
    encodeUint64 8 r.slashDebit,
    encodeUint64 9 r.netReward].flatten

def encodeMsgSubmitRewardRecords (proposerBech32 : String) (epochId : UInt64)
    (records : List RewardRecordWire) : AnyMessage where
  typeUrl := "/pole.chain.pole.v1.MsgSubmitRewardRecords"
  value :=
    ([encodeString 1 proposerBech32, encodeUint64 2 epochId] ++
      records.map fun record => encodeBytes 3 (encodeRewardRecordInner record)).flatten

def encodeParamsInner (p : ParamsWire) : Bytes :=
  [encodeUint64 1 p.rewardBlockDurationSeconds,
    encodeUint64 2 p.baseHourlyReward,
    encodeUint64 3 p.targetNetworkWeightUnits,
    encodeUint32 4 p.rewardAdjustmentCapBps,
    encodeUint64 5 p.challengeWindowBlocks,
    encodeUint64 6 p.minRetentionEpochs,
    encodeUint32 7 p.playerRewardAllocationBps,
    encodeUint32 8 p.serviceRewardAllocationBps,
    encodeUint32 9 p.collectRewardBps,
    encodeUint32 10 p.storeRewardBps,
    encodeUint32 11 p.verifyRewardBps,
    encodeUint32 12 p.proposeRewardBps,
    encodeUint32 13 p.tier1WeightPpm,
    encodeUint32 14 p.tier2WeightMinPpm,
    encodeUint32 15 p.tier2WeightMaxPpm,
    encodeUint32 16 p.tier3WeightMinPpm,
    encodeUint32 17 p.tier3WeightMaxPpm,
    encodeUint32 18 p.feeBurnBps,
    encodeUint64 19 p.rewardBurnThreshold,
    encodeUint32 20 p.rewardBurnBps,
    encodeUint32 21 p.governanceBurnBps,
    encodeUint64 22 p.minVerificationCount,
    encodeUint32 23 p.minPlayerVerifierShareBps,
    encodeUint64 24 p.minWitnessCount,
    encodeUint32 25 p.minWitnessObservationTolerancePpm,
    encodeUint64 26 p.minDistinctObservations,
    encodeUint32 27 p.sessionSlashBps,
    encodeUint64 28 p.minHeartbeatCount,
    encodeUint64 29 p.heartbeatBucketSeconds,
    encodeUint32 30 p.minHeartbeatCoverageBps,
    encodeUint32 31 p.challengeBondBurnBps].flatten

def encodeMsgUpdateParams (authorityBech32 : String) (params : ParamsWire) : AnyMessage where
  typeUrl := "/pole.chain.pole.v1.MsgUpdateParams"
  value :=
    [encodeString 1 authorityBech32, encodeBytes 2 (encodeParamsInner params)].flatten

/-! ## What they say -/

def RewardRecordWire.meaning (r : RewardRecordWire) : Chain.RewardRecord where
  epochId := r.epochId.toNat
  recipient := r.recipient
  playerReward := r.playerReward.toNat
  collectReward := r.collectReward.toNat
  storeReward := r.storeReward.toNat
  verifyReward := r.verifyReward.toNat
  proposeReward := r.proposeReward.toNat
  slashDebit := r.slashDebit.toNat
  netReward := r.netReward.toNat

def ParamsWire.meaning (p : ParamsWire) : Chain.Params where
  rewardBlockDurationSeconds := p.rewardBlockDurationSeconds.toNat
  baseHourlyReward := p.baseHourlyReward.toNat
  targetNetworkWeightUnits := p.targetNetworkWeightUnits.toNat
  rewardAdjustmentCapBps := p.rewardAdjustmentCapBps.toNat
  challengeWindowBlocks := p.challengeWindowBlocks.toNat
  minRetentionEpochs := p.minRetentionEpochs.toNat
  playerRewardAllocationBps := p.playerRewardAllocationBps.toNat
  serviceRewardAllocationBps := p.serviceRewardAllocationBps.toNat
  collectRewardBps := p.collectRewardBps.toNat
  storeRewardBps := p.storeRewardBps.toNat
  verifyRewardBps := p.verifyRewardBps.toNat
  proposeRewardBps := p.proposeRewardBps.toNat
  tier1WeightPpm := p.tier1WeightPpm.toNat
  tier2WeightMinPpm := p.tier2WeightMinPpm.toNat
  tier2WeightMaxPpm := p.tier2WeightMaxPpm.toNat
  tier3WeightMinPpm := p.tier3WeightMinPpm.toNat
  tier3WeightMaxPpm := p.tier3WeightMaxPpm.toNat
  feeBurnBps := p.feeBurnBps.toNat
  rewardBurnThreshold := p.rewardBurnThreshold.toNat
  rewardBurnBps := p.rewardBurnBps.toNat
  governanceBurnBps := p.governanceBurnBps.toNat
  minVerificationCount := p.minVerificationCount.toNat
  minPlayerVerifierShareBps := p.minPlayerVerifierShareBps.toNat
  minWitnessCount := p.minWitnessCount.toNat
  minWitnessObservationTolerancePpm := p.minWitnessObservationTolerancePpm.toNat
  minDistinctObservations := p.minDistinctObservations.toNat
  sessionSlashBps := p.sessionSlashBps.toNat
  minHeartbeatCount := p.minHeartbeatCount.toNat
  heartbeatBucketSeconds := p.heartbeatBucketSeconds.toNat
  minHeartbeatCoverageBps := p.minHeartbeatCoverageBps.toNat
  challengeBondBurnBps := p.challengeBondBurnBps.toNat

theorem RewardRecordWire.meaning_injective {r r' : RewardRecordWire}
    (h : r.meaning = r'.meaning) : r = r' := by
  cases r
  cases r'
  simpa [RewardRecordWire.meaning, UInt64.toNat_inj] using h

theorem ParamsWire.meaning_injective {p p' : ParamsWire} (h : p.meaning = p'.meaning) :
    p = p' := by
  cases p
  cases p'
  simpa [ParamsWire.meaning, UInt64.toNat_inj, UInt32.toNat_inj] using h

/-! ## Reward records -/

def RewardRecordWire.fields (r : RewardRecordWire) : List WireField :=
  [.ofNumber 1 r.epochId.toNat,
    .ofText 2 r.recipient,
    .ofNumber 3 r.playerReward.toNat,
    .ofNumber 4 r.collectReward.toNat,
    .ofNumber 5 r.storeReward.toNat,
    .ofNumber 6 r.verifyReward.toNat,
    .ofNumber 7 r.proposeReward.toNat,
    .ofNumber 8 r.slashDebit.toNat,
    .ofNumber 9 r.netReward.toNat]

theorem RewardRecordWire.unmarshal_fields (r : RewardRecordWire) :
    Chain.RewardRecord.unmarshal r.fields = some r.meaning := by
  have hrecipient : readString r.fields 2 = some r.recipient := readString_of_values rfl
  rw [Chain.RewardRecord.unmarshal, hrecipient]
  rfl

theorem encodeRewardRecordInner_eq {r : RewardRecordWire}
    (hlength : (encodeRewardRecordInner r).length < 2 ^ 64) :
    encodeRewardRecordInner r = encodeFields r.fields := by
  have hrecipient : r.recipient.toUTF8.toList.length < 2 ^ 64 :=
    embedded_length_lt 2 hlength (by simp [encodeString])
  rw [encodeRewardRecordInner, encodeString, encodeBytes_eq (by decide) hrecipient]
  simp (disch := decide) only [encodeUint64_eq]
  rfl

theorem RewardRecordWire.listed_fields (r : RewardRecordWire) :
    ∀ field ∈ r.fields, field.Listed := by
  simp [RewardRecordWire.fields, listed_word, listed_ofText]

/-- The fields of a submission. -/
def submissionFields (proposer : String) (epochId : UInt64) (records : List RewardRecordWire) :
    List WireField :=
  [.ofText 1 proposer, .ofNumber 2 epochId.toNat] ++
    records.map fun record => .ofMessage 3 record.fields

section Submission

variable {proposer : String} {epochId : UInt64} {records : List RewardRecordWire}

theorem listed_submissionFields :
    ∀ field ∈ submissionFields proposer epochId records, field.Listed := by
  refine List.forall_mem_append.mpr ⟨by simp [listed_word, listed_ofText], fun field hmem => ?_⟩
  obtain ⟨record, -, rfl⟩ := List.mem_map.mp hmem
  exact listed_ofMessage _ (by norm_num) (by norm_num)

theorem valuesOf_submissionFields (number : ℕ) :
    valuesOf (submissionFields proposer epochId records) number =
      valuesOf [.ofText 1 proposer, .ofNumber 2 epochId.toNat] number ++
        if number = 3 then records.map fun record => .content (encodeFields record.fields)
        else [] := by
  rw [submissionFields, valuesOf_append]
  congr 1
  split
  · next heq =>
      rw [heq]
      exact valuesOf_map records _
  · next hne => exact valuesOf_eq_nil (by simp [WireField.ofMessage, Ne.symm hne])

theorem encodeMsgSubmitRewardRecords_eq
    (hfits : (encodeMsgSubmitRewardRecords proposer epochId records).Fits) :
    (encodeMsgSubmitRewardRecords proposer epochId records).value =
      encodeFields (submissionFields proposer epochId records) := by
  have hproposer : proposer.toUTF8.toList.length < 2 ^ 64 :=
    embedded_length_lt 1 hfits (by simp [encodeString])
  have hrecord : ∀ record ∈ records, encodeBytes 3 (encodeRewardRecordInner record) =
      WireField.encode (.ofMessage 3 record.fields) := by
    intro record hmem
    have hlength : (encodeRewardRecordInner record).length < 2 ^ 64 := by
      refine embedded_length_lt 3 hfits (List.mem_append_right _ ?_)
      exact List.mem_map_of_mem (f := fun record => encodeBytes 3 _) hmem
    rw [encodeBytes_eq (by decide) hlength, encodeRewardRecordInner_eq hlength]
    rfl
  rw [encodeMsgSubmitRewardRecords]
  dsimp only
  rw [encodeString, encodeBytes_eq (by decide) hproposer, encodeUint64_eq (by decide),
    List.map_congr_left hrecord, encodeFields, submissionFields, List.flatMap_def, List.map_append,
    List.map_map]
  rfl

/-- The chain reads the submission that the node wrote. -/
theorem unmarshal_submission
    (hfits : (encodeMsgSubmitRewardRecords proposer epochId records).Fits) :
    Chain.MsgSubmitRewardRecords.unmarshal
        (encodeMsgSubmitRewardRecords proposer epochId records).value =
      some { proposer, epochId := epochId.toNat,
             records := records.map fun record => some record.meaning } := by
  have hvalue := encodeMsgSubmitRewardRecords_eq hfits
  have hlength := hfits.length_lt hvalue
  have hparse := parseFields_of_length listed_submissionFields hlength
  have hproposer : readString (submissionFields proposer epochId records) 1 = some proposer :=
    readString_of_values (valuesOf_submissionFields 1)
  have hepoch : Chain.readUint64 (submissionFields proposer epochId records) 2 =
      some epochId.toNat := readNumber_of_values (valuesOf_submissionFields 2)
  have hrecords : readMessages Chain.RewardRecord.unmarshal
      (submissionFields proposer epochId records) 3 =
        some (records.map RewardRecordWire.meaning) := by
    refine readMessages_of_values RewardRecordWire.fields (fun record hmem => ?_) ?_
      fun record _ => record.unmarshal_fields
    · refine parseFields_of_length record.listed_fields (lt_trans ?_ hlength)
      refine content_length_lt 3 (List.mem_append_right _ ?_)
      exact List.mem_map_of_mem (f := fun record => WireField.ofMessage 3 _) hmem
    · exact valuesOf_submissionFields 3
  rw [Chain.MsgSubmitRewardRecords.unmarshal, hvalue, hparse]
  simp [hproposer, hepoch, hrecords]

end Submission

/-! ## Parameters -/

def ParamsWire.fields (p : ParamsWire) : List WireField :=
  [.ofNumber 1 p.rewardBlockDurationSeconds.toNat,
    .ofNumber 2 p.baseHourlyReward.toNat,
    .ofNumber 3 p.targetNetworkWeightUnits.toNat,
    .ofNumber 4 p.rewardAdjustmentCapBps.toNat,
    .ofNumber 5 p.challengeWindowBlocks.toNat,
    .ofNumber 6 p.minRetentionEpochs.toNat,
    .ofNumber 7 p.playerRewardAllocationBps.toNat,
    .ofNumber 8 p.serviceRewardAllocationBps.toNat,
    .ofNumber 9 p.collectRewardBps.toNat,
    .ofNumber 10 p.storeRewardBps.toNat,
    .ofNumber 11 p.verifyRewardBps.toNat,
    .ofNumber 12 p.proposeRewardBps.toNat,
    .ofNumber 13 p.tier1WeightPpm.toNat,
    .ofNumber 14 p.tier2WeightMinPpm.toNat,
    .ofNumber 15 p.tier2WeightMaxPpm.toNat,
    .ofNumber 16 p.tier3WeightMinPpm.toNat,
    .ofNumber 17 p.tier3WeightMaxPpm.toNat,
    .ofNumber 18 p.feeBurnBps.toNat,
    .ofNumber 19 p.rewardBurnThreshold.toNat,
    .ofNumber 20 p.rewardBurnBps.toNat,
    .ofNumber 21 p.governanceBurnBps.toNat,
    .ofNumber 22 p.minVerificationCount.toNat,
    .ofNumber 23 p.minPlayerVerifierShareBps.toNat,
    .ofNumber 24 p.minWitnessCount.toNat,
    .ofNumber 25 p.minWitnessObservationTolerancePpm.toNat,
    .ofNumber 26 p.minDistinctObservations.toNat,
    .ofNumber 27 p.sessionSlashBps.toNat,
    .ofNumber 28 p.minHeartbeatCount.toNat,
    .ofNumber 29 p.heartbeatBucketSeconds.toNat,
    .ofNumber 30 p.minHeartbeatCoverageBps.toNat,
    .ofNumber 31 p.challengeBondBurnBps.toNat]

theorem ParamsWire.unmarshal_fields (p : ParamsWire) :
    Chain.Params.unmarshal p.fields = some p.meaning := by
  simp [Chain.Params.unmarshal, Chain.readUint64, Chain.readUint32, readNumber, valuesOf,
    ParamsWire.fields, WireField.ofNumber, WireValue.number?, wrap32, ParamsWire.meaning]

theorem encodeParamsInner_eq (p : ParamsWire) : encodeParamsInner p = encodeFields p.fields := by
  rw [encodeParamsInner]
  simp (disch := decide) only [encodeUint64_eq, encodeUint32_eq]
  rfl

theorem ParamsWire.listed_fields (p : ParamsWire) : ∀ field ∈ p.fields, field.Listed := by
  simp [ParamsWire.fields, listed_word, listed_halfWord]

def updateFields (authority : String) (params : ParamsWire) : List WireField :=
  [.ofText 1 authority, .ofMessage 2 params.fields]

section Update

variable {authority : String} {params : ParamsWire}

theorem listed_updateFields : ∀ field ∈ updateFields authority params, field.Listed := by
  simp [updateFields, listed_ofText, listed_ofMessage]

theorem encodeMsgUpdateParams_eq (hfits : (encodeMsgUpdateParams authority params).Fits) :
    (encodeMsgUpdateParams authority params).value =
      encodeFields (updateFields authority params) := by
  have hauthority : authority.toUTF8.toList.length < 2 ^ 64 :=
    embedded_length_lt 1 hfits (by simp [encodeString])
  have hparams : (encodeParamsInner params).length < 2 ^ 64 :=
    embedded_length_lt 2 hfits (by simp)
  rw [encodeMsgUpdateParams]
  dsimp only
  rw [encodeString, encodeBytes_eq (by decide) hauthority, encodeBytes_eq (by decide) hparams,
    encodeParamsInner_eq]
  rfl

/-- The chain reads the update that the node wrote. -/
theorem unmarshal_update (hfits : (encodeMsgUpdateParams authority params).Fits) :
    Chain.MsgUpdateParams.unmarshal (encodeMsgUpdateParams authority params).value =
      some { authority, params := some params.meaning } := by
  have hvalue := encodeMsgUpdateParams_eq hfits
  have hlength := hfits.length_lt hvalue
  have hparse := parseFields_of_length listed_updateFields hlength
  have hauthority : readString (updateFields authority params) 1 = some authority :=
    readString_of_values rfl
  have hparams : readMessage Chain.Params.unmarshal (updateFields authority params) 2 =
      some (some params.meaning) := by
    refine readMessage_of_values ?_ rfl params.unmarshal_fields
    refine parseFields_of_length params.listed_fields (lt_trans ?_ hlength)
    exact content_length_lt 2 (by simp [updateFields, WireField.ofMessage])
  rw [Chain.MsgUpdateParams.unmarshal, hvalue, hparse]
  simp [hauthority, hparams]

end Update

/-! ## No two messages alike -/

/-- The messages of either kind. -/
inductive EncodedMessage where
  | submitRewardRecords (proposer : String) (epochId : UInt64) (records : List RewardRecordWire)
  | updateParams (authority : String) (params : ParamsWire)

def EncodedMessage.encode : EncodedMessage → AnyMessage
  | .submitRewardRecords proposer epochId records =>
      encodeMsgSubmitRewardRecords proposer epochId records
  | .updateParams authority params => encodeMsgUpdateParams authority params

/-- A submission and an update differ in the wire type of their second field. -/
theorem submission_ne_update {proposer authority : String} {epochId : UInt64}
    {records : List RewardRecordWire} {params : ParamsWire}
    (hsubmission : (encodeMsgSubmitRewardRecords proposer epochId records).Fits)
    (hupdate : (encodeMsgUpdateParams authority params).Fits) :
    (encodeMsgSubmitRewardRecords proposer epochId records).value ≠
      (encodeMsgUpdateParams authority params).value := by
  intro h
  have hvalue := encodeMsgSubmitRewardRecords_eq hsubmission
  have hvalue' := encodeMsgUpdateParams_eq hupdate
  have hparse := parseFields_of_length listed_submissionFields (hsubmission.length_lt hvalue)
  have hparse' := parseFields_of_length listed_updateFields (hupdate.length_lt hvalue')
  rw [hvalue, hvalue'] at h
  have hsame := hparse.symm.trans ((congrArg parseFields h).trans hparse')
  have hsecond := congrArg (fun fields => fields[1]?) (Option.some.inj hsame)
  simp [submissionFields, updateFields, WireField.ofNumber, WireField.ofMessage] at hsecond

theorem encode_injOn :
    Set.InjOn (fun message : EncodedMessage => message.encode.value) {m | m.encode.Fits} := by
  intro message hfits message' hfits' h
  cases message with
  | submitRewardRecords proposer epochId records =>
      cases message' with
      | submitRewardRecords proposer' epochId' records' =>
          have hread := (unmarshal_submission hfits).symm.trans
            ((congrArg _ h).trans (unmarshal_submission hfits'))
          simp only [Option.some.injEq, Chain.MsgSubmitRewardRecords.mk.injEq] at hread
          obtain ⟨hproposer, hepoch, hrecords⟩ := hread
          have hmeaning : Function.Injective fun record : RewardRecordWire =>
              some record.meaning := fun _ _ heq =>
            RewardRecordWire.meaning_injective (Option.some.inj heq)
          rw [hproposer, UInt64.toNat_inj.mp hepoch, List.map_injective_iff.mpr hmeaning hrecords]
      | updateParams authority params => exact absurd h (submission_ne_update hfits hfits')
  | updateParams authority params =>
      cases message' with
      | submitRewardRecords proposer epochId records =>
          exact absurd h.symm (submission_ne_update hfits' hfits)
      | updateParams authority' params' =>
          have hread := (unmarshal_update hfits).symm.trans
            ((congrArg _ h).trans (unmarshal_update hfits'))
          simp only [Option.some.injEq, Chain.MsgUpdateParams.mk.injEq] at hread
          rw [hread.1, ParamsWire.meaning_injective hread.2]

/-- Every number is read back from its encoding, which no other encoding undercuts; every
submission and every update is read by the chain as what it says; and no two of them have the same
bytes. -/
theorem encodings_decodable :
    (∀ (value : UInt64) (rest : Bytes),
      readVarint (encodeVarint value ++ rest) = some (value.toNat, rest)) ∧
    (∀ (value : UInt64) (bytes : Bytes), readVarint bytes = some (value.toNat, []) →
      (encodeVarint value).length ≤ bytes.length) ∧
    (∀ proposer epochId records, (encodeMsgSubmitRewardRecords proposer epochId records).Fits →
      Chain.MsgSubmitRewardRecords.unmarshal
          (encodeMsgSubmitRewardRecords proposer epochId records).value =
        some { proposer, epochId := epochId.toNat,
               records := records.map fun record => some record.meaning }) ∧
    (∀ authority params, (encodeMsgUpdateParams authority params).Fits →
      Chain.MsgUpdateParams.unmarshal (encodeMsgUpdateParams authority params).value =
        some { authority, params := some params.meaning }) ∧
    Set.InjOn (fun message : EncodedMessage => message.encode.value) {m | m.encode.Fits} := by
  refine ⟨fun value rest => ?_, fun value bytes hread => ?_, fun _ _ _ => unmarshal_submission,
    fun _ _ => unmarshal_update, encode_injOn⟩
  · rw [encodeVarint_eq]
    exact readVarint_varint rest value.toNat_lt
  · rw [encodeVarint_eq]
    exact varint_shortest hread

/-- A record that the reward root of an epoch pays. -/
def paidRecord : RewardRecordWire where
  epochId := 300
  recipient := "pole1é"
  playerReward := 0
  collectReward := 18446744073709551615
  storeReward := 128
  verifyReward := 127
  proposeReward := 1
  slashDebit := 0
  netReward := 16384

theorem encodings_decodable_one :
    (encodeMsgSubmitRewardRecords "pole1p" 7 [paidRecord, paidRecord]).Fits ∧
      Chain.MsgSubmitRewardRecords.unmarshal
          (encodeMsgSubmitRewardRecords "pole1p" 7 [paidRecord, paidRecord]).value =
        some { proposer := "pole1p", epochId := 7,
               records := [some paidRecord.meaning, some paidRecord.meaning] } := by
  have hfits : (encodeMsgSubmitRewardRecords "pole1p" 7 [paidRecord, paidRecord]).Fits := by
    unfold AnyMessage.Fits
    decide +kernel
  exact ⟨hfits, encodings_decodable.2.2.1 _ _ _ hfits⟩

end PoleProtocol.Node
