import PoleProtocol.Framework.Layouts
import PoleProtocol.Chain.Registry
import PoleProtocol.Node.BridgeMessages

/-!
# Bridge messages on the chain

Every message of the bridge is read by the chain, under the name of its type, as what it says: each
field under its number and at its width, with the signer that the bridge put in front.
-/

namespace PoleProtocol.Node

open Framework Framework.Protobuf Ledger

/-! ## The parts of a message -/

section Parts

variable {fieldNumber : UInt32} {number : ℕ}

/-- A field number of the format. -/
def Numbered (fieldNumber : UInt32) (number : ℕ) : Prop :=
  fieldNumber.toNat = number ∧ 0 < number ∧ number < 2 ^ 29

instance : Decidable (Numbered fieldNumber number) := inferInstanceAs (Decidable (_ ∧ _ ∧ _))

theorem Numbered.toNat_lt (h : Numbered fieldNumber number) : fieldNumber.toNat < 2 ^ 29 := by
  rw [h.1]
  exact h.2.2

theorem part_bytes (h : Numbered fieldNumber number) (value : Bytes) :
    Part (encodeBytes fieldNumber value) ⟨number, .content value⟩ := by
  refine ⟨fun hlength => ?_, h.2.1, h.2.2, Or.inr ⟨_, rfl⟩⟩
  have hvalue := length_lt_encodeBytes fieldNumber value
  rw [encodeBytes_eq h.toNat_lt (by omega), h.1]

theorem part_text (h : Numbered fieldNumber number) (text : String) :
    Part (encodeString fieldNumber text) (.ofText number text) := part_bytes h _

theorem part_message (h : Numbered fieldNumber number) {bytes : Bytes} {fields : List WireField}
    (hinner : Layout bytes fields) :
    Part (encodeBytes fieldNumber bytes) (.ofMessage number fields) := by
  refine ⟨fun hlength => ?_, listed_ofMessage _ h.2.1 h.2.2⟩
  have hbytes := length_lt_encodeBytes fieldNumber bytes
  have hfields : bytes = encodeFields fields := hinner.encodes (by omega)
  rw [(part_bytes h bytes).encodes hlength, hfields]
  rfl

theorem part_uint64 (h : Numbered fieldNumber number) (value : UInt64) :
    Part (encodeUint64 fieldNumber value) (.ofNumber number value.toNat) := by
  refine ⟨fun _ => ?_, listed_word value h.2.1 h.2.2⟩
  rw [encodeUint64_eq h.toNat_lt, h.1]
  rfl

theorem part_uint32 (h : Numbered fieldNumber number) (value : UInt32) :
    Part (encodeUint32 fieldNumber value) (.ofNumber number value.toNat) := by
  refine ⟨fun _ => ?_, listed_halfWord value h.2.1 h.2.2⟩
  rw [encodeUint32_eq h.toNat_lt, h.1]
  rfl

theorem part_int32 (h : Numbered fieldNumber number) (value : Int32) :
    Part (encodeInt32 fieldNumber value) (.ofNumber number value.toInt64.toUInt64.toNat) := by
  refine ⟨fun _ => ?_, listed_word _ h.2.1 h.2.2⟩
  rw [encodeInt32_eq h.toNat_lt, h.1]
  rfl

theorem part_int64 (h : Numbered fieldNumber number) (value : Int64) :
    Part (encodeInt64 fieldNumber value) (.ofNumber number value.toUInt64.toNat) := by
  refine ⟨fun _ => ?_, listed_word _ h.2.1 h.2.2⟩
  rw [encodeInt64_eq h.toNat_lt, h.1]
  rfl

theorem part_bool (h : Numbered fieldNumber number) (value : Bool) :
    Part (encodeBool fieldNumber value) (.ofNumber number value.toNat) := by
  have hvalue : (if value then (1 : UInt64) else 0).toNat = value.toNat := by
    cases value <;> rfl
  rw [← hvalue]
  exact part_uint64 h _

end Parts

/-! ## The values of a field -/

section Values

variable {fields : List WireField} {number : ℕ}

theorem readUint32_of_values {value : UInt32} (h : valuesOf fields number = [.varint value.toNat]) :
    Chain.readUint32 fields number = some value.toNat := by
  rw [Chain.readUint32, readNumber_of_values h, Option.map_some, wrap32,
    Nat.mod_eq_of_lt value.toNat_lt]

theorem readInt64_of_values {value : Int64}
    (h : valuesOf fields number = [.varint value.toUInt64.toNat]) :
    Chain.readInt64 fields number = some value.toInt := by
  have hword : BitVec.ofNat 64 value.toBitVec.toNat = value.toBitVec := by simp
  rw [Chain.readInt64, readNumber_of_values h, Option.map_some]
  change some (BitVec.ofNat 64 value.toBitVec.toNat).toInt = _
  rw [hword]
  rfl

theorem readBool_of_values {value : Bool} (h : valuesOf fields number = [.varint value.toNat]) :
    Chain.readBool fields number = some value := by
  rw [Chain.readBool, readNumber_of_values h]
  cases value <;> rfl

end Values

/-! ## Records -/

def MerkleCommitmentWire.meaning (m : MerkleCommitmentWire) : Chain.MerkleCommitment where
  root := m.root
  leafCount := m.leafCount.toNat

def MerkleCommitmentWire.fields (m : MerkleCommitmentWire) : List WireField :=
  [.ofText 1 m.root, .ofNumber 2 m.leafCount.toNat]

theorem layout_merkleCommitment (m : MerkleCommitmentWire) :
    Layout (encodeMerkleCommitmentInner m) m.fields := by
  refine layout_flatten ?_
  simp (disch := decide) [MerkleCommitmentWire.fields, part_text, part_uint32]

theorem MerkleCommitmentWire.unmarshal_fields (m : MerkleCommitmentWire) :
    Chain.MerkleCommitment.unmarshal m.fields = some m.meaning := by
  have hroot : readString m.fields 1 = some m.root := readString_of_values rfl
  have hcount : Chain.readUint32 m.fields 2 = some m.leafCount.toNat := readUint32_of_values rfl
  rw [Chain.MerkleCommitment.unmarshal, hroot, hcount]
  rfl

def nodeRole : NodeRoleWire → Chain.NodeRole
  | .player => .player
  | .service => .service
  | .coordinator => .coordinator

theorem ofNumber_nodeRole (role : NodeRoleWire) :
    Chain.NodeRole.ofNumber
      (BitVec.ofNat 32 (nodeRoleToProto role).toInt64.toUInt64.toNat).toInt = nodeRole role := by
  cases role <;> rfl

def NodeCapabilitySetWire.meaning (c : NodeCapabilitySetWire) : Chain.NodeCapabilitySet where
  collect := c.collect
  store := c.store
  verify := c.verify
  propose := c.propose

def NodeCapabilitySetWire.fields (c : NodeCapabilitySetWire) : List WireField :=
  [.ofNumber 1 c.collect.toNat,
    .ofNumber 2 c.store.toNat,
    .ofNumber 3 c.verify.toNat,
    .ofNumber 4 c.propose.toNat]

theorem layout_nodeCapabilitySet (c : NodeCapabilitySetWire) :
    Layout (encodeNodeCapabilitySetInner c) c.fields := by
  refine layout_flatten ?_
  simp (disch := decide) [NodeCapabilitySetWire.fields, part_bool]

theorem NodeCapabilitySetWire.unmarshal_fields (c : NodeCapabilitySetWire) :
    Chain.NodeCapabilitySet.unmarshal c.fields = some c.meaning := by
  have hcollect : Chain.readBool c.fields 1 = some c.collect := readBool_of_values rfl
  have hstore : Chain.readBool c.fields 2 = some c.store := readBool_of_values rfl
  have hverify : Chain.readBool c.fields 3 = some c.verify := readBool_of_values rfl
  have hpropose : Chain.readBool c.fields 4 = some c.propose := readBool_of_values rfl
  rw [Chain.NodeCapabilitySet.unmarshal, hcollect, hstore, hverify, hpropose]
  rfl

def NodeRecordWire.meaning (node : NodeRecordWire) : Chain.NodeRecord where
  operatorAddress := node.operatorAddress
  rewardAddress := node.rewardAddress
  consensusAddress := node.consensusAddress
  role := nodeRole node.role
  capabilities := some node.capabilities.meaning
  active := node.active
  bondedTokens := node.bondedTokens.toNat
  lastUpdatedEpoch := node.lastUpdatedEpoch.toNat
  isPlayer := node.isPlayer

def NodeRecordWire.fields (node : NodeRecordWire) : List WireField :=
  [.ofText 1 node.operatorAddress,
    .ofText 2 node.rewardAddress,
    .ofText 3 node.consensusAddress,
    .ofNumber 4 (nodeRoleToProto node.role).toInt64.toUInt64.toNat,
    .ofMessage 5 node.capabilities.fields,
    .ofNumber 6 node.active.toNat,
    .ofNumber 7 node.bondedTokens.toNat,
    .ofNumber 8 node.lastUpdatedEpoch.toNat,
    .ofNumber 9 node.isPlayer.toNat]

theorem layout_nodeRecord (node : NodeRecordWire) :
    Layout (encodeNodeRecordInner node) node.fields := by
  have hcapabilities : Part (encodeBytes 5 _) (.ofMessage 5 _) :=
    part_message (by decide) (layout_nodeCapabilitySet node.capabilities)
  refine layout_flatten ?_
  simp (disch := decide) [NodeRecordWire.fields, part_text, part_int32, part_bool, part_uint64,
    hcapabilities]

theorem NodeRecordWire.unmarshal_fields {node : NodeRecordWire} (h : Readable node.fields) :
    Chain.NodeRecord.unmarshal node.fields = some node.meaning := by
  have hoperator : readString node.fields 1 = some node.operatorAddress := readString_of_values rfl
  have hreward : readString node.fields 2 = some node.rewardAddress := readString_of_values rfl
  have hconsensus : readString node.fields 3 = some node.consensusAddress :=
    readString_of_values rfl
  have hinner : Readable node.capabilities.fields :=
    h.inner 5 (by simp [NodeRecordWire.fields]) (layout_nodeCapabilitySet _).listed
  have hcapabilities : readMessage Chain.NodeCapabilitySet.unmarshal node.fields 5 =
      some (some node.capabilities.meaning) :=
    hinner.readMessage rfl node.capabilities.unmarshal_fields
  have hactive : Chain.readBool node.fields 6 = some node.active := readBool_of_values rfl
  have hplayer : Chain.readBool node.fields 9 = some node.isPlayer := readBool_of_values rfl
  rw [Chain.NodeRecord.unmarshal, hoperator, hreward, hconsensus, hcapabilities, hactive, hplayer,
    NodeRecordWire.meaning, ← ofNumber_nodeRole]
  rfl

def AggregateRecordWire.meaning (a : AggregateRecordWire) : Chain.AggregateRecord where
  epochId := a.epochId.toNat
  appId := a.appId.toNat
  totalWeightUnits := a.totalWeightUnits.toNat
  playerCount := a.playerCount.toNat

def AggregateRecordWire.fields (a : AggregateRecordWire) : List WireField :=
  [.ofNumber 1 a.epochId.toNat,
    .ofNumber 2 a.appId.toNat,
    .ofNumber 3 a.totalWeightUnits.toNat,
    .ofNumber 4 a.playerCount.toNat]

theorem layout_aggregateRecord (a : AggregateRecordWire) :
    Layout (encodeAggregateRecordInner a) a.fields := by
  refine layout_flatten ?_
  simp (disch := decide) [AggregateRecordWire.fields, part_uint64, part_uint32]

theorem AggregateRecordWire.unmarshal_fields (a : AggregateRecordWire) :
    Chain.AggregateRecord.unmarshal a.fields = some a.meaning := by
  have happ : Chain.readUint32 a.fields 2 = some a.appId.toNat := readUint32_of_values rfl
  rw [Chain.AggregateRecord.unmarshal, happ]
  rfl

def BatchCommitWire.meaning (b : BatchCommitWire) : Chain.BatchCommit where
  epochId := b.epochId.toNat
  collectorAddress := b.collectorAddress
  slotStart := b.slotStart.toNat
  slotEnd := b.slotEnd.toNat
  batch := some b.batch.meaning
  payloadCid := b.payloadCid
  observationCount := b.observationCount.toNat
  submittedAtHeight := b.submittedAtHeight.toInt

def BatchCommitWire.fields (b : BatchCommitWire) : List WireField :=
  [.ofNumber 1 b.epochId.toNat,
    .ofText 2 b.collectorAddress,
    .ofNumber 3 b.slotStart.toNat,
    .ofNumber 4 b.slotEnd.toNat,
    .ofMessage 5 b.batch.fields,
    .ofText 6 b.payloadCid,
    .ofNumber 7 b.observationCount.toNat,
    .ofNumber 8 b.submittedAtHeight.toUInt64.toNat]

theorem layout_batchCommit (b : BatchCommitWire) :
    Layout (encodeBatchCommitInner b) b.fields := by
  have hbatch : Part (encodeBytes 5 _) (.ofMessage 5 _) :=
    part_message (by decide) (layout_merkleCommitment b.batch)
  refine layout_flatten ?_
  simp (disch := decide) [BatchCommitWire.fields, part_text, part_uint64, part_uint32, part_int64,
    hbatch]

theorem BatchCommitWire.unmarshal_fields {b : BatchCommitWire} (h : Readable b.fields) :
    Chain.BatchCommit.unmarshal b.fields = some b.meaning := by
  have hcollector : readString b.fields 2 = some b.collectorAddress := readString_of_values rfl
  have hinner : Readable b.batch.fields :=
    h.inner 5 (by simp [BatchCommitWire.fields]) (layout_merkleCommitment _).listed
  have hbatch : readMessage Chain.MerkleCommitment.unmarshal b.fields 5 =
      some (some b.batch.meaning) := hinner.readMessage rfl b.batch.unmarshal_fields
  have hcid : readString b.fields 6 = some b.payloadCid := readString_of_values rfl
  have hcount : Chain.readUint32 b.fields 7 = some b.observationCount.toNat :=
    readUint32_of_values rfl
  have hheight : Chain.readInt64 b.fields 8 = some b.submittedAtHeight.toInt :=
    readInt64_of_values rfl
  rw [Chain.BatchCommit.unmarshal, hcollector, hbatch, hcid, hcount, hheight]
  rfl

def ReplicaReceiptWire.meaning (r : ReplicaReceiptWire) : Chain.ReplicaReceipt where
  epochId := r.epochId.toNat
  payloadCid := r.payloadCid
  storerAddress := r.storerAddress
  retentionUntilEpoch := r.retentionUntilEpoch.toNat
  receiptSignature := r.receiptSignature
  receiptHashHex := r.receiptHashHex

def ReplicaReceiptWire.fields (r : ReplicaReceiptWire) : List WireField :=
  [.ofNumber 1 r.epochId.toNat,
    .ofText 2 r.payloadCid,
    .ofText 3 r.storerAddress,
    .ofNumber 4 r.retentionUntilEpoch.toNat,
    .ofText 5 r.receiptSignature,
    .ofText 6 r.receiptHashHex]

theorem layout_replicaReceipt (r : ReplicaReceiptWire) :
    Layout (encodeReplicaReceiptInner r) r.fields := by
  refine layout_flatten ?_
  simp (disch := decide) [ReplicaReceiptWire.fields, part_text, part_uint64]

theorem ReplicaReceiptWire.unmarshal_fields (r : ReplicaReceiptWire) :
    Chain.ReplicaReceipt.unmarshal r.fields = some r.meaning := by
  have hcid : readString r.fields 2 = some r.payloadCid := readString_of_values rfl
  have hstorer : readString r.fields 3 = some r.storerAddress := readString_of_values rfl
  have hsignature : readString r.fields 5 = some r.receiptSignature := readString_of_values rfl
  have hhash : readString r.fields 6 = some r.receiptHashHex := readString_of_values rfl
  rw [Chain.ReplicaReceipt.unmarshal, hcid, hstorer, hsignature, hhash]
  rfl

def EpochCommitWire.meaning (c : EpochCommitWire) : Chain.EpochCommit where
  epochId := c.epochId.toNat
  acceptedBatches := some c.acceptedBatches.meaning
  observations := some c.observations.meaning
  aggregates := some c.aggregates.meaning
  rewards := some c.rewards.meaning
  availability := some c.availability.meaning
  randomnessSeedHex := c.randomnessSeedHex
  proposerAddress := c.proposerAddress
  challengeOpenHeight := c.challengeOpenHeight.toInt
  challengeDeadlineHeight := c.challengeDeadlineHeight.toInt
  finalized := c.finalized
  totalNetworkWeightUnits := c.totalNetworkWeightUnits.toNat

def EpochCommitWire.fields (c : EpochCommitWire) : List WireField :=
  [.ofNumber 1 c.epochId.toNat,
    .ofMessage 2 c.acceptedBatches.fields,
    .ofMessage 3 c.observations.fields,
    .ofMessage 4 c.aggregates.fields,
    .ofMessage 5 c.rewards.fields,
    .ofMessage 6 c.availability.fields,
    .ofText 7 c.randomnessSeedHex,
    .ofText 8 c.proposerAddress,
    .ofNumber 9 c.challengeOpenHeight.toUInt64.toNat,
    .ofNumber 10 c.challengeDeadlineHeight.toUInt64.toNat,
    .ofNumber 11 c.finalized.toNat,
    .ofNumber 12 c.totalNetworkWeightUnits.toNat]

theorem layout_epochCommit (c : EpochCommitWire) :
    Layout (encodeEpochCommitInner c) c.fields := by
  have hroot : ∀ {fieldNumber : UInt32} {number : ℕ} (m : MerkleCommitmentWire),
      Numbered fieldNumber number →
        Part (encodeBytes fieldNumber (encodeMerkleCommitmentInner m))
          (.ofMessage number m.fields) :=
    fun m hn => part_message hn (layout_merkleCommitment m)
  refine layout_flatten ?_
  simp (disch := decide) [EpochCommitWire.fields, part_text, part_uint64, part_int64, part_bool,
    hroot]

theorem EpochCommitWire.unmarshal_fields {c : EpochCommitWire} (h : Readable c.fields) :
    Chain.EpochCommit.unmarshal c.fields = some c.meaning := by
  have hroot : ∀ {number : ℕ} {m : MerkleCommitmentWire}, .ofMessage number m.fields ∈ c.fields →
      valuesOf c.fields number = [.content (encodeFields m.fields)] →
      readMessage Chain.MerkleCommitment.unmarshal c.fields number = some (some m.meaning) := by
    intro number m hmem hvalues
    exact (h.inner number hmem (layout_merkleCommitment m).listed).readMessage hvalues
      m.unmarshal_fields
  have hbatches := @hroot 2 c.acceptedBatches (by simp [EpochCommitWire.fields]) rfl
  have hobservations := @hroot 3 c.observations (by simp [EpochCommitWire.fields]) rfl
  have haggregates := @hroot 4 c.aggregates (by simp [EpochCommitWire.fields]) rfl
  have hrewards := @hroot 5 c.rewards (by simp [EpochCommitWire.fields]) rfl
  have havailability := @hroot 6 c.availability (by simp [EpochCommitWire.fields]) rfl
  have hseed : readString c.fields 7 = some c.randomnessSeedHex := readString_of_values rfl
  have hproposer : readString c.fields 8 = some c.proposerAddress := readString_of_values rfl
  have hopen : Chain.readInt64 c.fields 9 = some c.challengeOpenHeight.toInt :=
    readInt64_of_values rfl
  have hdeadline : Chain.readInt64 c.fields 10 = some c.challengeDeadlineHeight.toInt :=
    readInt64_of_values rfl
  have hfinalized : Chain.readBool c.fields 11 = some c.finalized := readBool_of_values rfl
  rw [Chain.EpochCommit.unmarshal, hbatches, hobservations, haggregates, hrewards, havailability,
    hseed, hproposer, hopen, hdeadline, hfinalized]
  rfl

def GameWeightEntryWire.meaning (e : GameWeightEntryWire) : Chain.GameWeightEntry where
  appId := e.appId.toNat
  gameWeightPpm := e.gameWeightPpm.toNat
  tier := e.tier
  effectiveFromEpochId := e.effectiveFromEpochId.toNat

def GameWeightEntryWire.fields (e : GameWeightEntryWire) : List WireField :=
  [.ofNumber 1 e.appId.toNat,
    .ofNumber 2 e.gameWeightPpm.toNat,
    .ofText 3 e.tier,
    .ofNumber 4 e.effectiveFromEpochId.toNat]

theorem layout_gameWeightEntry (e : GameWeightEntryWire) :
    Layout (encodeGameWeightEntryInner e) e.fields := by
  refine layout_flatten ?_
  simp (disch := decide) [GameWeightEntryWire.fields, part_text, part_uint32, part_uint64]

theorem GameWeightEntryWire.unmarshal_fields (e : GameWeightEntryWire) :
    Chain.GameWeightEntry.unmarshal e.fields = some e.meaning := by
  have happ : Chain.readUint32 e.fields 1 = some e.appId.toNat := readUint32_of_values rfl
  have hweight : Chain.readUint32 e.fields 2 = some e.gameWeightPpm.toNat :=
    readUint32_of_values rfl
  have htier : readString e.fields 3 = some e.tier := readString_of_values rfl
  rw [Chain.GameWeightEntry.unmarshal, happ, hweight, htier]
  rfl

def PlaySessionWire.meaning (s : PlaySessionWire) : Chain.PlaySession where
  sessionIdHex := s.sessionIdHex
  nodeAddress := s.nodeAddress
  appId := s.appId.toNat
  epochId := s.epochId.toNat
  slotId := s.slotId.toNat
  playSeconds := s.playSeconds.toNat
  collectorAddress := s.collectorAddress
  observationCid := s.observationCid
  observedPlayers := s.observedPlayers.toNat
  submittedAtHeight := s.submittedAtHeight.toInt
  sessionSignature := s.sessionSignature

def PlaySessionWire.fields (s : PlaySessionWire) : List WireField :=
  [.ofText 1 s.sessionIdHex,
    .ofText 2 s.nodeAddress,
    .ofNumber 3 s.appId.toNat,
    .ofNumber 4 s.epochId.toNat,
    .ofNumber 5 s.slotId.toNat,
    .ofNumber 6 s.playSeconds.toNat,
    .ofText 7 s.collectorAddress,
    .ofText 8 s.observationCid,
    .ofNumber 9 s.observedPlayers.toNat,
    .ofNumber 10 s.submittedAtHeight.toUInt64.toNat,
    .ofText 11 s.sessionSignature]

theorem layout_playSession (s : PlaySessionWire) :
    Layout (encodePlaySessionInner s) s.fields := by
  refine layout_flatten ?_
  simp (disch := decide) [PlaySessionWire.fields, part_text, part_uint32, part_uint64, part_int64]

theorem PlaySessionWire.unmarshal_fields (s : PlaySessionWire) :
    Chain.PlaySession.unmarshal s.fields = some s.meaning := by
  have hid : readString s.fields 1 = some s.sessionIdHex := readString_of_values rfl
  have hnode : readString s.fields 2 = some s.nodeAddress := readString_of_values rfl
  have happ : Chain.readUint32 s.fields 3 = some s.appId.toNat := readUint32_of_values rfl
  have hcollector : readString s.fields 7 = some s.collectorAddress := readString_of_values rfl
  have hcid : readString s.fields 8 = some s.observationCid := readString_of_values rfl
  have hheight : Chain.readInt64 s.fields 10 = some s.submittedAtHeight.toInt :=
    readInt64_of_values rfl
  have hsignature : readString s.fields 11 = some s.sessionSignature := readString_of_values rfl
  rw [Chain.PlaySession.unmarshal, hid, hnode, happ, hcollector, hcid, hheight, hsignature]
  rfl

def PlayHeartbeatWire.meaning (h : PlayHeartbeatWire) : Chain.PlayHeartbeat where
  sessionIdHex := h.sessionIdHex
  nodeAddress := h.nodeAddress
  bucketIndex := h.bucketIndex.toNat
  signedAtMillis := h.signedAtMillis.toInt
  heartbeatSignature := h.heartbeatSignature

def PlayHeartbeatWire.fields (h : PlayHeartbeatWire) : List WireField :=
  [.ofText 1 h.sessionIdHex,
    .ofText 2 h.nodeAddress,
    .ofNumber 3 h.bucketIndex.toNat,
    .ofNumber 4 h.signedAtMillis.toUInt64.toNat,
    .ofText 5 h.heartbeatSignature]

theorem layout_playHeartbeat (h : PlayHeartbeatWire) :
    Layout (encodePlayHeartbeatInner h) h.fields := by
  refine layout_flatten ?_
  simp (disch := decide) [PlayHeartbeatWire.fields, part_text, part_uint64, part_int64]

theorem PlayHeartbeatWire.unmarshal_fields (h : PlayHeartbeatWire) :
    Chain.PlayHeartbeat.unmarshal h.fields = some h.meaning := by
  have hid : readString h.fields 1 = some h.sessionIdHex := readString_of_values rfl
  have hnode : readString h.fields 2 = some h.nodeAddress := readString_of_values rfl
  have hmillis : Chain.readInt64 h.fields 4 = some h.signedAtMillis.toInt :=
    readInt64_of_values rfl
  have hsignature : readString h.fields 5 = some h.heartbeatSignature := readString_of_values rfl
  rw [Chain.PlayHeartbeat.unmarshal, hid, hnode, hmillis, hsignature]
  rfl

def WitnessAttestationWire.meaning (a : WitnessAttestationWire) : Chain.WitnessAttestation where
  sessionIdHex := a.sessionIdHex
  witnessAddress := a.witnessAddress
  observedPlaySeconds := a.observedPlaySeconds.toNat
  witnessObservationCid := a.witnessObservationCid
  observedPlayers := a.observedPlayers.toNat
  attestedAtHeight := a.attestedAtHeight.toInt
  witnessSignature := a.witnessSignature

def WitnessAttestationWire.fields (a : WitnessAttestationWire) : List WireField :=
  [.ofText 1 a.sessionIdHex,
    .ofText 2 a.witnessAddress,
    .ofNumber 3 a.observedPlaySeconds.toNat,
    .ofText 4 a.witnessObservationCid,
    .ofNumber 5 a.observedPlayers.toNat,
    .ofNumber 6 a.attestedAtHeight.toUInt64.toNat,
    .ofText 7 a.witnessSignature]

theorem layout_witnessAttestation (a : WitnessAttestationWire) :
    Layout (encodeWitnessAttestationInner a) a.fields := by
  refine layout_flatten ?_
  simp (disch := decide) [WitnessAttestationWire.fields, part_text, part_uint64, part_int64]

theorem WitnessAttestationWire.unmarshal_fields (a : WitnessAttestationWire) :
    Chain.WitnessAttestation.unmarshal a.fields = some a.meaning := by
  have hid : readString a.fields 1 = some a.sessionIdHex := readString_of_values rfl
  have hwitness : readString a.fields 2 = some a.witnessAddress := readString_of_values rfl
  have hcid : readString a.fields 4 = some a.witnessObservationCid := readString_of_values rfl
  have hheight : Chain.readInt64 a.fields 6 = some a.attestedAtHeight.toInt :=
    readInt64_of_values rfl
  have hsignature : readString a.fields 7 = some a.witnessSignature := readString_of_values rfl
  rw [Chain.WitnessAttestation.unmarshal, hid, hwitness, hcid, hheight, hsignature]
  rfl

/-! ## Messages of an account and a record -/

section Signed

variable {α : Type} {decode : List WireField → Option α} {a : α}
  {typeUrl account : String} {inner : Bytes} {fields : List WireField}

theorem layout_signed (typeUrl account : String) (h : Layout inner fields) :
    Layout (encodeSigned typeUrl account inner).value
      [.ofText 1 account, .ofMessage 2 fields] := by
  have hrecord : Part (encodeBytes 2 inner) (.ofMessage 2 fields) := part_message (by decide) h
  refine layout_flatten ?_
  simp (disch := decide) [part_text, hrecord]

/-- What the chain finds in such a message. -/
theorem signed_read (h : Layout inner fields) (hfits : (encodeSigned typeUrl account inner).Fits)
    (hdecode : Readable fields → decode fields = some a) :
    ∃ read, parseFields (encodeSigned typeUrl account inner).value = some read ∧
      readString read 1 = some account ∧ readMessage decode read 2 = some (some a) := by
  have hlayout := layout_signed typeUrl account h
  have hinner : Readable fields := (hlayout.readable hfits).inner 2 (by simp) h.listed
  exact ⟨_, hlayout.parse hfits, readString_of_values rfl,
    hinner.readMessage rfl (hdecode hinner)⟩

end Signed

section Messages

variable {account : String}

theorem unmarshal_upsertNode {node : NodeRecordWire}
    (hfits : (encodeMsgUpsertNode account node).Fits) :
    Chain.MsgUpsertNode.unmarshal (encodeMsgUpsertNode account node).value =
      some { operator := account, node := some node.meaning } := by
  obtain ⟨read, hparse, haccount, hrecord⟩ :=
    signed_read (layout_nodeRecord node) hfits fun h => NodeRecordWire.unmarshal_fields h
  rw [Chain.MsgUpsertNode.unmarshal, encodeMsgUpsertNode, hparse]
  simp [haccount, hrecord]

theorem unmarshal_upsertAggregateRecord {record : AggregateRecordWire}
    (hfits : (encodeMsgUpsertAggregateRecord account record).Fits) :
    Chain.MsgUpsertAggregateRecord.unmarshal (encodeMsgUpsertAggregateRecord account record).value =
      some { operator := account, aggregateRecord := some record.meaning } := by
  obtain ⟨read, hparse, haccount, hrecord⟩ :=
    signed_read (layout_aggregateRecord record) hfits fun _ => record.unmarshal_fields
  rw [Chain.MsgUpsertAggregateRecord.unmarshal, encodeMsgUpsertAggregateRecord, hparse]
  simp [haccount, hrecord]

theorem unmarshal_submitBatch {batch : BatchCommitWire}
    (hfits : (encodeMsgSubmitBatch account batch).Fits) :
    Chain.MsgSubmitBatch.unmarshal (encodeMsgSubmitBatch account batch).value =
      some { collector := account, batchCommit := some batch.meaning } := by
  obtain ⟨read, hparse, haccount, hrecord⟩ :=
    signed_read (layout_batchCommit batch) hfits fun h => BatchCommitWire.unmarshal_fields h
  rw [Chain.MsgSubmitBatch.unmarshal, encodeMsgSubmitBatch, hparse]
  simp [haccount, hrecord]

theorem unmarshal_submitReplicaReceipt {receipt : ReplicaReceiptWire}
    (hfits : (encodeMsgSubmitReplicaReceipt account receipt).Fits) :
    Chain.MsgSubmitReplicaReceipt.unmarshal (encodeMsgSubmitReplicaReceipt account receipt).value =
      some { storer := account, replicaReceipt := some receipt.meaning } := by
  obtain ⟨read, hparse, haccount, hrecord⟩ :=
    signed_read (layout_replicaReceipt receipt) hfits fun _ => receipt.unmarshal_fields
  rw [Chain.MsgSubmitReplicaReceipt.unmarshal, encodeMsgSubmitReplicaReceipt, hparse]
  simp [haccount, hrecord]

theorem unmarshal_commitEpoch {commit : EpochCommitWire}
    (hfits : (encodeMsgCommitEpoch account commit).Fits) :
    Chain.MsgCommitEpoch.unmarshal (encodeMsgCommitEpoch account commit).value =
      some { proposer := account, epochCommit := some commit.meaning } := by
  obtain ⟨read, hparse, haccount, hrecord⟩ :=
    signed_read (layout_epochCommit commit) hfits fun h => EpochCommitWire.unmarshal_fields h
  rw [Chain.MsgCommitEpoch.unmarshal, encodeMsgCommitEpoch, hparse]
  simp [haccount, hrecord]

theorem unmarshal_upsertGameWeight {entry : GameWeightEntryWire}
    (hfits : (encodeMsgUpsertGameWeight account entry).Fits) :
    Chain.MsgUpsertGameWeight.unmarshal (encodeMsgUpsertGameWeight account entry).value =
      some { authority := account, entry := some entry.meaning } := by
  obtain ⟨read, hparse, haccount, hrecord⟩ :=
    signed_read (layout_gameWeightEntry entry) hfits fun _ => entry.unmarshal_fields
  rw [Chain.MsgUpsertGameWeight.unmarshal, encodeMsgUpsertGameWeight, hparse]
  simp [haccount, hrecord]

theorem unmarshal_submitPlaySession {session : PlaySessionWire}
    (hfits : (encodeMsgSubmitPlaySession account session).Fits) :
    Chain.MsgSubmitPlaySession.unmarshal (encodeMsgSubmitPlaySession account session).value =
      some { nodeAddress := account, session := some session.meaning } := by
  obtain ⟨read, hparse, haccount, hrecord⟩ :=
    signed_read (layout_playSession session) hfits fun _ => session.unmarshal_fields
  rw [Chain.MsgSubmitPlaySession.unmarshal, encodeMsgSubmitPlaySession, hparse]
  simp [haccount, hrecord]

theorem unmarshal_submitPlayHeartbeat {heartbeat : PlayHeartbeatWire}
    (hfits : (encodeMsgSubmitPlayHeartbeat account heartbeat).Fits) :
    Chain.MsgSubmitPlayHeartbeat.unmarshal (encodeMsgSubmitPlayHeartbeat account heartbeat).value =
      some { nodeAddress := account, heartbeat := some heartbeat.meaning } := by
  obtain ⟨read, hparse, haccount, hrecord⟩ :=
    signed_read (layout_playHeartbeat heartbeat) hfits fun _ => heartbeat.unmarshal_fields
  rw [Chain.MsgSubmitPlayHeartbeat.unmarshal, encodeMsgSubmitPlayHeartbeat, hparse]
  simp [haccount, hrecord]

theorem unmarshal_attestSession {attestation : WitnessAttestationWire}
    (hfits : (encodeMsgAttestSession account attestation).Fits) :
    Chain.MsgAttestSession.unmarshal (encodeMsgAttestSession account attestation).value =
      some { witness := account, attestation := some attestation.meaning } := by
  obtain ⟨read, hparse, haccount, hrecord⟩ :=
    signed_read (layout_witnessAttestation attestation) hfits fun _ => attestation.unmarshal_fields
  rw [Chain.MsgAttestSession.unmarshal, encodeMsgAttestSession, hparse]
  simp [haccount, hrecord]

/-! ## Flat messages -/

theorem unmarshal_finalizeEpoch {epochId : UInt64}
    (hfits : (encodeMsgFinalizeEpoch account epochId).Fits) :
    Chain.MsgFinalizeEpoch.unmarshal (encodeMsgFinalizeEpoch account epochId).value =
      some { finalizer := account, epochId := epochId.toNat } := by
  have hlayout : Layout (encodeMsgFinalizeEpoch account epochId).value
      [.ofText 1 account, .ofNumber 2 epochId.toNat] := by
    refine layout_flatten ?_
    simp (disch := decide) [part_text, part_uint64]
  have haccount : readString [.ofText 1 account, .ofNumber 2 epochId.toNat] 1 = some account :=
    readString_of_values rfl
  rw [Chain.MsgFinalizeEpoch.unmarshal, hlayout.parse hfits, Option.bind_eq_bind, Option.bind_some,
    haccount]
  rfl

theorem unmarshal_claimReward {epochId : UInt64} {recipient : String}
    (hfits : (encodeMsgClaimReward account epochId recipient).Fits) :
    Chain.MsgClaimReward.unmarshal (encodeMsgClaimReward account epochId recipient).value =
      some { claimer := account, epochId := epochId.toNat, recipient } := by
  let fields := [WireField.ofText 1 account, .ofNumber 2 epochId.toNat, .ofText 3 recipient]
  have hlayout : Layout (encodeMsgClaimReward account epochId recipient).value fields := by
    refine layout_flatten ?_
    simp (disch := decide) [fields, part_text, part_uint64]
  have haccount : readString fields 1 = some account := readString_of_values rfl
  have hrecipient : readString fields 3 = some recipient := readString_of_values rfl
  rw [Chain.MsgClaimReward.unmarshal, hlayout.parse hfits, Option.bind_eq_bind, Option.bind_some,
    haccount, hrecipient]
  rfl

theorem unmarshal_settleSession {sessionIdHex : String}
    (hfits : (encodeMsgSettleSession account sessionIdHex).Fits) :
    Chain.MsgSettleSession.unmarshal (encodeMsgSettleSession account sessionIdHex).value =
      some { settler := account, sessionIdHex } := by
  let fields := [WireField.ofText 1 account, .ofText 2 sessionIdHex]
  have hlayout : Layout (encodeMsgSettleSession account sessionIdHex).value fields := by
    refine layout_flatten ?_
    simp (disch := decide) [fields, part_text]
  have haccount : readString fields 1 = some account := readString_of_values rfl
  have hid : readString fields 2 = some sessionIdHex := readString_of_values rfl
  rw [Chain.MsgSettleSession.unmarshal, hlayout.parse hfits, Option.bind_eq_bind, Option.bind_some,
    haccount, hid]
  rfl

theorem unmarshal_verifyBatch {epochId : UInt64} {rootHex collector signatureHex : String}
    {isPlayer verified : Bool}
    (hfits : (encodeMsgVerifyBatch account epochId rootHex collector isPlayer verified
      signatureHex).Fits) :
    Chain.MsgVerifyBatch.unmarshal (encodeMsgVerifyBatch account epochId rootHex collector isPlayer
        verified signatureHex).value =
      some { verifier := account, epochId := epochId.toNat, targetBatchRootHex := rootHex,
             targetCollector := collector, isPlayer, verified, signatureHex } := by
  let fields := [WireField.ofText 1 account, .ofNumber 2 epochId.toNat, .ofText 3 rootHex,
    .ofText 4 collector, .ofNumber 5 isPlayer.toNat, .ofNumber 6 verified.toNat,
    .ofText 7 signatureHex]
  have hlayout : Layout (encodeMsgVerifyBatch account epochId rootHex collector isPlayer verified
      signatureHex).value fields := by
    refine layout_flatten ?_
    simp (disch := decide) [fields, part_text, part_uint64, part_bool]
  have haccount : readString fields 1 = some account := readString_of_values rfl
  have hroot : readString fields 3 = some rootHex := readString_of_values rfl
  have hcollector : readString fields 4 = some collector := readString_of_values rfl
  have hplayer : Chain.readBool fields 5 = some isPlayer := readBool_of_values rfl
  have hverified : Chain.readBool fields 6 = some verified := readBool_of_values rfl
  have hsignature : readString fields 7 = some signatureHex := readString_of_values rfl
  rw [Chain.MsgVerifyBatch.unmarshal, hlayout.parse hfits, Option.bind_eq_bind, Option.bind_some,
    haccount, hroot, hcollector, hplayer, hverified, hsignature]
  rfl

theorem unmarshal_resolveChallenge {challengeIdHex summary : String}
    {slashAmount challengerReward : UInt64} {finalState : ChallengeState}
    {slashFractionBps : UInt32} {jailValidator : Bool}
    (hfits : (encodeMsgResolveChallenge account challengeIdHex slashAmount challengerReward summary
      finalState slashFractionBps jailValidator).Fits) :
    Chain.MsgResolveChallenge.unmarshal (encodeMsgResolveChallenge account challengeIdHex
        slashAmount challengerReward summary finalState slashFractionBps jailValidator).value =
      some { resolver := account, challengeIdHex, slashAmount := slashAmount.toNat,
             challengerReward := challengerReward.toNat, resolutionSummary := summary,
             finalState := chainState finalState, slashFractionBps := slashFractionBps.toNat,
             jailValidator } := by
  let fields := [WireField.ofText 1 account, .ofText 2 challengeIdHex,
    .ofNumber 3 slashAmount.toNat, .ofNumber 4 challengerReward.toNat, .ofText 5 summary,
    .ofNumber 6 (challengeStateToProto finalState).toInt64.toUInt64.toNat,
    .ofNumber 7 slashFractionBps.toNat, .ofNumber 8 jailValidator.toNat]
  have hlayout : Layout (encodeMsgResolveChallenge account challengeIdHex slashAmount
      challengerReward summary finalState slashFractionBps jailValidator).value fields := by
    refine layout_flatten ?_
    simp (disch := decide) [fields, part_text, part_uint64, part_int32, part_uint32, part_bool]
  have haccount : readString fields 1 = some account := readString_of_values rfl
  have hid : readString fields 2 = some challengeIdHex := readString_of_values rfl
  have hsummary : readString fields 5 = some summary := readString_of_values rfl
  have hfraction : Chain.readUint32 fields 7 = some slashFractionBps.toNat :=
    readUint32_of_values rfl
  have hjail : Chain.readBool fields 8 = some jailValidator := readBool_of_values rfl
  rw [Chain.MsgResolveChallenge.unmarshal, hlayout.parse hfits, Option.bind_eq_bind,
    Option.bind_some, haccount, hid, hsummary, hfraction, hjail, ← ofNumber_challengeState]
  rfl

theorem unmarshal_activityBurn {amount : UInt64} {activityId burnType memo : String}
    (hfits : (encodeMsgActivityBurn account amount activityId burnType memo).Fits) :
    Chain.MsgActivityBurn.unmarshal (encodeMsgActivityBurn account amount activityId burnType
        memo).value =
      some { sender := account, amount := amount.toNat, activityId, burnType, memo } := by
  let fields := [WireField.ofText 1 account, .ofNumber 2 amount.toNat, .ofText 3 activityId,
    .ofText 4 burnType, .ofText 5 memo]
  have hlayout : Layout (encodeMsgActivityBurn account amount activityId burnType memo).value
      fields := by
    refine layout_flatten ?_
    simp (disch := decide) [fields, part_text, part_uint64]
  have haccount : readString fields 1 = some account := readString_of_values rfl
  have hactivity : readString fields 3 = some activityId := readString_of_values rfl
  have htype : readString fields 4 = some burnType := readString_of_values rfl
  have hmemo : readString fields 5 = some memo := readString_of_values rfl
  rw [Chain.MsgActivityBurn.unmarshal, hlayout.parse hfits, Option.bind_eq_bind, Option.bind_some,
    haccount, hactivity, htype, hmemo]
  rfl

end Messages

/-! ## Every message -/

/-- What the chain is to make of a message; a message that is not supported has no meaning. -/
def BridgeMessage.meaning : BridgeMessage → Option Chain.Msg
  | .finalizeEpoch finalizer epochId =>
      some (.finalizeEpoch { finalizer := finalizer.bech32, epochId := epochId.toNat })
  | .claimReward claimer epochId recipient =>
      some (.claimReward { claimer := claimer.bech32, epochId := epochId.toNat,
                           recipient := recipient.bech32 })
  | .openChallenge challenger challenge =>
      some (.openChallenge
        (openedChallenge challenger.bech32 challenge (UInt64.ofNat challenge.bond)))
  | .upsertNode operator node =>
      some (.upsertNode { operator := operator.bech32, node := some node.meaning })
  | .upsertAggregateRecord operator record =>
      some (.upsertAggregateRecord
        { operator := operator.bech32, aggregateRecord := some record.meaning })
  | .submitBatch collector batch =>
      some (.submitBatch { collector := collector.bech32, batchCommit := some batch.meaning })
  | .submitReplicaReceipt storer receipt =>
      some (.submitReplicaReceipt
        { storer := storer.bech32, replicaReceipt := some receipt.meaning })
  | .commitEpoch proposer commit =>
      some (.commitEpoch { proposer := proposer.bech32, epochCommit := some commit.meaning })
  | .resolveChallenge resolver challengeIdHex slashAmount challengerReward resolutionSummary
      finalState slashFractionBps jailValidator =>
      some (.resolveChallenge
        { resolver := resolver.bech32, challengeIdHex, slashAmount := slashAmount.toNat,
          challengerReward := challengerReward.toNat, resolutionSummary,
          finalState := chainState finalState, slashFractionBps := slashFractionBps.toNat,
          jailValidator })
  | .upsertGameWeight authority entry =>
      some (.upsertGameWeight { authority := authority.bech32, entry := some entry.meaning })
  | .updateParams authority params =>
      some (.updateParams { authority := authority.bech32, params := some params.meaning })
  | .verifyBatch verifier epochId targetBatchRootHex targetCollector isPlayer verified
      signatureHex =>
      some (.verifyBatch
        { verifier := verifier.bech32, epochId := epochId.toNat, targetBatchRootHex,
          targetCollector := targetCollector.bech32, isPlayer, verified, signatureHex })
  | .unsupported _ _ => none
  | .submitPlaySession nodeAddress session =>
      some (.submitPlaySession
        { nodeAddress := nodeAddress.bech32, session := some session.meaning })
  | .submitPlayHeartbeat nodeAddress heartbeat =>
      some (.submitPlayHeartbeat
        { nodeAddress := nodeAddress.bech32, heartbeat := some heartbeat.meaning })
  | .attestSession witness attestation =>
      some (.attestSession
        { witness := witness.bech32, attestation := some attestation.meaning })
  | .settleSession settler sessionIdHex =>
      some (.settleSession { settler := settler.bech32, sessionIdHex })
  | .submitRewardRecords proposer epochId records =>
      some (.submitRewardRecords
        { proposer := proposer.bech32, epochId := epochId.toNat,
          records := records.map fun record => some record.meaning })

/-- The account in front of the message. -/
def BridgeMessage.sender : BridgeMessage → Option CosmosAddress
  | .finalizeEpoch finalizer _ => some finalizer
  | .claimReward claimer _ _ => some claimer
  | .openChallenge challenger _ => some challenger
  | .upsertNode operator _ => some operator
  | .upsertAggregateRecord operator _ => some operator
  | .submitBatch collector _ => some collector
  | .submitReplicaReceipt storer _ => some storer
  | .commitEpoch proposer _ => some proposer
  | .resolveChallenge resolver .. => some resolver
  | .upsertGameWeight authority _ => some authority
  | .updateParams authority _ => some authority
  | .verifyBatch verifier .. => some verifier
  | .unsupported _ _ => none
  | .submitPlaySession nodeAddress _ => some nodeAddress
  | .submitPlayHeartbeat nodeAddress _ => some nodeAddress
  | .attestSession witness _ => some witness
  | .settleSession settler _ => some settler
  | .submitRewardRecords proposer _ _ => some proposer

/-- The length of the message is a word, and so are the numbers of a challenge. -/
def BridgeMessage.Fits (message : BridgeMessage) : Prop :=
  message.toAny.Fits ∧ ∀ challenger challenge, message = .openChallenge challenger challenge →
    WithinWire challenger.bech32 challenge

theorem unpack_of {typeUrl : String} {value : Bytes} {α : Type} {unmarshal : Bytes → Option α}
    {wrap : α → Chain.Msg} {a : α}
    (hregistered : Chain.registeredMessages.lookup typeUrl =
      some fun b => (unmarshal b).map wrap) (hread : unmarshal value = some a) :
    Chain.Msg.unpack typeUrl value = some (wrap a) := by
  rw [Chain.Msg.unpack, hregistered, Option.bind_some]
  dsimp only
  rw [hread, Option.map_some]

theorem BridgeMessage.unpack_toAny {message : BridgeMessage} {msg : Chain.Msg}
    (hfits : message.Fits) (hmeaning : message.meaning = some msg) :
    Chain.Msg.unpack message.toAny.typeUrl message.toAny.value = some msg := by
  obtain ⟨hlength, hwithin⟩ := hfits
  cases message with
  | unsupported typeUrl note => cases hmeaning
  | finalizeEpoch finalizer epochId =>
      cases hmeaning
      refine unpack_of ?_ (unmarshal_finalizeEpoch hlength)
      simp [toAny, encodeMsgFinalizeEpoch, Chain.registeredMessages, List.lookup]
  | claimReward claimer epochId recipient =>
      cases hmeaning
      refine unpack_of ?_ (unmarshal_claimReward hlength)
      simp [toAny, encodeMsgClaimReward, Chain.registeredMessages, List.lookup]
  | openChallenge challenger challenge =>
      cases hmeaning
      refine unpack_of ?_ (unmarshal_openChallenge (hwithin _ _ rfl))
      simp [toAny, encodeMsgOpenChallenge, Chain.registeredMessages, List.lookup]
  | upsertNode operator node =>
      cases hmeaning
      refine unpack_of ?_ (unmarshal_upsertNode hlength)
      simp [toAny, encodeMsgUpsertNode, encodeSigned, Chain.registeredMessages]
  | upsertAggregateRecord operator record =>
      cases hmeaning
      refine unpack_of ?_ (unmarshal_upsertAggregateRecord hlength)
      simp [toAny, encodeMsgUpsertAggregateRecord, encodeSigned, Chain.registeredMessages,
        List.lookup]
  | submitBatch collector batch =>
      cases hmeaning
      refine unpack_of ?_ (unmarshal_submitBatch hlength)
      simp [toAny, encodeMsgSubmitBatch, encodeSigned, Chain.registeredMessages, List.lookup]
  | submitReplicaReceipt storer receipt =>
      cases hmeaning
      refine unpack_of ?_ (unmarshal_submitReplicaReceipt hlength)
      simp [toAny, encodeMsgSubmitReplicaReceipt, encodeSigned, Chain.registeredMessages,
        List.lookup]
  | commitEpoch proposer commit =>
      cases hmeaning
      refine unpack_of ?_ (unmarshal_commitEpoch hlength)
      simp [toAny, encodeMsgCommitEpoch, encodeSigned, Chain.registeredMessages, List.lookup]
  | resolveChallenge resolver challengeIdHex slashAmount challengerReward summary finalState
      slashFractionBps jailValidator =>
      cases hmeaning
      refine unpack_of ?_ (unmarshal_resolveChallenge hlength)
      simp [toAny, encodeMsgResolveChallenge, Chain.registeredMessages, List.lookup]
  | upsertGameWeight authority entry =>
      cases hmeaning
      refine unpack_of ?_ (unmarshal_upsertGameWeight hlength)
      simp [toAny, encodeMsgUpsertGameWeight, encodeSigned, Chain.registeredMessages, List.lookup]
  | updateParams authority params =>
      cases hmeaning
      refine unpack_of ?_ (unmarshal_update hlength)
      simp [toAny, encodeMsgUpdateParams, Chain.registeredMessages, List.lookup]
  | verifyBatch verifier epochId rootHex collector isPlayer verified signatureHex =>
      cases hmeaning
      refine unpack_of ?_ (unmarshal_verifyBatch hlength)
      simp [toAny, encodeMsgVerifyBatch, Chain.registeredMessages, List.lookup]
  | submitPlaySession nodeAddress session =>
      cases hmeaning
      refine unpack_of ?_ (unmarshal_submitPlaySession hlength)
      simp [toAny, encodeMsgSubmitPlaySession, encodeSigned, Chain.registeredMessages, List.lookup]
  | submitPlayHeartbeat nodeAddress heartbeat =>
      cases hmeaning
      refine unpack_of ?_ (unmarshal_submitPlayHeartbeat hlength)
      simp [toAny, encodeMsgSubmitPlayHeartbeat, encodeSigned, Chain.registeredMessages,
        List.lookup]
  | attestSession witness attestation =>
      cases hmeaning
      refine unpack_of ?_ (unmarshal_attestSession hlength)
      simp [toAny, encodeMsgAttestSession, encodeSigned, Chain.registeredMessages, List.lookup]
  | settleSession settler sessionIdHex =>
      cases hmeaning
      refine unpack_of ?_ (unmarshal_settleSession hlength)
      simp [toAny, encodeMsgSettleSession, Chain.registeredMessages, List.lookup]
  | submitRewardRecords proposer epochId records =>
      cases hmeaning
      refine unpack_of ?_ (unmarshal_submission hlength)
      simp [toAny, encodeMsgSubmitRewardRecords, Chain.registeredMessages, List.lookup]

theorem BridgeMessage.signer_meaning {message : BridgeMessage} {msg : Chain.Msg}
    (hmeaning : message.meaning = some msg) :
    message.sender.map (·.bech32) = some msg.signer := by
  cases message <;> cases hmeaning <;> rfl

/-- A node that registers itself. -/
def Sample.registration : BridgeMessage :=
  .upsertNode ⟨[], "pole1n"⟩
    { operatorAddress := "pole1n", rewardAddress := "", consensusAddress := "", role := .service,
      capabilities := { collect := true, store := false, verify := true, propose := false },
      active := true, bondedTokens := 2500000, lastUpdatedEpoch := 3, isPlayer := false }

end PoleProtocol.Node
