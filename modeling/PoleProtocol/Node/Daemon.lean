import PoleProtocol.Framework.Run
import PoleProtocol.Node.Evidence

/-!
# The node between two ticks

The files of a node and the events that change them: the parts of a collect tick, each message the
receive loop takes from the inbox, and the commands of the operator. A tick is a list of events;
what is proved holds for every list, so also for a tick that stops in the middle.
-/

namespace PoleProtocol.Node

open Framework Ledger

structure NodeState where
  storage : PayloadStore
  evidence : EvidenceStore

/-- A message comes with what the network answers to the request for its payload. -/
inductive NodeEvent where
  | collectTick (epochId slotId retentionEpochs : ℕ) (samples : List ActivitySample)
  | envelope (message : P2pMessage) (response : Option PayloadResponse) (retentionEpochs : ℕ)
  | saveBook
  | persistCollectTickArtifact (epochId slotId : ℕ) (payloadCid : String)
  | recordPlay (inputs : PlaySessionInputs) (slotsPerBlock : ℕ)
  | pruneRetention (currentEpoch : ℕ)
  | abandonTick
  | playSession (inputs : PlaySessionInputs)
  | attestSession (sessionId : Hash32) (ownObservationCid : String)
      (observedPlaySeconds observedPlayers : ℕ)
  deriving DecidableEq

namespace NodeState

def fresh (env : NodeEnv) : NodeState := ⟨.fresh env, .fresh⟩

variable (env : NodeEnv) (s : NodeState)

/-- One turn of the receive loop. -/
def ingest (message : P2pMessage) (response : Option PayloadResponse) (retentionEpochs : ℕ) :
    NodeState :=
  match message with
  | .batch announcement =>
      { s with storage := s.storage.ingestBatch env announcement response retentionEpochs }
  | .playSession announcement =>
      { s with evidence := s.evidence.ingestPlaySession env s.storage announcement.session }
  | .witnessAttestation announcement =>
      { s with evidence := s.evidence.saveWitnessAttestation announcement.attestation }
  | .observation _ | .replicaReceipt _ | .challenge _ => s

def next : NodeEvent → NodeState
  | .collectTick epochId slotId retentionEpochs samples =>
      { s with storage := s.storage.collectTick env epochId slotId retentionEpochs samples }
  | .envelope message response retentionEpochs => s.ingest env message response retentionEpochs
  | .saveBook => { s with storage := s.storage.saveBook }
  | .persistCollectTickArtifact epochId slotId payloadCid =>
      { s with storage := s.storage.persistCollectTickArtifact epochId slotId payloadCid }
  | .recordPlay inputs slotsPerBlock =>
      { s with evidence := s.evidence.recordPlay env inputs slotsPerBlock }
  | .pruneRetention currentEpoch =>
      { s with storage := s.storage.pruneRetention env currentEpoch }
  | .abandonTick => { s with storage := s.storage.abandonTick env }
  | .playSession inputs => { s with evidence := s.evidence.buildSession env inputs }
  | .attestSession sessionId cid seconds players =>
      { s with evidence := s.evidence.attestSession env sessionId cid seconds players }

end NodeState

/-! ## What an event does to the evidence -/

/-- The ways in which an event changes the two directories. -/
inductive EvidenceEffect (env : NodeEnv) (s : NodeState) : NodeEvent → EvidenceStore → Prop
  | unchanged (event : NodeEvent) : EvidenceEffect env s event s.evidence
  | received (session : PlaySession) (response : Option PayloadResponse) (retentionEpochs : ℕ) :
      EvidenceEffect env s (.envelope (.playSession ⟨session⟩) response retentionEpochs)
        (s.evidence.savePlaySession session)
  | witnessed {identity : KeyPair} {session : PlaySession} {attestation : WitnessAttestation}
      (response : Option PayloadResponse) (retentionEpochs : ℕ)
      (hidentity : env.identityKeypair = some identity)
      (hauto : (s.evidence.savePlaySession session).autoWitness env s.storage identity session =
        some attestation) :
      EvidenceEffect env s (.envelope (.playSession ⟨session⟩) response retentionEpochs)
        { (s.evidence.savePlaySession session).saveWitnessAttestation attestation with
          witnessed := s.evidence.witnessed ++ [(session, attestation)] }
  | attested (attestation : WitnessAttestation) (response : Option PayloadResponse)
      (retentionEpochs : ℕ) :
      EvidenceEffect env s (.envelope (.witnessAttestation ⟨attestation⟩) response retentionEpochs)
        (s.evidence.saveWitnessAttestation attestation)
  | commanded {sessionId : Hash32} {cid : String} {seconds players : ℕ}
      {attestation : WitnessAttestation}
      (hcommand : s.evidence.commandedAttestation env sessionId cid seconds players =
        some attestation) :
      EvidenceEffect env s (.attestSession sessionId cid seconds players)
        (s.evidence.saveWitnessAttestation attestation)
  | played {inputs : PlaySessionInputs} {session : PlaySession}
      (hown : EvidenceStore.ownSession env inputs = some session) :
      EvidenceEffect env s (.playSession inputs)
        { s.evidence.savePlaySession session with built := s.evidence.built ++ [session] }
  | recorded {inputs : PlaySessionInputs} {slotsPerBlock : ℕ} {session : PlaySession}
      (hreused : s.evidence.reusedSession inputs slotsPerBlock = none)
      (hown : EvidenceStore.ownSession env inputs = some session) :
      EvidenceEffect env s (.recordPlay inputs slotsPerBlock)
        { s.evidence.savePlaySession session with built := s.evidence.built ++ [session] }

theorem evidence_next (env : NodeEnv) (s : NodeState) (event : NodeEvent) :
    EvidenceEffect env s event (s.next env event).evidence := by
  cases event with
  | envelope message response retentionEpochs =>
      cases message with
      | playSession announcement =>
          obtain ⟨session⟩ := announcement
          change EvidenceEffect env s _ (s.evidence.ingestPlaySession env s.storage session)
          cases hauto : env.identityKeypair.bind
              ((s.evidence.savePlaySession session).autoWitness env s.storage · session) with
          | none =>
              rw [EvidenceStore.ingestPlaySession_of_none hauto]
              exact .received session response retentionEpochs
          | some attestation =>
              rw [EvidenceStore.ingestPlaySession_of_some hauto]
              obtain ⟨identity, hidentity, hsigned⟩ := Option.bind_eq_some_iff.mp hauto
              exact .witnessed response retentionEpochs hidentity hsigned
      | witnessAttestation announcement => exact .attested _ _ _
      | _ => exact .unchanged _
  | recordPlay inputs slotsPerBlock =>
      change EvidenceEffect env s _ (s.evidence.recordPlay env inputs slotsPerBlock)
      unfold EvidenceStore.recordPlay
      cases hreused : s.evidence.reusedSession inputs slotsPerBlock with
      | some session => exact .unchanged _
      | none =>
          unfold EvidenceStore.buildSession
          cases hown : EvidenceStore.ownSession env inputs with
          | none => exact .unchanged _
          | some session => exact .recorded hreused hown
  | playSession inputs =>
      change EvidenceEffect env s _ (s.evidence.buildSession env inputs)
      unfold EvidenceStore.buildSession
      cases hown : EvidenceStore.ownSession env inputs with
      | none => exact .unchanged _
      | some session => exact .played hown
  | attestSession sessionId cid seconds players =>
      change EvidenceEffect env s _ (s.evidence.attestSession env sessionId cid seconds players)
      unfold EvidenceStore.attestSession
      cases hcommand : s.evidence.commandedAttestation env sessionId cid seconds players with
      | none => exact .unchanged _
      | some attestation => exact .commanded hcommand
  | _ => exact .unchanged _

/-! ## Two nodes -/

namespace Sample

def ownKey : Hash32 := 0x0101010101010101010101010101010101010101010101010101010101010101#256
def peerKey : Hash32 := 0x0202020202020202020202020202020202020202020202020202020202020202#256

def borshBytes (bytes : Bytes) : Bytes := wordLeBytes 4 bytes.length ++ bytes

def borshString (text : String) : Bytes := borshBytes text.toUTF8.toList

def encodeObservation (observation : ObservationRecord) : Bytes :=
  wordLeBytes 8 observation.epochId ++ wordLeBytes 8 observation.slotId ++
    wordLeBytes 4 observation.appId ++ wordLeBytes 1 observation.sourceKind.ctorIdx ++
    wordLeBytes 4 observation.sourceConfidencePpm ++ wordLeBytes 8 observation.observedPlayers ++
    wordLeBytes 8 observation.observedAtMillis ++ observation.collectorId.bytes ++
    borshString observation.rawBodyCid ++ observation.rawBodyHash.bytes ++
    borshBytes observation.collectorSignature

def encodeObservations (observations : List ObservationRecord) : Bytes :=
  wordLeBytes 4 observations.length ++ observations.flatMap encodeObservation

def encodePlaySession (session : PlaySession) : Bytes :=
  session.sessionId.bytes ++ session.nodeAddress.bytes ++ wordLeBytes 4 session.appId ++
    wordLeBytes 8 session.epochId ++ wordLeBytes 8 session.slotId ++
    wordLeBytes 8 session.playSeconds ++ session.collectorAddress.bytes ++
    borshString session.observationCid ++ wordLeBytes 8 session.observedPlayers ++
    wordLeBytes 8 session.submittedAtHeight ++ borshBytes session.sessionSignature

def encodeAttestation (attestation : WitnessAttestation) : Bytes :=
  attestation.sessionId.bytes ++ attestation.witnessAddress.bytes ++
    wordLeBytes 8 attestation.observedPlaySeconds ++
    borshString attestation.witnessObservationCid ++ wordLeBytes 8 attestation.observedPlayers ++
    wordLeBytes 8 attestation.attestedAtHeight ++ borshBytes attestation.witnessSignature

def encodeReceipt (storerId : NodeId) (epochId retentionUntilEpoch : ℕ) (payloadCid : String)
    (payloadHash : Hash32) (sizeBytes : ℕ) : Bytes :=
  storerId.bytes ++ wordLeBytes 8 epochId ++ wordLeBytes 8 retentionUntilEpoch ++
    borshString payloadCid ++ payloadHash.bytes ++ wordLeBytes 8 sizeBytes

def ownId : NodeId := 0x11
def peerId : NodeId := 0x22

def ownSignature : Bytes := List.replicate 64 3
def peerSignature : Bytes := List.replicate 64 4

/-- One reading of app 730 in the first slot of epoch one. -/
def sample (players : ℕ) : ActivitySample := ⟨730, players, 1000, .steam, 1000000, "body"⟩

def observation (collectorId : NodeId) (signature : Bytes) (slotId players : ℕ) :
    ObservationRecord where
  epochId := 1
  slotId
  appId := 730
  sourceKind := .steam
  sourceConfidencePpm := 1000000
  observedPlayers := players
  observedAtMillis := 1000
  collectorId
  rawBodyCid := cidFromHash (stableHash32 "body".toUTF8.toList) "steam-observation"
  rawBodyHash := stableHash32 "body".toUTF8.toList
  collectorSignature := signature

/-- What the node itself observed, and a payload of its peer. -/
def ownObservation : ObservationRecord := observation ownId ownSignature 1 100000
def peerObservation : ObservationRecord := observation peerId peerSignature 1 99000

/-- The digests of the two keys and of the two observations as leaves. -/
def sha256 (bytes : Bytes) : Hash32 :=
  if bytes = ownKey.bytes then
    0x72cd6e8422c407fb6d098690f1130b7ded7ec2f7f5e1d30bd9d521f015363793#256
  else if bytes = peerKey.bytes then
    0x75877bb41d393b5fb8455ce60ecd8dda001d06316496b14dfa7f895656eeca4a#256
  else if bytes = 0 :: encodeObservation ownObservation then
    0xd48cc2f30562b87c3774fcfaa42de88e2ee33974e35de68d2b78b05454af3f1f#256
  else if bytes = 0 :: encodeObservation peerObservation then
    0x1b158233726bce20e103c3ec1c8c94e5f21283a19af7917609c9ec0f6e9c291d#256
  else 0

def decodeObservations (bytes : Bytes) : Option (List ObservationRecord) :=
  [[ownObservation], [peerObservation]].find? fun observations =>
    encodeObservations observations = bytes

/-- A node that collects, stores and has an identity. -/
def env : NodeEnv where
  nodeId := ownId
  collect := true
  store := true
  quotaGb := 1
  identityKeypair := some ⟨ownKey, fun _ => ownSignature⟩
  sha256
  verifySignature publicKey _ signature := publicKey = peerKey ∧ signature = peerSignature
  encodeObservation
  encodeObservations
  decodeObservations
  encodePlaySession
  encodeAttestation
  encodeReceipt

def attestation (sessionId : Hash32) (witnessAddress : Address) (signature : Bytes) :
    WitnessAttestation where
  sessionId
  witnessAddress
  observedPlaySeconds := 3600
  witnessObservationCid := "cid://batch-payload/00"
  observedPlayers := 100000
  attestedAtHeight := 0
  witnessSignature := signature

def attested (attestation : WitnessAttestation) : NodeEvent :=
  .envelope (.witnessAttestation ⟨attestation⟩) none 0

/-- A peer's session of the first slot with a player count close to what this node observed. -/
def peerSession (sessionId : Hash32) (nodeAddress : Address) : PlaySession where
  sessionId
  nodeAddress
  appId := 730
  epochId := 1
  slotId := 1
  playSeconds := 3600
  collectorAddress := peerId
  observationCid := "cid://batch-payload/00"
  observedPlayers := 100005
  submittedAtHeight := 0
  sessionSignature := peerSignature

def announced (session : PlaySession) : NodeEvent := .envelope (.playSession ⟨session⟩) none 0

/-- The node collects its own observation. -/
def collected : NodeEvent := .collectTick 1 1 2 [sample 100000]

def peerPayload : Bytes := encodeObservations [peerObservation]

/-- A correct announcement of the peer's payload, under a content id of its choice. -/
def peerBatch (payloadCid : String) : BatchAnnouncement where
  epochId := 1
  collectorId := peerId
  collectorAddress := ""
  payloadCid
  payloadHash := stableHash32 peerPayload
  payloadSizeBytes := peerPayload.length
  batchRoot := 0x1b158233726bce20e103c3ec1c8c94e5f21283a19af7917609c9ec0f6e9c291d#256
  obsCount := 1

def ingested (payloadCid : String) : NodeEvent :=
  .envelope (.batch (peerBatch payloadCid))
    (some ⟨peerId, payloadCid, stableHash32 peerPayload, peerPayload⟩) 2

end Sample

end PoleProtocol.Node
