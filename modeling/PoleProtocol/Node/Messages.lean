import PoleProtocol.Ledger.Types

/-!
# Records and messages of the node

What nodes sign and gossip: observations, batches, play sessions, attestations, and the envelopes
that carry them. Counters, heights and epochs are natural numbers.
-/

namespace PoleProtocol.Node

open Ledger

inductive ActivitySourceKind where
  | steam
  | epic
  | ea
  | gog
  | community
  deriving DecidableEq

structure ObservationRecord where
  epochId : ℕ
  slotId : ℕ
  appId : ℕ
  sourceKind : ActivitySourceKind
  sourceConfidencePpm : ℕ
  observedPlayers : ℕ
  observedAtMillis : ℕ
  collectorId : NodeId
  rawBodyCid : String
  rawBodyHash : Hash32
  collectorSignature : Bytes
  deriving DecidableEq

structure ReplicaReceipt where
  epochId : ℕ
  payloadCid : String
  storerId : NodeId
  retentionUntilEpoch : ℕ
  receiptSignature : Bytes
  deriving DecidableEq

/-- The claim of a node that it played a mapped game for some time during one slot. -/
structure PlaySession where
  sessionId : Hash32
  nodeAddress : Address
  appId : ℕ
  epochId : ℕ
  slotId : ℕ
  playSeconds : ℕ
  collectorAddress : Address
  observationCid : String
  observedPlayers : ℕ
  submittedAtHeight : ℕ
  sessionSignature : Bytes
  deriving DecidableEq

/-- The corroboration of a play session by another node. -/
structure WitnessAttestation where
  sessionId : Hash32
  witnessAddress : Address
  observedPlaySeconds : ℕ
  witnessObservationCid : String
  observedPlayers : ℕ
  attestedAtHeight : ℕ
  witnessSignature : Bytes
  deriving DecidableEq

/-! ## Announcements -/

inductive P2pTopic where
  | observations
  | batches
  | receipts
  | challenges
  | playSessions
  | attestations
  deriving DecidableEq

structure ObservationAnnouncement where
  observation : ObservationRecord
  deriving DecidableEq

structure BatchAnnouncement where
  epochId : ℕ
  collectorId : NodeId
  collectorAddress : String
  payloadCid : String
  payloadHash : Hash32
  payloadSizeBytes : ℕ
  batchRoot : Hash32
  obsCount : ℕ
  deriving DecidableEq

structure ReplicaReceiptAnnouncement where
  receipt : ReplicaReceipt
  payloadHash : Hash32
  payloadSizeBytes : ℕ
  deriving DecidableEq

structure ChallengeAnnouncement where
  challengeId : Hash32
  epochId : ℕ
  kind : ChallengeKind
  targetNode : Option NodeId
  deriving DecidableEq

structure PlaySessionAnnouncement where
  session : PlaySession
  deriving DecidableEq

structure WitnessAttestationAnnouncement where
  attestation : WitnessAttestation
  deriving DecidableEq

inductive P2pMessage where
  | observation (announcement : ObservationAnnouncement)
  | batch (announcement : BatchAnnouncement)
  | replicaReceipt (announcement : ReplicaReceiptAnnouncement)
  | challenge (announcement : ChallengeAnnouncement)
  | playSession (announcement : PlaySessionAnnouncement)
  | witnessAttestation (announcement : WitnessAttestationAnnouncement)
  deriving DecidableEq

structure P2pEnvelope where
  sender : NodeId
  topic : P2pTopic
  message : P2pMessage
  deriving DecidableEq

structure PayloadProviderRecord where
  provider : NodeId
  payloadCid : String
  payloadHash : Hash32
  payloadBytes : Bytes
  deriving DecidableEq

structure PayloadResponse where
  provider : NodeId
  payloadCid : String
  payloadHash : Hash32
  payloadBytes : Bytes
  deriving DecidableEq

end PoleProtocol.Node
