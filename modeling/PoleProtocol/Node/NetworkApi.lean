import PoleProtocol.Node.Messages

/-!
# Calls of a peer-to-peer network

The operations every network backend offers, what they answer, and how they fail.
-/

namespace PoleProtocol.Node

open Ledger

def P2pMessage.topic : P2pMessage → P2pTopic
  | .observation _ => .observations
  | .batch _ => .batches
  | .replicaReceipt _ => .receipts
  | .challenge _ => .challenges
  | .playSession _ => .playSessions
  | .witnessAttestation _ => .attestations

/-- All topics in their order. -/
def allTopics : List P2pTopic :=
  [.observations, .batches, .receipts, .challenges, .playSessions, .attestations]

/-- A set of topics as the list a B-tree set iterates. -/
def topicList (topics : Finset P2pTopic) : List P2pTopic := allTopics.filter (· ∈ topics)

inductive P2pError where
  | unknownPeer (peer : NodeId)
  | missingPayload (cid : String)
  | noSubscribers (topic : P2pTopic)
  | io (err : String)
  | json (err : String)
  deriving DecidableEq

/-- The counters of what was received and dropped. -/
structure P2pCoordinationStats where
  receivedCount : ℕ
  helloReceivedCount : ℕ
  hintReceivedCount : ℕ
  goodbyeReceivedCount : ℕ
  droppedSpoofedCount : ℕ
  droppedPeerCapCount : ℕ
  deriving DecidableEq

inductive NetworkCall where
  | learnedRemotePeerCount
  | coordinationStats
  | registerPeer (peerId : NodeId)
  | bootstrapPeer (peerId : NodeId) (topics : List P2pTopic)
  | subscribe (peerId : NodeId) (topic : P2pTopic)
  | unsubscribe (peerId : NodeId) (topic : P2pTopic)
  | removePeer (peerId : NodeId)
  | knownPeers
  | subscriptionsFor (peerId : NodeId)
  | publish (sender : NodeId) (message : P2pMessage)
  | drainInbox (peerId : NodeId)
  | advertisePayload (provider : NodeId) (payloadCid : String) (payloadHash : Hash32)
      (payloadBytes : Bytes)
  | requestPayload (requester : NodeId) (payloadCid : String)
  deriving DecidableEq

inductive NetworkReply where
  | done
  | learned (count : ℕ)
  | stats (stats : P2pCoordinationStats)
  | removed (subscribed : Bool)
  | peers (peerIds : List NodeId)
  | topics (topics : List P2pTopic)
  | recipients (count : ℕ)
  | envelopes (envelopes : List P2pEnvelope)
  | payload (response : PayloadResponse)
  deriving DecidableEq

def PayloadProviderRecord.response (record : PayloadProviderRecord) : PayloadResponse where
  provider := record.provider
  payloadCid := record.payloadCid
  payloadHash := record.payloadHash
  payloadBytes := record.payloadBytes

end PoleProtocol.Node
