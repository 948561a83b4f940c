import PoleProtocol.Framework.KeySet
import PoleProtocol.Node.NetworkApi

/-!
# The socket network

What one node knows of its peers and what a datagram changes. A datagram is taken with the address
it came from and the time it is read; a wire message is what its bytes decode to. What the node
sends is not part of the state.
-/

namespace PoleProtocol.Node

open Framework Ledger

/-- Internet addresses are compared with all their parts. -/
inductive SocketAddr where
  | v4 (ip : BitVec 32) (port : BitVec 16)
  | v6 (ip : BitVec 128) (port : BitVec 16) (flowinfo scopeId : BitVec 32)
  deriving DecidableEq

structure SocketPeerProfile where
  peerId : NodeId
  addr : SocketAddr
  topics : List P2pTopic
  lastSeenMillis : ℕ
  deriving DecidableEq

inductive SocketWireMessage where
  | peerHello (profile : SocketPeerProfile)
  | peerHint (profile : SocketPeerProfile)
  | peerGoodbye (peerId : NodeId)
  | publish (sender : NodeId) (topic : P2pTopic) (message : P2pMessage)
  | payloadSync (record : PayloadProviderRecord)
  deriving DecidableEq

/-- The peer a wire message is about. -/
def SocketWireMessage.peer : SocketWireMessage → NodeId
  | .peerHello profile | .peerHint profile => profile.peerId
  | .peerGoodbye peerId => peerId
  | .publish sender _ _ => sender
  | .payloadSync record => record.provider

structure SocketP2pNetwork where
  localPeerId : NodeId
  localTopics : Finset P2pTopic
  configuredRemotePeerIds : Finset NodeId
  remotePeers : OrderedMap NodeId SocketPeerProfile
  inbox : List P2pEnvelope
  payloads : OrderedMap String PayloadProviderRecord
  coordinationStats : P2pCoordinationStats

def stalePeerMillis : ℕ := 250
def maxRemotePeers : ℕ := 128

/-! ## Topic lists -/

/-- `sort` and then `dedup`, which removes repeated neighbours. -/
def sortTopics (topics : List P2pTopic) : List P2pTopic :=
  (topics.insertionSort fun left right => left.ctorIdx ≤ right.ctorIdx).destutter (· ≠ ·)

def SocketPeerProfile.new (peerId : NodeId) (addr : SocketAddr) (topics : List P2pTopic) :
    SocketPeerProfile :=
  { peerId, addr, topics := sortTopics topics, lastSeenMillis := 0 }

/-- Push the topics that are not in the list yet. -/
def pushTopics (existing incoming : List P2pTopic) : List P2pTopic :=
  incoming.foldl (fun topics topic => if topic ∈ topics then topics else topics ++ [topic]) existing

/-- The list is sorted again only if a topic was pushed. -/
def mergeTopics (existing incoming : List P2pTopic) : List P2pTopic :=
  let merged := pushTopics existing incoming
  if merged = existing then existing else sortTopics merged

namespace SocketP2pNetwork

def bind (localPeerId : NodeId) (remotePeers : List SocketPeerProfile) : SocketP2pNetwork where
  localPeerId
  localTopics := ∅
  configuredRemotePeerIds := (remotePeers.map (·.peerId)).toFinset
  remotePeers := remotePeers.foldl (fun peers profile => peers.insert profile.peerId profile) ∅
  inbox := []
  payloads := ∅
  coordinationStats := ⟨0, 0, 0, 0, 0, 0⟩

variable (s : SocketP2pNetwork)

/-! ## Learning peers -/

/-- A peer that is new and not configured finds the table full. -/
def PeerCapReached (peerId : NodeId) : Prop :=
  s.remotePeers[peerId]? = none ∧ peerId ∉ s.configuredRemotePeerIds ∧
    maxRemotePeers ≤ s.remotePeers.size

instance (peerId : NodeId) : Decidable (s.PeerCapReached peerId) :=
  inferInstanceAs (Decidable (_ ∧ _ ∧ _))

def countPeerCap (stats : P2pCoordinationStats) : P2pCoordinationStats :=
  { stats with droppedPeerCapCount := stats.droppedPeerCapCount + 1 }

def countSpoofed (stats : P2pCoordinationStats) : P2pCoordinationStats :=
  { stats with droppedSpoofedCount := stats.droppedSpoofedCount + 1 }

/-- Store the profile of a peer, or count that the cap refused it. -/
def insertCapped (peerId : NodeId) (profile : SocketPeerProfile) : SocketP2pNetwork :=
  if s.PeerCapReached peerId then
    { s with coordinationStats := countPeerCap s.coordinationStats }
  else { s with remotePeers := s.remotePeers.insert peerId profile }

/-- A hint leaves the time at which a known peer was last seen. -/
def learnRemoteProfile (now : ℕ) (profile : SocketPeerProfile) : SocketP2pNetwork :=
  if profile.peerId = s.localPeerId then s
  else s.insertCapped profile.peerId
    (match s.remotePeers[profile.peerId]? with
    | some existing =>
        { existing with
          addr := profile.addr
          topics := mergeTopics existing.topics profile.topics }
    | none => { profile with lastSeenMillis := now })

def learnRemotePeer (now : ℕ) (peerId : NodeId) (addr : SocketAddr) : SocketP2pNetwork :=
  if peerId = s.localPeerId then s
  else s.insertCapped peerId
    (match s.remotePeers[peerId]? with
    | some existing => { existing with addr, lastSeenMillis := now }
    | none => { SocketPeerProfile.new peerId addr [] with lastSeenMillis := now })

def learnRemoteTopic (now : ℕ) (peerId : NodeId) (addr : SocketAddr) (topic : P2pTopic) :
    SocketP2pNetwork :=
  if peerId = s.localPeerId then s
  else s.insertCapped peerId
    (match s.remotePeers[peerId]? with
    | some existing =>
        { existing with
          addr
          lastSeenMillis := now
          topics := mergeTopics existing.topics [topic] }
    | none => { SocketPeerProfile.new peerId addr [topic] with lastSeenMillis := now })

/-- Peers without configuration are forgotten when they were not seen for a while. -/
def pruneStaleRemotePeers (now : ℕ) : SocketP2pNetwork :=
  { s with remotePeers := s.remotePeers.filter fun peerId profile =>
      peerId ∈ s.configuredRemotePeerIds ∨ now - profile.lastSeenMillis ≤ stalePeerMillis }

/-! ## Incoming datagrams -/

/-- A known peer has to write from its recorded address; an unknown one is let through. -/
def acceptRemoteMessage (peerId : NodeId) (senderAddr : SocketAddr) : Bool :=
  if peerId = s.localPeerId then false
  else
    match s.remotePeers[peerId]? with
    | some profile => decide (profile.addr = senderAddr)
    | none => true

structure Datagram where
  senderAddr : SocketAddr
  now : ℕ
  wire : SocketWireMessage
  deriving DecidableEq

def countHello (stats : P2pCoordinationStats) : P2pCoordinationStats :=
  { stats with
    receivedCount := stats.receivedCount + 1
    helloReceivedCount := stats.helloReceivedCount + 1 }

def countHint (stats : P2pCoordinationStats) : P2pCoordinationStats :=
  { stats with
    receivedCount := stats.receivedCount + 1
    hintReceivedCount := stats.hintReceivedCount + 1 }

def countGoodbye (stats : P2pCoordinationStats) : P2pCoordinationStats :=
  { stats with
    receivedCount := stats.receivedCount + 1
    goodbyeReceivedCount := stats.goodbyeReceivedCount + 1 }

def pumpHello (datagram : Datagram) (profile : SocketPeerProfile) : SocketP2pNetwork :=
  { s with coordinationStats := countHello s.coordinationStats }.insertCapped profile.peerId
    { profile with addr := datagram.senderAddr, lastSeenMillis := datagram.now }

def pumpHint (datagram : Datagram) (profile : SocketPeerProfile) : SocketP2pNetwork :=
  { s with coordinationStats := countHint s.coordinationStats }.learnRemoteProfile
    datagram.now profile

def pumpGoodbye (peerId : NodeId) : SocketP2pNetwork :=
  { s with
    coordinationStats := countGoodbye s.coordinationStats
    remotePeers := s.remotePeers.erase peerId
    payloads := s.payloads.filter fun _ record => record.provider ≠ peerId }

/-- Messages on topics this node does not listen to still teach it the topic of the peer. -/
def pumpPublish (datagram : Datagram) (sender : NodeId) (topic : P2pTopic) (message : P2pMessage) :
    SocketP2pNetwork :=
  if s.acceptRemoteMessage sender datagram.senderAddr then
    let learned := s.learnRemoteTopic datagram.now sender datagram.senderAddr topic
    if topic ∈ learned.localTopics ∧ sender ≠ learned.localPeerId then
      { learned with inbox := learned.inbox ++ [⟨sender, topic, message⟩] }
    else learned
  else { s with coordinationStats := countSpoofed s.coordinationStats }

/-- The payload is kept even where the table had no room for its provider. -/
def pumpPayloadSync (datagram : Datagram) (record : PayloadProviderRecord) : SocketP2pNetwork :=
  if s.acceptRemoteMessage record.provider datagram.senderAddr then
    let learned := s.learnRemotePeer datagram.now record.provider datagram.senderAddr
    { learned with payloads := learned.payloads.insert record.payloadCid record }
  else { s with coordinationStats := countSpoofed s.coordinationStats }

/-- One turn of the receive loop. -/
def pumpIncoming (datagram : Datagram) : SocketP2pNetwork :=
  match datagram.wire with
  | .peerHello profile => s.pumpHello datagram profile
  | .peerHint profile => s.pumpHint datagram profile
  | .peerGoodbye peerId => s.pumpGoodbye peerId
  | .publish sender topic message => s.pumpPublish datagram sender topic message
  | .payloadSync record => s.pumpPayloadSync datagram record

/-! ## Calls of the node itself -/

/-- Removing the own peer id says goodbye and forgets what was received; nothing is forgotten when
the goodbye could not be sent. -/
def removePeer (peerId : NodeId) (announced : Bool) : SocketP2pNetwork :=
  if peerId = s.localPeerId then
    if announced then { s with localTopics := ∅, inbox := [], payloads := ∅ } else s
  else { s with remotePeers := s.remotePeers.erase peerId }

def advertisePayload (payloadCid : String) (payloadHash : Hash32) (payloadBytes : Bytes) :
    SocketP2pNetwork :=
  { s with
    payloads := s.payloads.insert payloadCid
      ⟨s.localPeerId, payloadCid, payloadHash, payloadBytes⟩ }

/-- What happens to the network: a datagram is read, the table is pruned, or the node calls it. -/
inductive NetworkInput where
  | datagram (datagram : Datagram)
  | pruneStaleRemotePeers (now : ℕ)
  | removePeer (peerId : NodeId) (announced : Bool)
  | bootstrapPeer (topics : List P2pTopic)
  | subscribe (topic : P2pTopic)
  | unsubscribe (topic : P2pTopic)
  | drainInbox
  | advertisePayload (payloadCid : String) (payloadHash : Hash32) (payloadBytes : Bytes)
  deriving DecidableEq

def next : NetworkInput → SocketP2pNetwork
  | .datagram datagram => s.pumpIncoming datagram
  | .pruneStaleRemotePeers now => s.pruneStaleRemotePeers now
  | .removePeer peerId announced => s.removePeer peerId announced
  | .bootstrapPeer topics => { s with localTopics := topics.toFinset }
  | .subscribe topic => { s with localTopics := insert topic s.localTopics }
  | .unsubscribe topic => { s with localTopics := s.localTopics.erase topic }
  | .drainInbox => { s with inbox := [] }
  | .advertisePayload cid hash bytes => s.advertisePayload cid hash bytes

/-- The peers in the table that are not configured. -/
def learnedRemotePeers : Finset NodeId :=
  OrderedMap.keySet s.remotePeers \ s.configuredRemotePeerIds

variable {s}

/-! ## What learning a peer leaves alone -/

/-- The two states differ in the peer table and the counters only. -/
structure SameButPeers (s s' : SocketP2pNetwork) : Prop where
  localPeerId : s'.localPeerId = s.localPeerId
  localTopics : s'.localTopics = s.localTopics
  configured : s'.configuredRemotePeerIds = s.configuredRemotePeerIds
  inbox : s'.inbox = s.inbox
  payloads : s'.payloads = s.payloads

theorem SameButPeers.refl (s : SocketP2pNetwork) : SameButPeers s s := ⟨rfl, rfl, rfl, rfl, rfl⟩

theorem insertCapped_sameButPeers (peerId : NodeId) (profile : SocketPeerProfile) :
    SameButPeers s (s.insertCapped peerId profile) := by
  unfold insertCapped
  split <;> exact ⟨rfl, rfl, rfl, rfl, rfl⟩

theorem learnRemoteProfile_sameButPeers (now : ℕ) (profile : SocketPeerProfile) :
    SameButPeers s (s.learnRemoteProfile now profile) := by
  unfold learnRemoteProfile
  split
  · exact .refl s
  · exact insertCapped_sameButPeers _ _

theorem learnRemotePeer_sameButPeers (now : ℕ) (peerId : NodeId) (addr : SocketAddr) :
    SameButPeers s (s.learnRemotePeer now peerId addr) := by
  unfold learnRemotePeer
  split
  · exact .refl s
  · exact insertCapped_sameButPeers _ _

theorem learnRemoteTopic_sameButPeers (now : ℕ) (peerId : NodeId) (addr : SocketAddr)
    (topic : P2pTopic) : SameButPeers s (s.learnRemoteTopic now peerId addr topic) := by
  unfold learnRemoteTopic
  split
  · exact .refl s
  · exact insertCapped_sameButPeers _ _

theorem pumpHello_sameButPeers (datagram : Datagram) (profile : SocketPeerProfile) :
    SameButPeers s (s.pumpHello datagram profile) := by
  unfold pumpHello
  have h := insertCapped_sameButPeers
    (s := { s with coordinationStats := countHello s.coordinationStats }) profile.peerId
    { profile with addr := datagram.senderAddr, lastSeenMillis := datagram.now }
  exact ⟨h.localPeerId, h.localTopics, h.configured, h.inbox, h.payloads⟩

theorem pumpHint_sameButPeers (datagram : Datagram) (profile : SocketPeerProfile) :
    SameButPeers s (s.pumpHint datagram profile) := by
  unfold pumpHint
  have h := learnRemoteProfile_sameButPeers
    (s := { s with coordinationStats := countHint s.coordinationStats }) datagram.now profile
  exact ⟨h.localPeerId, h.localTopics, h.configured, h.inbox, h.payloads⟩

/-- A hint about the node itself is only counted. -/
theorem pumpHint_local {profile : SocketPeerProfile} (h : profile.peerId = s.localPeerId)
    (datagram : Datagram) :
    s.pumpHint datagram profile = { s with coordinationStats := countHint s.coordinationStats } := by
  rw [pumpHint, learnRemoteProfile, if_pos h]

/-! ## What a message that has to be let through does -/

theorem pumpPublish_rejected {datagram : Datagram} {sender : NodeId}
    (h : s.acceptRemoteMessage sender datagram.senderAddr = false) (topic : P2pTopic)
    (message : P2pMessage) :
    s.pumpPublish datagram sender topic message =
      { s with coordinationStats := countSpoofed s.coordinationStats } := by
  rw [pumpPublish, h]
  rfl

/-- The message teaches the topic of its sender and is delivered or not. -/
theorem pumpPublish_accepted (datagram : Datagram) {sender : NodeId}
    (h : s.acceptRemoteMessage sender datagram.senderAddr = true) (topic : P2pTopic)
    (message : P2pMessage) :
    ∃ delivered : List P2pEnvelope, (∀ envelope ∈ delivered, envelope.sender = sender) ∧
      s.pumpPublish datagram sender topic message =
        { s.learnRemoteTopic datagram.now sender datagram.senderAddr topic with
          inbox := s.inbox ++ delivered } := by
  have hsame := learnRemoteTopic_sameButPeers (s := s) datagram.now sender datagram.senderAddr topic
  rw [pumpPublish, if_pos h, ← hsame.inbox]
  dsimp only
  split
  · refine ⟨[⟨sender, topic, message⟩], ?_, rfl⟩
    intro envelope hmem
    rw [List.mem_singleton.mp hmem]
  · refine ⟨[], by simp, ?_⟩
    rw [List.append_nil]

theorem pumpPayloadSync_rejected {datagram : Datagram} {record : PayloadProviderRecord}
    (h : s.acceptRemoteMessage record.provider datagram.senderAddr = false) :
    s.pumpPayloadSync datagram record =
      { s with coordinationStats := countSpoofed s.coordinationStats } := by
  rw [pumpPayloadSync, h]
  rfl

theorem pumpPayloadSync_accepted {datagram : Datagram} {record : PayloadProviderRecord}
    (h : s.acceptRemoteMessage record.provider datagram.senderAddr = true) :
    s.pumpPayloadSync datagram record =
      { s.learnRemotePeer datagram.now record.provider datagram.senderAddr with
        payloads := s.payloads.insert record.payloadCid record } := by
  rw [pumpPayloadSync, if_pos h, ← (learnRemotePeer_sameButPeers (s := s) datagram.now
    record.provider datagram.senderAddr).payloads]

/-- A message that is not let through names the node itself or a peer recorded elsewhere. -/
theorem acceptRemoteMessage_eq_false {peerId : NodeId} {senderAddr : SocketAddr} :
    s.acceptRemoteMessage peerId senderAddr = false ↔
      peerId = s.localPeerId ∨
        ∃ profile, s.remotePeers[peerId]? = some profile ∧ profile.addr ≠ senderAddr := by
  unfold acceptRemoteMessage
  by_cases hlocal : peerId = s.localPeerId
  · simp [hlocal]
  · cases s.remotePeers[peerId]? <;> simp [hlocal]

/-- Neither the own id nor the configuration changes. -/
theorem pumpIncoming_configuration (s : SocketP2pNetwork) (datagram : Datagram) :
    (s.pumpIncoming datagram).localPeerId = s.localPeerId ∧
      (s.pumpIncoming datagram).configuredRemotePeerIds = s.configuredRemotePeerIds := by
  obtain ⟨senderAddr, now, wire⟩ := datagram
  cases wire with
  | peerHello profile =>
      have h := pumpHello_sameButPeers (s := s) ⟨senderAddr, now, .peerHello profile⟩ profile
      exact ⟨h.localPeerId, h.configured⟩
  | peerHint profile =>
      have h := pumpHint_sameButPeers (s := s) ⟨senderAddr, now, .peerHint profile⟩ profile
      exact ⟨h.localPeerId, h.configured⟩
  | peerGoodbye peerId => exact ⟨rfl, rfl⟩
  | publish sender topic message =>
      have h := learnRemoteTopic_sameButPeers (s := s) now sender senderAddr topic
      simp only [pumpIncoming]
      cases haccept : s.acceptRemoteMessage sender senderAddr with
      | true =>
          obtain ⟨_, _, heq⟩ := pumpPublish_accepted
            ⟨senderAddr, now, .publish sender topic message⟩ haccept topic message
          rw [heq]
          exact ⟨h.localPeerId, h.configured⟩
      | false =>
          rw [pumpPublish_rejected haccept]
          exact ⟨rfl, rfl⟩
  | payloadSync record =>
      have h := learnRemotePeer_sameButPeers (s := s) now record.provider senderAddr
      simp only [pumpIncoming]
      cases haccept : s.acceptRemoteMessage record.provider senderAddr with
      | true =>
          rw [pumpPayloadSync_accepted haccept]
          exact ⟨h.localPeerId, h.configured⟩
      | false =>
          rw [pumpPayloadSync_rejected haccept]
          exact ⟨rfl, rfl⟩

theorem removePeer_cases (s : SocketP2pNetwork) (peerId : NodeId) (announced : Bool) :
    s.removePeer peerId announced = s ∨
      s.removePeer peerId announced = { s with localTopics := ∅, inbox := [], payloads := ∅ } ∨
      s.removePeer peerId announced = { s with remotePeers := s.remotePeers.erase peerId } := by
  unfold removePeer
  by_cases hlocal : peerId = s.localPeerId
  · rw [if_pos hlocal]
    cases announced with
    | true => exact .inr (.inl rfl)
    | false => exact .inl rfl
  · rw [if_neg hlocal]
    exact .inr (.inr rfl)

theorem next_configuration (s : SocketP2pNetwork) (input : NetworkInput) :
    (s.next input).localPeerId = s.localPeerId ∧
      (s.next input).configuredRemotePeerIds = s.configuredRemotePeerIds := by
  cases input with
  | datagram datagram => exact pumpIncoming_configuration s datagram
  | removePeer peerId announced =>
      simp only [next]
      rcases removePeer_cases s peerId announced with heq | heq | heq
      all_goals
        rw [heq]
        exact ⟨rfl, rfl⟩
  | _ => exact ⟨rfl, rfl⟩

end SocketP2pNetwork

end PoleProtocol.Node
