import PoleProtocol.Framework.Run
import PoleProtocol.Node.PeerNetwork

/-!
# Impersonation of a configured peer

Publications and payloads are let through only from the recorded address of their peer. The
recorded address of a configured peer survives a sequence of datagrams from elsewhere exactly when
none of them is a hello or a goodbye of that peer, or a hint with another address for it.
-/

namespace PoleProtocol.Node

open Framework OrderedMap Ledger

namespace SocketP2pNetwork

variable {s : SocketP2pNetwork} {p : NodeId} {a : SocketAddr}

/-! ## The property and the condition -/

/-- The peer is recorded at its address, and nothing under its name has been taken. -/
structure Genuine (p : NodeId) (a : SocketAddr) (s : SocketP2pNetwork) : Prop where
  recorded : s.remotePeers[p]?.map (·.addr) = some a
  inbox : ∀ envelope ∈ s.inbox, envelope.sender ≠ p
  payloads : ∀ (cid : String) (record : PayloadProviderRecord),
    s.payloads[cid]? = some record → record.provider ≠ p

/-- No datagram comes from the address `a`, and the node's own calls are not about `p`. -/
def Elsewhere (p : NodeId) (a : SocketAddr) (localPeerId : NodeId) : NetworkInput → Prop
  | .datagram datagram => datagram.senderAddr ≠ a
  | .removePeer peerId _ => peerId ≠ p
  | .advertisePayload .. => localPeerId ≠ p
  | _ => True

/-- The datagram does not touch the record of `p`. -/
def LeavesRecord (p : NodeId) (a : SocketAddr) (s : SocketP2pNetwork) : NetworkInput → Prop
  | .datagram ⟨_, _, .peerHello profile⟩ => profile.peerId ≠ p
  | .datagram ⟨_, _, .peerHint profile⟩ =>
      profile.peerId = p → p = s.localPeerId ∨ profile.addr = a
  | .datagram ⟨_, _, .peerGoodbye peerId⟩ => peerId ≠ p
  | _ => True

/-! ## The table -/

theorem recorded_insertCapped_ne {peerId : NodeId} (hne : peerId ≠ p)
    (profile : SocketPeerProfile) :
    (s.insertCapped peerId profile).remotePeers[p]? = s.remotePeers[p]? := by
  unfold insertCapped
  split
  · rfl
  · exact get_insert_ne _ _ hne

theorem learnRemoteProfile_ne {profile : SocketPeerProfile} (hne : profile.peerId ≠ p) (now : ℕ) :
    (s.learnRemoteProfile now profile).remotePeers[p]? = s.remotePeers[p]? := by
  unfold learnRemoteProfile
  split
  · rfl
  · exact recorded_insertCapped_ne hne _

theorem learnRemotePeer_ne {peerId : NodeId} (hne : peerId ≠ p) (now : ℕ) (addr : SocketAddr) :
    (s.learnRemotePeer now peerId addr).remotePeers[p]? = s.remotePeers[p]? := by
  unfold learnRemotePeer
  split
  · rfl
  · exact recorded_insertCapped_ne hne _

theorem learnRemoteTopic_ne {peerId : NodeId} (hne : peerId ≠ p) (now : ℕ) (addr : SocketAddr)
    (topic : P2pTopic) :
    (s.learnRemoteTopic now peerId addr topic).remotePeers[p]? = s.remotePeers[p]? := by
  unfold learnRemoteTopic
  split
  · rfl
  · exact recorded_insertCapped_ne hne _

/-- A configured peer is stored whatever the size of the table. -/
theorem recorded_insertCapped_configured (h : p ∈ s.configuredRemotePeerIds)
    (profile : SocketPeerProfile) :
    (s.insertCapped p profile).remotePeers[p]? = some profile := by
  rw [insertCapped, if_neg fun hcap => hcap.2.1 h]
  exact get_insert_self _ _ _

theorem pumpHello_recorded (h : p ∈ s.configuredRemotePeerIds) (datagram : Datagram)
    {profile : SocketPeerProfile} (hpeer : profile.peerId = p) :
    (s.pumpHello datagram profile).remotePeers[p]?.map (·.addr) = some datagram.senderAddr := by
  subst hpeer
  have hstored := recorded_insertCapped_configured
    (s := { s with coordinationStats := countHello s.coordinationStats }) h
    { profile with addr := datagram.senderAddr, lastSeenMillis := datagram.now }
  rw [pumpHello, hstored]
  rfl

theorem learnRemoteProfile_recorded {profile : SocketPeerProfile}
    (h : profile.peerId ∈ s.configuredRemotePeerIds) (hremote : profile.peerId ≠ s.localPeerId)
    (now : ℕ) : (s.learnRemoteProfile now profile).remotePeers[profile.peerId]?.map (·.addr) =
      some profile.addr := by
  rw [learnRemoteProfile, if_neg hremote, recorded_insertCapped_configured h]
  cases s.remotePeers[profile.peerId]? <;> rfl

theorem pumpHint_recorded (h : p ∈ s.configuredRemotePeerIds) (hremote : p ≠ s.localPeerId)
    (datagram : Datagram) {profile : SocketPeerProfile} (hpeer : profile.peerId = p) :
    (s.pumpHint datagram profile).remotePeers[p]?.map (·.addr) = some profile.addr := by
  subst hpeer
  exact learnRemoteProfile_recorded
    (s := { s with coordinationStats := countHint s.coordinationStats }) h hremote datagram.now

/-- Whoever writes under the name of `p` from elsewhere is turned away. -/
theorem rejected_of_recorded {senderAddr : SocketAddr}
    (h : s.remotePeers[p]?.map (·.addr) = some a) (hne : senderAddr ≠ a) :
    s.acceptRemoteMessage p senderAddr = false := by
  obtain ⟨profile, hprofile, haddr⟩ := Option.map_eq_some_iff.mp h
  refine acceptRemoteMessage_eq_false.mpr (.inr ⟨profile, hprofile, ?_⟩)
  rw [haddr]
  exact Ne.symm hne

/-! ## One step -/

theorem genuine_pumpHello_iff (hconfigured : p ∈ s.configuredRemotePeerIds) (h : Genuine p a s)
    {datagram : Datagram} (hfrom : datagram.senderAddr ≠ a) (profile : SocketPeerProfile) :
    profile.peerId ≠ p ↔ Genuine p a (s.pumpHello datagram profile) := by
  have hsame := pumpHello_sameButPeers (s := s) datagram profile
  constructor
  · intro hne
    refine ⟨?_, by rw [hsame.inbox]; exact h.inbox, by rw [hsame.payloads]; exact h.payloads⟩
    rw [pumpHello, recorded_insertCapped_ne hne]
    exact h.recorded
  · intro hgenuine hpeer
    have hrecorded := hgenuine.recorded
    rw [pumpHello_recorded hconfigured datagram hpeer] at hrecorded
    exact hfrom (Option.some.inj hrecorded)

theorem genuine_pumpHint_iff (hconfigured : p ∈ s.configuredRemotePeerIds) (h : Genuine p a s)
    (datagram : Datagram) (profile : SocketPeerProfile) :
    (profile.peerId = p → p = s.localPeerId ∨ profile.addr = a) ↔
      Genuine p a (s.pumpHint datagram profile) := by
  have hsame := pumpHint_sameButPeers (s := s) datagram profile
  by_cases hpeer : profile.peerId = p
  · by_cases hremote : p = s.localPeerId
    · refine iff_of_true (fun _ => .inl hremote) ?_
      rw [pumpHint_local (hpeer.trans hremote)]
      exact ⟨h.recorded, h.inbox, h.payloads⟩
    · have hrecorded := pumpHint_recorded hconfigured hremote datagram hpeer
      constructor
      · intro hcond
        have haddr : profile.addr = a := (hcond hpeer).resolve_left hremote
        refine ⟨?_, by rw [hsame.inbox]; exact h.inbox, by rw [hsame.payloads]; exact h.payloads⟩
        rw [hrecorded, haddr]
      · intro hgenuine _
        rw [hgenuine.recorded] at hrecorded
        exact .inr (Option.some.inj hrecorded).symm
  · refine iff_of_true (fun heq => absurd heq hpeer) ?_
    refine ⟨?_, by rw [hsame.inbox]; exact h.inbox, by rw [hsame.payloads]; exact h.payloads⟩
    rw [pumpHint, learnRemoteProfile_ne hpeer]
    exact h.recorded

theorem genuine_pumpGoodbye_iff (h : Genuine p a s) (peerId : NodeId) :
    peerId ≠ p ↔ Genuine p a (s.pumpGoodbye peerId) := by
  constructor
  · intro hne
    refine ⟨?_, h.inbox, ?_⟩
    · change (s.remotePeers.erase peerId)[p]?.map (·.addr) = some a
      rw [get_erase, if_neg hne]
      exact h.recorded
    · intro cid record hrecord
      rw [pumpGoodbye, Std.ExtTreeMap.getElem?_filter', Option.filter_eq_some_iff] at hrecord
      exact h.payloads cid record hrecord.1
  · intro hgenuine hpeer
    have hrecorded := hgenuine.recorded
    change (s.remotePeers.erase peerId)[p]?.map (·.addr) = some a at hrecorded
    rw [get_erase, if_pos hpeer] at hrecorded
    cases hrecorded

theorem genuine_pumpPublish (h : Genuine p a s) {datagram : Datagram}
    (hfrom : datagram.senderAddr ≠ a) (sender : NodeId) (topic : P2pTopic) (message : P2pMessage) :
    Genuine p a (s.pumpPublish datagram sender topic message) := by
  have hsame := learnRemoteTopic_sameButPeers (s := s) datagram.now sender datagram.senderAddr topic
  cases haccept : s.acceptRemoteMessage sender datagram.senderAddr with
  | false =>
      rw [pumpPublish_rejected haccept]
      exact ⟨h.recorded, h.inbox, h.payloads⟩
  | true =>
      have hne : sender ≠ p := by
        intro heq
        rw [heq, rejected_of_recorded h.recorded hfrom] at haccept
        cases haccept
      obtain ⟨delivered, hdelivered, heq⟩ := pumpPublish_accepted _ haccept topic message
      rw [heq]
      refine ⟨?_, ?_, by rw [hsame.payloads]; exact h.payloads⟩
      · rw [learnRemoteTopic_ne hne]
        exact h.recorded
      · intro envelope hmem
        rcases List.mem_append.mp hmem with hold | hnew
        · exact h.inbox envelope hold
        · rw [hdelivered envelope hnew]
          exact hne

theorem genuine_pumpPayloadSync (h : Genuine p a s) {datagram : Datagram}
    (hfrom : datagram.senderAddr ≠ a) (record : PayloadProviderRecord) :
    Genuine p a (s.pumpPayloadSync datagram record) := by
  have hsame := learnRemotePeer_sameButPeers (s := s) datagram.now record.provider
    datagram.senderAddr
  cases haccept : s.acceptRemoteMessage record.provider datagram.senderAddr with
  | false =>
      rw [pumpPayloadSync_rejected haccept]
      exact ⟨h.recorded, h.inbox, h.payloads⟩
  | true =>
      have hne : record.provider ≠ p := by
        intro heq
        rw [heq, rejected_of_recorded h.recorded hfrom] at haccept
        cases haccept
      rw [pumpPayloadSync_accepted haccept]
      refine ⟨?_, by rw [hsame.inbox]; exact h.inbox, ?_⟩
      · rw [learnRemotePeer_ne hne]
        exact h.recorded
      · intro cid stored hstored
        rcases get_insert_cases hstored with ⟨_, rfl⟩ | ⟨_, hold⟩
        · exact hne
        · exact h.payloads cid stored hold

/-- From elsewhere, the condition is exactly what keeps the peer from being impersonated. -/
theorem genuine_next_iff (hconfigured : p ∈ s.configuredRemotePeerIds) (h : Genuine p a s)
    {input : NetworkInput} (helsewhere : Elsewhere p a s.localPeerId input) :
    LeavesRecord p a s input ↔ Genuine p a (s.next input) := by
  cases input with
  | datagram datagram =>
      obtain ⟨senderAddr, now, wire⟩ := datagram
      cases wire with
      | peerHello profile => exact genuine_pumpHello_iff hconfigured h helsewhere profile
      | peerHint profile => exact genuine_pumpHint_iff hconfigured h _ profile
      | peerGoodbye peerId => exact genuine_pumpGoodbye_iff h peerId
      | publish sender topic message =>
          exact iff_of_true trivial (genuine_pumpPublish h helsewhere sender topic message)
      | payloadSync record =>
          exact iff_of_true trivial (genuine_pumpPayloadSync h helsewhere record)
  | pruneStaleRemotePeers now =>
      refine iff_of_true trivial ⟨?_, h.inbox, h.payloads⟩
      obtain ⟨profile, hprofile, haddr⟩ := Option.map_eq_some_iff.mp h.recorded
      simp only [next, pruneStaleRemotePeers]
      rw [Std.ExtTreeMap.getElem?_filter', hprofile]
      simp [hconfigured, haddr]
  | removePeer peerId announced =>
      refine iff_of_true trivial ?_
      simp only [next]
      rcases removePeer_cases s peerId announced with heq | heq | heq
      · rw [heq]
        exact h
      · rw [heq]
        refine ⟨h.recorded, by simp, ?_⟩
        intro cid record hrecord
        simp at hrecord
      · rw [heq]
        refine ⟨?_, h.inbox, h.payloads⟩
        rw [get_erase, if_neg helsewhere]
        exact h.recorded
  | advertisePayload cid hash bytes =>
      refine iff_of_true trivial ⟨h.recorded, h.inbox, ?_⟩
      intro stored record hrecord
      rcases get_insert_cases hrecord with ⟨_, rfl⟩ | ⟨_, hold⟩
      · exact helsewhere
      · exact h.payloads stored record hold
  | drainInbox => exact iff_of_true trivial ⟨h.recorded, by simp [next], h.payloads⟩
  | bootstrapPeer topics => exact iff_of_true trivial ⟨h.recorded, h.inbox, h.payloads⟩
  | subscribe topic => exact iff_of_true trivial ⟨h.recorded, h.inbox, h.payloads⟩
  | unsubscribe topic => exact iff_of_true trivial ⟨h.recorded, h.inbox, h.payloads⟩

/-- A configured peer recorded at `a` stays unimpersonated through inputs from elsewhere, in every
state they lead to, if and only if none of them touches its record. -/
theorem configured_peer_genuine_iff (hconfigured : p ∈ s.configuredRemotePeerIds)
    (hgenuine : Genuine p a s) (inputs : List NetworkInput)
    (helsewhere : ∀ input ∈ inputs, Elsewhere p a s.localPeerId input) :
    Meets next (LeavesRecord p a) s inputs ↔
      ∀ before after, inputs = before ++ after → Genuine p a (run next s before) := by
  refine meets_iff_prefixes_of
    (I := fun t => t.localPeerId = s.localPeerId ∧ p ∈ t.configuredRemotePeerIds)
    ?_ ?_ ⟨rfl, hconfigured⟩ hgenuine helsewhere
  · intro t input h _ _
    have hnext := next_configuration t input
    refine ⟨hnext.1.trans h.1, ?_⟩
    rw [hnext.2]
    exact h.2
  · intro t input hinput h hgenuine
    rw [← h.1] at hinput
    exact genuine_next_iff h.2 hgenuine hinput

/-! ## Runs -/

namespace Sample

def peer : NodeId := 2
def peerAddr : SocketAddr := .v4 0x7F000001#32 49991
def elsewhereAddr : SocketAddr := .v4 0x7F000001#32 50000

/-- A node that listens to challenges and is configured with one peer. -/
def network : SocketP2pNetwork :=
  (bind 1 [SocketPeerProfile.new peer peerAddr []]).next (.subscribe .challenges)

def challenge : P2pMessage := .challenge ⟨7, 1, .badBatch, none⟩

def publish : Datagram := ⟨elsewhereAddr, 10, .publish peer .challenges challenge⟩

def hello : Datagram :=
  ⟨elsewhereAddr, 5, .peerHello (SocketPeerProfile.new peer elsewhereAddr [])⟩

theorem network_configured : peer ∈ network.configuredRemotePeerIds := by decide

theorem network_genuine : Genuine peer peerAddr network := by
  refine ⟨by decide, by simp [network, next, bind], ?_⟩
  intro cid record h
  simp [network, next, bind] at h

end Sample

/-- A publication under the name of the peer is dropped while its record is untouched. -/
theorem configured_peer_genuine_iff_publish :
    Meets next (LeavesRecord Sample.peer Sample.peerAddr) Sample.network
        [.datagram Sample.publish] ↔
      ∀ before after, [.datagram Sample.publish] = before ++ after →
        Genuine Sample.peer Sample.peerAddr (run next Sample.network before) :=
  configured_peer_genuine_iff Sample.network_configured Sample.network_genuine
    [.datagram Sample.publish] (by
      intro input hmem
      rw [List.mem_singleton.mp hmem]
      change Sample.elsewhereAddr ≠ Sample.peerAddr
      decide)

/-- One hello from elsewhere moves the record, and the next publication is delivered. -/
theorem configured_peer_impersonated :
    ¬ ∀ (s : SocketP2pNetwork) (p : NodeId) (a : SocketAddr) (datagrams : List Datagram),
      p ∈ s.configuredRemotePeerIds → Genuine p a s →
      (∀ datagram ∈ datagrams, datagram.senderAddr ≠ a) →
      Genuine p a (run next s (datagrams.map .datagram)) := by
  intro hall
  have h := hall Sample.network Sample.peer Sample.peerAddr [Sample.hello, Sample.publish]
    Sample.network_configured Sample.network_genuine (by decide)
  have hpushed : (⟨Sample.peer, .challenges, Sample.challenge⟩ : P2pEnvelope) ∈
      (run next Sample.network
        ([Sample.hello, Sample.publish].map .datagram)).inbox := by
    decide
  exact h.inbox _ hpushed rfl

end SocketP2pNetwork

end PoleProtocol.Node
