import PoleProtocol.Framework.Run
import PoleProtocol.Node.PeerNetwork

/-!
# The bound of the peer table

The four ways into the table share one test, against the size of the whole table. It bounds the
learned peers, whatever share of the table they are, and never stands in the way of a configured
peer.
-/

namespace PoleProtocol.Node

open Framework OrderedMap Ledger

namespace SocketP2pNetwork

variable {s : SocketP2pNetwork}

/-! ## The learned peers -/

/-- The table holds no more learned peers than the cap. -/
def Capped (s : SocketP2pNetwork) : Prop := s.learnedRemotePeers.card ≤ maxRemotePeers

theorem capped_bind (localPeerId : NodeId) (remotePeers : List SocketPeerProfile) :
    (bind localPeerId remotePeers).Capped := by
  have hkeys : ∀ (profiles : List SocketPeerProfile)
      (peers : OrderedMap NodeId SocketPeerProfile) (k : NodeId),
      k ∈ keySet (profiles.foldl (fun peers profile => peers.insert profile.peerId profile) peers) →
      k ∈ keySet peers ∨ k ∈ profiles.map (·.peerId) := by
    intro profiles
    induction profiles with
    | nil => exact fun peers k h => .inl h
    | cons profile profiles ih =>
        intro peers k h
        rcases ih _ k h with hfirst | hrest
        · rw [keySet_insert, Finset.mem_insert] at hfirst
          rcases hfirst with rfl | hold
          · exact .inr (List.mem_cons_self ..)
          · exact .inl hold
        · exact .inr (List.mem_cons_of_mem _ hrest)
  have hnone : (bind localPeerId remotePeers).learnedRemotePeers = ∅ := by
    rw [learnedRemotePeers, Finset.sdiff_eq_empty_iff_subset]
    intro k hk
    rcases hkeys remotePeers ∅ k hk with hempty | hprofile
    · rw [mem_keySet] at hempty
      exact absurd Std.ExtTreeMap.getElem?_empty hempty
    · exact List.mem_toFinset.mpr hprofile
  rw [Capped, hnone]
  exact Nat.zero_le _

theorem capped_insertCapped (h : s.Capped) (peerId : NodeId) (profile : SocketPeerProfile) :
    (s.insertCapped peerId profile).Capped := by
  unfold insertCapped
  split
  · exact h
  · next hroom =>
      refine card_sdiff_insert_le profile h ?_
      by_cases hknown : s.remotePeers[peerId]? = none
      · by_cases hconfigured : peerId ∈ s.configuredRemotePeerIds
        · exact .inl hconfigured
        · have hsize : ¬ maxRemotePeers ≤ s.remotePeers.size :=
            fun hfull => hroom ⟨hknown, hconfigured, hfull⟩
          exact .inr (.inr (Nat.lt_of_not_le hsize))
      · exact .inr (.inl hknown)

theorem capped_learnRemoteProfile (h : s.Capped) (now : ℕ) (profile : SocketPeerProfile) :
    (s.learnRemoteProfile now profile).Capped := by
  unfold learnRemoteProfile
  split
  · exact h
  · exact capped_insertCapped h _ _

theorem capped_learnRemotePeer (h : s.Capped) (now : ℕ) (peerId : NodeId) (addr : SocketAddr) :
    (s.learnRemotePeer now peerId addr).Capped := by
  unfold learnRemotePeer
  split
  · exact h
  · exact capped_insertCapped h _ _

theorem capped_learnRemoteTopic (h : s.Capped) (now : ℕ) (peerId : NodeId) (addr : SocketAddr)
    (topic : P2pTopic) : (s.learnRemoteTopic now peerId addr topic).Capped := by
  unfold learnRemoteTopic
  split
  · exact h
  · exact capped_insertCapped h _ _

theorem capped_erase (h : s.Capped) (peerId : NodeId) :
    Capped { s with remotePeers := s.remotePeers.erase peerId } :=
  (card_sdiff_erase_le s.remotePeers s.configuredRemotePeerIds peerId).trans h

theorem capped_pumpHello (h : s.Capped) (datagram : Datagram) (profile : SocketPeerProfile) :
    (s.pumpHello datagram profile).Capped := by
  unfold pumpHello
  apply capped_insertCapped
  exact h

theorem capped_pumpHint (h : s.Capped) (datagram : Datagram) (profile : SocketPeerProfile) :
    (s.pumpHint datagram profile).Capped := by
  unfold pumpHint
  apply capped_learnRemoteProfile
  exact h

theorem capped_pumpIncoming (h : s.Capped) (datagram : Datagram) :
    (s.pumpIncoming datagram).Capped := by
  obtain ⟨senderAddr, now, wire⟩ := datagram
  cases wire with
  | peerHello profile => exact capped_pumpHello h _ profile
  | peerHint profile => exact capped_pumpHint h _ profile
  | peerGoodbye peerId => exact capped_erase h peerId
  | publish sender topic message =>
      have hlearned := capped_learnRemoteTopic h now sender senderAddr topic
      simp only [pumpIncoming]
      cases haccept : s.acceptRemoteMessage sender senderAddr with
      | true =>
          obtain ⟨_, _, heq⟩ := pumpPublish_accepted
            ⟨senderAddr, now, .publish sender topic message⟩ haccept topic message
          rw [heq]
          exact hlearned
      | false =>
          rw [pumpPublish_rejected haccept]
          exact h
  | payloadSync record =>
      have hlearned := capped_learnRemotePeer h now record.provider senderAddr
      simp only [pumpIncoming]
      cases haccept : s.acceptRemoteMessage record.provider senderAddr with
      | true =>
          rw [pumpPayloadSync_accepted haccept]
          exact hlearned
      | false =>
          rw [pumpPayloadSync_rejected haccept]
          exact h

theorem capped_next (input : NetworkInput) (h : s.Capped) : (s.next input).Capped := by
  cases input with
  | datagram datagram => exact capped_pumpIncoming h datagram
  | pruneStaleRemotePeers now => exact (card_sdiff_filter_le _ _ _).trans h
  | removePeer peerId announced =>
      simp only [next]
      rcases removePeer_cases s peerId announced with heq | heq | heq
      · rw [heq]
        exact h
      · rw [heq]
        exact h
      · rw [heq]
        exact capped_erase h peerId
  | _ => exact h

/-! ## Configured peers -/

theorem insertCapped_of_configured {peerId : NodeId} (h : peerId ∈ s.configuredRemotePeerIds)
    (profile : SocketPeerProfile) :
    s.insertCapped peerId profile =
      { s with remotePeers := s.remotePeers.insert peerId profile } :=
  if_neg fun hcap => hcap.2.1 h

/-- The peer is in the table after a step that did not count a refusal at the cap. -/
structure Admitted (peerId : NodeId) (s s' : SocketP2pNetwork) : Prop where
  uncounted : s'.coordinationStats.droppedPeerCapCount = s.coordinationStats.droppedPeerCapCount
  present : s'.remotePeers[peerId]? ≠ none

theorem admitted_insertCapped {peerId : NodeId} (h : peerId ∈ s.configuredRemotePeerIds)
    (profile : SocketPeerProfile) : Admitted peerId s (s.insertCapped peerId profile) := by
  rw [insertCapped_of_configured h]
  refine ⟨Eq.refl _, ?_⟩
  rw [get_insert_self]
  simp

/-- A message that was not let through names a peer in the table. -/
theorem admitted_of_rejected {peerId : NodeId} {senderAddr : SocketAddr}
    (hremote : peerId ≠ s.localPeerId) (h : s.acceptRemoteMessage peerId senderAddr = false) :
    Admitted peerId s { s with coordinationStats := countSpoofed s.coordinationStats } := by
  refine ⟨rfl, ?_⟩
  rcases acceptRemoteMessage_eq_false.mp h with hlocal | ⟨profile, hknown, _⟩
  · exact absurd hlocal hremote
  · change s.remotePeers[peerId]? ≠ none
    rw [hknown]
    exact Option.some_ne_none profile

theorem admitted_learnRemoteTopic {peerId : NodeId} (h : peerId ∈ s.configuredRemotePeerIds)
    (hremote : peerId ≠ s.localPeerId) (now : ℕ) (addr : SocketAddr) (topic : P2pTopic) :
    Admitted peerId s (s.learnRemoteTopic now peerId addr topic) := by
  rw [learnRemoteTopic, if_neg hremote]
  exact admitted_insertCapped h _

theorem admitted_learnRemotePeer {peerId : NodeId} (h : peerId ∈ s.configuredRemotePeerIds)
    (hremote : peerId ≠ s.localPeerId) (now : ℕ) (addr : SocketAddr) :
    Admitted peerId s (s.learnRemotePeer now peerId addr) := by
  rw [learnRemotePeer, if_neg hremote]
  exact admitted_insertCapped h _

theorem admitted_pumpHello {profile : SocketPeerProfile}
    (h : profile.peerId ∈ s.configuredRemotePeerIds) (datagram : Datagram) :
    Admitted profile.peerId s (s.pumpHello datagram profile) := by
  have hadmitted := admitted_insertCapped
    (s := { s with coordinationStats := countHello s.coordinationStats }) h
    { profile with addr := datagram.senderAddr, lastSeenMillis := datagram.now }
  exact ⟨hadmitted.uncounted, hadmitted.present⟩

theorem admitted_pumpHint {profile : SocketPeerProfile}
    (h : profile.peerId ∈ s.configuredRemotePeerIds) (hremote : profile.peerId ≠ s.localPeerId)
    (datagram : Datagram) : Admitted profile.peerId s (s.pumpHint datagram profile) := by
  have hadmitted : Admitted profile.peerId
      { s with coordinationStats := countHint s.coordinationStats }
      (s.pumpHint datagram profile) := by
    rw [pumpHint, learnRemoteProfile, if_neg hremote]
    apply admitted_insertCapped
    exact h
  exact ⟨hadmitted.uncounted, hadmitted.present⟩

theorem admitted_pumpIncoming {datagram : Datagram}
    (hconfigured : datagram.wire.peer ∈ s.configuredRemotePeerIds)
    (hremote : datagram.wire.peer ≠ s.localPeerId)
    (hgoodbye : ∀ peerId, datagram.wire ≠ .peerGoodbye peerId) :
    Admitted datagram.wire.peer s (s.pumpIncoming datagram) := by
  obtain ⟨senderAddr, now, wire⟩ := datagram
  cases wire with
  | peerHello profile => exact admitted_pumpHello hconfigured _
  | peerHint profile => exact admitted_pumpHint hconfigured hremote _
  | peerGoodbye peerId => exact absurd rfl (hgoodbye peerId)
  | publish sender topic message =>
      have h := admitted_learnRemoteTopic hconfigured hremote now senderAddr topic
      simp only [pumpIncoming]
      cases haccept : s.acceptRemoteMessage sender senderAddr with
      | true =>
          obtain ⟨_, _, heq⟩ := pumpPublish_accepted
            ⟨senderAddr, now, .publish sender topic message⟩ haccept topic message
          rw [heq]
          exact ⟨h.uncounted, h.present⟩
      | false =>
          rw [pumpPublish_rejected haccept]
          exact admitted_of_rejected hremote haccept
  | payloadSync record =>
      have h := admitted_learnRemotePeer hconfigured hremote now senderAddr
      simp only [pumpIncoming]
      cases haccept : s.acceptRemoteMessage record.provider senderAddr with
      | true =>
          rw [pumpPayloadSync_accepted haccept]
          exact ⟨h.uncounted, h.present⟩
      | false =>
          rw [pumpPayloadSync_rejected haccept]
          exact admitted_of_rejected hremote haccept

/-- A message that names a configured peer is never counted as refused at the cap. -/
theorem pumpIncoming_uncounted {datagram : Datagram}
    (hconfigured : datagram.wire.peer ∈ s.configuredRemotePeerIds) :
    (s.pumpIncoming datagram).coordinationStats.droppedPeerCapCount =
      s.coordinationStats.droppedPeerCapCount := by
  by_cases hremote : datagram.wire.peer = s.localPeerId
  · obtain ⟨senderAddr, now, wire⟩ := datagram
    cases wire with
    | peerHello profile => exact (admitted_pumpHello hconfigured _).uncounted
    | peerHint profile =>
        simp only [pumpIncoming]
        rw [pumpHint_local hremote]
        rfl
    | peerGoodbye peerId => rfl
    | publish sender topic message =>
        have hrejected : s.acceptRemoteMessage sender senderAddr = false :=
          acceptRemoteMessage_eq_false.mpr (.inl hremote)
        simp only [pumpIncoming]
        rw [pumpPublish_rejected hrejected]
        rfl
    | payloadSync record =>
        have hrejected : s.acceptRemoteMessage record.provider senderAddr = false :=
          acceptRemoteMessage_eq_false.mpr (.inl hremote)
        simp only [pumpIncoming]
        rw [pumpPayloadSync_rejected hrejected]
        rfl
  · by_cases hgoodbye : ∃ peerId, datagram.wire = .peerGoodbye peerId
    · obtain ⟨peerId, hwire⟩ := hgoodbye
      rw [pumpIncoming, hwire]
      rfl
    · exact (admitted_pumpIncoming hconfigured hremote fun peerId hwire =>
        hgoodbye ⟨peerId, hwire⟩).uncounted

/-- From any configuration, through any datagrams, prunings and calls: the learned peers stay
within the cap, and no message that names a configured peer is refused because of it. -/
theorem peer_table_capped (localPeerId : NodeId) (remotePeers : List SocketPeerProfile)
    (inputs : List NetworkInput) :
    let s := run next (bind localPeerId remotePeers) inputs
    let configured := (remotePeers.map (·.peerId)).toFinset
    (keySet s.remotePeers \ configured).card ≤ maxRemotePeers ∧
      ∀ datagram : Datagram, datagram.wire.peer ∈ configured →
        (s.pumpIncoming datagram).coordinationStats.droppedPeerCapCount =
            s.coordinationStats.droppedPeerCapCount ∧
          (datagram.wire.peer ≠ localPeerId →
            (∀ peerId, datagram.wire ≠ .peerGoodbye peerId) →
            (s.pumpIncoming datagram).remotePeers[datagram.wire.peer]? ≠ none) := by
  intro s configured
  have hconfiguration : s.localPeerId = localPeerId ∧ s.configuredRemotePeerIds = configured :=
    run_preserves
      (P := fun s => s.localPeerId = localPeerId ∧ s.configuredRemotePeerIds = configured)
      (fun s input h =>
        have hnext := next_configuration s input
        ⟨hnext.1.trans h.1, hnext.2.trans h.2⟩)
      inputs ⟨rfl, rfl⟩
  have hcapped : s.Capped :=
    run_preserves (P := Capped) (fun _ input h => capped_next input h) inputs
      (capped_bind localPeerId remotePeers)
  refine ⟨?_, ?_⟩
  · rw [← hconfiguration.2]
    exact hcapped
  · intro datagram hpeer
    rw [← hconfiguration.2] at hpeer
    refine ⟨pumpIncoming_uncounted hpeer, ?_⟩
    intro hremote hgoodbye
    rw [← hconfiguration.1] at hremote
    exact (admitted_pumpIncoming hpeer hremote hgoodbye).present

end SocketP2pNetwork

end PoleProtocol.Node
