import PoleProtocol.Framework.KeySet
import PoleProtocol.Framework.Mailbox
import PoleProtocol.Node.NetworkApi

/-!
# The in-memory network

All peers of one process share three maps. Whatever calls are made, in whatever order, the maps
have the registered peers as keys, a failing call changes nothing, and between two removals of a
peer the envelopes addressed to it are the ones its drains return, once each and in order,
followed by those still in its inbox.
-/

namespace PoleProtocol.Node

open Framework Ledger

structure InMemoryP2pNetwork where
  peers : OrderedMap NodeId Unit
  subscriptions : OrderedMap NodeId (Finset P2pTopic)
  inboxes : OrderedMap NodeId (List P2pEnvelope)
  payloads : OrderedMap String (List PayloadProviderRecord)

namespace InMemoryP2pNetwork

def empty : InMemoryP2pNetwork := ⟨∅, ∅, ∅, ∅⟩

/-- What a call leaves behind, and what it answers. -/
abbrev Outcome := InMemoryP2pNetwork × Except P2pError NetworkReply

/-- The value of an entry, written with a default if it is missing. -/
def entryOr {K V : Type*} [Ord K] [Std.TransOrd K] (m : OrderedMap K V) (k : K) (v : V) : V :=
  m[k]?.getD v

variable (s : InMemoryP2pNetwork)

/-- Registering a peer again leaves its topics and its inbox alone. -/
def register (peerId : NodeId) : InMemoryP2pNetwork :=
  { s with
    peers := s.peers.insert peerId ()
    subscriptions := s.subscriptions.insert peerId (entryOr s.subscriptions peerId ∅)
    inboxes := s.inboxes.insert peerId (entryOr s.inboxes peerId []) }

def registerPeer (peerId : NodeId) : Outcome := (s.register peerId, .ok .done)

def subscribe (peerId : NodeId) (topic : P2pTopic) : Outcome :=
  if s.peers[peerId]? = none then (s, .error (.unknownPeer peerId))
  else
    ({ s with
        subscriptions :=
          s.subscriptions.insert peerId (insert topic (entryOr s.subscriptions peerId ∅)) },
      .ok .done)

/-- The loop over the topics, left at the first one that cannot be subscribed. -/
def subscribeAll (s : InMemoryP2pNetwork) (peerId : NodeId) : List P2pTopic → Outcome
  | [] => (s, .ok .done)
  | topic :: topics =>
      match s.subscribe peerId topic with
      | (s', .ok _) => subscribeAll s' peerId topics
      | (s', .error e) => (s', .error e)

def bootstrapPeer (peerId : NodeId) (topics : List P2pTopic) : Outcome :=
  (s.register peerId).subscribeAll peerId topics

def unsubscribe (peerId : NodeId) (topic : P2pTopic) : Outcome :=
  if s.peers[peerId]? = none then (s, .error (.unknownPeer peerId))
  else
    let topics := entryOr s.subscriptions peerId ∅
    ({ s with subscriptions := s.subscriptions.insert peerId (topics.erase topic) },
      .ok (.removed (decide (topic ∈ topics))))

/-- The provider gives up its payloads; a payload without providers goes. -/
def retainProviders (payloads : OrderedMap String (List PayloadProviderRecord)) (peerId : NodeId) :
    OrderedMap String (List PayloadProviderRecord) :=
  (payloads.map fun _ providers => providers.filter (·.provider ≠ peerId)).filter
    fun _ providers => !providers.isEmpty

def removePeer (peerId : NodeId) : Outcome :=
  if s.peers[peerId]? = none then (s, .error (.unknownPeer peerId))
  else
    ({ peers := s.peers.erase peerId
       subscriptions := s.subscriptions.erase peerId
       inboxes := s.inboxes.erase peerId
       payloads := retainProviders s.payloads peerId },
      .ok .done)

def knownPeers : Outcome := (s, .ok (.peers s.peers.keys))

def subscriptionsFor (peerId : NodeId) : Outcome :=
  if s.peers[peerId]? = none then (s, .error (.unknownPeer peerId))
  else (s, .ok (.topics (topicList (entryOr s.subscriptions peerId ∅))))

/-- The peers a message goes to, in the order of their ids. -/
def recipients (sender : NodeId) (topic : P2pTopic) : List NodeId :=
  (s.subscriptions.toList.filter fun entry => entry.1 ≠ sender ∧ topic ∈ entry.2).map (·.1)

def deliver (inboxes : OrderedMap NodeId (List P2pEnvelope)) (recipients : List NodeId)
    (envelope : P2pEnvelope) : OrderedMap NodeId (List P2pEnvelope) :=
  recipients.foldl (fun inboxes recipient =>
    inboxes.insert recipient (entryOr inboxes recipient [] ++ [envelope])) inboxes

def publish (sender : NodeId) (message : P2pMessage) : Outcome :=
  if s.peers[sender]? = none then (s, .error (.unknownPeer sender))
  else
    let recipients := s.recipients sender message.topic
    if recipients = [] then (s, .error (.noSubscribers message.topic))
    else
      ({ s with inboxes := deliver s.inboxes recipients ⟨sender, message.topic, message⟩ },
        .ok (.recipients recipients.length))

def drainInbox (peerId : NodeId) : Outcome :=
  if s.peers[peerId]? = none then (s, .error (.unknownPeer peerId))
  else
    ({ s with inboxes := s.inboxes.insert peerId [] },
      .ok (.envelopes (entryOr s.inboxes peerId [])))

/-- A provider that offers a payload again replaces what it offered. -/
def offerPayload (record : PayloadProviderRecord) (providers : List PayloadProviderRecord) :
    List PayloadProviderRecord :=
  match providers.findIdx? (·.provider = record.provider) with
  | some index =>
      providers.modify index fun existing =>
        { existing with payloadHash := record.payloadHash, payloadBytes := record.payloadBytes }
  | none => providers ++ [record]

def advertisePayload (provider : NodeId) (payloadCid : String) (payloadHash : Hash32)
    (payloadBytes : Bytes) : Outcome :=
  if s.peers[provider]? = none then (s, .error (.unknownPeer provider))
  else
    ({ s with
        payloads := s.payloads.insert payloadCid
          (offerPayload ⟨provider, payloadCid, payloadHash, payloadBytes⟩
            (entryOr s.payloads payloadCid [])) },
      .ok .done)

def requestPayload (requester : NodeId) (payloadCid : String) : Outcome :=
  if s.peers[requester]? = none then (s, .error (.unknownPeer requester))
  else
    match s.payloads[payloadCid]?.bind List.head? with
    | none => (s, .error (.missingPayload payloadCid))
    | some provider => (s, .ok (.payload provider.response))

def perform : NetworkCall → Outcome
  | .learnedRemotePeerCount => (s, .ok (.learned 0))
  | .coordinationStats => (s, .ok (.stats ⟨0, 0, 0, 0, 0, 0⟩))
  | .registerPeer peerId => s.registerPeer peerId
  | .bootstrapPeer peerId topics => s.bootstrapPeer peerId topics
  | .subscribe peerId topic => s.subscribe peerId topic
  | .unsubscribe peerId topic => s.unsubscribe peerId topic
  | .removePeer peerId => s.removePeer peerId
  | .knownPeers => s.knownPeers
  | .subscriptionsFor peerId => s.subscriptionsFor peerId
  | .publish sender message => s.publish sender message
  | .drainInbox peerId => s.drainInbox peerId
  | .advertisePayload provider cid hash bytes => s.advertisePayload provider cid hash bytes
  | .requestPayload requester cid => s.requestPayload requester cid

def next (call : NetworkCall) : InMemoryP2pNetwork := (s.perform call).1

/-! ## What the calls mean for one peer -/

/-- The peer listens to the topic. -/
def Subscribed (peerId : NodeId) (topic : P2pTopic) : Prop :=
  ∃ topics, s.subscriptions[peerId]? = some topics ∧ topic ∈ topics

instance (peerId : NodeId) (topic : P2pTopic) : Decidable (s.Subscribed peerId topic) :=
  decidable_of_iff (∃ topics ∈ s.subscriptions[peerId]?, topic ∈ topics) <| by
    simp [Subscribed]

def inbox (peerId : NodeId) : List P2pEnvelope := entryOr s.inboxes peerId []

/-- What a call addresses to the peer: a published message, if it was accepted and the peer is
another one and listens to its topic. -/
def addressed (peerId : NodeId) : NetworkCall → List P2pEnvelope
  | .publish sender message =>
      if (s.publish sender message).2.isOk ∧ peerId ≠ sender ∧
          s.Subscribed peerId message.topic then
        [⟨sender, message.topic, message⟩]
      else []
  | _ => []

/-- What a call returns to the peer out of its inbox. -/
def returned (peerId : NodeId) : NetworkCall → List P2pEnvelope
  | .drainInbox drained =>
      match (s.drainInbox drained).2 with
      | .ok (.envelopes envelopes) => if drained = peerId then envelopes else []
      | _ => []
  | _ => []

/-- The call removes the peer. -/
def Removes (peerId : NodeId) (call : NetworkCall) : Prop :=
  call = .removePeer peerId ∧ s.peers[peerId]? ≠ none

instance (peerId : NodeId) (call : NetworkCall) : Decidable (s.Removes peerId call) :=
  inferInstanceAs (Decidable (_ ∧ _))

def mailbox (peerId : NodeId) : Mailbox InMemoryP2pNetwork NetworkCall P2pEnvelope where
  held := fun s => s.inbox peerId
  put := fun s call => s.addressed peerId call
  taken := fun s call => s.returned peerId call

/-! ## Single entries -/

theorem entryOr_insert {K V : Type*} [Ord K] [Std.TransOrd K] [Std.LawfulEqOrd K] [DecidableEq K]
    (m : OrderedMap K V) (k a : K) (v w : V) :
    entryOr (m.insert k v) a w = if k = a then v else entryOr m a w := by
  rw [entryOr, OrderedMap.get_insert]
  split <;> rfl

/-- Writing an entry back changes no entry. -/
theorem entryOr_insert_self {K V : Type*} [Ord K] [Std.TransOrd K] [Std.LawfulEqOrd K]
    [DecidableEq K] (m : OrderedMap K V) (k a : K) (v : V) :
    entryOr (m.insert k (entryOr m k v)) a v = entryOr m a v := by
  rw [entryOr_insert]
  split
  · next h => rw [h]
  · rfl

variable {s}

theorem mem_recipients {sender peerId : NodeId} {topic : P2pTopic} :
    peerId ∈ s.recipients sender topic ↔ peerId ≠ sender ∧ s.Subscribed peerId topic := by
  simp only [recipients, List.mem_map, List.mem_filter, Prod.exists, exists_and_right,
    exists_eq_right, OrderedMap.mem_toList, decide_eq_true_eq, Subscribed]
  constructor
  · rintro ⟨topics, hget, hne, htopic⟩
    exact ⟨hne, topics, hget, htopic⟩
  · rintro ⟨hne, topics, hget, htopic⟩
    exact ⟨topics, hget, hne, htopic⟩

theorem nodup_recipients (s : InMemoryP2pNetwork) (sender : NodeId) (topic : P2pTopic) :
    (s.recipients sender topic).Nodup :=
  ((OrderedMap.nodup_keys s.subscriptions).sublist (List.filter_sublist.map _))

/-- Every recipient finds the envelope at the end of its inbox, once. -/
theorem entryOr_deliver (inboxes : OrderedMap NodeId (List P2pEnvelope)) {recipients : List NodeId}
    (hnodup : recipients.Nodup) (envelope : P2pEnvelope) (peerId : NodeId) :
    entryOr (deliver inboxes recipients envelope) peerId [] =
      entryOr inboxes peerId [] ++ if peerId ∈ recipients then [envelope] else [] := by
  have hkeys : recipients.map id = recipients := List.map_id recipients
  unfold deliver entryOr
  by_cases hmem : peerId ∈ recipients
  · rw [if_pos hmem]
    have hget := OrderedMap.get_foldl_update_of_mem id
      (fun _ stored => stored.getD [] ++ [envelope]) (hkeys.symm ▸ hnodup) inboxes hmem
    exact congrArg (fun stored => stored.getD []) hget
  · rw [if_neg hmem, List.append_nil]
    have hget := OrderedMap.get_foldl_update_of_not_mem id
      (fun _ stored => stored.getD [] ++ [envelope]) inboxes (hkeys.symm ▸ hmem)
    exact congrArg (fun stored => stored.getD []) hget

/-! ## What a call does -/

/-- The maps have the registered peers as their keys. -/
structure InStep (s : InMemoryP2pNetwork) : Prop where
  subscriptions : OrderedMap.keySet s.subscriptions = OrderedMap.keySet s.peers
  inboxes : OrderedMap.keySet s.inboxes = OrderedMap.keySet s.peers

theorem inStep_empty : InStep empty := ⟨rfl, rfl⟩

/-- Writing an entry of a registered peer leaves the keys alone. -/
theorem keySet_insert_registered {V : Type*} {m : OrderedMap NodeId V}
    (h : OrderedMap.keySet m = OrderedMap.keySet s.peers) {peerId : NodeId}
    (hpeer : s.peers[peerId]? ≠ none) (v : V) :
    OrderedMap.keySet (m.insert peerId v) = OrderedMap.keySet s.peers := by
  rw [OrderedMap.keySet_insert, h, Finset.insert_eq_of_mem (OrderedMap.mem_keySet.mpr hpeer)]

theorem inStep_register (h : InStep s) (peerId : NodeId) : InStep (s.register peerId) := by
  refine ⟨?_, ?_⟩
  · rw [register, OrderedMap.keySet_insert, OrderedMap.keySet_insert, h.subscriptions]
  · rw [register, OrderedMap.keySet_insert, OrderedMap.keySet_insert, h.inboxes]

/-- The loop over the topics of a registered peer runs to its end. -/
theorem subscribeAll_spec {s : InMemoryP2pNetwork} {peerId : NodeId}
    (hpeer : s.peers[peerId]? ≠ none) (hentry : s.subscriptions[peerId]? ≠ none)
    (topics : List P2pTopic) :
    ∃ subscriptions,
      s.subscribeAll peerId topics = ({ s with subscriptions }, .ok .done) ∧
        OrderedMap.keySet subscriptions = OrderedMap.keySet s.subscriptions := by
  induction topics generalizing s with
  | nil => exact ⟨s.subscriptions, rfl, rfl⟩
  | cons topic topics ih =>
      rw [subscribeAll, subscribe, if_neg hpeer]
      let added := s.subscriptions.insert peerId (insert topic (entryOr s.subscriptions peerId ∅))
      obtain ⟨subscriptions, hrun, hkeys⟩ := ih (s := { s with subscriptions := added }) hpeer
        (OrderedMap.insert_ne_none _ _ hentry)
      refine ⟨subscriptions, hrun, ?_⟩
      rw [hkeys, OrderedMap.keySet_insert,
        Finset.insert_eq_of_mem (OrderedMap.mem_keySet.mpr hentry)]

theorem bootstrapPeer_spec (s : InMemoryP2pNetwork) (peerId : NodeId) (topics : List P2pTopic) :
    ∃ subscriptions,
      s.bootstrapPeer peerId topics = ({ s.register peerId with subscriptions }, .ok .done) ∧
        OrderedMap.keySet subscriptions = OrderedMap.keySet (s.register peerId).subscriptions := by
  apply subscribeAll_spec
  · rw [register, OrderedMap.get_insert_self]
    simp
  · rw [register, OrderedMap.get_insert_self]
    simp

/-- A call that fails changes nothing. -/
theorem perform_error {call : NetworkCall} {e : P2pError} (h : (s.perform call).2 = .error e) :
    (s.perform call).1 = s := by
  cases call with
  | registerPeer | knownPeers | learnedRemotePeerCount | coordinationStats => cases h
  | bootstrapPeer peerId topics =>
      obtain ⟨subscriptions, hrun, _⟩ := bootstrapPeer_spec s peerId topics
      rw [perform, hrun] at h
      cases h
  | publish sender message =>
      simp only [perform, publish] at h ⊢
      split at h
      · next hunknown => rw [if_pos hunknown]
      · next hknown =>
          split at h
          · next hnobody => rw [if_neg hknown, if_pos hnobody]
          · cases h
  | subscribe | unsubscribe | removePeer | drainInbox | advertisePayload =>
      simp only [perform, subscribe, unsubscribe, removePeer, drainInbox, advertisePayload] at h ⊢
      split at h
      · next hunknown => rw [if_pos hunknown]
      · cases h
  | subscriptionsFor peerId =>
      simp only [perform, subscriptionsFor]
      split <;> rfl
  | requestPayload requester cid =>
      simp only [perform, requestPayload]
      split
      · rfl
      · split <;> rfl

/-- Every call keeps the maps in step. -/
theorem inStep_next (h : InStep s) (call : NetworkCall) : InStep (s.next call) := by
  cases call with
  | registerPeer peerId => exact inStep_register h peerId
  | bootstrapPeer peerId topics =>
      obtain ⟨subscriptions, hrun, hkeys⟩ := bootstrapPeer_spec s peerId topics
      have hregistered := inStep_register h peerId
      rw [next, perform, hrun]
      exact ⟨hkeys.trans hregistered.subscriptions, hregistered.inboxes⟩
  | subscribe peerId topic =>
      rw [next, perform, subscribe]
      split
      · exact h
      · next hpeer => exact ⟨keySet_insert_registered h.subscriptions hpeer _, h.inboxes⟩
  | unsubscribe peerId topic =>
      rw [next, perform, unsubscribe]
      split
      · exact h
      · next hpeer => exact ⟨keySet_insert_registered h.subscriptions hpeer _, h.inboxes⟩
  | removePeer peerId =>
      rw [next, perform, removePeer]
      split
      · exact h
      · refine ⟨?_, ?_⟩
        · rw [OrderedMap.keySet_erase, OrderedMap.keySet_erase, h.subscriptions]
        · rw [OrderedMap.keySet_erase, OrderedMap.keySet_erase, h.inboxes]
  | publish sender message =>
      rw [next, perform, publish]
      split
      · exact h
      · dsimp only
        split
        · exact h
        · refine ⟨h.subscriptions, ?_⟩
          -- the recipients are keys of the subscriptions, hence registered peers
          have hkeys := OrderedMap.keySet_foldl_update id
            (fun _ stored => stored.getD [] ++ [⟨sender, message.topic, message⟩])
            (s.recipients sender message.topic) s.inboxes
          refine hkeys.trans ?_
          rw [h.inboxes, Finset.union_eq_left]
          intro peerId hmem
          rw [List.map_id, List.mem_toFinset, mem_recipients] at hmem
          obtain ⟨_, topics, hget, _⟩ := hmem
          rw [← h.subscriptions, OrderedMap.mem_keySet, hget]
          simp
  | drainInbox peerId =>
      rw [next, perform, drainInbox]
      split
      · exact h
      · next hpeer => exact ⟨h.subscriptions, keySet_insert_registered h.inboxes hpeer _⟩
  | advertisePayload provider cid hash bytes =>
      rw [next, perform, advertisePayload]
      split <;> exact ⟨h.subscriptions, h.inboxes⟩
  | subscriptionsFor peerId =>
      rw [next, perform, subscriptionsFor]
      split <;> exact h
  | requestPayload requester cid =>
      rw [next, perform, requestPayload]
      split
      · exact h
      · split <;> exact h
  | knownPeers | learnedRemotePeerCount | coordinationStats => exact h

theorem inStep_run (h : InStep s) (calls : List NetworkCall) : InStep (run next s calls) :=
  run_preserves (P := InStep) (fun _ call hs => inStep_next hs call) calls h

/-! ## Delivery -/

theorem inbox_register (peerId other : NodeId) : (s.register peerId).inbox other = s.inbox other :=
  entryOr_insert_self s.inboxes peerId other []

/-- A published message reaches the other peers that listen to its topic, and nobody else. -/
theorem inbox_publish {sender : NodeId} {message : P2pMessage}
    (hok : (s.publish sender message).2.isOk) (peerId : NodeId) :
    (s.publish sender message).1.inbox peerId = s.inbox peerId ++
      if peerId ≠ sender ∧ s.Subscribed peerId message.topic then
        [⟨sender, message.topic, message⟩] else [] := by
  unfold publish at hok ⊢
  split at hok
  · cases hok
  · next hknown =>
      dsimp only at hok
      split at hok
      · cases hok
      · next hsome =>
          rw [if_neg hknown]
          dsimp only
          rw [if_neg hsome]
          have hdeliver := entryOr_deliver s.inboxes (s.nodup_recipients sender message.topic)
            ⟨sender, message.topic, message⟩ peerId
          simp only [mem_recipients] at hdeliver
          exact hdeliver

theorem publish_refused {sender : NodeId} {message : P2pMessage}
    (h : ¬ (s.publish sender message).2.isOk) : (s.publish sender message).1 = s := by
  cases hreply : (s.publish sender message).2 with
  | ok reply => exact absurd (by rw [hreply]; rfl) h
  | error e =>
      have hperform : (s.perform (.publish sender message)).2 = .error e := hreply
      exact perform_error hperform

/-- A drain returns all that a registered peer has in its inbox and leaves nothing. -/
theorem drainInbox_registered {peerId : NodeId} (h : s.peers[peerId]? ≠ none) :
    s.drainInbox peerId =
      ({ s with inboxes := s.inboxes.insert peerId [] }, .ok (.envelopes (s.inbox peerId))) := by
  rw [drainInbox, if_neg h]
  rfl

/-- A call that does not remove the peer neither loses nor doubles an envelope of its inbox. -/
theorem conserves {peerId : NodeId} {call : NetworkCall} (h : ¬ s.Removes peerId call) :
    (mailbox peerId).Conserves next s call := by
  change s.inbox peerId ++ s.addressed peerId call =
    s.returned peerId call ++ (s.next call).inbox peerId
  cases call with
  | registerPeer other =>
      change s.inbox peerId ++ [] = [] ++ (s.register other).inbox peerId
      rw [inbox_register, List.append_nil, List.nil_append]
  | bootstrapPeer other topics =>
      obtain ⟨subscriptions, hrun, _⟩ := bootstrapPeer_spec s other topics
      rw [next, perform, hrun]
      change s.inbox peerId ++ [] = [] ++ (s.register other).inbox peerId
      rw [inbox_register, List.append_nil, List.nil_append]
  | removePeer other =>
      change s.inbox peerId ++ [] = [] ++ (s.removePeer other).1.inbox peerId
      rw [List.append_nil, List.nil_append, removePeer]
      split
      · rfl
      · next hknown =>
          have hne : other ≠ peerId := by
            rintro rfl
            exact h ⟨rfl, hknown⟩
          simp only [inbox, entryOr, OrderedMap.get_erase, if_neg hne]
  | publish sender message =>
      change s.inbox peerId ++ s.addressed peerId (.publish sender message) =
        [] ++ (s.publish sender message).1.inbox peerId
      rw [addressed, List.nil_append]
      by_cases hok : (s.publish sender message).2.isOk
      · rw [inbox_publish hok]
        simp only [hok, true_and]
      · rw [publish_refused hok, if_neg (fun hall => hok hall.1), List.append_nil]
  | drainInbox other =>
      change s.inbox peerId ++ [] =
        s.returned peerId (.drainInbox other) ++ (s.drainInbox other).1.inbox peerId
      rw [returned, List.append_nil]
      by_cases hknown : s.peers[other]? = none
      · rw [drainInbox, if_pos hknown]
        rfl
      · rw [drainInbox_registered hknown]
        change _ = (if other = peerId then s.inbox other else []) ++
          entryOr (s.inboxes.insert other []) peerId []
        rw [entryOr_insert]
        by_cases hsame : other = peerId
        · rw [if_pos hsame, if_pos hsame, hsame, List.append_nil]
        · rw [if_neg hsame, if_neg hsame, List.nil_append]
          rfl
  | subscribe | unsubscribe | advertisePayload | subscriptionsFor =>
      change s.inbox peerId ++ [] = [] ++ _
      rw [List.append_nil, List.nil_append, next, perform]
      simp only [subscribe, unsubscribe, advertisePayload, subscriptionsFor]
      split <;> rfl
  | requestPayload requester cid =>
      change s.inbox peerId ++ [] = [] ++ _
      rw [List.append_nil, List.nil_append, next, perform, requestPayload]
      split
      · rfl
      · split <;> rfl
  | knownPeers | learnedRemotePeerCount | coordinationStats => exact List.append_nil _

/-- An unregistered peer has no inbox. -/
theorem inbox_unregistered (h : InStep s) {peerId : NodeId} (hpeer : s.peers[peerId]? = none) :
    s.inbox peerId = [] := by
  have hkey : peerId ∉ OrderedMap.keySet s.inboxes := by
    rw [h.inboxes, OrderedMap.mem_keySet, not_not]
    exact hpeer
  rw [OrderedMap.mem_keySet, not_not] at hkey
  rw [inbox, entryOr, hkey]
  rfl

theorem inbox_drained (h : InStep s) (peerId : NodeId) :
    (s.next (.drainInbox peerId)).inbox peerId = [] := by
  rw [next, perform]
  by_cases hpeer : s.peers[peerId]? = none
  · rw [drainInbox, if_pos hpeer]
    exact inbox_unregistered h hpeer
  · rw [drainInbox_registered hpeer]
    change entryOr (s.inboxes.insert peerId []) peerId [] = []
    rw [entryOr_insert, if_pos rfl]

theorem inbox_removed (h : InStep s) (peerId : NodeId) :
    (s.next (.removePeer peerId)).inbox peerId = [] := by
  rw [next, perform, removePeer]
  split
  · next hpeer => exact inbox_unregistered h hpeer
  · simp only [inbox, entryOr, OrderedMap.get_erase, if_true, Option.getD_none]

/-- What the network promises in a state, of every single call and of all later ones. -/
structure DeliveryLaw (s : InMemoryP2pNetwork) : Prop where
  subscriptionKeys : OrderedMap.keySet s.subscriptions = OrderedMap.keySet s.peers
  inboxKeys : OrderedMap.keySet s.inboxes = OrderedMap.keySet s.peers
  /-- A failing call changes nothing. -/
  failure : ∀ call e, (s.perform call).2 = .error e → (s.perform call).1 = s
  /-- A successful publication reaches exactly the other peers that listen to its topic. -/
  delivery : ∀ sender message, (s.publish sender message).2.isOk → ∀ peerId,
    (s.publish sender message).1.inbox peerId = s.inbox peerId ++
      if peerId ≠ sender ∧ s.Subscribed peerId message.topic then
        [⟨sender, message.topic, message⟩] else []
  /-- A drain of a registered peer returns its inbox. -/
  drain : ∀ peerId, s.peers[peerId]? ≠ none →
    (s.drainInbox peerId).2 = .ok (.envelopes (s.inbox peerId))
  /-- As long as the peer is not removed, its envelopes are neither lost nor doubled nor
  reordered. -/
  conservation : ∀ peerId calls, Meets next (fun s call => ¬ s.Removes peerId call) s calls →
    (mailbox peerId).Balanced next s calls
  /-- Once the peer drains its inbox, it got all of them. -/
  completeness : ∀ peerId calls, Meets next (fun s call => ¬ s.Removes peerId call) s calls →
    (mailbox peerId).allTaken next s (calls ++ [.drainInbox peerId]) =
      s.inbox peerId ++ (mailbox peerId).allPut next s (calls ++ [.drainInbox peerId])
  /-- A removed peer leaves no envelope behind. -/
  removal : ∀ peerId, (s.next (.removePeer peerId)).inbox peerId = []

theorem deliveryLaw_of_inStep {s : InMemoryP2pNetwork} (h : InStep s) : DeliveryLaw s where
  subscriptionKeys := h.subscriptions
  inboxKeys := h.inboxes
  failure := fun _ _ => perform_error
  delivery := fun _ _ => inbox_publish
  drain := fun peerId hpeer => by rw [drainInbox_registered hpeer]
  conservation := by
    intro peerId calls hmeets
    exact Mailbox.balanced_of_meets (hmeets.mono fun _ _ hstays => conserves hstays)
  completeness := by
    intro peerId calls hmeets
    have hsteps : Meets next ((mailbox peerId).Conserves next) s
        (calls ++ [.drainInbox peerId]) := by
      rw [meets_append]
      constructor
      · exact hmeets.mono fun _ _ hstays => conserves hstays
      · exact ⟨conserves (by rintro ⟨heq, _⟩; cases heq), trivial⟩
    refine Mailbox.allTaken_of_emptied (Mailbox.balanced_of_meets hsteps) ?_
    rw [run_append]
    exact inbox_drained (inStep_run h calls) peerId
  removal := inbox_removed h

/-- Over any interleaving of calls, messages are delivered to the subscribed peers exactly once and
in order, and the three maps stay in step. -/
theorem memory_network_delivers (calls : List NetworkCall) : DeliveryLaw (run next empty calls) :=
  deliveryLaw_of_inStep (inStep_run inStep_empty calls)

end InMemoryP2pNetwork

end PoleProtocol.Node
