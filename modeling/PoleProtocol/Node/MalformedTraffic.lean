import PoleProtocol.Framework.Run
import PoleProtocol.Node.PeerNetwork

/-!
# Malformed datagrams

Most calls of the socket network read the socket first, until nothing is left in it. A datagram
that does not parse is taken out of the socket and fails the call that reads it; what arrived after
it is left for the next call. Two runs are compared, one of them without the malformed datagrams:
they answer alike, and no answer is a parse error, exactly when no call reads the socket while a
malformed datagram waits in it.
-/

namespace PoleProtocol.Node

open Framework Ledger

/-- A datagram that waits in the socket, with what its bytes parse to. -/
structure ReceivedDatagram where
  senderAddr : SocketAddr
  wire : Except String SocketWireMessage

def ReceivedDatagram.WellFormed (datagram : ReceivedDatagram) : Prop :=
  datagram.wire.isOk = true

instance (datagram : ReceivedDatagram) : Decidable datagram.WellFormed :=
  inferInstanceAs (Decidable (_ = true))

/-- What a call meets outside the program: the time at which each message is handled, the time at
which the peers are pruned, and the failures of the socket. -/
structure CallContext where
  clock : ℕ → ℕ
  now : ℕ
  recvError : Option String
  sendError : SocketAddr → Option String

/-- The network with the socket it reads from. -/
structure BoundNetwork where
  network : SocketP2pNetwork
  socket : List ReceivedDatagram

abbrev Answer := Except P2pError NetworkReply

/-- A call answers at once, or after it has read the socket. -/
inductive CallPlan where
  | answer (network : SocketP2pNetwork) (reply : Answer)
  | pumpThen (body : SocketP2pNetwork → SocketP2pNetwork × Answer)

namespace SocketP2pNetwork

variable (context : CallContext) (s : SocketP2pNetwork)

/-! ## Sending -/

/-- The loop over the addresses ends at the first one that cannot be sent to. -/
def sendWires (addrs : List SocketAddr) : Except P2pError Unit :=
  match addrs.findSome? context.sendError with
  | some err => .error (.io err)
  | none => .ok ()

/-- Hellos, goodbyes and payloads go to all peers of the table. -/
def announceAll : Except P2pError Unit :=
  sendWires context ((OrderedMap.records s.remotePeers).map (·.addr))

/-- What a call answers when its sends went through. -/
def replyAfter (sent : Except P2pError Unit) (reply : NetworkReply) : Answer :=
  match sent with
  | .ok _ => .ok reply
  | .error err => .error err

/-! ## Calls -/

def registerPeerCall (peerId : NodeId) : CallPlan :=
  if peerId = s.localPeerId ∨ s.remotePeers[peerId]? ≠ none then .answer s (.ok .done)
  else .answer s (.error (.unknownPeer peerId))

def bootstrapPeerCall (peerId : NodeId) (topics : List P2pTopic) : CallPlan :=
  if peerId ≠ s.localPeerId then .answer s (.error (.unknownPeer peerId))
  else .pumpThen fun s =>
    ({ s with localTopics := topics.toFinset }, replyAfter (s.announceAll context) .done)

def subscribeCall (peerId : NodeId) (topic : P2pTopic) : CallPlan :=
  if peerId ≠ s.localPeerId then .answer s (.error (.unknownPeer peerId))
  else .pumpThen fun s =>
    ({ s with localTopics := insert topic s.localTopics },
      replyAfter (s.announceAll context) .done)

/-- The profile is announced only if the topic was there. -/
def unsubscribeCall (peerId : NodeId) (topic : P2pTopic) : CallPlan :=
  if peerId ≠ s.localPeerId then .answer s (.error (.unknownPeer peerId))
  else .pumpThen fun s =>
    if topic ∈ s.localTopics then
      ({ s with localTopics := s.localTopics.erase topic },
        replyAfter (s.announceAll context) (.removed true))
    else (s, .ok (.removed false))

/-- Neither kind of removal reads the socket. -/
def removePeerCall (peerId : NodeId) : CallPlan :=
  if peerId = s.localPeerId then
    let sent := s.announceAll context
    .answer (s.removePeer peerId sent.isOk) (replyAfter sent .done)
  else if s.remotePeers[peerId]? = none then .answer s (.error (.unknownPeer peerId))
  else .answer (s.removePeer peerId true) (.ok .done)

def learnedRemotePeerCountCall : CallPlan :=
  .pumpThen fun s =>
    let s := s.pruneStaleRemotePeers context.now
    (s, .ok (.learned s.learnedRemotePeers.card))

def coordinationStatsCall : CallPlan :=
  .pumpThen fun s => (s, .ok (.stats s.coordinationStats))

def knownPeersCall : CallPlan :=
  .pumpThen fun s =>
    let s := s.pruneStaleRemotePeers context.now
    (s, .ok (.peers ((s.localPeerId :: s.remotePeers.keys).insertionSort
      fun left right => (compare left right).isLE)))

def subscriptionsForCall (peerId : NodeId) : CallPlan :=
  .pumpThen fun s =>
    if peerId = s.localPeerId then (s, .ok (.topics (topicList s.localTopics)))
    else
      match s.remotePeers[peerId]? with
      | some profile => (s, .ok (.topics profile.topics))
      | none => (s, .error (.unknownPeer peerId))

def publishCall (sender : NodeId) (message : P2pMessage) : CallPlan :=
  if sender ≠ s.localPeerId then .answer s (.error (.unknownPeer sender))
  else .pumpThen fun s =>
    let recipients := (OrderedMap.records s.remotePeers).filter (message.topic ∈ ·.topics)
    if recipients = [] then (s, .error (.noSubscribers message.topic))
    else (s, replyAfter (sendWires context (recipients.map (·.addr)))
      (.recipients recipients.length))

/-- Draining the inbox of a known peer only reads the socket. -/
def drainInboxCall (peerId : NodeId) : CallPlan :=
  if peerId ≠ s.localPeerId then
    if s.remotePeers[peerId]? ≠ none then .pumpThen fun s => (s, .ok (.envelopes []))
    else .answer s (.error (.unknownPeer peerId))
  else .pumpThen fun s => ({ s with inbox := [] }, .ok (.envelopes s.inbox))

/-- The payload is offered even if it could not be sent to everybody. -/
def advertisePayloadCall (provider : NodeId) (payloadCid : String) (payloadHash : Hash32)
    (payloadBytes : Bytes) : CallPlan :=
  if provider ≠ s.localPeerId then .answer s (.error (.unknownPeer provider))
  else .answer (s.advertisePayload payloadCid payloadHash payloadBytes)
    (replyAfter (s.announceAll context) .done)

def requestPayloadCall (requester : NodeId) (payloadCid : String) : CallPlan :=
  if requester ≠ s.localPeerId ∧ s.remotePeers[requester]? = none then
    .answer s (.error (.unknownPeer requester))
  else .pumpThen fun s =>
    match s.payloads[payloadCid]? with
    | some record => (s, .ok (.payload record.response))
    | none => (s, .error (.missingPayload payloadCid))

def plan : NetworkCall → CallPlan
  | .learnedRemotePeerCount => learnedRemotePeerCountCall context
  | .coordinationStats => coordinationStatsCall
  | .registerPeer peerId => s.registerPeerCall peerId
  | .bootstrapPeer peerId topics => s.bootstrapPeerCall context peerId topics
  | .subscribe peerId topic => s.subscribeCall context peerId topic
  | .unsubscribe peerId topic => s.unsubscribeCall context peerId topic
  | .removePeer peerId => s.removePeerCall context peerId
  | .knownPeers => knownPeersCall context
  | .subscriptionsFor peerId => subscriptionsForCall peerId
  | .publish sender message => s.publishCall context sender message
  | .drainInbox peerId => s.drainInboxCall peerId
  | .advertisePayload provider cid hash bytes =>
      s.advertisePayloadCall context provider cid hash bytes
  | .requestPayload requester cid => s.requestPayloadCall requester cid

end SocketP2pNetwork

namespace BoundNetwork

/-! ## The receive loop -/

/-- Read the socket until it is empty or a datagram does not parse. The number counts the messages
that were handled. -/
def pump (context : CallContext) :
    ℕ → SocketP2pNetwork → List ReceivedDatagram → BoundNetwork × Option P2pError
  | _, s, [] => (⟨s, []⟩, context.recvError.map .io)
  | handled, s, ⟨senderAddr, wire⟩ :: socket =>
      match wire with
      | .error err => (⟨s, socket⟩, some (.json err))
      | .ok wire =>
          pump context (handled + 1) (s.pumpIncoming ⟨senderAddr, context.clock handled, wire⟩)
            socket

def perform (context : CallContext) (b : BoundNetwork) (call : NetworkCall) :
    BoundNetwork × Answer :=
  match b.network.plan context call with
  | .answer s reply => (⟨s, b.socket⟩, reply)
  | .pumpThen body =>
      match pump context 0 b.network b.socket with
      | (pumped, some err) => (pumped, .error err)
      | (pumped, none) => (⟨(body pumped.network).1, pumped.socket⟩, (body pumped.network).2)

/-- Datagrams arrive, and calls are made. -/
inductive SocketEvent where
  | arrive (datagram : ReceivedDatagram)
  | call (context : CallContext) (call : NetworkCall)

def next (b : BoundNetwork) : SocketEvent → BoundNetwork
  | .arrive datagram => { b with socket := b.socket ++ [datagram] }
  | .call context call => (b.perform context call).1

/-- What the caller is answered, if the event is a call. -/
def answer (b : BoundNetwork) : SocketEvent → Option Answer
  | .arrive _ => none
  | .call context call => some (b.perform context call).2

def answers (b : BoundNetwork) (events : List SocketEvent) : List Answer :=
  (trail next answer b events).reduceOption

def SocketEvent.WellFormed : SocketEvent → Prop
  | .arrive datagram => datagram.WellFormed
  | .call _ _ => True

instance (event : SocketEvent) : Decidable event.WellFormed :=
  match event with
  | .arrive datagram => inferInstanceAs (Decidable datagram.WellFormed)
  | .call _ _ => isTrue trivial

def withoutMalformed (events : List SocketEvent) : List SocketEvent :=
  events.filter (·.WellFormed)

/-- The calls are answered as if no malformed datagram had arrived, and none fails because of
one. -/
def Harmless (b : BoundNetwork) (events : List SocketEvent) : Prop :=
  b.answers events = b.answers (withoutMalformed events) ∧
    ∀ err, .error (.json err) ∉ b.answers events

/-- The call reads the socket. -/
def Reads (s : SocketP2pNetwork) (context : CallContext) (call : NetworkCall) : Prop :=
  match s.plan context call with
  | .answer _ _ => False
  | .pumpThen _ => True

/-- No malformed datagram waits in the socket when a call reads it. -/
def ReadsWellFormed (b : BoundNetwork) : SocketEvent → Prop
  | .arrive _ => True
  | .call context call =>
      Reads b.network context call → ∀ datagram ∈ b.socket, datagram.WellFormed

/-! ## One call -/

/-- The answer is not a parse error. -/
def NotJson (reply : Answer) : Prop := ∀ err, reply ≠ .error (.json err)

theorem notJson_ok (reply : NetworkReply) : NotJson (.ok reply) := by
  intro err h
  cases h

theorem notJson_unknownPeer (peerId : NodeId) : NotJson (.error (.unknownPeer peerId)) := by
  intro err h
  cases h

theorem notJson_replyAfter (context : CallContext) (addrs : List SocketAddr)
    (reply : NetworkReply) :
    NotJson (SocketP2pNetwork.replyAfter (SocketP2pNetwork.sendWires context addrs) reply) := by
  unfold SocketP2pNetwork.sendWires
  intro err h
  split at h <;> cases h

/-- No plan answers with a parse error by itself. -/
def PlanNotJson : CallPlan → Prop
  | .answer _ reply => NotJson reply
  | .pumpThen body => ∀ s, NotJson (body s).2

open SocketP2pNetwork in
theorem plan_notJson (context : CallContext) (s : SocketP2pNetwork) (call : NetworkCall) :
    PlanNotJson (s.plan context call) := by
  cases call with
  | learnedRemotePeerCount | coordinationStats | knownPeers => exact fun _ => notJson_ok _
  | registerPeer peerId =>
      rw [plan, registerPeerCall]
      split
      · exact notJson_ok _
      · exact notJson_unknownPeer _
  | bootstrapPeer peerId topics =>
      rw [plan, bootstrapPeerCall]
      split
      · exact notJson_unknownPeer _
      · exact fun _ => notJson_replyAfter context _ _
  | subscribe peerId topic =>
      rw [plan, subscribeCall]
      split
      · exact notJson_unknownPeer _
      · exact fun _ => notJson_replyAfter context _ _
  | unsubscribe peerId topic =>
      rw [plan, unsubscribeCall]
      split
      · exact notJson_unknownPeer _
      · intro s
        dsimp only
        split
        · exact notJson_replyAfter context _ _
        · exact notJson_ok _
  | removePeer peerId =>
      rw [plan, removePeerCall]
      split
      · exact notJson_replyAfter context _ _
      · split
        · exact notJson_unknownPeer _
        · exact notJson_ok _
  | subscriptionsFor peerId =>
      intro s
      dsimp only
      split
      · exact notJson_ok _
      · split
        · exact notJson_ok _
        · exact notJson_unknownPeer _
  | publish sender message =>
      rw [plan, publishCall]
      split
      · exact notJson_unknownPeer _
      · intro s
        dsimp only
        split
        · intro err h
          cases h
        · exact notJson_replyAfter context _ _
  | drainInbox peerId =>
      rw [plan, drainInboxCall]
      split
      · split
        · exact fun _ => notJson_ok _
        · exact notJson_unknownPeer _
      · exact fun _ => notJson_ok _
  | advertisePayload provider cid hash bytes =>
      rw [plan, advertisePayloadCall]
      split
      · exact notJson_unknownPeer _
      · exact notJson_replyAfter context _ _
  | requestPayload requester cid =>
      rw [plan, requestPayloadCall]
      split
      · exact notJson_unknownPeer _
      · intro s
        dsimp only
        split
        · exact notJson_ok _
        · intro err h
          cases h

/-- A socket without malformed datagrams is read to its end. -/
theorem pump_wellFormed (context : CallContext) (handled : ℕ) (s : SocketP2pNetwork)
    {socket : List ReceivedDatagram} (h : ∀ datagram ∈ socket, datagram.WellFormed) :
    ∃ s', pump context handled s socket = (⟨s', []⟩, context.recvError.map .io) := by
  induction socket generalizing handled s with
  | nil => exact ⟨s, rfl⟩
  | cons datagram socket ih =>
      obtain ⟨senderAddr, wire⟩ := datagram
      cases wire with
      | error err => exact absurd (h ⟨senderAddr, .error err⟩ (List.mem_cons_self ..)) nofun
      | ok wire =>
          exact ih (handled + 1) _ fun datagram hmem => h datagram (List.mem_cons_of_mem _ hmem)

/-- A malformed datagram anywhere in the socket fails the call that reads it. -/
theorem pump_malformed (context : CallContext) (handled : ℕ) (s : SocketP2pNetwork)
    {socket : List ReceivedDatagram} (h : ¬ ∀ datagram ∈ socket, datagram.WellFormed) :
    ∃ err, (pump context handled s socket).2 = some (.json err) := by
  induction socket generalizing handled s with
  | nil => exact absurd nofun h
  | cons datagram socket ih =>
      obtain ⟨senderAddr, wire⟩ := datagram
      cases wire with
      | error err => exact ⟨err, rfl⟩
      | ok wire =>
          refine ih (handled + 1) _ fun hall => h ?_
          intro datagram hmem
          rcases List.mem_cons.mp hmem with rfl | htail
          · rfl
          · exact hall datagram htail

/-- A call that does not read the socket is not affected by what waits in it. -/
theorem perform_unread {context : CallContext} {call : NetworkCall} {s : SocketP2pNetwork}
    (h : ¬ Reads s context call) :
    ∃ s' reply, NotJson reply ∧
      ∀ socket, perform context ⟨s, socket⟩ call = (⟨s', socket⟩, reply) := by
  have hjson := plan_notJson context s call
  unfold Reads at h
  unfold perform
  dsimp only
  cases hplan : s.plan context call with
  | answer s' reply =>
      rw [hplan] at hjson
      exact ⟨s', reply, hjson, fun _ => rfl⟩
  | pumpThen body =>
      rw [hplan] at h
      exact absurd trivial h

/-- A call that reads a socket without malformed datagrams empties it. -/
theorem perform_wellFormed {context : CallContext} {call : NetworkCall} {b : BoundNetwork}
    (hreads : Reads b.network context call) (h : ∀ datagram ∈ b.socket, datagram.WellFormed) :
    (b.perform context call).1.socket = [] ∧ NotJson (b.perform context call).2 := by
  have hjson := plan_notJson context b.network call
  obtain ⟨s', hpump⟩ := pump_wellFormed context 0 b.network h
  unfold Reads at hreads
  unfold perform
  cases hplan : b.network.plan context call with
  | answer s' reply =>
      rw [hplan] at hreads
      exact hreads.elim
  | pumpThen body =>
      rw [hplan] at hjson
      dsimp only
      rw [hpump]
      cases context.recvError with
      | none => exact ⟨rfl, hjson _⟩
      | some err =>
          refine ⟨rfl, ?_⟩
          intro text heq
          cases heq

theorem perform_malformed {context : CallContext} {call : NetworkCall} {b : BoundNetwork}
    (hreads : Reads b.network context call)
    (h : ¬ ∀ datagram ∈ b.socket, datagram.WellFormed) :
    ∃ err, (b.perform context call).2 = .error (.json err) := by
  obtain ⟨err, hpump⟩ := pump_malformed context 0 b.network h
  refine ⟨err, ?_⟩
  unfold Reads at hreads
  unfold perform
  cases hplan : b.network.plan context call with
  | answer s' reply =>
      rw [hplan] at hreads
      exact hreads.elim
  | pumpThen body =>
      dsimp only
      generalize hresult : pump context 0 b.network b.socket = result at hpump
      obtain ⟨pumped, failure⟩ := result
      dsimp only at hpump
      rw [hpump]

/-! ## Runs -/

/-- The second endpoint is the first one without the malformed datagrams. -/
def Cleaned (b : BoundNetwork) : BoundNetwork :=
  { b with socket := b.socket.filter (·.WellFormed) }

theorem answers_arrive (b : BoundNetwork) (datagram : ReceivedDatagram)
    (events : List SocketEvent) :
    b.answers (.arrive datagram :: events) =
      (b.next (.arrive datagram)).answers events := rfl

theorem answers_call (b : BoundNetwork) (context : CallContext) (call : NetworkCall)
    (events : List SocketEvent) :
    b.answers (.call context call :: events) =
      (b.perform context call).2 :: (b.next (.call context call)).answers events := rfl

/-- Deleting the malformed datagrams changes no answer when none of them is read. -/
theorem answers_cleaned {b : BoundNetwork} {events : List SocketEvent}
    (hmeets : Meets next ReadsWellFormed b events) :
    (Cleaned b).answers (withoutMalformed events) = b.answers events ∧
      ∀ reply ∈ b.answers events, NotJson reply := by
  induction events generalizing b with
  | nil => exact ⟨rfl, nofun⟩
  | cons event events ih =>
      obtain ⟨hfirst, hrest⟩ := hmeets
      obtain ⟨hsame, hjson⟩ := ih hrest
      cases event with
      | arrive datagram =>
          refine ⟨?_, hjson⟩
          rw [answers_arrive, ← hsame]
          by_cases hwf : datagram.WellFormed
          · have hkept : withoutMalformed (.arrive datagram :: events) =
                .arrive datagram :: withoutMalformed events :=
              List.filter_cons_of_pos (decide_eq_true_eq.mpr hwf)
            rw [hkept, answers_arrive]
            simp [next, Cleaned, hwf]
          · have hgone : withoutMalformed (.arrive datagram :: events) = withoutMalformed events :=
              List.filter_cons_of_neg fun h => hwf (decide_eq_true_eq.mp h)
            rw [hgone]
            simp [next, Cleaned, hwf]
      | call context call =>
          have hkept : withoutMalformed (.call context call :: events) =
              .call context call :: withoutMalformed events :=
            List.filter_cons_of_pos (decide_eq_true_eq.mpr trivial)
          rw [hkept, answers_call, answers_call, ← hsame]
          by_cases hreads : Reads b.network context call
          · have hwf := hfirst hreads
            have hclean : Cleaned b = b := by
              have hall : b.socket.filter (·.WellFormed) = b.socket :=
                List.filter_eq_self.mpr (by simpa using hwf)
              rw [Cleaned, hall]
            obtain ⟨hempty, hreply⟩ := perform_wellFormed hreads hwf
            have hnext : Cleaned (b.next (.call context call)) = b.next (.call context call) := by
              rw [Cleaned, next, hempty, List.filter_nil, ← hempty]
            rw [hclean, hnext]
            refine ⟨rfl, ?_⟩
            intro reply hmem
            rcases List.mem_cons.mp hmem with rfl | htail
            · exact hreply
            · rw [← hnext, hsame] at htail
              exact hjson reply htail
          · obtain ⟨s', reply, hreply, hperform⟩ := perform_unread hreads
            have hstays : b.perform context call = (⟨s', b.socket⟩, reply) := hperform b.socket
            have hcleaned : (Cleaned b).perform context call =
                (⟨s', (Cleaned b).socket⟩, reply) := hperform (Cleaned b).socket
            have hnext : (Cleaned b).next (.call context call) =
                Cleaned (b.next (.call context call)) := by
              rw [next, next, hcleaned, hstays]
              rfl
            rw [hnext, hcleaned, hstays]
            refine ⟨rfl, ?_⟩
            intro answer hmem
            rcases List.mem_cons.mp hmem with rfl | htail
            · exact hreply
            · rw [hsame] at htail
              exact hjson answer htail

/-- A run without parse errors reads no malformed datagram. -/
theorem meets_of_notJson {b : BoundNetwork} {events : List SocketEvent}
    (hjson : ∀ reply ∈ b.answers events, NotJson reply) :
    Meets next ReadsWellFormed b events := by
  induction events generalizing b with
  | nil => trivial
  | cons event events ih =>
      cases event with
      | arrive datagram => exact ⟨trivial, ih hjson⟩
      | call context call =>
          rw [answers_call] at hjson
          refine ⟨?_, ih fun reply hmem => hjson reply (List.mem_cons_of_mem _ hmem)⟩
          intro hreads
          by_contra hmalformed
          obtain ⟨err, herr⟩ := perform_malformed hreads hmalformed
          exact hjson _ (List.mem_cons_self ..) err herr

/-- Malformed datagrams are harmless exactly when no call reads the socket while one of them waits
in it. -/
theorem harmless_iff_reads_wellFormed (s : SocketP2pNetwork) (events : List SocketEvent) :
    Harmless ⟨s, []⟩ events ↔ Meets next ReadsWellFormed ⟨s, []⟩ events := by
  constructor
  · rintro ⟨_, hjson⟩
    exact meets_of_notJson fun reply hmem err heq => hjson err (heq ▸ hmem)
  · intro hmeets
    obtain ⟨hsame, hjson⟩ := answers_cleaned hmeets
    exact ⟨hsame.symm, fun err hmem => hjson _ hmem err rfl⟩

/-! ## One stray datagram -/

namespace Sample

def context : CallContext := ⟨fun _ => 0, 0, none, fun _ => none⟩
def remoteAddr : SocketAddr := .v4 0x7f000001 9001
def batch : P2pMessage := .batch ⟨1, 2, "", "cid://payload", 0, 0, 0, 1⟩

/-- A stray datagram arrives ahead of a batch announcement to a node that listens to batches. -/
def strayDatagram : List SocketEvent :=
  [.call context (.subscribe 1 .batches),
    .arrive ⟨remoteAddr, .error "expected value at line 1 column 1"⟩,
    .arrive ⟨remoteAddr, .ok (.publish 2 .batches batch)⟩,
    .call context (.drainInbox 1)]

end Sample

open Sample in
/-- The drain fails because of the stray datagram, and the announcement is not returned. -/
theorem stray_datagram_harms :
    let b : BoundNetwork := ⟨SocketP2pNetwork.bind 1 [], []⟩
    b.answers strayDatagram =
        [.ok .done, .error (.json "expected value at line 1 column 1")] ∧
      b.answers (withoutMalformed strayDatagram) =
        [.ok .done, .ok (.envelopes [⟨2, .batches, batch⟩])] ∧
      ¬ Harmless b strayDatagram := by
  intro b
  have hstray : b.answers strayDatagram =
      [.ok .done, .error (.json "expected value at line 1 column 1")] := by rfl
  refine ⟨hstray, by rfl, ?_⟩
  rintro ⟨_, hjson⟩
  apply hjson "expected value at line 1 column 1"
  rw [hstray]
  exact List.mem_cons_of_mem _ (List.mem_singleton.mpr rfl)

end BoundNetwork

end PoleProtocol.Node
