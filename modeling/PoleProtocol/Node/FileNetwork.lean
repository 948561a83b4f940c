import PoleProtocol.Framework.Mailbox
import PoleProtocol.Framework.OrderedQueue
import PoleProtocol.Node.NetworkApi

/-!
# The filesystem network

Peers of several processes share a directory tree. A publication counts the files of an inbox and
then writes a file named after the count; a drain lists the files and then reads and removes them
one by one. The steps of all processes interleave. An envelope is held while its file is there or
while the drain that removed the file is running. Nothing is lost, doubled or overtaken exactly
when every write goes behind all stored files and no drain that has removed a file stops early.
-/

namespace PoleProtocol.Node

open Framework Ledger

/-- An envelope in a file, with the number of writes before its own. -/
structure Publication where
  number : ℕ
  envelope : P2pEnvelope
  deriving DecidableEq

/-- A running publication: the recipients that are left, and the number of files that were counted
in the inbox of the first of them. -/
structure Publishing where
  envelope : P2pEnvelope
  recipients : List NodeId
  existing : Option ℕ
  deriving DecidableEq

/-- A running drain: the listed files that are left, and what was read. -/
structure InboxDrain where
  entries : List String
  out : List Publication
  deriving DecidableEq

structure FilesystemP2pNetwork where
  topics : OrderedMap NodeId (List P2pTopic)
  inboxes : OrderedMap NodeId (OrderedMap String Publication)
  publishing : OrderedMap ℕ Publishing
  drains : OrderedMap NodeId InboxDrain
  written : ℕ

/-- What happens to the next file of a drain. -/
inductive DrainOutcome where
  | removed
  | unreadable
  | unparsable
  | unremovable
  deriving DecidableEq

inductive FileEvent where
  | registerPeer (peerId : NodeId)
  | subscribe (peerId : NodeId) (topic : P2pTopic)
  | unsubscribe (peerId : NodeId) (topic : P2pTopic)
  | publish (process : ℕ) (sender : NodeId) (message : P2pMessage)
  | countFiles (process : ℕ)
  | writeFile (process : ℕ)
  | abortPublish (process : ℕ)
  | listInbox (peerId : NodeId)
  | drainFile (peerId : NodeId) (outcome : DrainOutcome)
  deriving DecidableEq

namespace FilesystemP2pNetwork

def empty : FilesystemP2pNetwork := ⟨∅, ∅, ∅, ∅, 0⟩

/-- `{sequence:016}.json` -/
def inboxEnvelopeName (sequence : ℕ) : String :=
  let digits := Nat.toDigits 10 sequence
  String.ofList (List.replicate (16 - digits.length) '0' ++ digits) ++ ".json"

variable (s : FilesystemP2pNetwork)

def inbox (peerId : NodeId) : OrderedMap String Publication := s.inboxes[peerId]?.getD ∅

def ensurePeerDir (peerId : NodeId) : FilesystemP2pNetwork :=
  { s with
    topics := s.topics.insert peerId (s.topics[peerId]?.getD [])
    inboxes := s.inboxes.insert peerId (s.inbox peerId) }

/-- A new topic is sorted in. -/
def addTopic (topics : List P2pTopic) (topic : P2pTopic) : List P2pTopic :=
  if topic ∈ topics then topics else topicList (insert topic topics.toFinset)

def subscribe (peerId : NodeId) (topic : P2pTopic) : FilesystemP2pNetwork :=
  match s.topics[peerId]? with
  | none => s
  | some topics => { s with topics := s.topics.insert peerId (addTopic topics topic) }

def unsubscribe (peerId : NodeId) (topic : P2pTopic) : FilesystemP2pNetwork :=
  match s.topics[peerId]? with
  | none => s
  | some topics => { s with topics := s.topics.insert peerId (topics.filter (· ≠ topic)) }

/-- The peers a message goes to, in the order of their ids. -/
def recipients (sender : NodeId) (topic : P2pTopic) : List NodeId :=
  (s.topics.toList.filter fun entry => entry.1 ≠ sender ∧ topic ∈ entry.2).map (·.1)

/-- Without a registered sender or without recipients the call ends at once. -/
def publish (process : ℕ) (sender : NodeId) (message : P2pMessage) : FilesystemP2pNetwork :=
  let recipients := s.recipients sender message.topic
  if s.publishing[process]? ≠ none ∨ s.topics[sender]? = none ∨ recipients = [] then s
  else
    { s with
      publishing := s.publishing.insert process
        ⟨⟨sender, message.topic, message⟩, recipients, none⟩ }

def countFiles (process : ℕ) : FilesystemP2pNetwork :=
  match s.publishing[process]? with
  | some ⟨envelope, recipient :: rest, none⟩ =>
      { s with
        publishing := s.publishing.insert process
          ⟨envelope, recipient :: rest, some (s.inbox recipient).size⟩ }
  | _ => s

/-- The call moves on to its next recipient, or returns. -/
def publishOn (process : ℕ) (envelope : P2pEnvelope) (rest : List NodeId) :
    OrderedMap ℕ Publishing :=
  if rest = [] then s.publishing.erase process
  else s.publishing.insert process ⟨envelope, rest, none⟩

/-- A file of the same name is overwritten. -/
def writeFile (process : ℕ) : FilesystemP2pNetwork :=
  match s.publishing[process]? with
  | some ⟨envelope, recipient :: rest, some existing⟩ =>
      { s with
        inboxes := s.inboxes.insert recipient
          ((s.inbox recipient).insert (inboxEnvelopeName existing) ⟨s.written, envelope⟩)
        publishing := s.publishOn process envelope rest
        written := s.written + 1 }
  | _ => s

def listInbox (peerId : NodeId) : FilesystemP2pNetwork :=
  if s.topics[peerId]? = none ∨ s.drains[peerId]? ≠ none then s
  else { s with drains := s.drains.insert peerId ⟨(s.inbox peerId).keys, []⟩ }

/-- A drain returns when no file is left, and fails with all it has read at the first file that
cannot be read, parsed and removed. -/
def drainFile (peerId : NodeId) (outcome : DrainOutcome) : FilesystemP2pNetwork :=
  match s.drains[peerId]? with
  | none => s
  | some ⟨[], _⟩ => { s with drains := s.drains.erase peerId }
  | some ⟨name :: entries, out⟩ =>
      match (s.inbox peerId)[name]? with
      | none => { s with drains := s.drains.erase peerId }
      | some publication =>
          if outcome = .removed then
            { s with
              inboxes := s.inboxes.insert peerId ((s.inbox peerId).erase name)
              drains := s.drains.insert peerId ⟨entries, out ++ [publication]⟩ }
          else { s with drains := s.drains.erase peerId }

def next : FileEvent → FilesystemP2pNetwork
  | .registerPeer peerId => s.ensurePeerDir peerId
  | .subscribe peerId topic => s.subscribe peerId topic
  | .unsubscribe peerId topic => s.unsubscribe peerId topic
  | .publish process sender message => s.publish process sender message
  | .countFiles process => s.countFiles process
  | .writeFile process => s.writeFile process
  | .abortPublish process => { s with publishing := s.publishing.erase process }
  | .listInbox peerId => s.listInbox peerId
  | .drainFile peerId outcome => s.drainFile peerId outcome

/-! ## The inbox of one peer -/

/-- What the running drain of the peer has removed. -/
def draining (peerId : NodeId) : List Publication := (s.drains[peerId]?.map (·.out)).getD []

/-- What a write publishes to the peer. -/
def published (peerId : NodeId) : FileEvent → List Publication
  | .writeFile process =>
      match s.publishing[process]? with
      | some ⟨envelope, recipient :: _, some _⟩ =>
          if recipient = peerId then [⟨s.written, envelope⟩] else []
      | _ => []
  | _ => []

/-- What a drain of the peer returns. -/
def returned (peerId : NodeId) : FileEvent → List Publication
  | .drainFile drained _ =>
      match s.drains[drained]? with
      | some ⟨[], out⟩ => if drained = peerId then out else []
      | _ => []
  | _ => []

def mailbox (peerId : NodeId) : Mailbox FilesystemP2pNetwork FileEvent Publication where
  held := fun s => s.draining peerId ++ (s.inbox peerId).records
  put := fun s event => s.published peerId event
  taken := fun s event => s.returned peerId event

/-- Up to here every publication to the peer was returned by one drain or is still held, once, and
drains return in the order of publication. -/
def NothingLost (peerId : NodeId) (events : List FileEvent) : Prop :=
  (mailbox peerId).Balanced next empty events ∧
    ((mailbox peerId).allTaken next empty events ++
      (mailbox peerId).held (run next empty events)).Nodup

/-- A write goes behind all stored files, and a drain that has removed a file can read, parse and
remove the next one. -/
def Keeps : FileEvent → Prop
  | .writeFile process =>
      match s.publishing[process]? with
      | some ⟨_, recipient :: _, some existing⟩ =>
          OrderedMap.Last (s.inbox recipient) (inboxEnvelopeName existing)
      | _ => True
  | .drainFile peerId outcome =>
      match s.drains[peerId]? with
      | some ⟨name :: _, out⟩ =>
          out = [] ∨ outcome = .removed ∧ (s.inbox peerId)[name]? ≠ none
      | _ => True
  | _ => True

/-! ## Steps that touch no inbox -/

variable {s}

/-- No file and no drain changes. -/
structure Quiet (s s' : FilesystemP2pNetwork) : Prop where
  inbox : ∀ peerId, s'.inbox peerId = s.inbox peerId
  drains : s'.drains = s.drains
  written : s'.written = s.written

theorem Quiet.refl (s : FilesystemP2pNetwork) : Quiet s s := ⟨fun _ => rfl, rfl, rfl⟩

/-- What a peer reads out of a written map of inboxes. -/
theorem getD_insert (inboxes : OrderedMap NodeId (OrderedMap String Publication))
    (recipient peerId : NodeId) (files : OrderedMap String Publication) :
    (inboxes.insert recipient files)[peerId]?.getD ∅ =
      if recipient = peerId then files else inboxes[peerId]?.getD ∅ := by
  rw [OrderedMap.get_insert]
  split <;> rfl

theorem quiet_ensurePeerDir (s : FilesystemP2pNetwork) (peerId : NodeId) :
    Quiet s (s.ensurePeerDir peerId) := by
  refine ⟨?_, rfl, rfl⟩
  intro other
  change (s.inboxes.insert peerId (s.inbox peerId))[other]?.getD ∅ = s.inbox other
  rw [getD_insert]
  split
  · next h => rw [h]
  · rfl

theorem quiet_publish (s : FilesystemP2pNetwork) (process : ℕ) (sender : NodeId)
    (message : P2pMessage) : Quiet s (s.publish process sender message) := by
  unfold publish
  dsimp only
  split
  · exact .refl s
  · exact ⟨fun _ => rfl, rfl, rfl⟩

theorem quiet_countFiles (s : FilesystemP2pNetwork) (process : ℕ) :
    Quiet s (s.countFiles process) := by
  unfold countFiles
  split
  · exact ⟨fun _ => rfl, rfl, rfl⟩
  · exact .refl s

theorem quiet_subscribe (s : FilesystemP2pNetwork) (peerId : NodeId) (topic : P2pTopic) :
    Quiet s (s.subscribe peerId topic) ∧ Quiet s (s.unsubscribe peerId topic) := by
  unfold subscribe unsubscribe
  cases s.topics[peerId]? with
  | none => exact ⟨.refl s, .refl s⟩
  | some topics => exact ⟨⟨fun _ => rfl, rfl, rfl⟩, ⟨fun _ => rfl, rfl, rfl⟩⟩

/-- A call that is on its way and counted the files of its next recipient. -/
def Counted (s : FilesystemP2pNetwork) (process : ℕ) (envelope : P2pEnvelope)
    (recipient : NodeId) (rest : List NodeId) (existing : ℕ) : Prop :=
  s.publishing[process]? = some ⟨envelope, recipient :: rest, some existing⟩

/-- A step writes a file, lists an inbox, goes on with a drain, or is quiet, puts and takes
nothing, and is not restricted. -/
inductive StepKind (s : FilesystemP2pNetwork) : FileEvent → Prop where
  | write {process : ℕ} {envelope : P2pEnvelope} {recipient : NodeId} {rest : List NodeId}
      {existing : ℕ} (h : s.Counted process envelope recipient rest existing) :
      StepKind s (.writeFile process)
  | list {peerId : NodeId} (h : s.drains[peerId]? = none) : StepKind s (.listInbox peerId)
  | drain {peerId : NodeId} {drain : InboxDrain} (h : s.drains[peerId]? = some drain)
      (outcome : DrainOutcome) : StepKind s (.drainFile peerId outcome)
  | quiet {event : FileEvent} (hquiet : Quiet s (s.next event))
      (hput : ∀ peerId, s.published peerId event = [])
      (htaken : ∀ peerId, s.returned peerId event = []) (hkeeps : s.Keeps event) : StepKind s event

theorem stepKind (s : FilesystemP2pNetwork) (event : FileEvent) : StepKind s event := by
  have hnone (peerId : NodeId) : ([] : List Publication) = [] := rfl
  cases event with
  | registerPeer peerId => exact .quiet (quiet_ensurePeerDir s peerId) hnone hnone trivial
  | subscribe peerId topic => exact .quiet (quiet_subscribe s peerId topic).1 hnone hnone trivial
  | unsubscribe peerId topic => exact .quiet (quiet_subscribe s peerId topic).2 hnone hnone trivial
  | publish process sender message =>
      exact .quiet (quiet_publish s process sender message) hnone hnone trivial
  | countFiles process => exact .quiet (quiet_countFiles s process) hnone hnone trivial
  | abortPublish process => exact .quiet ⟨fun _ => rfl, rfl, rfl⟩ hnone hnone trivial
  | writeFile process =>
      by_cases h : ∃ envelope recipient rest existing,
          s.Counted process envelope recipient rest existing
      · obtain ⟨envelope, recipient, rest, existing, h⟩ := h
        exact .write h
      · have hidle : ∀ envelope recipient rest existing,
            s.publishing[process]? = some ⟨envelope, recipient :: rest, some existing⟩ → False :=
          fun envelope recipient rest existing heq => h ⟨envelope, recipient, rest, existing, heq⟩
        refine .quiet ?_ ?_ hnone ?_
        -- `hidle` rules the first branch out
        · simp only [next, writeFile]
          exact .refl s
        · intro peerId
          simp only [published]
        · simp only [Keeps]
  | listInbox peerId =>
      cases h : s.drains[peerId]? with
      | none => exact .list h
      | some drain =>
          refine .quiet ?_ hnone hnone trivial
          rw [next, listInbox, if_pos (.inr (by rw [h]; simp))]
          exact .refl s
  | drainFile peerId outcome =>
      cases h : s.drains[peerId]? with
      | some drain => exact .drain h outcome
      | none =>
          refine .quiet ?_ hnone ?_ ?_
          · simp only [next, drainFile, h]
            exact .refl s
          · intro other
            simp only [returned, h]
          · simp only [Keeps, h]

theorem conserves_iff {peerId : NodeId} {event : FileEvent} :
    (mailbox peerId).Conserves next s event ↔
      s.draining peerId ++ (s.inbox peerId).records ++ s.published peerId event =
        s.returned peerId event ++
          ((s.next event).draining peerId ++ ((s.next event).inbox peerId).records) := Iff.rfl

theorem quiet_conserves {event : FileEvent} (hquiet : Quiet s (s.next event)) {peerId : NodeId}
    (hput : s.published peerId event = []) (htaken : s.returned peerId event = []) :
    (mailbox peerId).Conserves next s event := by
  rw [conserves_iff, hput, htaken, hquiet.inbox, draining, draining, hquiet.drains,
    List.append_nil, List.nil_append]

/-! ## The files stay in order -/

/-- Drains have listed a beginning of their inbox, and the stored publications are numbered. -/
structure Ordered (s : FilesystemP2pNetwork) : Prop where
  listed : ∀ peerId drain, s.drains[peerId]? = some drain →
    drain.entries <+: (s.inbox peerId).keys
  numbered : ∀ peerId, ∀ publication ∈ (s.inbox peerId).records, publication.number < s.written

theorem ordered_empty : Ordered empty := by
  refine ⟨?_, ?_⟩
  · intro peerId drain h
    simp [empty] at h
  · intro peerId publication h
    simp [empty, inbox, OrderedMap.records] at h

theorem ordered_of_quiet {s' : FilesystemP2pNetwork} (hquiet : Quiet s s') (h : Ordered s) :
    Ordered s' := by
  refine ⟨?_, ?_⟩
  · intro peerId drain hdrain
    rw [hquiet.drains] at hdrain
    rw [hquiet.inbox]
    exact h.listed peerId drain hdrain
  · intro peerId publication hmem
    rw [hquiet.inbox] at hmem
    rw [hquiet.written]
    exact h.numbered peerId publication hmem

section Write

variable {process : ℕ} {envelope : P2pEnvelope} {recipient : NodeId} {rest : List NodeId}
  {existing : ℕ}

theorem next_write (h : s.Counted process envelope recipient rest existing) :
    s.next (.writeFile process) =
      { s with
        inboxes := s.inboxes.insert recipient
          ((s.inbox recipient).insert (inboxEnvelopeName existing) ⟨s.written, envelope⟩)
        publishing := s.publishOn process envelope rest
        written := s.written + 1 } := by
  unfold Counted at h
  simp only [next, writeFile, h]

theorem inbox_write (h : s.Counted process envelope recipient rest existing) (peerId : NodeId) :
    (s.next (.writeFile process)).inbox peerId =
      if recipient = peerId then
        (s.inbox recipient).insert (inboxEnvelopeName existing) ⟨s.written, envelope⟩
      else s.inbox peerId := by
  rw [next_write h]
  exact getD_insert _ _ _ _

/-- The publication of a write is not stored yet. -/
theorem written_not_mem (hordered : Ordered s) (envelope : P2pEnvelope) (peerId : NodeId) :
    (⟨s.written, envelope⟩ : Publication) ∉ (s.inbox peerId).records := by
  intro hmem
  exact Nat.lt_irrefl _ (hordered.numbered peerId _ hmem)

/-- A write conserves every inbox exactly when it goes behind all stored files. -/
theorem write_conserves_iff (hordered : Ordered s)
    (h : s.Counted process envelope recipient rest existing) :
    (∀ peerId, (mailbox peerId).Conserves next s (.writeFile process)) ↔
      OrderedMap.Last (s.inbox recipient) (inboxEnvelopeName existing) := by
  have hdrains : (s.next (.writeFile process)).drains = s.drains := by rw [next_write h]
  have hput (peerId : NodeId) : s.published peerId (.writeFile process) =
      if recipient = peerId then [⟨s.written, envelope⟩] else [] := by
    unfold Counted at h
    simp only [published, h]
  have hconserves (peerId : NodeId) :
      (mailbox peerId).Conserves next s (.writeFile process) ↔
        (s.inbox peerId).records ++ s.published peerId (.writeFile process) =
          ((s.next (.writeFile process)).inbox peerId).records := by
    have hstays : (s.next (.writeFile process)).draining peerId = s.draining peerId := by
      rw [draining, draining, hdrains]
    have htaken : s.returned peerId (.writeFile process) = [] := rfl
    rw [conserves_iff, hstays, htaken, List.nil_append, List.append_assoc,
      List.append_cancel_left_eq]
  rw [← OrderedMap.records_insert_eq_concat_iff (written_not_mem hordered envelope recipient)]
  constructor
  · intro hall
    have hrecipient := (hconserves recipient).mp (hall recipient)
    rw [hput, if_pos rfl, inbox_write h, if_pos rfl] at hrecipient
    exact hrecipient.symm
  · intro hlast peerId
    rw [hconserves, hput, inbox_write h]
    by_cases hsame : recipient = peerId
    · rw [if_pos hsame, if_pos hsame, ← hsame]
      exact hlast.symm
    · rw [if_neg hsame, if_neg hsame, List.append_nil]

theorem ordered_write (hordered : Ordered s)
    (h : s.Counted process envelope recipient rest existing)
    (hlast : OrderedMap.Last (s.inbox recipient) (inboxEnvelopeName existing)) :
    Ordered (s.next (.writeFile process)) := by
  refine ⟨?_, ?_⟩
  · intro peerId drain hdrain
    have hlisted := hordered.listed peerId drain (by rwa [next_write h] at hdrain)
    rw [inbox_write h]
    split
    · next hsame =>
        rw [OrderedMap.keys_insert_last hlast, hsame]
        exact hlisted.trans (List.prefix_append _ _)
    · exact hlisted
  · intro peerId publication hmem
    have hwritten : (s.next (.writeFile process)).written = s.written + 1 := by rw [next_write h]
    rw [hwritten]
    rw [inbox_write h] at hmem
    split at hmem
    · rw [OrderedMap.records, OrderedMap.toList_insert_last hlast, List.map_append] at hmem
      rcases List.mem_append.mp hmem with hold | hnew
      · exact Nat.lt_succ_of_lt (hordered.numbered recipient publication hold)
      · rw [List.mem_singleton.mp hnew]
        exact Nat.lt_succ_self _
    · exact Nat.lt_succ_of_lt (hordered.numbered peerId publication hmem)

end Write

section List

variable {peerId : NodeId}

theorem ordered_list (hordered : Ordered s) (peerId : NodeId) :
    Ordered (s.next (.listInbox peerId)) := by
  rw [next, listInbox]
  split
  · exact hordered
  · refine ⟨?_, hordered.numbered⟩
    intro other drain hdrain
    rcases OrderedMap.get_insert_cases hdrain with ⟨rfl, rfl⟩ | ⟨_, hold⟩
    · exact List.prefix_rfl
    · exact hordered.listed other drain hold

/-- A drain that has only listed the inbox holds nothing yet. -/
theorem list_conserves (h : s.drains[peerId]? = none) (other : NodeId) :
    (mailbox other).Conserves next s (.listInbox peerId) := by
  have hinbox : (s.next (.listInbox peerId)).inbox other = s.inbox other := by
    rw [next, listInbox]
    split <;> rfl
  have hdraining : (s.next (.listInbox peerId)).draining other = s.draining other := by
    rw [next, listInbox]
    split
    · rfl
    · unfold draining
      rw [OrderedMap.get_insert]
      split
      · next hsame =>
          rw [← hsame, h]
          rfl
      · rfl
  have hput : s.published other (.listInbox peerId) = [] := rfl
  have htaken : s.returned other (.listInbox peerId) = [] := rfl
  rw [conserves_iff, hinbox, hdraining, hput, htaken, List.append_nil, List.nil_append]

end List

section Drain

variable {peerId : NodeId} {outcome : DrainOutcome}

/-- A drain ends well when it returns what it holds. -/
theorem ended_conserves_iff {drain : InboxDrain} (h : s.drains[peerId]? = some drain)
    (hnext : s.next (.drainFile peerId outcome) = { s with drains := s.drains.erase peerId })
    {taken : List Publication}
    (htaken : ∀ other, s.returned other (.drainFile peerId outcome) =
      if peerId = other then taken else []) :
    (∀ other, (mailbox other).Conserves next s (.drainFile peerId outcome)) ↔
      drain.out = taken := by
  have hput (other : NodeId) : s.published other (.drainFile peerId outcome) = [] := rfl
  have hconserves (other : NodeId) :
      (mailbox other).Conserves next s (.drainFile peerId outcome) ↔
        s.draining other = s.returned other (.drainFile peerId outcome) ++
          ((s.drains.erase peerId)[other]?.map (·.out)).getD [] := by
    rw [conserves_iff, hnext, hput, List.append_nil, ← List.append_assoc]
    exact List.append_left_inj _
  constructor
  · intro hall
    have hpeer := (hconserves peerId).mp (hall peerId)
    rw [htaken, if_pos rfl, OrderedMap.get_erase, if_pos rfl, draining, h] at hpeer
    simpa using hpeer
  · intro hout other
    rw [hconserves, htaken, OrderedMap.get_erase, draining]
    by_cases hsame : peerId = other
    · rw [if_pos hsame, if_pos hsame, ← hsame, h, ← hout]
      simp
    · rw [if_neg hsame, if_neg hsame, List.nil_append]

theorem ordered_ended (hordered : Ordered s) (peerId : NodeId) :
    Ordered { s with drains := s.drains.erase peerId } := by
  refine ⟨?_, hordered.numbered⟩
  intro other drain hdrain
  have hget : (s.drains.erase peerId)[other]? = some drain := hdrain
  rw [OrderedMap.get_erase] at hget
  split at hget
  · cases hget
  · exact hordered.listed other drain hget

/-- The next file of a drain is the first one of the inbox. -/
theorem next_file (hordered : Ordered s) {name : String} {entries : List String}
    {out : List Publication} (h : s.drains[peerId]? = some ⟨name :: entries, out⟩) :
    ∃ publication stored, (s.inbox peerId).toList = (name, publication) :: stored ∧
      entries <+: stored.map (·.1) := by
  have hlisted := hordered.listed peerId _ h
  rw [OrderedMap.keys_eq_map] at hlisted
  cases hlist : (s.inbox peerId).toList with
  | nil =>
      rw [hlist] at hlisted
      exact absurd (List.prefix_nil.mp hlisted) (List.cons_ne_nil _ _)
  | cons entry stored =>
      obtain ⟨first, publication⟩ := entry
      rw [hlist, List.map_cons, List.cons_prefix_cons] at hlisted
      obtain ⟨rfl, hrest⟩ := hlisted
      exact ⟨publication, stored, rfl, hrest⟩

section Removed

variable {name : String} {entries : List String} {out : List Publication}
  {publication : Publication}

theorem next_removed (h : s.drains[peerId]? = some ⟨name :: entries, out⟩)
    (hfile : (s.inbox peerId)[name]? = some publication) :
    s.next (.drainFile peerId .removed) =
      { s with
        inboxes := s.inboxes.insert peerId ((s.inbox peerId).erase name)
        drains := s.drains.insert peerId ⟨entries, out ++ [publication]⟩ } := by
  simp only [next, drainFile, h, hfile, if_true]

theorem inbox_removed (h : s.drains[peerId]? = some ⟨name :: entries, out⟩)
    (hfile : (s.inbox peerId)[name]? = some publication) (other : NodeId) :
    (s.next (.drainFile peerId .removed)).inbox other =
      if peerId = other then (s.inbox peerId).erase name else s.inbox other := by
  rw [next_removed h hfile]
  exact getD_insert _ _ _ _

/-- Removing the first file moves its publication to the drain. -/
theorem removed_conserves (h : s.drains[peerId]? = some ⟨name :: entries, out⟩)
    {stored : List (String × Publication)}
    (hlist : (s.inbox peerId).toList = (name, publication) :: stored) (other : NodeId) :
    (mailbox other).Conserves next s (.drainFile peerId .removed) := by
  have hfile : (s.inbox peerId)[name]? = some publication := by
    rw [← OrderedMap.mem_toList, hlist]
    exact List.mem_cons_self ..
  have hput : s.published other (.drainFile peerId .removed) = [] := rfl
  have htaken : s.returned other (.drainFile peerId .removed) = [] := by
    simp only [returned, h]
  rw [conserves_iff, hput, htaken, inbox_removed h hfile, next_removed h hfile, draining, draining,
    OrderedMap.get_insert, List.append_nil, List.nil_append]
  by_cases hsame : peerId = other
  · subst hsame
    rw [if_pos rfl, if_pos rfl, h, OrderedMap.records, OrderedMap.records, hlist,
      OrderedMap.toList_erase_head hlist]
    simp
  · rw [if_neg hsame, if_neg hsame]

theorem ordered_removed (hordered : Ordered s)
    (h : s.drains[peerId]? = some ⟨name :: entries, out⟩)
    {stored : List (String × Publication)}
    (hlist : (s.inbox peerId).toList = (name, publication) :: stored)
    (hlisted : entries <+: stored.map (·.1)) :
    Ordered (s.next (.drainFile peerId .removed)) := by
  have hfile : (s.inbox peerId)[name]? = some publication := by
    rw [← OrderedMap.mem_toList, hlist]
    exact List.mem_cons_self ..
  have herased := OrderedMap.toList_erase_head hlist
  refine ⟨?_, ?_⟩
  · intro other drain hdrain
    rw [inbox_removed h hfile]
    have hget : (s.drains.insert peerId ⟨entries, out ++ [publication]⟩)[other]? = some drain := by
      rwa [next_removed h hfile] at hdrain
    rcases OrderedMap.get_insert_cases hget with ⟨rfl, rfl⟩ | ⟨hne, hold⟩
    · rw [if_pos rfl, OrderedMap.keys_eq_map, herased]
      exact hlisted
    · rw [if_neg (Ne.symm hne)]
      exact hordered.listed other drain hold
  · intro other kept hmem
    have hwritten : (s.next (.drainFile peerId .removed)).written = s.written := by
      rw [next_removed h hfile]
    rw [hwritten]
    rw [inbox_removed h hfile] at hmem
    split at hmem
    · refine hordered.numbered peerId kept ?_
      rw [OrderedMap.records, herased] at hmem
      rw [OrderedMap.records, hlist]
      exact List.mem_cons_of_mem _ hmem
    · exact hordered.numbered other kept hmem

end Removed

/-- A step of a drain keeps what it removed, and the order of the files, exactly when it does not
stop with something in its hands. -/
theorem drain_conserves_iff (hordered : Ordered s) {drain : InboxDrain}
    (h : s.drains[peerId]? = some drain) :
    (s.Keeps (.drainFile peerId outcome) ↔
        ∀ other, (mailbox other).Conserves next s (.drainFile peerId outcome)) ∧
      Ordered (s.next (.drainFile peerId outcome)) := by
  obtain ⟨entries, out⟩ := drain
  cases entries with
  | nil =>
      have hnext : s.next (.drainFile peerId outcome) =
          { s with drains := s.drains.erase peerId } := by
        simp only [next, drainFile, h]
      have hkeeps : s.Keeps (.drainFile peerId outcome) := by
        simp only [Keeps, h]
      have htaken (other : NodeId) : s.returned other (.drainFile peerId outcome) =
          if peerId = other then out else [] := by
        simp only [returned, h]
      rw [hnext]
      exact ⟨iff_of_true hkeeps ((ended_conserves_iff h hnext htaken).mpr rfl),
        ordered_ended hordered peerId⟩
  | cons name entries =>
      obtain ⟨publication, stored, hlist, hlisted⟩ := next_file hordered h
      have hfile : (s.inbox peerId)[name]? = some publication := by
        rw [← OrderedMap.mem_toList, hlist]
        exact List.mem_cons_self ..
      have hkeeps : s.Keeps (.drainFile peerId outcome) ↔ out = [] ∨ outcome = .removed := by
        simp [Keeps, h, hfile]
      by_cases hremoved : outcome = .removed
      · subst hremoved
        exact ⟨iff_of_true (hkeeps.mpr (.inr rfl)) (removed_conserves h hlist),
          ordered_removed hordered h hlist hlisted⟩
      · have hnext : s.next (.drainFile peerId outcome) =
            { s with drains := s.drains.erase peerId } := by
          simp only [next, drainFile, h, hfile, if_neg hremoved]
        have htaken (other : NodeId) : s.returned other (.drainFile peerId outcome) =
            if peerId = other then [] else [] := by
          simp only [returned, h, ite_self]
        rw [ended_conserves_iff h hnext htaken, hkeeps, hnext]
        exact ⟨or_iff_left hremoved, ordered_ended hordered peerId⟩

end Drain

/-! ## Runs -/

/-- A step meets the condition exactly when it conserves all inboxes. -/
theorem keeps_iff_conserves (hordered : Ordered s) (event : FileEvent) :
    s.Keeps event ↔ ∀ peerId, (mailbox peerId).Conserves next s event := by
  cases stepKind s event with
  | write h =>
      rw [write_conserves_iff hordered h]
      unfold Counted at h
      simp only [Keeps, h]
  | list h => exact iff_of_true trivial (list_conserves h)
  | drain h outcome => exact (drain_conserves_iff hordered h).1
  | quiet hquiet hput htaken hkeeps =>
      exact iff_of_true hkeeps fun peerId => quiet_conserves hquiet (hput peerId) (htaken peerId)

theorem ordered_next (hordered : Ordered s) {event : FileEvent} (hkeeps : s.Keeps event) :
    Ordered (s.next event) := by
  cases stepKind s event with
  | write h =>
      refine ordered_write hordered h ?_
      unfold Counted at h
      simpa only [Keeps, h] using hkeeps
  | list h => exact ordered_list hordered _
  | drain h outcome => exact (drain_conserves_iff hordered h).2
  | quiet hquiet hput htaken _ => exact ordered_of_quiet hquiet hordered

/-- Writes are counted, and the publication of a write carries the count. -/
theorem written_next (s : FilesystemP2pNetwork) (event : FileEvent) (peerId : NodeId) :
    s.published peerId event = [] ∧ s.written ≤ (s.next event).written ∨
      ∃ envelope, s.published peerId event = [⟨s.written, envelope⟩] ∧
        (s.next event).written = s.written + 1 := by
  cases stepKind s event with
  | @write process envelope recipient rest existing h =>
      have hwritten : (s.next (.writeFile process)).written = s.written + 1 := by rw [next_write h]
      by_cases hsame : recipient = peerId
      · refine .inr ⟨envelope, ?_, hwritten⟩
        unfold Counted at h
        simp only [published, h, if_pos hsame]
      · refine .inl ⟨?_, hwritten ▸ Nat.le_succ _⟩
        unfold Counted at h
        simp only [published, h, if_neg hsame]
  | list h =>
      refine .inl ⟨rfl, ?_⟩
      rw [next, listInbox]
      split <;> exact le_rfl
  | drain h outcome =>
      refine .inl ⟨rfl, ?_⟩
      simp only [next, drainFile]
      split
      · exact le_rfl
      · exact le_rfl
      · split
        · exact le_rfl
        · split <;> exact le_rfl
  | quiet hquiet hput _ _ => exact .inl ⟨hput peerId, hquiet.written.ge⟩

/-- No two publications are the same. -/
theorem nodup_allPut (peerId : NodeId) (s : FilesystemP2pNetwork) (events : List FileEvent) :
    ((mailbox peerId).allPut next s events).Nodup ∧
      ∀ publication ∈ (mailbox peerId).allPut next s events, s.written ≤ publication.number := by
  induction events generalizing s with
  | nil => exact ⟨List.nodup_nil, nofun⟩
  | cons event events ih =>
      obtain ⟨hnodup, hlater⟩ := ih (s.next event)
      have hall : (mailbox peerId).allPut next s (event :: events) =
          s.published peerId event ++ (mailbox peerId).allPut next (s.next event) events := rfl
      rw [hall]
      rcases written_next s event peerId with ⟨hput, hle⟩ | ⟨envelope, hput, hwritten⟩
      · rw [hput, List.nil_append]
        exact ⟨hnodup, fun publication hmem => hle.trans (hlater publication hmem)⟩
      · rw [hput, List.singleton_append, List.nodup_cons]
        refine ⟨⟨?_, hnodup⟩, ?_⟩
        · intro hmem
          have hnumber := hlater _ hmem
          dsimp only at hnumber
          omega
        · intro publication hmem
          rcases List.mem_cons.mp hmem with rfl | htail
          · exact le_rfl
          · have hnumber := hlater publication htail
            omega

/-- Up to every moment of a run nothing is lost, doubled or overtaken exactly when every write goes
behind all stored files and no drain that has removed a file stops early. -/
theorem nothing_lost_iff (events : List FileEvent) :
    (∀ before after, events = before ++ after → ∀ peerId, NothingLost peerId before) ↔
      Meets next Keeps empty events := by
  have hcongr := @meets_congr _ _ next Ordered _ _ (fun _ _ hI hC => ordered_next hI hC)
    (fun _ event hI => keeps_iff_conserves hI event) _ ordered_empty events
  have hall : Meets next (fun s event => ∀ peerId, (mailbox peerId).Conserves next s event)
      empty events ↔ ∀ peerId, Meets next ((mailbox peerId).Conserves next) empty events := by
    simp only [meets_iff_steps]
    constructor
    · intro hsteps peerId before event after heq
      exact hsteps before event after heq peerId
    · intro hsteps before event after heq peerId
      exact hsteps peerId before event after heq
  have hlost (peerId : NodeId) (before : List FileEvent) :
      NothingLost peerId before ↔ (mailbox peerId).Balanced next empty before := by
    refine and_iff_left_of_imp fun hbalanced => ?_
    unfold Mailbox.Balanced at hbalanced
    have hempty : (mailbox peerId).held empty = [] := rfl
    rw [hempty, List.nil_append] at hbalanced
    rw [← hbalanced]
    exact (nodup_allPut peerId empty before).1
  rw [hcongr, hall]
  simp only [hlost, Mailbox.meets_conserves_iff]
  constructor
  · intro h peerId before after heq
    exact h before after heq peerId
  · intro h before after heq peerId
    exact h peerId before after heq

namespace Sample

def batch (root : Hash32) : P2pMessage := .batch ⟨1, 1, "", "cid://payload", 0, 0, root, 1⟩

/-- The publication of one batch of peer 1. -/
def publishBatch (root : Hash32) : List FileEvent :=
  [.publish 0 1 (batch root), .countFiles 0, .writeFile 0]

/-- While a drain that listed two files has removed the first, a third publication counts one file
and takes the name of the second. -/
def publishedWhileDraining : List FileEvent :=
  [.registerPeer 1, .registerPeer 2, .subscribe 2 .batches] ++ publishBatch 0 ++ publishBatch 1 ++
    [.listInbox 2, .drainFile 2 .removed] ++ publishBatch 2 ++
    [.drainFile 2 .removed, .drainFile 2 .removed]

end Sample

open Sample in
/-- The second of three publications is overwritten: no drain returns it, and it is not stored. -/
theorem overwritten_publication_lost :
    let envelope (root : Hash32) : P2pEnvelope := ⟨1, .batches, batch root⟩
    (mailbox 2).allPut next empty publishedWhileDraining =
        [⟨0, envelope 0⟩, ⟨1, envelope 1⟩, ⟨2, envelope 2⟩] ∧
      (mailbox 2).allTaken next empty publishedWhileDraining = [⟨0, envelope 0⟩, ⟨2, envelope 2⟩] ∧
      (mailbox 2).held (run next empty publishedWhileDraining) = [] ∧
      ¬ ∀ before after, publishedWhileDraining = before ++ after →
        ∀ peerId, NothingLost peerId before := by
  intro envelope
  have hrun : (mailbox 2).allPut next empty publishedWhileDraining =
        [⟨0, envelope 0⟩, ⟨1, envelope 1⟩, ⟨2, envelope 2⟩] ∧
      (mailbox 2).allTaken next empty publishedWhileDraining = [⟨0, envelope 0⟩, ⟨2, envelope 2⟩] ∧
      (mailbox 2).held (run next empty publishedWhileDraining) = [] := by
    decide +kernel
  obtain ⟨hput, htaken, hheld⟩ := hrun
  refine ⟨hput, htaken, hheld, ?_⟩
  intro hall
  obtain ⟨hbalanced, _⟩ := hall publishedWhileDraining [] (List.append_nil _).symm 2
  unfold Mailbox.Balanced at hbalanced
  rw [hput, htaken, hheld] at hbalanced
  exact absurd (congrArg List.length hbalanced) (by decide)

end FilesystemP2pNetwork

end PoleProtocol.Node
