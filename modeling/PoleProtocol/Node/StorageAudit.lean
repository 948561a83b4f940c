import PoleProtocol.Node.NetworkApi
import PoleProtocol.Node.RetainedPayloads

/-!
# The storage audit

At the end of a tick the node reads every payload of the book on disk that it still has to keep,
and checks the receipt it gave for it. The receipts are its own and always hold, so a challenge
fails only for a payload that is gone or changed, and the node then challenges itself for the first
one.
-/

namespace PoleProtocol.Node

open Framework OrderedMap Ledger

/-! ## Receipts -/

structure StoredPayloadReceiptValidation where
  payloadMatches : Bool
  epochMatches : Bool
  retentionMatches : Bool
  signatureMatches : Bool
  deriving DecidableEq

def developmentReceiptSignature (env : NodeEnv) (storerId : NodeId)
    (epochId retentionUntilEpoch : ℕ) (payloadCid : String) (payloadHash : Hash32)
    (sizeBytes : ℕ) : Bytes :=
  (stableHash32 (env.encodeReceipt storerId epochId retentionUntilEpoch payloadCid payloadHash
    sizeBytes)).bytes

def validateStoredPayloadRecord (env : NodeEnv) (record : StoredPayloadRecord) :
    StoredPayloadReceiptValidation where
  payloadMatches := record.receipt.payloadCid = record.payloadCid
  epochMatches := record.receipt.epochId = record.epochId
  retentionMatches := record.receipt.retentionUntilEpoch = record.retentionUntilEpoch
  signatureMatches := record.receipt.receiptSignature =
    developmentReceiptSignature env record.receipt.storerId record.epochId
      record.retentionUntilEpoch record.payloadCid record.payloadHash record.sizeBytes

/-! ## The audit of the files -/

structure RetentionAuditRecord where
  payloadCid : String
  epochId : ℕ
  retentionUntilEpoch : ℕ
  expectedSizeBytes : ℕ
  filePresent : Bool
  sizeMatches : Bool
  payloadHashMatches : Bool
  deriving DecidableEq

structure RetentionAuditArtifact where
  currentEpoch : ℕ
  retainedPayloadCount : ℕ
  retrievablePayloadCount : ℕ
  missingPayloadCount : ℕ
  corruptedPayloadCount : ℕ
  allRetrievable : Bool
  records : List RetentionAuditRecord
  deriving DecidableEq

namespace RetentionAuditRecord

variable (record : RetentionAuditRecord)

def retrievable : Bool := record.filePresent && record.sizeMatches && record.payloadHashMatches

def missing : Bool := !record.filePresent

def corrupted : Bool :=
  record.filePresent && (!record.sizeMatches || !record.payloadHashMatches)

end RetentionAuditRecord

/-- The records that have to be kept at the epoch, in the order of the book. -/
def LocalRetentionBook.retained (book : LocalRetentionBook) (currentEpoch : ℕ) :
    List StoredPayloadRecord :=
  book.payloads.records.filter fun record => currentEpoch ≤ record.retentionUntilEpoch

/-- The texts of two content ids, in their order. -/
def cidOrder (left right : String) : Bool := (compare left right).isLE

namespace PayloadStore

variable (env : NodeEnv) (store : PayloadStore)

def auditRecord (record : StoredPayloadRecord) : RetentionAuditRecord where
  payloadCid := record.payloadCid
  epochId := record.epochId
  retentionUntilEpoch := record.retentionUntilEpoch
  expectedSizeBytes := record.sizeBytes
  filePresent := (store.payloadFile record.payloadCid).isSome
  sizeMatches := (store.payloadFile record.payloadCid).any fun payloadBytes =>
    payloadBytes.length = record.sizeBytes
  payloadHashMatches := (store.payloadFile record.payloadCid).any fun payloadBytes =>
    stableHash32 payloadBytes = record.payloadHash

def auditLocalRetention (currentEpoch : ℕ) : RetentionAuditArtifact :=
  let retentionBook := store.savedBook.load env.quotaGb
  let records := ((retentionBook.retained currentEpoch).map store.auditRecord).mergeSort
    fun left right => cidOrder left.payloadCid right.payloadCid
  let missingPayloadCount := records.countP (·.missing)
  let corruptedPayloadCount := records.countP (·.corrupted)
  { currentEpoch
    retainedPayloadCount := records.length
    retrievablePayloadCount := records.countP (·.retrievable)
    missingPayloadCount
    corruptedPayloadCount
    allRetrievable := missingPayloadCount = 0 ∧ corruptedPayloadCount = 0
    records }

end PayloadStore

/-! ## The challenge -/

structure StorageChallengeRecord where
  payloadCid : String
  epochId : ℕ
  retentionUntilEpoch : ℕ
  payloadRetrievable : Bool
  receiptPayloadMatches : Bool
  receiptEpochMatches : Bool
  receiptStorerMatches : Bool
  receiptRetentionMatches : Bool
  receiptSignatureMatches : Bool
  deriving DecidableEq

structure StorageChallengeArtifact where
  currentEpoch : ℕ
  checkedPayloadCount : ℕ
  passedPayloadCount : ℕ
  failedPayloadCount : ℕ
  allPassed : Bool
  records : List StorageChallengeRecord
  deriving DecidableEq

def StorageChallengeRecord.passed (record : StorageChallengeRecord) : Bool :=
  record.payloadRetrievable && record.receiptPayloadMatches && record.receiptEpochMatches &&
    record.receiptStorerMatches && record.receiptRetentionMatches && record.receiptSignatureMatches

/-- A payload that the audit does not list counts as lost. -/
def challengeRecord (env : NodeEnv) (localNodeId : NodeId)
    (retentionAudit : RetentionAuditArtifact) (record : StoredPayloadRecord) :
    StorageChallengeRecord :=
  let receiptValidation := validateStoredPayloadRecord env record
  { payloadCid := record.payloadCid
    epochId := record.epochId
    retentionUntilEpoch := record.retentionUntilEpoch
    payloadRetrievable := ((retentionAudit.records.find? fun auditRecord =>
      auditRecord.payloadCid = record.payloadCid).map (·.retrievable)).getD false
    receiptPayloadMatches := receiptValidation.payloadMatches
    receiptEpochMatches := receiptValidation.epochMatches
    receiptStorerMatches := record.receipt.storerId = localNodeId
    receiptRetentionMatches := receiptValidation.retentionMatches
    receiptSignatureMatches := receiptValidation.signatureMatches }

def PayloadStore.runLocalStorageChallenge (env : NodeEnv) (store : PayloadStore)
    (currentEpoch : ℕ) (retentionAudit : RetentionAuditArtifact) : StorageChallengeArtifact :=
  let retentionBook := store.savedBook.load env.quotaGb
  let records := ((retentionBook.retained currentEpoch).map
    (challengeRecord env env.nodeId retentionAudit)).mergeSort
      fun left right => cidOrder left.payloadCid right.payloadCid
  let passedPayloadCount := records.countP (·.passed)
  let failedPayloadCount := records.length - passedPayloadCount
  { currentEpoch
    checkedPayloadCount := records.length
    passedPayloadCount
    failedPayloadCount
    allPassed := failedPayloadCount = 0
    records }

/-! ## The node challenges itself -/

def developmentChallenger : Address :=
  0x5555555555555555555555555555555555555555555555555555555555555555#256

def storageChallengeId (currentEpoch epochId : ℕ) (payloadCid : String) : Hash32 :=
  stableHash32 ("storage-challenge:" ++ toString currentEpoch ++ ":" ++ toString epochId ++ ":" ++
    payloadCid).toUTF8.toList

/-- The challenge of a payload, against the node itself. -/
def badStorageChallenge (env : NodeEnv) (currentEpoch epochId : ℕ) (payloadCid : String) :
    Challenge where
  challengeId := storageChallengeId currentEpoch epochId payloadCid
  kind := .badStorage
  epochId
  targetNode := some env.nodeId
  challenger := developmentChallenger
  bond := 0
  openedAtHeight := 0
  deadlineHeight := 0
  state := .open
  evidence := { payloadCid := some payloadCid }

/-- The challenge that the first failed record of the artifact raises. -/
def storageChallenge (env : NodeEnv) (currentEpoch : ℕ) (artifact : StorageChallengeArtifact) :
    Option Challenge :=
  if artifact.failedPayloadCount = 0 then none
  else
    (artifact.records.find? fun record => !record.passed).map fun failedRecord =>
      badStorageChallenge env currentEpoch failedRecord.epochId failedRecord.payloadCid

def challengeAnnouncementFromChallenge (challenge : Challenge) : ChallengeAnnouncement where
  challengeId := challenge.challengeId
  epochId := challenge.epochId
  kind := challenge.kind
  targetNode := challenge.targetNode

structure P2pChallengeActivity where
  recipients : ℕ
  kind : ChallengeKind
  epochId : ℕ
  payloadCid : Option String
  deriving DecidableEq

/-- The two calls of a network that a challenge makes. -/
structure ChallengeNetwork (N : Type) where
  registerPeer : NodeId → N → N × Except P2pError Unit
  publish : NodeId → P2pMessage → N → N × Except P2pError ℕ

/-- Nobody has to listen. -/
def publishP2pBestEffort : Except P2pError ℕ → Except P2pError ℕ
  | .error (.noSubscribers _) => .ok 0
  | answer => answer

def publishChallenge {N : Type} (calls : ChallengeNetwork N) (env : NodeEnv)
    (challenge : Challenge) (network : N) : N × Except P2pError (Option P2pChallengeActivity) :=
  match calls.registerPeer env.nodeId network with
  | (network, .error err) => (network, .error err)
  | (network, .ok ()) =>
      let (network, answer) := calls.publish env.nodeId
        (.challenge (challengeAnnouncementFromChallenge challenge)) network
      (network, (publishP2pBestEffort answer).map fun recipients =>
        some ⟨recipients, challenge.kind, challenge.epochId, challenge.evidence.payloadCid⟩)

def publishStorageChallengeIfNeeded {N : Type} (calls : ChallengeNetwork N) (env : NodeEnv)
    (currentEpoch : ℕ) (artifact : StorageChallengeArtifact) (network : N) :
    N × Except P2pError (Option P2pChallengeActivity) :=
  match storageChallenge env currentEpoch artifact with
  | none => (network, .ok none)
  | some challenge => publishChallenge calls env challenge network

/-! ## What the books hold over a run -/

/-- The receipt is the one this node signs for the record. -/
def Receipted (env : NodeEnv) (record : StoredPayloadRecord) : Prop :=
  record.receipt =
    { epochId := record.epochId
      payloadCid := record.payloadCid
      storerId := env.nodeId
      retentionUntilEpoch := record.retentionUntilEpoch
      receiptSignature := developmentReceiptSignature env env.nodeId record.epochId
        record.retentionUntilEpoch record.payloadCid record.payloadHash record.sizeBytes }

namespace LocalRetentionBook

variable {env : NodeEnv} {book book' : LocalRetentionBook}

/-- Every record is under its content id and has this node's receipt. -/
structure Sound (env : NodeEnv) (book : LocalRetentionBook) : Prop where
  keyed : KeyedBy StoredPayloadRecord.payloadCid book.payloads
  receipted : ∀ record ∈ book.payloads.records, Receipted env record

theorem sound_withQuotaGb (env : NodeEnv) (quotaGb : ℕ) : Sound env (withQuotaGb quotaGb) := by
  constructor
  · exact keyedBy_empty _
  · intro record hmem
    obtain ⟨cid, hcid⟩ := mem_records.mp hmem
    simp [withQuotaGb] at hcid

theorem sound_load (h : Sound env book) (quotaGb : ℕ) : Sound env (book.load quotaGb) := ⟨h.1, h.2⟩

theorem sound_pruneExpired (h : Sound env book) (currentEpoch : ℕ) :
    Sound env (book.pruneExpired currentEpoch) := by
  constructor
  · intro cid record hrecord
    unfold pruneExpired at hrecord
    rw [Std.ExtTreeMap.getElem?_filter', Option.filter_eq_some_iff] at hrecord
    exact h.keyed cid record hrecord.1
  · intro record hmem
    exact h.receipted record (mem_records_pruneExpired.mp hmem).1

theorem sound_recordPayload {epochId retentionEpochs sizeBytes : ℕ} {payloadCid : String}
    {payloadHash : Hash32} {answer : StoredPayloadRecord} (h : Sound env book)
    (hrecord : book.recordPayload env env.nodeId epochId retentionEpochs payloadCid payloadHash
      sizeBytes = .ok (answer, book')) : Sound env book' := by
  unfold recordPayload at hrecord
  split at hrecord
  · cases hrecord
    exact h
  · next hfree =>
      split at hrecord
      · cases hrecord
      · cases hrecord
        constructor
        · intro cid record hcid
          change (book.payloads.insert payloadCid _)[cid]? = some record at hcid
          rw [get_insert] at hcid
          split at hcid
          · next hsame =>
              cases hcid
              exact hsame
          · exact h.keyed cid record hcid
        · intro record hmem
          rcases (mem_records_insert_of_none hfree).mp hmem with rfl | hearlier
          · rfl
          · exact h.receipted record hearlier

end LocalRetentionBook

namespace PayloadStore

variable {env : NodeEnv} {store : PayloadStore}

/-- Both copies of the book are sound. -/
structure SoundBooks (env : NodeEnv) (store : PayloadStore) : Prop where
  retentionBook : store.retentionBook.Sound env
  savedBook : store.savedBook.Sound env

theorem soundBooks_fresh (env : NodeEnv) : SoundBooks env (fresh env) :=
  ⟨LocalRetentionBook.sound_withQuotaGb env env.quotaGb,
    LocalRetentionBook.sound_withQuotaGb env env.quotaGb⟩

theorem soundBooks_abandonTick (h : SoundBooks env store) :
    SoundBooks env (store.abandonTick env) :=
  ⟨LocalRetentionBook.sound_load h.savedBook env.quotaGb, h.savedBook⟩

theorem soundBooks_collectTick {epochId slotId retentionEpochs : ℕ}
    {samples : List ActivitySample} (h : SoundBooks env store) :
    SoundBooks env (store.collectTick env epochId slotId retentionEpochs samples) := by
  unfold collectTick
  split
  · exact soundBooks_abandonTick h
  · next batch _ =>
      split
      · split
        · exact soundBooks_abandonTick h
        · next book hbook =>
            refine ⟨?_, h.savedBook⟩
            unfold recordCollected at hbook
            split at hbook
            · cases hrecord : store.retentionBook.recordPayload env env.nodeId epochId
                retentionEpochs batch.payloadCid batch.payloadHash batch.payloadBytes.length with
              | error err =>
                  rw [hrecord] at hbook
                  cases hbook
              | ok answered =>
                  rw [hrecord] at hbook
                  cases hbook
                  exact LocalRetentionBook.sound_recordPayload h.retentionBook hrecord
            · cases hbook
              exact h.retentionBook
      · exact soundBooks_abandonTick h

theorem soundBooks_ingestBatch {announcement : BatchAnnouncement}
    {response : Option PayloadResponse} {retentionEpochs : ℕ} (h : SoundBooks env store) :
    SoundBooks env (store.ingestBatch env announcement response retentionEpochs) := by
  unfold ingestBatch
  split
  · exact h
  · dsimp only
    split
    · exact ⟨h.retentionBook, h.savedBook⟩
    · next hrecord =>
        exact ⟨LocalRetentionBook.sound_recordPayload h.retentionBook hrecord, h.savedBook⟩

theorem soundBooks_pruneRetention (h : SoundBooks env store) (currentEpoch : ℕ) :
    SoundBooks env (store.pruneRetention env currentEpoch) := by
  have hpruned := LocalRetentionBook.sound_pruneExpired
    (LocalRetentionBook.sound_load h.savedBook env.quotaGb) currentEpoch
  exact ⟨LocalRetentionBook.sound_load hpruned env.quotaGb, hpruned⟩

end PayloadStore

theorem soundBooks_next {env : NodeEnv} {s : NodeState} {event : NodeEvent}
    (h : s.storage.SoundBooks env) : (s.next env event).storage.SoundBooks env := by
  cases event with
  | collectTick epochId slotId retentionEpochs samples =>
      exact PayloadStore.soundBooks_collectTick h
  | envelope message response retentionEpochs =>
      cases message with
      | batch announcement => exact PayloadStore.soundBooks_ingestBatch h
      | _ => exact h
  | saveBook => exact ⟨h.retentionBook, h.retentionBook⟩
  | persistCollectTickArtifact epochId slotId payloadCid => exact ⟨h.retentionBook, h.savedBook⟩
  | pruneRetention currentEpoch => exact PayloadStore.soundBooks_pruneRetention h currentEpoch
  | abandonTick => exact PayloadStore.soundBooks_abandonTick h
  | _ => exact h

/-- A step of the node, or whatever else happens to the payload files. -/
inductive DiskEvent where
  | node (event : NodeEvent)
  | replaceFiles (files : OrderedMap String Bytes)

/-- One step of a node whose files may be changed behind its back. -/
def NodeState.nextOnDisk (env : NodeEnv) (s : NodeState) : DiskEvent → NodeState
  | .node event => s.next env event
  | .replaceFiles files => { s with storage := { s.storage with payloadFiles := files } }

theorem soundBooks_run (env : NodeEnv) (events : List DiskEvent) :
    (run (NodeState.nextOnDisk env) (.fresh env) events).storage.SoundBooks env := by
  refine run_preserves (P := fun s : NodeState => s.storage.SoundBooks env) ?_ events
    (PayloadStore.soundBooks_fresh env)
  intro s event hsound
  cases event with
  | node event => exact soundBooks_next hsound
  | replaceFiles files => exact ⟨hsound.retentionBook, hsound.savedBook⟩

/-! ## What the audit counts -/

namespace PayloadStore

variable {env : NodeEnv} {store : PayloadStore} {currentEpoch : ℕ}

/-- The payload's file has the bytes that the record describes. -/
def Kept (store : PayloadStore) (record : StoredPayloadRecord) : Prop :=
  ∃ bytes, store.payloadFile record.payloadCid = some bytes ∧ record.Describes bytes

/-- The payload has to be kept at the epoch and is not, and no such payload comes before it. -/
structure FirstLost (store : PayloadStore) (currentEpoch : ℕ) (record : StoredPayloadRecord) :
    Prop where
  stored : record ∈ store.savedBook.payloads.records
  due : currentEpoch ≤ record.retentionUntilEpoch
  lost : ¬ Kept store record
  least : ∀ other ∈ store.savedBook.payloads.records, currentEpoch ≤ other.retentionUntilEpoch →
    ¬ Kept store other → (compare record.payloadCid other.payloadCid).isLE

theorem retrievable_iff {record : StoredPayloadRecord} :
    (store.auditRecord record).retrievable = true ↔ Kept store record := by
  unfold RetentionAuditRecord.retrievable auditRecord Kept StoredPayloadRecord.Describes
  cases store.payloadFile record.payloadCid with
  | none => simp
  | some bytes => simp [and_comm]

/-- A record is retrievable, missing or corrupted, and only one of them. -/
theorem counts_partition (records : List RetentionAuditRecord) :
    records.length = records.countP (·.retrievable) + records.countP (·.missing) +
      records.countP (·.corrupted) := by
  induction records with
  | nil => rfl
  | cons record records ih =>
      simp only [List.length_cons, List.countP_cons, ih]
      rcases record with ⟨_, _, _, _, present, size, hash⟩
      cases present <;> cases size <;> cases hash <;>
        simp [RetentionAuditRecord.retrievable, RetentionAuditRecord.missing,
          RetentionAuditRecord.corrupted] <;> omega

section Sorted

variable (hkeyed : KeyedBy StoredPayloadRecord.payloadCid store.savedBook.payloads)
include hkeyed

theorem retained_ordered (currentEpoch : ℕ) :
    (store.savedBook.retained currentEpoch).Pairwise fun left right =>
      cidOrder left.payloadCid right.payloadCid = true := by
  refine (ordered_records _ hkeyed).filter _ |>.imp ?_
  intro left right hlt
  rw [cidOrder, hlt]
  rfl

/-- The book is listed in the order of the content ids, so that sorting changes nothing. -/
theorem sorted_retained {α : Type} (f : StoredPayloadRecord → α) (cid : α → String)
    (hcid : ∀ record, cid (f record) = record.payloadCid) (currentEpoch : ℕ) :
    ((store.savedBook.retained currentEpoch).map f).mergeSort
        (fun left right => cidOrder (cid left) (cid right)) =
      (store.savedBook.retained currentEpoch).map f := by
  apply List.mergeSort_of_pairwise
  rw [List.pairwise_map]
  refine (retained_ordered hkeyed currentEpoch).imp ?_
  intro left right hle
  rw [hcid, hcid]
  exact hle

theorem find_retained {record : StoredPayloadRecord}
    (hmem : record ∈ store.savedBook.retained currentEpoch) :
    (store.savedBook.retained currentEpoch).find?
      (fun other => other.payloadCid = record.payloadCid) = some record := by
  obtain ⟨hstored, hdue⟩ := List.mem_filter.mp hmem
  unfold LocalRetentionBook.retained
  rw [List.find?_filter, find_records_eq_some _ hkeyed]
  refine ⟨hstored, by simpa using hdue, ?_⟩
  intro other _ hother
  have hsame : other.payloadCid = record.payloadCid := by
    simp only [decide_eq_true_eq] at hother
    exact hother.2
  rw [hsame]
  exact Std.ReflOrd.isLE_rfl

theorem audit_records :
    (store.auditLocalRetention env currentEpoch).records =
      (store.savedBook.retained currentEpoch).map store.auditRecord :=
  sorted_retained hkeyed store.auditRecord (·.payloadCid) (fun _ => rfl) currentEpoch

end Sorted

section Sound

variable (hsound : store.savedBook.Sound env)
include hsound

/-- A challenge passes for the payloads that the audit found, and for no others. -/
theorem passed_challengeRecord {record : StoredPayloadRecord}
    (hmem : record ∈ store.savedBook.retained currentEpoch) :
    (challengeRecord env env.nodeId (store.auditLocalRetention env currentEpoch) record).passed =
      (store.auditRecord record).retrievable := by
  have hfound : ((store.auditLocalRetention env currentEpoch).records.find? fun auditRecord =>
      auditRecord.payloadCid = record.payloadCid) = some (store.auditRecord record) := by
    rw [audit_records hsound.keyed, List.find?_map]
    have hfind := find_retained hsound.keyed hmem
    change Option.map store.auditRecord ((store.savedBook.retained currentEpoch).find?
      fun other => other.payloadCid = record.payloadCid) = _
    rw [hfind]
    rfl
  have hreceipt : Receipted env record :=
    hsound.receipted record (List.mem_filter.mp hmem).1
  unfold Receipted at hreceipt
  simp [StorageChallengeRecord.passed, challengeRecord, validateStoredPayloadRecord, hfound,
    hreceipt]

theorem challenge_records :
    (store.runLocalStorageChallenge env currentEpoch
        (store.auditLocalRetention env currentEpoch)).records =
      (store.savedBook.retained currentEpoch).map
        (challengeRecord env env.nodeId (store.auditLocalRetention env currentEpoch)) :=
  sorted_retained hsound.keyed
    (challengeRecord env env.nodeId (store.auditLocalRetention env currentEpoch))
    StorageChallengeRecord.payloadCid (fun _ => rfl) currentEpoch

theorem passed_count :
    (store.runLocalStorageChallenge env currentEpoch
        (store.auditLocalRetention env currentEpoch)).passedPayloadCount =
      (store.auditLocalRetention env currentEpoch).retrievablePayloadCount := by
  change (store.runLocalStorageChallenge env currentEpoch
      (store.auditLocalRetention env currentEpoch)).records.countP (·.passed) =
    (store.auditLocalRetention env currentEpoch).records.countP (·.retrievable)
  rw [challenge_records hsound, audit_records hsound.keyed, List.countP_map, List.countP_map]
  refine List.countP_congr ?_
  intro record hmem
  simp only [Function.comp_apply, passed_challengeRecord hsound hmem]

theorem checked_count :
    (store.runLocalStorageChallenge env currentEpoch
        (store.auditLocalRetention env currentEpoch)).checkedPayloadCount =
      (store.auditLocalRetention env currentEpoch).retainedPayloadCount := by
  change (store.runLocalStorageChallenge env currentEpoch
      (store.auditLocalRetention env currentEpoch)).records.length =
    (store.auditLocalRetention env currentEpoch).records.length
  rw [challenge_records hsound, audit_records hsound.keyed, List.length_map, List.length_map]

theorem failed_count :
    (store.runLocalStorageChallenge env currentEpoch
        (store.auditLocalRetention env currentEpoch)).failedPayloadCount =
      (store.auditLocalRetention env currentEpoch).missingPayloadCount +
        (store.auditLocalRetention env currentEpoch).corruptedPayloadCount := by
  have hpartition := counts_partition (store.auditLocalRetention env currentEpoch).records
  have hpassed := @passed_count env store currentEpoch hsound
  have hchecked := @checked_count env store currentEpoch hsound
  simp only [runLocalStorageChallenge, auditLocalRetention] at *
  omega

/-- A sound book's challenge passes when every payload of the epoch is there. -/
theorem allPassed_iff :
    (store.runLocalStorageChallenge env currentEpoch
        (store.auditLocalRetention env currentEpoch)).allPassed = true ↔
      ∀ record ∈ store.savedBook.payloads.records, currentEpoch ≤ record.retentionUntilEpoch →
        Kept store record := by
  have hcount : (store.runLocalStorageChallenge env currentEpoch
        (store.auditLocalRetention env currentEpoch)).allPassed = true ↔
      (store.auditLocalRetention env currentEpoch).retrievablePayloadCount =
        (store.auditLocalRetention env currentEpoch).records.length := by
    have hpassed := @passed_count env store currentEpoch hsound
    have hchecked := @checked_count env store currentEpoch hsound
    have hle : (store.auditLocalRetention env currentEpoch).retrievablePayloadCount ≤
        (store.auditLocalRetention env currentEpoch).records.length := List.countP_le_length
    change decide ((store.runLocalStorageChallenge env currentEpoch _).checkedPayloadCount -
      (store.runLocalStorageChallenge env currentEpoch _).passedPayloadCount = 0) = true ↔ _
    change _ = (store.auditLocalRetention env currentEpoch).records.length at hchecked
    rw [hpassed, hchecked, decide_eq_true_eq]
    omega
  rw [hcount]
  change List.countP _ (store.auditLocalRetention env currentEpoch).records = _ ↔ _
  rw [List.countP_eq_length, audit_records hsound.keyed, List.forall_mem_map]
  simp only [retrievable_iff, LocalRetentionBook.retained, List.mem_filter, decide_eq_true_eq,
    and_imp]

/-- The first failed record is the first lost payload. -/
theorem find_failed :
    ((store.runLocalStorageChallenge env currentEpoch
        (store.auditLocalRetention env currentEpoch)).records.find? fun record => !record.passed) =
      ((store.savedBook.retained currentEpoch).find? fun record =>
        !(store.auditRecord record).retrievable).map
        (challengeRecord env env.nodeId (store.auditLocalRetention env currentEpoch)) := by
  rw [challenge_records hsound, List.find?_map]
  congr 1
  rw [← List.head?_filter, ← List.head?_filter]
  congr 1
  apply List.filter_congr
  intro record hmem
  simp only [Function.comp_apply, passed_challengeRecord hsound hmem]

/-- The node challenges itself for the first lost payload, and for no other. -/
theorem storageChallenge_eq_some_iff {challenge : Challenge} :
    storageChallenge env currentEpoch (store.runLocalStorageChallenge env currentEpoch
        (store.auditLocalRetention env currentEpoch)) = some challenge ↔
      ∃ record, FirstLost store currentEpoch record ∧
        challenge = badStorageChallenge env currentEpoch record.epochId record.payloadCid := by
  have hlost : ∀ record, (store.savedBook.retained currentEpoch).find?
      (fun other => !(store.auditRecord other).retrievable) = some record ↔
        FirstLost store currentEpoch record := by
    intro record
    have hnotKept : ∀ other : StoredPayloadRecord,
        (!(store.auditRecord other).retrievable) = true ↔ ¬ Kept store other := by
      intro other
      rw [Bool.not_eq_true', ← Bool.not_eq_true, not_iff_not]
      exact retrievable_iff
    unfold LocalRetentionBook.retained
    rw [List.find?_filter, find_records_eq_some _ hsound.keyed]
    simp only [decide_eq_true_eq, hnotKept, and_imp]
    constructor
    · rintro ⟨hstored, ⟨hdue, hlost⟩, hleast⟩
      exact ⟨hstored, hdue, hlost, hleast⟩
    · intro hfirst
      exact ⟨hfirst.stored, ⟨hfirst.due, hfirst.lost⟩, hfirst.least⟩
  unfold storageChallenge
  rw [find_failed hsound]
  split
  · next hnone =>
      refine iff_of_false (by rintro ⟨⟩) ?_
      rintro ⟨record, hfirst, _⟩
      have hall := (allPassed_iff hsound).mp (decide_eq_true hnone)
      exact hfirst.lost (hall record hfirst.stored hfirst.due)
  · rw [Option.map_map, Option.map_eq_some_iff]
    refine exists_congr fun record => ?_
    rw [hlost]
    exact and_congr_right fun _ => eq_comm

theorem storageChallenge_eq_none_iff :
    storageChallenge env currentEpoch (store.runLocalStorageChallenge env currentEpoch
        (store.auditLocalRetention env currentEpoch)) = none ↔
      (store.runLocalStorageChallenge env currentEpoch
        (store.auditLocalRetention env currentEpoch)).allPassed = true := by
  constructor
  · intro hnone
    by_contra hfailed
    have hcount : (store.runLocalStorageChallenge env currentEpoch
        (store.auditLocalRetention env currentEpoch)).failedPayloadCount ≠ 0 :=
      fun hzero => hfailed (decide_eq_true hzero)
    unfold storageChallenge at hnone
    rw [if_neg hcount, Option.map_eq_none_iff, find_failed hsound, Option.map_eq_none_iff,
      List.find?_eq_none] at hnone
    refine hfailed ((allPassed_iff hsound).mpr fun record hstored hdue => ?_)
    refine retrievable_iff.mp ?_
    simpa using hnone record (List.mem_filter.mpr ⟨hstored, decide_eq_true hdue⟩)
  · intro hpassed
    exact if_pos (of_decide_eq_true hpassed)

end Sound

end PayloadStore

/-! ## Every tick -/

end PoleProtocol.Node
