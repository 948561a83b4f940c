import PoleProtocol.Framework.Word
import PoleProtocol.Node.Config

/-!
# Retained payloads

The retention book and the payload files beside it. The book lives twice: the copy a tick works on
and the copy on disk, which the tick loads when it starts and replaces when it has read its
messages. A payload file is named by its content id, without the scheme and with the slashes
replaced, so that two ids can share a file.
-/

namespace PoleProtocol.Node

open Framework Ledger

/-! ## The retention book -/

structure StoredPayloadRecord where
  epochId : ℕ
  payloadCid : String
  payloadHash : Hash32
  sizeBytes : ℕ
  retentionUntilEpoch : ℕ
  receipt : ReplicaReceipt
  deriving DecidableEq

structure LocalRetentionBook where
  quotaBytes : ℕ
  usedBytes : ℕ
  payloads : OrderedMap String StoredPayloadRecord

inductive StorageBookError where
  | quotaExceeded (quotaBytes usedBytes requestedBytes : ℕ)
  deriving DecidableEq

namespace LocalRetentionBook

def withQuotaGb (quotaGb : ℕ) : LocalRetentionBook := ⟨quotaGb * 1024 * 1024 * 1024, 0, ∅⟩

/-- Loading fills in a missing quota and counts the used bytes again. -/
def load (quotaGb : ℕ) (book : LocalRetentionBook) : LocalRetentionBook where
  quotaBytes :=
    if book.quotaBytes = 0 then quotaGb * 1024 * 1024 * 1024 else book.quotaBytes
  usedBytes := (book.payloads.records.map (·.sizeBytes)).sum
  payloads := book.payloads

/-- A content id that is recorded already is answered with the old record. The end of the
retention wraps around the word. -/
def recordPayload (env : NodeEnv) (book : LocalRetentionBook) (storerId : NodeId)
    (epochId retentionEpochs : ℕ) (payloadCid : String) (payloadHash : Hash32) (sizeBytes : ℕ) :
    Except StorageBookError (StoredPayloadRecord × LocalRetentionBook) :=
  match book.payloads[payloadCid]? with
  | some existing => .ok (existing, book)
  | none =>
      if book.quotaBytes < saturatingAdd64 book.usedBytes sizeBytes then
        .error (.quotaExceeded book.quotaBytes book.usedBytes sizeBytes)
      else
        let retentionUntilEpoch := wrap64 (epochId + retentionEpochs)
        let receiptSignature := (stableHash32 (env.encodeReceipt storerId epochId
          retentionUntilEpoch payloadCid payloadHash sizeBytes)).bytes
        let receipt : ReplicaReceipt :=
          { epochId, payloadCid, storerId, retentionUntilEpoch, receiptSignature }
        let record : StoredPayloadRecord :=
          { epochId, payloadCid, payloadHash, sizeBytes, retentionUntilEpoch, receipt }
        .ok (record,
          { book with
            payloads := book.payloads.insert payloadCid record
            usedBytes := book.usedBytes + sizeBytes })

/-- The records whose retention has ended. -/
def expired (book : LocalRetentionBook) (currentEpoch : ℕ) : List StoredPayloadRecord :=
  book.payloads.records.filter fun record => record.retentionUntilEpoch < currentEpoch

def pruneExpired (book : LocalRetentionBook) (currentEpoch : ℕ) : LocalRetentionBook where
  quotaBytes := book.quotaBytes
  usedBytes := (book.expired currentEpoch).foldl (fun used record => used - record.sizeBytes)
    book.usedBytes
  payloads := book.payloads.filter fun _ record => ¬ record.retentionUntilEpoch < currentEpoch

end LocalRetentionBook

/-! ## Files -/

/-- Cut out every occurrence of the scheme. -/
def dropScheme : List Char → List Char
  | 'c' :: 'i' :: 'd' :: ':' :: '/' :: '/' :: rest => dropScheme rest
  | c :: rest => c :: dropScheme rest
  | [] => []

def replaceChar (old new : Char) (text : List Char) : List Char :=
  text.map fun c => if c = old then new else c

def payloadFilenameStub (payloadCid : String) : String :=
  String.ofList (replaceChar '/' '_' (dropScheme payloadCid.toList))

def payloadArtifactStub (payloadCid : String) : String :=
  String.ofList (replaceChar ':' '_' (payloadFilenameStub payloadCid).toList)

/-! ## Collected batches -/

/-- One reading of a source before it is signed. -/
structure ActivitySample where
  appId : ℕ
  observedPlayers : ℕ
  observedAtMillis : ℕ
  sourceKind : ActivitySourceKind
  sourceConfidencePpm : ℕ
  rawBody : String
  deriving DecidableEq

inductive NodePipelineError where
  | emptySignature
  | emptyRawBody
  | emptyBatch
  deriving DecidableEq

def sourceNamespace : ActivitySourceKind → String
  | .steam => "steam-observation"
  | .epic => "epic-observation"
  | .ea => "ea-observation"
  | .gog => "gog-observation"
  | .community => "community-observation"

def ActivitySample.intoObservation (sample : ActivitySample) (epochId slotId : ℕ)
    (collectorId : NodeId) (collectorSignature : Bytes) :
    Except NodePipelineError ObservationRecord :=
  if collectorSignature = [] then .error .emptySignature
  else if sample.rawBody = "" then .error .emptyRawBody
  else
    let rawBodyHash := stableHash32 sample.rawBody.toUTF8.toList
    .ok
      { epochId
        slotId
        appId := sample.appId
        sourceKind := sample.sourceKind
        sourceConfidencePpm := sample.sourceConfidencePpm
        observedPlayers := sample.observedPlayers
        observedAtMillis := sample.observedAtMillis
        collectorId
        rawBodyCid := cidFromHash rawBodyHash (sourceNamespace sample.sourceKind)
        rawBodyHash
        collectorSignature }

def ObservationRecord.signingPayload (env : NodeEnv) (observation : ObservationRecord) : Bytes :=
  env.encodeObservation { observation with collectorSignature := [] }

def developmentSignaturePlaceholder (epochId slotId appId observedPlayers : ℕ) : Bytes :=
  (stableHash32 ("dev-sig:" ++ toString epochId ++ ":" ++ toString slotId ++ ":" ++
    toString appId ++ ":" ++ toString observedPlayers).toUTF8.toList).bytes

structure AssembledBatch where
  batchCommit : BatchCommit
  payloadHash : Hash32
  payloadCid : String
  payloadBytes : Bytes
  observations : List ObservationRecord
  deriving DecidableEq

/-- Observations are put in the order of their slots, apps and times. -/
def observationOrder (left right : ObservationRecord) : Prop :=
  (compare left.slotId right.slotId).then ((compare left.appId right.appId).then
    (compare left.observedAtMillis right.observedAtMillis)) ≠ .gt

instance : DecidableRel observationOrder := fun _ _ => inferInstanceAs (Decidable (_ ≠ _))

namespace NodeEnv

variable (env : NodeEnv)

/-- Sign with the identity where there is one, else leave the placeholder. -/
def signObservation (observation : ObservationRecord) : ObservationRecord :=
  match env.identityKeypair with
  | some keypair =>
      { observation with collectorSignature := keypair.sign (observation.signingPayload env) }
  | none => observation

/-- The builder's last step: order the observations, encode them and commit to them. -/
def finalizeBatch (epochId : ℕ) (collectorId : NodeId) (observations : List ObservationRecord)
    (submittedAtHeight : ℕ) : Except NodePipelineError AssembledBatch :=
  if observations = [] then .error .emptyBatch
  else
    let observations := observations.insertionSort observationOrder
    let payloadBytes := env.encodeObservations observations
    let payloadHash := stableHash32 payloadBytes
    let payloadCid := cidFromHash payloadHash "batch-payload"
    let batchRoot := env.merkleRoot (env.observationLeaves observations)
    .ok
      { batchCommit :=
          { epochId
            collectorId
            slotStart := (observations.head?.map (·.slotId)).getD 0
            slotEnd := (observations.getLast?.map (·.slotId)).getD 0
            batch := ⟨batchRoot, wrap32 observations.length⟩
            payloadCid
            obsCount := wrap32 observations.length
            submittedAtHeight }
        payloadHash
        payloadCid
        payloadBytes
        observations }

def collectBatchFromSamples (epochId slotId : ℕ) (samples : List ActivitySample) :
    Except NodePipelineError AssembledBatch := do
  let observations ← samples.mapM fun sample => do
    let observation ← sample.intoObservation epochId slotId env.nodeId
      (developmentSignaturePlaceholder epochId slotId sample.appId sample.observedPlayers)
    return env.signObservation observation
  env.finalizeBatch epochId env.nodeId observations 0

end NodeEnv

/-! ## The store -/

/-- The payload files by name, the two copies of the book and the batch artifacts, of which only
the content id is read back. `collected` lists the batches of the node itself; no step reads it. -/
structure PayloadStore where
  payloadFiles : OrderedMap String Bytes
  retentionBook : LocalRetentionBook
  savedBook : LocalRetentionBook
  batchArtifacts : OrderedMap (ℕ × ℕ × String) String
  collected : List AssembledBatch

namespace PayloadStore

def fresh (env : NodeEnv) : PayloadStore :=
  ⟨∅, .withQuotaGb env.quotaGb, .withQuotaGb env.quotaGb, ∅, []⟩

variable (env : NodeEnv) (store : PayloadStore)

def payloadFile (payloadCid : String) : Option Bytes :=
  store.payloadFiles[payloadFilenameStub payloadCid]?

def writePayloadFile (payloadCid : String) (bytes : Bytes) : PayloadStore :=
  { store with
    payloadFiles := store.payloadFiles.insert (payloadFilenameStub payloadCid) bytes }

/-- The next tick starts from the book on disk. -/
def abandonTick : PayloadStore :=
  { store with retentionBook := store.savedBook.load env.quotaGb }

/-- What `record_batch_payload` leaves of the book, when the node stores what it collects. -/
def recordCollected (epochId retentionEpochs : ℕ) (batch : AssembledBatch) :
    Except StorageBookError LocalRetentionBook :=
  if env.store then
    (store.retentionBook.recordPayload env env.nodeId epochId retentionEpochs batch.payloadCid
      batch.payloadHash batch.payloadBytes.length).map (·.2)
  else .ok store.retentionBook

/-- Collect, store and write one batch. The tick ends early without a batch, or without room in
the book. -/
def collectTick (epochId slotId retentionEpochs : ℕ) (samples : List ActivitySample) :
    PayloadStore :=
  match env.collectBatchFromSamples epochId slotId samples with
  | .error _ => store.abandonTick env
  | .ok batch =>
      if env.collect then
        match store.recordCollected env epochId retentionEpochs batch with
        | .error _ => store.abandonTick env
        | .ok book =>
            { store.writePayloadFile batch.payloadCid batch.payloadBytes with
              retentionBook := book
              collected := store.collected ++ [batch] }
      else store.abandonTick env

/-- The announced batch and its payload agree in every respect that the node checks. -/
def PayloadMatches (announcement : BatchAnnouncement) (response : PayloadResponse) : Prop :=
  response.payloadCid = announcement.payloadCid ∧
    response.payloadHash = announcement.payloadHash ∧
    stableHash32 response.payloadBytes = announcement.payloadHash ∧
    response.payloadBytes.length = announcement.payloadSizeBytes

instance (announcement : BatchAnnouncement) (response : PayloadResponse) :
    Decidable (PayloadMatches announcement response) :=
  inferInstanceAs (Decidable (_ ∧ _ ∧ _ ∧ _))

def ObservationsMatch (announcement : BatchAnnouncement)
    (observations : List ObservationRecord) : Prop :=
  observations ≠ [] ∧
    wrap32 observations.length = announcement.obsCount ∧
    (∀ observation ∈ observations, observation.collectorId = announcement.collectorId) ∧
    (∀ observation ∈ observations, observation.epochId = announcement.epochId) ∧
    env.merkleRoot (env.observationLeaves observations) = announcement.batchRoot

instance (announcement : BatchAnnouncement) (observations : List ObservationRecord) :
    Decidable (ObservationsMatch env announcement observations) :=
  inferInstanceAs (Decidable (_ ∧ _ ∧ _ ∧ _ ∧ _))

/-- What the batch has to be to be kept: the bytes of its payload and its observations. -/
def acceptedBatch (announcement : BatchAnnouncement) (response : Option PayloadResponse) :
    Option (Bytes × List ObservationRecord) := do
  if announcement.collectorId = env.nodeId then none
  else
    let response ← response
    if PayloadMatches announcement response then
      let observations ← env.decodeObservations response.payloadBytes
      if ObservationsMatch env announcement observations then
        some (response.payloadBytes, observations)
      else none
    else none

def artifactKey (announcement : BatchAnnouncement) (observations : List ObservationRecord) :
    ℕ × ℕ × String :=
  (announcement.epochId, (observations.head?.map (·.slotId)).getD 0,
    payloadArtifactStub announcement.payloadCid)

/-- The payload that a batch announcement makes the node write, if any. -/
def announcedPayload (announcement : BatchAnnouncement) (response : Option PayloadResponse) :
    Option (Bytes × List ObservationRecord) :=
  (acceptedBatch env announcement response).filter fun (_, observations) =>
    store.batchArtifacts[artifactKey announcement observations]? = none

/-- The file is written before the book is asked, and stays when the book refuses. -/
def ingestBatch (announcement : BatchAnnouncement) (response : Option PayloadResponse)
    (retentionEpochs : ℕ) : PayloadStore :=
  match store.announcedPayload env announcement response with
  | none => store
  | some (payloadBytes, observations) =>
      let written := store.writePayloadFile announcement.payloadCid payloadBytes
      match store.retentionBook.recordPayload env env.nodeId announcement.epochId retentionEpochs
          announcement.payloadCid announcement.payloadHash payloadBytes.length with
      | .error _ => written
      | .ok (_, book) =>
          { written with
            retentionBook := book
            batchArtifacts := written.batchArtifacts.insert (artifactKey announcement observations)
              announcement.payloadCid }

def saveBook : PayloadStore := { store with savedBook := store.retentionBook }

/-- The artifact of the node's own batch. -/
def persistCollectTickArtifact (epochId slotId : ℕ) (payloadCid : String) : PayloadStore :=
  { store with
    batchArtifacts := store.batchArtifacts.insert
      (epochId, slotId, payloadArtifactStub payloadCid) payloadCid }

/-- Drop the expired records from the book on disk, and their files and artifacts. The tick does
not use its own copy of the book after that. -/
def pruneRetention (currentEpoch : ℕ) : PayloadStore :=
  let book := store.savedBook.load env.quotaGb
  let removed := (book.expired currentEpoch).map (·.payloadCid)
  { store with
    savedBook := book.pruneExpired currentEpoch
    retentionBook := (book.pruneExpired currentEpoch).load env.quotaGb
    payloadFiles := removed.foldl (fun files payloadCid => files.erase
      (payloadFilenameStub payloadCid)) store.payloadFiles
    batchArtifacts := store.batchArtifacts.filter fun _ payloadCid => payloadCid ∉ removed }

end PayloadStore

end PoleProtocol.Node
