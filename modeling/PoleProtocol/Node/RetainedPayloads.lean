import PoleProtocol.Node.Daemon

/-!
# Retained payloads stay intact

A payload file is written before the book is asked, under a name that a peer chooses through the
content id. The recorded payloads keep their bytes as long as nothing else is written under the
name of a recorded payload, and no expired payload takes the file of another one with it.
-/

namespace PoleProtocol.Node

open Framework OrderedMap Ledger

/-! ## The book -/

/-- The bytes are what the record says. -/
def StoredPayloadRecord.Describes (record : StoredPayloadRecord) (bytes : Bytes) : Prop :=
  stableHash32 bytes = record.payloadHash ∧ bytes.length = record.sizeBytes

namespace LocalRetentionBook

variable {env : NodeEnv} {book book' : LocalRetentionBook}

/-- No record is lost, and only a record of these bytes under this content id is added. -/
def Adds (book book' : LocalRetentionBook) (payloadCid : String) (bytes : Bytes) : Prop :=
  (∀ record ∈ book.payloads.records, record ∈ book'.payloads.records) ∧
    ∀ record ∈ book'.payloads.records, record ∈ book.payloads.records ∨
      (record.payloadCid = payloadCid ∧ record.Describes bytes)

theorem adds_self (payloadCid : String) (bytes : Bytes) : Adds book book payloadCid bytes :=
  ⟨fun _ hmem => hmem, fun _ hmem => .inl hmem⟩

theorem adds_recordPayload {storerId : NodeId} {epochId retentionEpochs : ℕ}
    {payloadCid : String} {payloadHash : Hash32} {bytes : Bytes} {answer : StoredPayloadRecord}
    (hhash : stableHash32 bytes = payloadHash)
    (h : book.recordPayload env storerId epochId retentionEpochs payloadCid payloadHash
      bytes.length = .ok (answer, book')) : Adds book book' payloadCid bytes := by
  unfold recordPayload at h
  cases hold : book.payloads[payloadCid]? with
  | some existing =>
      rw [hold] at h
      cases h
      exact adds_self payloadCid bytes
  | none =>
      rw [hold] at h
      dsimp only at h
      split at h
      · cases h
      · cases h
        constructor
        · intro record hmem
          exact (mem_records_insert_of_none hold).mpr (.inr hmem)
        · intro record hmem
          rcases (mem_records_insert_of_none hold).mp hmem with hnew | hearlier
          · rw [hnew]
            exact .inr ⟨rfl, hhash, rfl⟩
          · exact .inl hearlier

theorem mem_records_pruneExpired {currentEpoch : ℕ} {record : StoredPayloadRecord} :
    record ∈ (book.pruneExpired currentEpoch).payloads.records ↔
      record ∈ book.payloads.records ∧ ¬ record.retentionUntilEpoch < currentEpoch := by
  unfold pruneExpired
  rw [mem_records_filter, decide_eq_true_iff]

theorem mem_expired {currentEpoch : ℕ} {record : StoredPayloadRecord} :
    record ∈ book.expired currentEpoch ↔
      record ∈ book.payloads.records ∧ record.retentionUntilEpoch < currentEpoch := by
  rw [expired, List.mem_filter, decide_eq_true_iff]

end LocalRetentionBook

namespace PayloadStore

variable {env : NodeEnv} {store store' : PayloadStore}

/-! ## The property and the conditions -/

/-- The payload is recorded, in the book of the tick or in the one on disk. -/
def Recorded (store : PayloadStore) (record : StoredPayloadRecord) : Prop :=
  record ∈ store.retentionBook.payloads.records ∨ record ∈ store.savedBook.payloads.records

/-- Every recorded payload has its bytes in its file. -/
def Intact (store : PayloadStore) : Prop :=
  ∀ record, Recorded store record →
    ∃ bytes, store.payloadFile record.payloadCid = some bytes ∧
      record.Describes bytes

/-- The files of the recorded payloads are the same afterwards. -/
def KeepsFiles (store store' : PayloadStore) : Prop :=
  ∀ record, Recorded store record →
    store'.payloadFile record.payloadCid = store.payloadFile record.payloadCid

/-- Each recorded payload that shares its file with the content id is described by these bytes. -/
def SharesDescription (store : PayloadStore) (payloadCid : String) (bytes : Bytes) : Prop :=
  ∀ record, Recorded store record →
    payloadFilenameStub record.payloadCid = payloadFilenameStub payloadCid →
    record.Describes bytes

/-- If a recorded payload shares its file with the content id, the file holds these bytes. -/
def SharesBytes (store : PayloadStore) (payloadCid : String) (bytes : Bytes) : Prop :=
  ∀ record, Recorded store record →
    payloadFilenameStub record.payloadCid = payloadFilenameStub payloadCid →
    store.payloadFile payloadCid = some bytes

/-- No expired record shares its file with one that stays. -/
def ExpiresAlone (store : PayloadStore) (currentEpoch : ℕ) : Prop :=
  ∀ record ∈ store.savedBook.payloads.records, ¬ record.retentionUntilEpoch < currentEpoch →
    ∀ expired ∈ store.savedBook.payloads.records, expired.retentionUntilEpoch < currentEpoch →
      payloadFilenameStub expired.payloadCid ≠ payloadFilenameStub record.payloadCid

/-! ## One write -/

theorem payloadFile_of_write {cid other : String} {bytes : Bytes}
    (hfiles : store'.payloadFiles = (store.writePayloadFile cid bytes).payloadFiles) :
    store'.payloadFile other =
      if payloadFilenameStub other = payloadFilenameStub cid then some bytes
      else store.payloadFile other := by
  unfold payloadFile
  rw [hfiles, writePayloadFile, get_insert]
  simp only [eq_comm]

theorem recorded_of_adds {cid : String} {bytes : Bytes}
    (hsaved : store'.savedBook = store.savedBook)
    (hadds : LocalRetentionBook.Adds store.retentionBook store'.retentionBook cid bytes) :
    (∀ record, Recorded store record → Recorded store' record) ∧
      ∀ record, Recorded store' record →
        Recorded store record ∨ (record.payloadCid = cid ∧ record.Describes bytes) := by
  unfold Recorded
  rw [hsaved]
  constructor
  · rintro record (hmem | hmem)
    · exact .inl (hadds.1 record hmem)
    · exact .inr hmem
  · rintro record (hmem | hmem)
    · rcases hadds.2 record hmem with hearlier | hnew
      · exact .inl (.inl hearlier)
      · exact .inr hnew
    · exact .inl (.inr hmem)

/-- A write that at most adds the record of the written payload keeps the payloads intact exactly
when the written bytes are those of every payload that shares the file. -/
theorem intact_write_iff {cid : String} {bytes : Bytes}
    (hfiles : store'.payloadFiles = (store.writePayloadFile cid bytes).payloadFiles)
    (hsaved : store'.savedBook = store.savedBook)
    (hadds : LocalRetentionBook.Adds store.retentionBook store'.retentionBook cid bytes)
    (hintact : Intact store) : SharesDescription store cid bytes ↔ Intact store' := by
  obtain ⟨hold, hnew⟩ := recorded_of_adds hsaved hadds
  constructor
  · intro hshares record hrecord
    rw [payloadFile_of_write hfiles]
    by_cases hname : payloadFilenameStub record.payloadCid = payloadFilenameStub cid
    · refine ⟨bytes, if_pos hname, ?_⟩
      rcases hnew record hrecord with hearlier | ⟨_, hdescribes⟩
      · exact hshares record hearlier hname
      · exact hdescribes
    · rw [if_neg hname]
      rcases hnew record hrecord with hearlier | ⟨hcid, _⟩
      · exact hintact record hearlier
      · exact absurd (congrArg payloadFilenameStub hcid) hname
  · intro hafter record hrecord hname
    obtain ⟨stored, hstored, hdescribes⟩ := hafter record (hold record hrecord)
    rw [payloadFile_of_write hfiles, if_pos hname] at hstored
    rw [Option.some.inj hstored]
    exact hdescribes

/-- A write leaves the files of the recorded payloads alone exactly when it changes none of
them. -/
theorem keepsFiles_write_iff {cid : String} {bytes : Bytes}
    (hfiles : store'.payloadFiles = (store.writePayloadFile cid bytes).payloadFiles) :
    SharesBytes store cid bytes ↔ KeepsFiles store store' := by
  constructor
  · intro hshares record hrecord
    rw [payloadFile_of_write hfiles]
    by_cases hname : payloadFilenameStub record.payloadCid = payloadFilenameStub cid
    · rw [if_pos hname, ← hshares record hrecord hname]
      unfold payloadFile
      rw [hname]
    · exact if_neg hname
  · intro hkeeps record hrecord hname
    have hkept := hkeeps record hrecord
    rw [payloadFile_of_write hfiles, if_pos hname] at hkept
    rw [hkept]
    unfold payloadFile
    rw [hname]

/-- Bytes that an intact file holds already are those of its payloads. -/
theorem sharesDescription_of_bytes {cid : String} {bytes : Bytes} (hintact : Intact store)
    (hshares : SharesBytes store cid bytes) : SharesDescription store cid bytes := by
  intro record hrecord hname
  obtain ⟨stored, hstored, hdescribes⟩ := hintact record hrecord
  have hsame : store.payloadFile record.payloadCid = store.payloadFile cid := by
    unfold payloadFile
    rw [hname]
  rw [hsame, hshares record hrecord hname] at hstored
  rw [Option.some.inj hstored]
  exact hdescribes

/-! ## The operations -/

/-- Fewer recorded payloads in the same files stay intact. -/
theorem intact_of_recorded (hold : ∀ record, Recorded store' record → Recorded store record)
    (hfiles : store'.payloadFiles = store.payloadFiles) (hintact : Intact store) :
    Intact store' := by
  intro record hrecord
  have hfile : store'.payloadFile record.payloadCid = store.payloadFile record.payloadCid := by
    unfold payloadFile
    rw [hfiles]
  rw [hfile]
  exact hintact record (hold record hrecord)

theorem intact_fresh : Intact (fresh env) := by
  intro record hrecord
  have hnone : record ∉ ((∅ : OrderedMap String StoredPayloadRecord)).records := by
    simp [mem_records]
  rcases hrecord with hmem | hmem
  · exact absurd hmem hnone
  · exact absurd hmem hnone

theorem intact_abandonTick (hintact : Intact store) : Intact (store.abandonTick env) := by
  have hold : ∀ record, Recorded (store.abandonTick env) record → Recorded store record := by
    rintro record (hmem | hmem)
    · exact .inr hmem
    · exact .inr hmem
  exact intact_of_recorded hold rfl hintact

theorem intact_saveBook (hintact : Intact store) : Intact store.saveBook := by
  have hold : ∀ record, Recorded store.saveBook record → Recorded store record := by
    rintro record (hmem | hmem)
    · exact .inl hmem
    · exact .inl hmem
  exact intact_of_recorded hold rfl hintact

/-- Pruning takes away the files of the expired payloads and, with them, those of the payloads
that share one. -/
theorem intact_pruneRetention_iff {currentEpoch : ℕ} (hintact : Intact store) :
    ExpiresAlone store currentEpoch ↔ Intact (store.pruneRetention env currentEpoch) := by
  have hrecorded : ∀ record, Recorded (store.pruneRetention env currentEpoch) record ↔
      record ∈ store.savedBook.payloads.records ∧
        ¬ record.retentionUntilEpoch < currentEpoch := by
    intro record
    rw [← LocalRetentionBook.mem_records_pruneExpired]
    exact or_self_iff
  have hfile : ∀ cid : String, (store.pruneRetention env currentEpoch).payloadFile cid =
      if ∃ expired ∈ store.savedBook.payloads.records,
        expired.retentionUntilEpoch < currentEpoch ∧
          payloadFilenameStub expired.payloadCid = payloadFilenameStub cid
      then none else store.payloadFile cid := by
    intro cid
    have hexpired : payloadFilenameStub cid ∈ (((store.savedBook.load env.quotaGb).expired
        currentEpoch).map (·.payloadCid)).map payloadFilenameStub ↔
        ∃ expired ∈ store.savedBook.payloads.records,
          expired.retentionUntilEpoch < currentEpoch ∧
            payloadFilenameStub expired.payloadCid = payloadFilenameStub cid := by
      simp only [List.map_map, List.mem_map, LocalRetentionBook.mem_expired, and_assoc]
      rfl
    rw [payloadFile, pruneRetention, get_foldl_erase]
    exact if_congr hexpired rfl rfl
  constructor
  · intro halone record hrecord
    obtain ⟨hmem, hstays⟩ := (hrecorded record).mp hrecord
    rw [hfile, if_neg]
    · exact hintact record (.inr hmem)
    · rintro ⟨expired, hexpired, hends, hname⟩
      exact halone record hmem hstays expired hexpired hends hname
  · intro hafter record hmem hstays expired hexpired hends hname
    obtain ⟨bytes, hbytes, _⟩ := hafter record ((hrecorded record).mpr ⟨hmem, hstays⟩)
    rw [hfile, if_pos ⟨expired, hexpired, hends, hname⟩] at hbytes
    cases hbytes

/-- The batch is the one the tick collects and records. -/
def Collects (env : NodeEnv) (store : PayloadStore) (epochId slotId retentionEpochs : ℕ)
    (samples : List ActivitySample) (batch : AssembledBatch) : Prop :=
  env.collectBatchFromSamples epochId slotId samples = .ok batch ∧ env.collect = true ∧
    ∃ book, store.recordCollected env epochId retentionEpochs batch = .ok book

theorem payloadHash_of_collectBatch {epochId slotId : ℕ} {samples : List ActivitySample}
    {batch : AssembledBatch} (h : env.collectBatchFromSamples epochId slotId samples = .ok batch) :
    batch.payloadHash = stableHash32 batch.payloadBytes := by
  unfold NodeEnv.collectBatchFromSamples at h
  obtain ⟨observations, _, hbatch⟩ := bind_eq_ok.mp h
  unfold NodeEnv.finalizeBatch at hbatch
  split at hbatch
  · cases hbatch
  · cases hbatch
    rfl

theorem adds_recordCollected {epochId retentionEpochs : ℕ} {batch : AssembledBatch}
    {book : LocalRetentionBook} (hhash : batch.payloadHash = stableHash32 batch.payloadBytes)
    (h : store.recordCollected env epochId retentionEpochs batch = .ok book) :
    LocalRetentionBook.Adds store.retentionBook book batch.payloadCid batch.payloadBytes := by
  unfold recordCollected at h
  split at h
  · cases hrecord : store.retentionBook.recordPayload env env.nodeId epochId retentionEpochs
        batch.payloadCid batch.payloadHash batch.payloadBytes.length with
    | error _ =>
        rw [hrecord] at h
        cases h
    | ok result =>
        rw [hrecord] at h
        cases h
        exact LocalRetentionBook.adds_recordPayload hhash.symm hrecord
  · cases h
    exact LocalRetentionBook.adds_self _ _

/-- A tick keeps the payloads intact exactly when the batch that it collects, if any, has the
bytes of the payloads that share its file. -/
theorem intact_collectTick_iff {epochId slotId retentionEpochs : ℕ}
    {samples : List ActivitySample} (hintact : Intact store) :
    (∀ batch, Collects env store epochId slotId retentionEpochs samples batch →
      SharesDescription store batch.payloadCid batch.payloadBytes) ↔
      Intact (store.collectTick env epochId slotId retentionEpochs samples) := by
  unfold Collects collectTick
  cases hbatch : env.collectBatchFromSamples epochId slotId samples with
  | error _ =>
      refine iff_of_true ?_ (intact_abandonTick hintact)
      rintro batch ⟨hok, _⟩
      cases hok
  | ok batch =>
      by_cases hcollect : env.collect = true
      · cases hbook : store.recordCollected env epochId retentionEpochs batch with
        | error _ =>
            refine iff_of_true ?_ (by simpa [hcollect, hbook] using intact_abandonTick hintact)
            rintro other ⟨hok, _, book, hother⟩
            cases hok
            rw [hbook] at hother
            cases hother
        | ok book =>
            have hadds := adds_recordCollected (payloadHash_of_collectBatch hbatch) hbook
            have hwrite : SharesDescription store batch.payloadCid batch.payloadBytes ↔
                Intact { store.writePayloadFile batch.payloadCid batch.payloadBytes with
                  retentionBook := book
                  collected := store.collected ++ [batch] } :=
              intact_write_iff rfl rfl hadds hintact
            simp only [hcollect, if_true, hbook]
            rw [← hwrite]
            constructor
            · exact fun hall => hall batch ⟨rfl, trivial, book, hbook⟩
            · rintro hshares other ⟨hok, _⟩
              cases hok
              exact hshares
      · refine iff_of_true ?_ (by simpa [hcollect] using intact_abandonTick hintact)
        rintro other ⟨_, hother, _⟩
        exact absurd hother hcollect

/-- The bytes that are kept have the announced hash. -/
theorem hash_of_announcedPayload {announcement : BatchAnnouncement}
    {response : Option PayloadResponse} {bytes : Bytes} {observations : List ObservationRecord}
    (h : store.announcedPayload env announcement response = some (bytes, observations)) :
    stableHash32 bytes = announcement.payloadHash := by
  unfold announcedPayload at h
  obtain ⟨haccepted, _⟩ := Option.filter_eq_some_iff.mp h
  unfold acceptedBatch at haccepted
  split at haccepted
  · cases haccepted
  · obtain ⟨answer, _, hanswer⟩ := Option.bind_eq_some_iff.mp haccepted
    split at hanswer
    · next hmatches =>
        obtain ⟨decoded, _, hdecoded⟩ := Option.bind_eq_some_iff.mp hanswer
        split at hdecoded
        · cases hdecoded
          exact hmatches.2.2.1
        · cases hdecoded
    · cases hanswer

/-- A batch that is kept is written, and recorded where there is room. -/
theorem written_ingestBatch {announcement : BatchAnnouncement} {response : Option PayloadResponse}
    (retentionEpochs : ℕ) {bytes : Bytes} {observations : List ObservationRecord}
    (h : store.announcedPayload env announcement response = some (bytes, observations)) :
    (store.ingestBatch env announcement response retentionEpochs).payloadFiles =
        (store.writePayloadFile announcement.payloadCid bytes).payloadFiles ∧
      (store.ingestBatch env announcement response retentionEpochs).savedBook = store.savedBook ∧
      LocalRetentionBook.Adds store.retentionBook
        (store.ingestBatch env announcement response retentionEpochs).retentionBook
        announcement.payloadCid bytes := by
  unfold ingestBatch
  rw [h]
  dsimp only
  cases hrecord : store.retentionBook.recordPayload env env.nodeId announcement.epochId
      retentionEpochs announcement.payloadCid announcement.payloadHash bytes.length with
  | error _ => exact ⟨rfl, rfl, LocalRetentionBook.adds_self _ _⟩
  | ok result =>
      have hhash := hash_of_announcedPayload h
      exact ⟨rfl, rfl, LocalRetentionBook.adds_recordPayload hhash hrecord⟩

/-- An announcement keeps the payloads intact and their files the same exactly when the bytes it
makes the node write are in the file already, where a recorded payload has that file. -/
theorem intact_ingestBatch_iff {announcement : BatchAnnouncement}
    {response : Option PayloadResponse} {retentionEpochs : ℕ} (hintact : Intact store) :
    (∀ bytes observations,
      store.announcedPayload env announcement response = some (bytes, observations) →
      SharesBytes store announcement.payloadCid bytes) ↔
      Intact (store.ingestBatch env announcement response retentionEpochs) ∧
        KeepsFiles store (store.ingestBatch env announcement response retentionEpochs) := by
  cases hannounced : store.announcedPayload env announcement response with
  | none =>
      have hsame : store.ingestBatch env announcement response retentionEpochs = store := by
        unfold ingestBatch
        rw [hannounced]
      rw [hsame]
      refine iff_of_true ?_ ⟨hintact, fun _ _ => rfl⟩
      intro bytes observations hnone
      cases hnone
  | some payload =>
      obtain ⟨bytes, observations⟩ := payload
      obtain ⟨hfiles, hsaved, hadds⟩ := written_ingestBatch retentionEpochs hannounced
      constructor
      · intro hall
        have hshares := hall bytes observations rfl
        have hdescribed := sharesDescription_of_bytes hintact hshares
        exact ⟨(intact_write_iff hfiles hsaved hadds hintact).mp hdescribed,
          (keepsFiles_write_iff hfiles).mp hshares⟩
      · rintro ⟨_, hkeeps⟩ other others hother
        cases hother
        exact (keepsFiles_write_iff hfiles).mpr hkeeps

end PayloadStore

/-! ## Runs -/

namespace NodeState

open PayloadStore

variable {env : NodeEnv} {s : NodeState}

/-- A tick collects under the file name of a recorded payload only the bytes that the record
describes, a peer's batch is written there only if those bytes are in the file already, and no
payload expires before another one with its file. -/
def KeepsPayloads (env : NodeEnv) (s : NodeState) : NodeEvent → Prop
  | .collectTick epochId slotId retentionEpochs samples =>
      ∀ batch, Collects env s.storage epochId slotId retentionEpochs samples batch →
        SharesDescription s.storage batch.payloadCid batch.payloadBytes
  | .envelope (.batch announcement) response _ =>
      ∀ bytes observations,
        s.storage.announcedPayload env announcement response = some (bytes, observations) →
        SharesBytes s.storage announcement.payloadCid bytes
  | .pruneRetention currentEpoch => ExpiresAlone s.storage currentEpoch
  | _ => True

/-- The announcement leaves the files of the recorded payloads alone. -/
def SparesFiles (env : NodeEnv) (s : NodeState) : NodeEvent → Prop
  | .envelope message response retentionEpochs =>
      KeepsFiles s.storage (s.ingest env message response retentionEpochs).storage
  | _ => True

theorem keepsPayloads_iff {event : NodeEvent} (hintact : Intact s.storage) :
    KeepsPayloads env s event ↔
      Intact (s.next env event).storage ∧ SparesFiles env s event := by
  cases event with
  | collectTick epochId slotId retentionEpochs samples =>
      exact (intact_collectTick_iff hintact).trans (and_iff_left trivial).symm
  | envelope message response retentionEpochs =>
      cases message with
      | batch announcement => exact intact_ingestBatch_iff hintact
      | _ => exact iff_of_true trivial ⟨hintact, fun _ _ => rfl⟩
  | pruneRetention currentEpoch =>
      exact (intact_pruneRetention_iff hintact).trans (and_iff_left trivial).symm
  | saveBook => exact iff_of_true trivial ⟨intact_saveBook hintact, trivial⟩
  | abandonTick => exact iff_of_true trivial ⟨intact_abandonTick hintact, trivial⟩
  | _ => exact iff_of_true trivial ⟨hintact, trivial⟩

/-- In every order of ticks and announcements: every recorded payload is intact in every state,
and no announcement changes the file of a recorded payload, if and only if each event meets its
condition. -/
theorem payloads_intact_iff (env : NodeEnv) (events : List NodeEvent) :
    Meets (next env) (KeepsPayloads env) (fresh env) events ↔
      (∀ before after, events = before ++ after →
        Intact (run (next env) (fresh env) before).storage) ∧
        Meets (next env) (SparesFiles env) (fresh env) events := by
  have hexact : ∀ s event, True → True → Intact s.storage →
      (KeepsPayloads env s event ↔ Intact (s.next env event).storage ∧ SparesFiles env s event) :=
    fun s event _ _ hintact => keepsPayloads_iff hintact
  exact meets_iff_prefixes_and_steps (A := fun _ => True) (I := fun _ => True)
    (P := fun s : NodeState => Intact s.storage) (fun _ _ _ _ _ => trivial) hexact trivial
    intact_fresh fun _ _ => trivial

/-- The content id of the batch that the sample node collects. -/
def Sample.ownPayloadCid : String :=
  "cid://batch-payload/12ee76f6ac90353e19566572c9344bdb838d0e6937bfbc6c4b0ff84a75209e99"

/-- The peer's batch is announced under the content id of the node's own one. -/
theorem payload_overwritten :
    ¬ ∀ (env : NodeEnv) (events : List NodeEvent),
      Intact (run (next env) (fresh env) events).storage := by
  intro hall
  have hintact := hall Sample.env [Sample.collected, Sample.ingested Sample.ownPayloadCid]
  have hforeign : ∃ record ∈ (run (next Sample.env) (fresh Sample.env)
      [Sample.collected, Sample.ingested Sample.ownPayloadCid]).storage.retentionBook.payloads.records,
      (run (next Sample.env) (fresh Sample.env)
        [Sample.collected, Sample.ingested Sample.ownPayloadCid]).storage.payloadFile
          record.payloadCid = some Sample.peerPayload ∧
        stableHash32 Sample.peerPayload ≠ record.payloadHash := by
    decide +kernel
  obtain ⟨record, hmem, hfile, hhash⟩ := hforeign
  obtain ⟨bytes, hbytes, hdescribes, _⟩ := hintact record (.inl hmem)
  rw [hfile] at hbytes
  rw [← Option.some.inj hbytes] at hdescribes
  exact hhash hdescribes

end NodeState

end PoleProtocol.Node
