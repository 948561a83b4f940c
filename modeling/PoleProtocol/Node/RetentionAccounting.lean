import PoleProtocol.Framework.Run
import PoleProtocol.Node.RewardRoot
import PoleProtocol.Node.Retention

/-!
# Accounting in the retention book

The used bytes are kept beside the records, and a content id that is recorded is not recorded
again. In every run the bytes are those of the records, and stay within the quota; what a call gets
back is what it asked for only if nothing else was recorded under the content id.
-/

namespace PoleProtocol.Node

open Framework OrderedMap Ledger

/-! ## Calls -/

structure PayloadRequest where
  storerId : NodeId
  epochId : ℕ
  retentionEpochs : ℕ
  payloadCid : String
  payloadHash : Hash32
  sizeBytes : ℕ
  epochId_lt : epochId < 2 ^ 64
  retentionEpochs_lt : retentionEpochs < 2 ^ 32
  sizeBytes_lt : sizeBytes < 2 ^ 64

/-- The epoch up to which the payload is to be retained. -/
def PayloadRequest.until (request : PayloadRequest) : ℕ :=
  request.epochId + request.retentionEpochs

inductive RetentionCall where
  | record (request : PayloadRequest)
  | prune (currentEpoch : ℕ) (currentEpoch_lt : currentEpoch < 2 ^ 64)

namespace LocalRetentionBook

variable (env : NodeEnv)

def request (book : LocalRetentionBook) (request : PayloadRequest) :
    Except StorageBookError (StoredPayloadRecord × LocalRetentionBook) :=
  book.recordPayload env request.storerId request.epochId request.retentionEpochs
    request.payloadCid request.payloadHash request.sizeBytes

/-- The book after a call; it is written after the check of the quota only. -/
def next (book : LocalRetentionBook) : RetentionCall → LocalRetentionBook
  | .record request =>
      match book.request env request with
      | .ok (_, book') => book'
      | .error _ => book
  | .prune currentEpoch _ => book.pruneExpired currentEpoch

/-- A book without records. -/
def ofQuota (quotaBytes : ℕ) : LocalRetentionBook := ⟨quotaBytes, 0, ∅⟩

/-! ## One call -/

def recordedBytes (records : List StoredPayloadRecord) : ℕ := (records.map (·.sizeBytes)).sum

/-- The used bytes are those of the records, and within the quota. -/
structure Accounts (book : LocalRetentionBook) : Prop where
  used : book.usedBytes = recordedBytes book.payloads.records
  quota : book.usedBytes ≤ book.quotaBytes

variable {env} {book book' : LocalRetentionBook}

/-- What a successful request does: it answers with the old record, or adds a new one. -/
theorem request_ok {request : PayloadRequest} {answer : StoredPayloadRecord}
    (h : book.request env request = .ok (answer, book')) :
    (book.payloads[request.payloadCid]? = some answer ∧ book' = book) ∨
    (book.payloads[request.payloadCid]? = none ∧
      saturatingAdd64 book.usedBytes request.sizeBytes ≤ book.quotaBytes ∧
      answer.payloadHash = request.payloadHash ∧ answer.sizeBytes = request.sizeBytes ∧
      answer.retentionUntilEpoch = wrap64 request.until ∧
      book'.quotaBytes = book.quotaBytes ∧
      book'.usedBytes = book.usedBytes + request.sizeBytes ∧
      book'.payloads = book.payloads.insert request.payloadCid answer) := by
  unfold LocalRetentionBook.request recordPayload at h
  cases hold : book.payloads[request.payloadCid]? with
  | some existing =>
      rw [hold] at h
      cases h
      exact .inl ⟨rfl, rfl⟩
  | none =>
      rw [hold] at h
      dsimp only at h
      split at h
      · cases h
      · next hfits =>
          cases h
          exact .inr ⟨rfl, Nat.not_lt.mp hfits, rfl, rfl, rfl, rfl, rfl, rfl⟩

theorem recordedBytes_eq_total (book : LocalRetentionBook) :
    recordedBytes book.payloads.records =
      total (fun _ record => record.sizeBytes) book.payloads := by
  rw [recordedBytes, records, List.map_map]
  rfl

theorem accounts_request {request : PayloadRequest} {answer : StoredPayloadRecord}
    (hquota : book.quotaBytes < 2 ^ 64 - 1) (hbook : book.Accounts)
    (h : book.request env request = .ok (answer, book')) : book'.Accounts := by
  rcases request_ok h with ⟨_, rfl⟩ | ⟨hnew, hfits, _, hsize, _, hquota', hused, hpayloads⟩
  · exact hbook
  · constructor
    · rw [recordedBytes_eq_total, hpayloads, total_insert_of_none _ answer hnew,
        ← recordedBytes_eq_total, ← hbook.used, hsize, hused]
    · unfold saturatingAdd64 at hfits
      rw [hused, hquota']
      omega

theorem foldl_sub (records : List StoredPayloadRecord) (used : ℕ) :
    records.foldl (fun used record => used - record.sizeBytes) used =
      used - recordedBytes records := by
  induction records generalizing used with
  | nil => rfl
  | cons record records ih =>
      rw [List.foldl_cons, ih, recordedBytes, recordedBytes, List.map_cons, List.sum_cons,
        Nat.sub_sub]

theorem records_pruneExpired (book : LocalRetentionBook) (currentEpoch : ℕ) :
    (book.pruneExpired currentEpoch).payloads.records =
      book.payloads.records.filter fun record => ¬ record.retentionUntilEpoch < currentEpoch := by
  rw [pruneExpired, records, records, Std.ExtTreeMap.toList_filter, List.filter_map]
  rfl

/-- The records are the expired ones and the ones that stay. -/
theorem recordedBytes_split (book : LocalRetentionBook) (currentEpoch : ℕ) :
    recordedBytes (book.pruneExpired currentEpoch).payloads.records +
      recordedBytes (book.expired currentEpoch) = recordedBytes book.payloads.records := by
  have hsplit := List.filter_append_perm
    (fun record : StoredPayloadRecord => decide (record.retentionUntilEpoch < currentEpoch))
    book.payloads.records
  have hsum := (hsplit.map (·.sizeBytes)).sum_eq
  rw [List.map_append, List.sum_append] at hsum
  rw [records_pruneExpired, expired, recordedBytes, recordedBytes, recordedBytes, ← hsum, add_comm]
  simp only [decide_not]

/-- What a call of `prune_expired` does to a book. -/
structure PrunesExactly (book : LocalRetentionBook) (currentEpoch : ℕ) : Prop where
  kept : ∀ (payloadCid : String) (record : StoredPayloadRecord),
    (book.pruneExpired currentEpoch).payloads[payloadCid]? = some record ↔
      book.payloads[payloadCid]? = some record ∧ ¬ record.retentionUntilEpoch < currentEpoch
  freed : (book.pruneExpired currentEpoch).usedBytes +
    recordedBytes (book.expired currentEpoch) = book.usedBytes

theorem get_pruneExpired {currentEpoch : ℕ} {payloadCid : String} {record : StoredPayloadRecord} :
    (book.pruneExpired currentEpoch).payloads[payloadCid]? = some record ↔
      book.payloads[payloadCid]? = some record ∧ ¬ record.retentionUntilEpoch < currentEpoch := by
  rw [pruneExpired, Std.ExtTreeMap.getElem?_filter', Option.filter_eq_some_iff, decide_eq_true_iff]

theorem Accounts.pruneExpired_used (hbook : book.Accounts) (currentEpoch : ℕ) :
    (book.pruneExpired currentEpoch).usedBytes =
      recordedBytes (book.pruneExpired currentEpoch).payloads.records := by
  have hsplit := recordedBytes_split book currentEpoch
  have hused := hbook.used
  have hfolded : (book.pruneExpired currentEpoch).usedBytes =
      book.usedBytes - recordedBytes (book.expired currentEpoch) := foldl_sub _ _
  omega

theorem Accounts.prunesExactly (hbook : book.Accounts) (currentEpoch : ℕ) :
    PrunesExactly book currentEpoch := by
  refine ⟨fun _ _ => get_pruneExpired, ?_⟩
  rw [hbook.pruneExpired_used, recordedBytes_split, hbook.used]

theorem Accounts.pruneExpired (hbook : book.Accounts) (currentEpoch : ℕ) :
    (book.pruneExpired currentEpoch).Accounts := by
  refine ⟨hbook.pruneExpired_used currentEpoch, ?_⟩
  have hfreed := (hbook.prunesExactly currentEpoch).freed
  have hquota : (book.pruneExpired currentEpoch).quotaBytes = book.quotaBytes := rfl
  have hwithin := hbook.quota
  omega

/-! ## Runs -/

/-- The quota stays, and the accounts are in order. -/
def Ordered (quotaBytes : ℕ) (book : LocalRetentionBook) : Prop :=
  book.quotaBytes = quotaBytes ∧ book.Accounts

theorem ordered_next {quotaBytes : ℕ} (hquota : quotaBytes < 2 ^ 64 - 1)
    (book : LocalRetentionBook) (call : RetentionCall) (h : Ordered quotaBytes book) :
    Ordered quotaBytes (book.next env call) := by
  obtain ⟨hsame, hbook⟩ := h
  cases call with
  | prune currentEpoch _ => exact ⟨hsame, hbook.pruneExpired currentEpoch⟩
  | record request =>
      rw [LocalRetentionBook.next]
      cases hrequest : book.request env request with
      | error e => exact ⟨hsame, hbook⟩
      | ok result =>
          refine ⟨?_, accounts_request (hsame ▸ hquota) hbook hrequest⟩
          rcases request_ok hrequest with ⟨_, hsameBook⟩ | ⟨_, _, _, _, _, hquota', _, _⟩
          · exact hsameBook ▸ hsame
          · exact hquota'.trans hsame

theorem ordered_ofQuota (quotaBytes : ℕ) : Ordered quotaBytes (ofQuota quotaBytes) := by
  refine ⟨rfl, ?_, Nat.zero_le _⟩
  rw [recordedBytes_eq_total, ofQuota, total_empty]

/-- In every run from an empty book the used bytes are those of the records and within the quota, a
failed request changes nothing, and pruning removes exactly the expired records and their bytes. -/
theorem retention_book_accounts (env : NodeEnv) {quotaBytes : ℕ}
    (hquota : quotaBytes < 2 ^ 64 - 1) (calls : List RetentionCall) :
    let book := run (next env) (ofQuota quotaBytes) calls
    (book.usedBytes = recordedBytes book.payloads.records ∧ book.usedBytes ≤ quotaBytes) ∧
      (∀ (request : PayloadRequest) (e : StorageBookError), book.request env request = .error e →
        book.next env (.record request) = book) ∧
      ∀ currentEpoch, PrunesExactly book currentEpoch := by
  intro book
  obtain ⟨hsame, hbook⟩ : Ordered quotaBytes book :=
    run_preserves (ordered_next hquota) calls (ordered_ofQuota quotaBytes)
  refine ⟨⟨hbook.used, hsame ▸ hbook.quota⟩, ?_, hbook.prunesExactly⟩
  intro request e herror
  rw [next, herror]

/-! ## What a request gets -/

/-- No call prunes after the epoch. -/
def PrunesUpTo (epoch : ℕ) (calls : List RetentionCall) : Prop :=
  ∀ currentEpoch currentEpoch_lt, .prune currentEpoch currentEpoch_lt ∈ calls →
    currentEpoch ≤ epoch

/-- The answer is the payload that was asked for, and stays recorded up to the end of the retention
that was asked for. -/
def AnswersRequest (env : NodeEnv) (book : LocalRetentionBook) : RetentionCall → Prop
  | .record request => ∀ answer book', book.request env request = .ok (answer, book') →
      answer.payloadHash = request.payloadHash ∧ answer.sizeBytes = request.sizeBytes ∧
      ∀ later : List RetentionCall, PrunesUpTo request.until later →
        (run (next env) book' later).payloads[request.payloadCid]? = some answer
  | .prune _ _ => True

/-- The content id is recorded with the same payload and for long enough, or it is not recorded and
the end of the retention is a word. -/
def NewOrSame (book : LocalRetentionBook) : RetentionCall → Prop
  | .record request =>
      match book.payloads[request.payloadCid]? with
      | some existing => existing.payloadHash = request.payloadHash ∧
          existing.sizeBytes = request.sizeBytes ∧
          min request.until (2 ^ 64 - 1) ≤ existing.retentionUntilEpoch
      | none => saturatingAdd64 book.usedBytes request.sizeBytes ≤ book.quotaBytes →
          request.until < 2 ^ 64
  | .prune _ _ => True

/-- A record stays through every call but a pruning after its end. -/
theorem retained_next {payloadCid : String} {record : StoredPayloadRecord} (call : RetentionCall)
    (hget : book.payloads[payloadCid]? = some record)
    (hprunes : PrunesUpTo record.retentionUntilEpoch [call]) :
    (book.next env call).payloads[payloadCid]? = some record := by
  cases call with
  | prune currentEpoch currentEpoch_lt =>
      have hle := hprunes currentEpoch currentEpoch_lt (List.mem_singleton.mpr rfl)
      exact get_pruneExpired.mpr ⟨hget, Nat.not_lt.mpr hle⟩
  | record request =>
      rw [LocalRetentionBook.next]
      cases hrequest : book.request env request with
      | error e => exact hget
      | ok result =>
          rcases request_ok hrequest with ⟨_, hsame⟩ | ⟨hnew, _, _, _, _, _, _, hpayloads⟩
          · exact hsame ▸ hget
          · have hother : request.payloadCid ≠ payloadCid := by
              rintro rfl
              rw [hnew] at hget
              cases hget
            change result.2.payloads[payloadCid]? = some record
            rw [hpayloads, get_insert_ne _ _ hother, hget]

theorem retained_run {payloadCid : String} {record : StoredPayloadRecord}
    (later : List RetentionCall) : ∀ {book : LocalRetentionBook},
    book.payloads[payloadCid]? = some record → PrunesUpTo record.retentionUntilEpoch later →
    (run (next env) book later).payloads[payloadCid]? = some record := by
  induction later with
  | nil => exact fun hget _ => hget
  | cons call later ih =>
      intro book hget hprunes
      refine ih (retained_next call hget ?_) ?_
      · intro currentEpoch currentEpoch_lt hmem
        rw [← List.mem_singleton.mp hmem] at hprunes
        exact hprunes currentEpoch currentEpoch_lt List.mem_cons_self
      · exact fun currentEpoch currentEpoch_lt hmem =>
          hprunes currentEpoch currentEpoch_lt (List.mem_cons_of_mem _ hmem)

/-- A record that outlives every pruning up to an epoch ends at that epoch or later, or never. -/
theorem retained_iff (env : NodeEnv) {payloadCid : String} {record : StoredPayloadRecord}
    {epoch : ℕ}
    (hget : book.payloads[payloadCid]? = some record) :
    (∀ later : List RetentionCall, PrunesUpTo epoch later →
        (run (next env) book later).payloads[payloadCid]? = some record) ↔
      min epoch (2 ^ 64 - 1) ≤ record.retentionUntilEpoch := by
  constructor
  · intro hretained
    have hlt : min epoch (2 ^ 64 - 1) < 2 ^ 64 := by omega
    have hpruned := hretained [.prune (min epoch (2 ^ 64 - 1)) hlt] (by
      intro currentEpoch currentEpoch_lt hmem
      cases List.mem_singleton.mp hmem
      exact min_le_left _ _)
    exact Nat.not_lt.mp (get_pruneExpired.mp hpruned).2
  · intro hends later hprunes
    refine retained_run later hget ?_
    intro currentEpoch currentEpoch_lt hmem
    have hle := hprunes currentEpoch currentEpoch_lt hmem
    omega

theorem answersRequest_iff (book : LocalRetentionBook) (call : RetentionCall) :
    book.AnswersRequest env call ↔ book.NewOrSame call := by
  cases call with
  | prune => exact Iff.rfl
  | record request =>
      unfold AnswersRequest NewOrSame
      dsimp only
      cases hold : book.payloads[request.payloadCid]? with
      | some existing =>
          have hrequest : book.request env request = .ok (existing, book) := by
            rw [LocalRetentionBook.request, recordPayload, hold]
          simp only [hrequest, Except.ok.injEq, Prod.mk.injEq]
          rw [← retained_iff env hold]
          constructor
          · exact fun h => h existing book ⟨rfl, rfl⟩
          · rintro h _ _ ⟨rfl, rfl⟩
            exact h
      | none =>
          constructor
          · intro h hfits
            cases hrequest : book.request env request with
            | error e =>
                rw [LocalRetentionBook.request, recordPayload, hold] at hrequest
                simp only [if_neg (Nat.not_lt.mpr hfits)] at hrequest
                cases hrequest
            | ok result =>
                obtain ⟨_, _, hretained⟩ := h result.1 result.2 hrequest
                rcases request_ok hrequest with ⟨hsome, _⟩ | ⟨_, _, _, _, huntil, _, _, hpayloads⟩
                · rw [hold] at hsome
                  cases hsome
                · have hget : result.2.payloads[request.payloadCid]? = some result.1 := by
                    rw [hpayloads, get_insert_self]
                  have hmin := (retained_iff env hget).mp hretained
                  rw [huntil, wrap64, PayloadRequest.until] at hmin
                  have hepoch := request.epochId_lt
                  have hretention := request.retentionEpochs_lt
                  unfold PayloadRequest.until
                  omega
          · intro h answer book' hrequest
            rcases request_ok hrequest with
              ⟨hsome, _⟩ | ⟨_, hfits, hhash, hsize, huntil, _, _, hpayloads⟩
            · rw [hold] at hsome
              cases hsome
            · have hget : book'.payloads[request.payloadCid]? = some answer := by
                rw [hpayloads, get_insert_self]
              refine ⟨hhash, hsize, (retained_iff env hget).mpr ?_⟩
              rw [huntil, wrap64_of_lt (h hfits)]
              exact min_le_left _ _

/-- In a run from an empty book every accepted request is answered with the payload it asked for,
and that is retained, if and only if every request is for a new content id or for a payload that is
recorded like this for long enough. -/
theorem accepted_is_retained_iff (env : NodeEnv) (quotaBytes : ℕ) (calls : List RetentionCall) :
    Meets (next env) (AnswersRequest env) (ofQuota quotaBytes) calls ↔
      Meets (next env) NewOrSame (ofQuota quotaBytes) calls := by
  exact meets_congr (next env) (I := fun _ => True) (fun _ _ _ _ => trivial)
    (fun book call _ => answersRequest_iff book call) trivial calls

namespace Sample

/-- A request under one content id. -/
def asked (epochId : Fin (2 ^ 64)) (payloadHash : Hash32) (sizeBytes : Fin (2 ^ 64)) :
    PayloadRequest where
  storerId := 1
  epochId
  retentionEpochs := 2
  payloadCid := "cid://batch-payload/00"
  payloadHash
  sizeBytes
  epochId_lt := epochId.isLt
  retentionEpochs_lt := by decide
  sizeBytes_lt := sizeBytes.isLt

/-- The first of two requests under the content id. -/
def afterFirst : LocalRetentionBook :=
  next RootSample.env (ofQuota 100) (.record (asked 1 7 10))

end Sample

open Sample in
/-- A payload, recorded and pruned. -/
theorem retention_book_accounts_one :
    let book := run (next RootSample.env) (ofQuota 100) [.record (asked 1 7 10)]
    (book.usedBytes = recordedBytes book.payloads.records ∧ book.usedBytes ≤ 100) ∧
      PrunesExactly book 4 := by
  obtain ⟨hused, _, hprunes⟩ := @retention_book_accounts RootSample.env 100
    (by norm_num) [.record (asked 1 7 10)]
  exact ⟨hused, hprunes 4⟩

open Sample in
/-- A request for other bytes under a recorded content id is answered with the old record. -/
theorem other_bytes_get_old_record :
    (∃ answer, afterFirst.request RootSample.env (asked 5 8 20) = .ok (answer, afterFirst) ∧
      answer.payloadHash = 7 ∧ answer.sizeBytes = 10 ∧ answer.retentionUntilEpoch = 3) ∧
    ¬ Meets (next RootSample.env) (AnswersRequest RootSample.env) (ofQuota 100)
      [.record (asked 1 7 10), .record (asked 5 8 20)] := by
  have hold : ∃ answer, afterFirst.request RootSample.env (asked 5 8 20) =
        .ok (answer, afterFirst) ∧
      answer.payloadHash = 7 ∧ answer.sizeBytes = 10 ∧ answer.retentionUntilEpoch = 3 := by
    have hstored : (afterFirst.payloads["cid://batch-payload/00"]?).map (fun record =>
        (record.payloadHash, record.sizeBytes, record.retentionUntilEpoch)) = some (7, 10, 3) := by
      decide +kernel
    obtain ⟨answer, hget, hread⟩ := Option.map_eq_some_iff.mp hstored
    obtain ⟨hhash, hrest⟩ := Prod.mk.inj hread
    obtain ⟨hsize, huntil⟩ := Prod.mk.inj hrest
    refine ⟨answer, ?_, hhash, hsize, huntil⟩
    have hcid : (asked 5 8 20).payloadCid = "cid://batch-payload/00" := rfl
    rw [LocalRetentionBook.request, recordPayload, hcid, hget]
  refine ⟨hold, ?_⟩
  rintro ⟨_, hsecond, _⟩
  obtain ⟨answer, hrequest, hhash, _⟩ := hold
  have hasked : answer.payloadHash = 8 := (hsecond answer afterFirst hrequest).1
  rw [hhash] at hasked
  revert hasked
  decide

end LocalRetentionBook

end PoleProtocol.Node
