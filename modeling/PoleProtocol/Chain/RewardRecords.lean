import PoleProtocol.Chain.Commitment
import PoleProtocol.Chain.WellFormed

/-!
# Submitted reward records

A submission is hashed in the order of the message, and the stored records of an epoch in the order
of their recipients. The two agree when the message lists its recipients in order, each once, and
leaves no stored record of the epoch standing.
-/

namespace PoleProtocol.Chain

open Framework OrderedMap

variable {env : Env} {s s' : KeeperState} {msg : MsgSubmitRewardRecords}

/-! ## Listings of one epoch -/

section Listing

variable {m : OrderedMap (ℕ × String) RewardRecord} {epochId : ℕ}

theorem mem_prefixedValues {record : RewardRecord} :
    record ∈ prefixedValues (·.epochId) m epochId ↔
      record.epochId = epochId ∧ ∃ recipient : String, m[(epochId, recipient)]? = some record := by
  simp only [prefixedValues, List.mem_map, List.mem_filter, decide_eq_true_eq, Prod.exists]
  constructor
  · rintro ⟨e, recipient, v, ⟨hmem, rfl, howner⟩, rfl⟩
    exact ⟨howner, recipient, mem_toList.mp hmem⟩
  · rintro ⟨howner, recipient, hget⟩
    exact ⟨epochId, recipient, record, ⟨mem_toList.mpr hget, rfl, howner⟩, rfl⟩

/-- Records stored under their recipients are listed in the order of the recipients. -/
theorem prefixedValues_ordered (hkeyed : ∀ (recipient : String) (record : RewardRecord),
      m[(epochId, recipient)]? = some record → record.epochId = epochId →
      record.recipient = recipient) :
    (prefixedValues (·.epochId) m epochId).Pairwise fun r r' => r.recipient < r'.recipient := by
  rw [prefixedValues, List.pairwise_map, List.pairwise_filter]
  refine (Std.ExtTreeMap.ordered_keys_toList (t := m)).imp_of_mem ?_
  rintro ⟨⟨e, k⟩, r⟩ ⟨⟨e', k'⟩, r'⟩ hr hr' hless howner howner'
  simp only [decide_eq_true_eq] at howner howner'
  obtain ⟨rfl, hepoch⟩ := howner
  obtain ⟨rfl, hepoch'⟩ := howner'
  have hkeys : k < k' := by
    rw [compare_pair, Std.ReflOrd.compare_self] at hless
    exact compare_lt_iff_lt.mp hless
  have hk := hkeyed k r (mem_toList.mp hr) hepoch
  have hk' := hkeyed k' r' (mem_toList.mp hr') hepoch'
  rwa [hk, hk']

end Listing

/-! ## Writing a list of records -/

section Write

variable {records : List RewardRecord}

theorem setRewardRecords_of_not_mem {key : ℕ × String}
    (h : ∀ record ∈ records, (record.epochId, record.recipient) ≠ key) :
    (records.foldl KeeperState.setRewardRecord s).rewardRecords[key]? = s.rewardRecords[key]? := by
  induction records generalizing s with
  | nil => rfl
  | cons record records ih =>
      have hlater := fun r hr => h r (List.mem_cons_of_mem record hr)
      rw [List.foldl_cons, ih hlater]
      exact get_insert_ne _ _ (h record List.mem_cons_self)

/-- What stands under the key of a written record is one of the written records. -/
theorem setRewardRecords_of_mem {key : ℕ × String}
    (h : ∃ record ∈ records, (record.epochId, record.recipient) = key) :
    ∃ written ∈ records, (written.epochId, written.recipient) = key ∧
      (records.foldl KeeperState.setRewardRecord s).rewardRecords[key]? = some written := by
  induction records generalizing s with
  | nil =>
      obtain ⟨_, hmem, _⟩ := h
      cases hmem
  | cons first records ih =>
      by_cases hlater : ∃ record ∈ records, (record.epochId, record.recipient) = key
      · obtain ⟨written, hwritten, hsame, hget⟩ := ih (s := s.setRewardRecord first) hlater
        exact ⟨written, List.mem_cons_of_mem first hwritten, hsame, hget⟩
      · push Not at hlater
        obtain ⟨record, hmem, rfl⟩ := h
        rcases List.mem_cons.mp hmem with rfl | hmem
        · refine ⟨record, List.mem_cons_self, rfl, ?_⟩
          rw [List.foldl_cons, setRewardRecords_of_not_mem hlater]
          exact Std.ExtTreeMap.getElem?_insert_self
        · exact absurd rfl (hlater record hmem)

end Write

/-! ## Submissions -/

/-- The message lists its recipients in order, each once, and replaces every record of the epoch
that is already stored. -/
structure MsgSubmitRewardRecords.Listed (s : KeeperState) (msg : MsgSubmitRewardRecords) : Prop where
  ordered : (msg.records.reduceOption.map (·.recipient)).Pairwise (· < ·)
  complete : ∀ recipient record, s.rewardRecords[(msg.epochId, recipient)]? = some record →
    record.epochId = msg.epochId → recipient ∈ msg.records.reduceOption.map (·.recipient)

theorem checkRewardRecords_ok {epochId : ℕ} {supplied : List (Option RewardRecord)}
    {records : List RewardRecord} (h : supplied.mapM (checkRewardRecord epochId) = .ok records) :
    supplied.reduceOption = records ∧
      ∀ record ∈ records, record.epochId = epochId ∧ record.recipient ≠ "" := by
  have hpairs := mapM_eq_ok.mp h
  clear h
  induction hpairs with
  | nil => exact ⟨rfl, fun record hmem => by cases hmem⟩
  | cons hrecord _ ih =>
      simp only [checkRewardRecord, bind_eq_ok, require_eq_ok, ensure_eq_ok, exists_const,
        pure_eq_ok] at hrecord
      obtain ⟨record, rfl, hepoch, hnamed, rfl⟩ := hrecord
      rw [List.reduceOption_cons_of_some, ih.1, List.forall_mem_cons]
      exact ⟨rfl, ⟨hepoch, hnamed⟩, ih.2⟩

/-- What an accepted submission has checked, and the state it leaves. -/
theorem submitRewardRecords_ok (h : s.submitRewardRecords env msg = .ok s') :
    ∃ commit, s.epochCommits[msg.epochId]? = some commit ∧
      (∀ committed, commit.rewards = some committed →
        committed = merkleRootHexForRecords env.sha256 msg.records.reduceOption) ∧
      (∀ record ∈ msg.records.reduceOption,
        record.epochId = msg.epochId ∧ record.recipient ≠ "") ∧
      s' = msg.records.reduceOption.foldl KeeperState.setRewardRecord s := by
  simp only [KeeperState.submitRewardRecords, bind_eq_ok, ensure_eq_ok, exists_const,
    pure_eq_ok] at h
  obtain ⟨_, _, _, _, commit, hfound, _, records, hrecords, hroot, _, _, rfl⟩ := h
  obtain ⟨rfl, hchecked⟩ := checkRewardRecords_ok hrecords
  refine ⟨commit, by simpa [KeeperState.getEpochCommit] using hfound, ?_, hchecked, rfl⟩
  rintro committed hrewards
  rw [hrewards] at hroot
  obtain ⟨hroot, hcount⟩ := hroot
  cases committed
  simp only [Option.getD_some] at hroot hcount
  rw [hroot, hcount]

/-- After a listed submission the epoch holds the records of the message, in their order. -/
theorem rewardRecordsForEpoch_of_listed
    (hchecked : ∀ record ∈ msg.records.reduceOption, record.epochId = msg.epochId)
    (h : msg.Listed s) :
    (msg.records.reduceOption.foldl KeeperState.setRewardRecord s).rewardRecordsForEpoch
      msg.epochId = msg.records.reduceOption := by
  have hordered := h.ordered
  have hcomplete := h.complete
  generalize msg.records.reduceOption = records at hchecked hordered hcomplete ⊢
  have hunique : (records.map (·.recipient)).Nodup := hordered.imp ne_of_lt
  rw [List.pairwise_map] at hordered
  -- a record under a recipient of the epoch is the record of the message for that recipient
  have hstored : ∀ (recipient : String) (record : RewardRecord),
      (records.foldl KeeperState.setRewardRecord s).rewardRecords[(msg.epochId, recipient)]? =
        some record → record.epochId = msg.epochId →
      record ∈ records ∧ record.recipient = recipient := by
    intro recipient record hget hepoch
    by_cases hmem : ∃ r ∈ records, (r.epochId, r.recipient) = (msg.epochId, recipient)
    · obtain ⟨written, hwritten, hkey, hfound⟩ := setRewardRecords_of_mem (s := s) hmem
      cases hget.symm.trans hfound
      exact ⟨hwritten, (Prod.mk.inj hkey).2⟩
    · push Not at hmem
      rw [setRewardRecords_of_not_mem hmem] at hget
      obtain ⟨r, hr, hrecipient⟩ := List.mem_map.mp (hcomplete recipient record hget hepoch)
      exact absurd (by rw [hchecked r hr, hrecipient]) (hmem r hr)
  have hlisted : ∀ record, record ∈ records ↔ record ∈
      (records.foldl KeeperState.setRewardRecord s).rewardRecordsForEpoch msg.epochId := by
    intro record
    rw [KeeperState.rewardRecordsForEpoch, mem_prefixedValues]
    constructor
    · intro hmem
      refine ⟨hchecked record hmem, record.recipient, ?_⟩
      obtain ⟨written, hwritten, hkey, hfound⟩ := setRewardRecords_of_mem (s := s)
        ⟨record, hmem, rfl⟩
      rw [← hchecked record hmem, hfound]
      exact congrArg some (List.inj_on_of_nodup_map hunique hwritten hmem (Prod.mk.inj hkey).2)
    · rintro ⟨hepoch, recipient, hget⟩
      exact (hstored recipient record hget hepoch).1
  have hsorted := prefixedValues_ordered fun recipient record hget hepoch =>
    (hstored recipient record hget hepoch).2
  have hdistinct : ∀ list : List RewardRecord,
      list.Pairwise (fun r r' => r.recipient < r'.recipient) → list.Nodup := by
    intro list hlist
    exact hlist.imp fun hless heq => by
      rw [heq] at hless
      exact lt_irrefl _ hless
  have hperm := (List.perm_ext_iff_of_nodup (hdistinct _ hsorted) (hdistinct _ hordered)).mpr
    fun record => (hlisted record).symm
  exact hperm.eq_of_pairwise (fun r r' _ _ hless hgreater => absurd hless (lt_asymm hgreater))
    hsorted hordered

/-- In a well-formed state the records listed after a submission name its recipients only if it was
listed. -/
theorem listed_of_recipients (hwf : WellFormed s)
    (hrecipients : msg.records.reduceOption.map (·.recipient) =
      ((msg.records.reduceOption.foldl KeeperState.setRewardRecord s).rewardRecordsForEpoch
        msg.epochId).map (·.recipient)) : msg.Listed s := by
  have hwf' := KeeperState.wellFormed_setRewardRecords hwf msg.records.reduceOption
  constructor
  · rw [hrecipients, List.pairwise_map]
    refine prefixedValues_ordered fun recipient record hget _ => ?_
    exact (Prod.mk.inj (hwf'.rewards _ _ hget)).2
  · intro recipient record hget hepoch
    rw [hrecipients]
    -- the record is still there, or one of the message has taken its place
    by_cases hmem : ∃ r ∈ msg.records.reduceOption,
        (r.epochId, r.recipient) = (msg.epochId, recipient)
    · obtain ⟨r, hr, hkey⟩ := hmem
      rw [← hrecipients]
      exact List.mem_map.mpr ⟨r, hr, (Prod.mk.inj hkey).2⟩
    · push Not at hmem
      rw [← setRewardRecords_of_not_mem hmem] at hget
      have hrecipient : record.recipient = recipient :=
        (Prod.mk.inj (hwf'.rewards _ _ hget)).2
      exact List.mem_map.mpr ⟨record, mem_prefixedValues.mpr ⟨hepoch, recipient, hget⟩, hrecipient⟩

/-- Equal texts of records of one epoch name the same recipients. -/
theorem recipients_of_texts {epochId : ℕ} {records stored : List RewardRecord}
    (hchecked : ∀ record ∈ records, record.epochId = epochId ∧ record.recipient ≠ "")
    (hepochs : ∀ record ∈ stored, record.epochId = epochId)
    (htexts : records.map JsonRecord.json = stored.map JsonRecord.json) :
    records.map (·.recipient) = stored.map (·.recipient) := by
  induction records generalizing stored with
  | nil => rw [List.map_eq_nil_iff.mp htexts.symm]
  | cons record records ih =>
      cases stored with
      | nil => cases htexts
      | cons record' stored =>
          simp only [List.map_cons, List.cons.injEq] at htexts ⊢
          obtain ⟨hepoch, hnamed⟩ := hchecked record List.mem_cons_self
          have hepoch' := hepochs record' List.mem_cons_self
          refine ⟨jsonReward_recipient (hepoch.trans hepoch'.symm) hnamed htexts.1, ?_⟩
          exact ih (fun r hr => hchecked r (List.mem_cons_of_mem _ hr))
            (fun r hr => hepochs r (List.mem_cons_of_mem _ hr)) htexts.2

/-- The digests tell apart what is hashed for the message and for the stored records. -/
structure TellsApart (env : Env) (records stored : List RewardRecord) : Prop where
  width : ∀ text, (env.sha256 text).length = 32
  small : records.length < 2 ^ 32 ∧ stored.length < 2 ^ 32
  injective : Set.InjOn env.sha256 {text | text ∈ hashedTexts env.sha256 records ∨
    text ∈ hashedTexts env.sha256 stored}

/-- An accepted submission leaves records that hash to the committed root if it is listed, and,
unless digests collide, only then. -/
theorem submitted_records_back_root (env : Env) (s s' : KeeperState) (msg : MsgSubmitRewardRecords)
    (commit : EpochCommit) (committed : MerkleCommitment)
    (hok : s.submitRewardRecords env msg = .ok s')
    (hcommit : s.epochCommits[msg.epochId]? = some commit)
    (hrewards : commit.rewards = some committed) :
    (msg.Listed s →
      merkleRootHexForRecords env.sha256 (s'.rewardRecordsForEpoch msg.epochId) = committed) ∧
    (WellFormed s →
      TellsApart env msg.records.reduceOption (s'.rewardRecordsForEpoch msg.epochId) →
      merkleRootHexForRecords env.sha256 (s'.rewardRecordsForEpoch msg.epochId) = committed →
      msg.Listed s) := by
  obtain ⟨found, hfound, hroot, hchecked, rfl⟩ := submitRewardRecords_ok hok
  cases hfound.symm.trans hcommit
  have hcommitted := hroot committed hrewards
  constructor
  · intro hlisted
    rw [rewardRecordsForEpoch_of_listed (fun record hmem => (hchecked record hmem).1) hlisted,
      hcommitted]
  · intro hwf hdigests hbacked
    rw [hcommitted] at hbacked
    have htexts := commitment_injective hdigests.width hdigests.small.1 hdigests.small.2
      hdigests.injective hbacked.symm
    refine listed_of_recipients hwf ?_
    have hepochs : ∀ record ∈ (msg.records.reduceOption.foldl KeeperState.setRewardRecord
        s).rewardRecordsForEpoch msg.epochId, record.epochId = msg.epochId := by
      intro record hmem
      exact (mem_prefixedValues.mp hmem).1
    exact recipients_of_texts hchecked hepochs htexts

namespace Sample

def aliceReward : RewardRecord where
  epochId := 7
  recipient := alice
  playerReward := 5
  netReward := 5

def bobReward : RewardRecord where
  epochId := 7
  recipient := bob
  playerReward := 6
  netReward := 6

def bytesOf (hex : String) : Bytes := (hexDecode hex).getD []

def aliceLeaf : Bytes := bytesOf "cad7db4b529d306c3369522472cfd689e80df65cf645eb40703bc546fc7ad2a3"
def bobLeaf : Bytes := bytesOf "7f79712846d88561971147f668bc77af160bb0377233586369a4fe79e8b3ebb6"

/-- The digests of the texts that commit to the two records, in either order. -/
def digest (text : Bytes) : Bytes :=
  if text = 0 :: (JsonRecord.json aliceReward).toUTF8.toList then aliceLeaf
  else if text = 0 :: (JsonRecord.json bobReward).toUTF8.toList then bobLeaf
  else if text = 1 :: (aliceLeaf ++ bobLeaf) then
    bytesOf "ca4a9a969d530b7a4afe14881eff61369fdb3c0e0f64ee341ced8e4b51b05373"
  else if text = 1 :: (bobLeaf ++ aliceLeaf) then
    bytesOf "a53a24397ac347613f80ab9400aab5d347d4aa2fe0e227a4a3860af8c7ef23a4"
  else List.replicate 32 0

def hashing : Env := { Sample.env with sha256 := digest }

/-- Alice has committed epoch seven with the rewards in the given order. -/
def promised (records : List RewardRecord) : KeeperState :=
  run (next hashing) genesis [register alice, propose { emptyCommit 7 with
    rewards := some (merkleRootHexForRecords digest records) }]

def submission (records : List RewardRecord) : MsgSubmitRewardRecords where
  proposer := alice
  epochId := 7
  records := records.map some

/-- The state after an accepted submission of the records that Alice promised. -/
def submitted (records : List RewardRecord) : KeeperState :=
  records.foldl KeeperState.setRewardRecord (promised records)

theorem tellsApart_rewards :
    TellsApart hashing [bobReward, aliceReward] [bobReward, aliceReward] where
  width text := by
    change (digest text).length = 32
    unfold digest
    split
    · decide +kernel
    · split
      · decide +kernel
      · split
        · decide +kernel
        · split <;> decide +kernel
  small := by decide
  injective := by
    have hall : ((hashedTexts digest [bobReward, aliceReward]).all fun x =>
        (hashedTexts digest [bobReward, aliceReward]).all fun y =>
          decide (digest x = digest y → x = y)) = true := by decide +kernel
    intro x hx y hy hsame
    have hrow := List.all_eq_true.mp hall x (or_self_iff.mp hx)
    exact of_decide_eq_true (List.all_eq_true.mp hrow y (or_self_iff.mp hy)) hsame

end Sample

/-- Bob's record before Alice's: the promise is backed, and the digests tell that it had to be in
this order. -/
theorem submitted_records_back_root_ordered :
    (Sample.promised [Sample.bobReward, Sample.aliceReward]).submitRewardRecords Sample.hashing
        (Sample.submission [Sample.bobReward, Sample.aliceReward]) =
      .ok (Sample.submitted [Sample.bobReward, Sample.aliceReward]) ∧
    ((Sample.submission [Sample.bobReward, Sample.aliceReward]).Listed
        (Sample.promised [Sample.bobReward, Sample.aliceReward]) ↔
      merkleRootHexForRecords Sample.hashing.sha256
        ((Sample.submitted [Sample.bobReward, Sample.aliceReward]).rewardRecordsForEpoch 7) =
      merkleRootHexForRecords Sample.digest [Sample.bobReward, Sample.aliceReward]) := by
  have hrun : ((Sample.promised [Sample.bobReward, Sample.aliceReward]).submitRewardRecords
        Sample.hashing (Sample.submission [Sample.bobReward, Sample.aliceReward])).isOk = true ∧
      (Sample.promised [Sample.bobReward, Sample.aliceReward]).epochCommits[7]? =
        some ({ Sample.emptyCommit 7 with rewards := some (merkleRootHexForRecords Sample.digest
          [Sample.bobReward, Sample.aliceReward]) }.proposed (Sample.ctx 2)) ∧
      (Sample.submitted [Sample.bobReward, Sample.aliceReward]).rewardRecordsForEpoch 7 =
        [Sample.bobReward, Sample.aliceReward] := by
    decide +kernel
  obtain ⟨haccepted, hcommit, hstored⟩ := hrun
  have hok : (Sample.promised [Sample.bobReward, Sample.aliceReward]).submitRewardRecords
      Sample.hashing (Sample.submission [Sample.bobReward, Sample.aliceReward]) =
      .ok (Sample.submitted [Sample.bobReward, Sample.aliceReward]) := by
    cases hrun : (Sample.promised [Sample.bobReward, Sample.aliceReward]).submitRewardRecords
        Sample.hashing (Sample.submission [Sample.bobReward, Sample.aliceReward]) with
    | ok s' =>
        obtain ⟨_, _, _, _, rfl⟩ := submitRewardRecords_ok hrun
        rfl
    | error e =>
        rw [hrun] at haccepted
        cases haccepted
  obtain ⟨hbacked, hlisted⟩ := submitted_records_back_root Sample.hashing _ _ _ _ _ hok hcommit rfl
  refine ⟨hok, hbacked, hlisted (wellFormed_run _ (wellFormed_defaultGenesis _ _) _) ?_⟩
  change TellsApart _ _ ((Sample.submitted _).rewardRecordsForEpoch 7)
  rw [hstored]
  exact Sample.tellsApart_rewards

/-- Alice's address comes after Bob's, so her promise of the rewards in the other order is accepted
with its records and not backed by them. -/
theorem reordered_records_lose_root :
    ∃ s', (Sample.promised [Sample.aliceReward, Sample.bobReward]).submitRewardRecords Sample.hashing
        (Sample.submission [Sample.aliceReward, Sample.bobReward]) = .ok s' ∧
      merkleRootHexForRecords Sample.hashing.sha256 (s'.rewardRecordsForEpoch 7) ≠
        merkleRootHexForRecords Sample.digest [Sample.aliceReward, Sample.bobReward] := by
  have hrun : ((Sample.promised [Sample.aliceReward, Sample.bobReward]).submitRewardRecords
      Sample.hashing (Sample.submission [Sample.aliceReward, Sample.bobReward])).toOption.any
        (fun s' => decide (merkleRootHexForRecords Sample.digest (s'.rewardRecordsForEpoch 7) ≠
          merkleRootHexForRecords Sample.digest [Sample.aliceReward, Sample.bobReward])) =
      true := by decide +kernel
  cases hsubmit : (Sample.promised [Sample.aliceReward, Sample.bobReward]).submitRewardRecords
      Sample.hashing (Sample.submission [Sample.aliceReward, Sample.bobReward]) with
  | error e =>
      rw [hsubmit] at hrun
      cases hrun
  | ok s' =>
      rw [hsubmit] at hrun
      exact ⟨s', rfl, of_decide_eq_true hrun⟩

end PoleProtocol.Chain
