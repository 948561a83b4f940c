import PoleProtocol.Chain.Keeper
import PoleProtocol.Framework.Listings
import PoleProtocol.Node.Config

/-!
# The off-chain reward root

The node serializes a record for the chain with its own JSON writer, sorts the records like the
store of the chain, and builds its own tree. The bytes and the root are those of the chain for all
recipients that the chain's encoder writes without an HTML escape.
-/

namespace PoleProtocol.Node

open Framework Ledger

/-! ## The JSON writer -/

/-- One character of a JSON string: control characters, the quote and the backslash are escaped,
nothing else is. -/
def serdeEscape (c : Char) : String :=
  match c.toNat with
  | 8 => "\\b"
  | 9 => "\\t"
  | 10 => "\\n"
  | 12 => "\\f"
  | 13 => "\\r"
  | 34 => "\\\""
  | 92 => "\\\\"
  | n => if n < 32 then "\\u00" ++ Chain.hexByte n else String.singleton c

def serdeString (text : String) : String :=
  "\"" ++ String.join (text.toList.map serdeEscape) ++ "\""

/-- A field of a serialized structure; a field that holds its zero value is skipped. -/
structure SerdeField where
  name : String
  skipped : Bool
  value : String

def natField (name : String) (n : ℕ) : SerdeField := ⟨name, n == 0, toString n⟩

def textField (name text : String) : SerdeField := ⟨name, text.isEmpty, serdeString text⟩

/-- The fields that are not skipped, a comma ahead of each but the first. -/
def serializeFields : (first : Bool) → List SerdeField → String
  | _, [] => "\x7d"
  | first, field :: fields =>
      if field.skipped then serializeFields first fields
      else
        (if first then "" else ",") ++ serdeString field.name ++ ":" ++ field.value ++
          serializeFields false fields

def serializeStruct (fields : List SerdeField) : String := "\x7b" ++ serializeFields true fields

def rewardRecordToChainJson (record : RewardRecord) (recipient : String) : String :=
  serializeStruct [natField "epoch_id" record.epochId, textField "recipient" recipient,
    natField "player_reward" record.playerReward, natField "collect_reward" record.collectReward,
    natField "store_reward" record.storeReward, natField "verify_reward" record.verifyReward,
    natField "propose_reward" record.proposeReward, natField "slash_debit" record.slashDebit,
    natField "net_reward" record.netReward]

/-! ## The root -/

/-- The account prefix of the development chain. -/
def defaultBech32Prefix : String := "cosmos"

section Recipients

variable (encodeBech32 : String → Bytes → Except String String)

/-- The legacy account of a node: the first twenty bytes of its id. -/
def nodeIdToBech32 (nodeId : NodeId) : Except String String :=
  encodeBech32 defaultBech32Prefix ((Hash32.bytes nodeId).take 20)

/-- Records without an address fall back to the legacy account of their node. -/
def chainRecipient (record : RewardRecord) : Except String String :=
  if record.recipientAddress ≠ "" then .ok record.recipientAddress
  else nodeIdToBech32 encodeBech32 record.nodeId

/-- The order of the chain's store. -/
def recipientKey (entry : ℕ × String × RewardRecord) : ℕ × String := (entry.1, entry.2.1)

def rewardRecordRoot (env : NodeEnv) (records : List RewardRecord) : Except String Hash32 := do
  let withRecipient ← records.mapM fun record => do
    let recipient ← chainRecipient encodeBech32 record
    return (record.epochId, recipient, record)
  let leafHashes := (sortByKey recipientKey withRecipient).map fun entry =>
    env.merkleLeaf (rewardRecordToChainJson entry.2.2 entry.2.1).toUTF8.toList
  return env.merkleRoot leafHashes

end Recipients

/-- The record as the chain stores it. -/
def chainRewardRecord (record : RewardRecord) (recipient : String) : Chain.RewardRecord where
  epochId := record.epochId
  recipient := recipient
  playerReward := record.playerReward
  collectReward := record.collectReward
  storeReward := record.storeReward
  verifyReward := record.verifyReward
  proposeReward := record.proposeReward
  slashDebit := record.slashDebit
  netReward := record.netReward

/-- The key under which the chain stores the record. -/
def chainRewardKey (record : Chain.RewardRecord) : ℕ × String := (record.epochId, record.recipient)

/-- The digest as the chain computes it. -/
def NodeEnv.chainSha256 (env : NodeEnv) (bytes : Bytes) : Bytes := (env.sha256 bytes).bytes

/-- No character of the text is written with an HTML escape: it has no `<`, `>`, `&` and none of
the two Unicode line separators. -/
def HtmlSafe (text : String) : Prop :=
  ∀ c ∈ text.toList, c.toNat ≠ 38 ∧ c.toNat ≠ 60 ∧ c.toNat ≠ 62 ∧ c.toNat ≠ 8232 ∧ c.toNat ≠ 8233

instance (text : String) : Decidable (HtmlSafe text) :=
  List.decidableBAll _ text.toList

/-! ## One text -/

theorem serdeEscape_eq_jsonEscape {c : Char} (h : c.toNat ≠ 38 ∧ c.toNat ≠ 60 ∧ c.toNat ≠ 62 ∧
    c.toNat ≠ 8232 ∧ c.toNat ≠ 8233) : serdeEscape c = Chain.jsonEscape c := by
  obtain ⟨hamp, hless, hgreater, hline, hparagraph⟩ := h
  unfold serdeEscape Chain.jsonEscape
  split <;> simp_all

theorem serdeString_eq_jsonString {text : String} (h : HtmlSafe text) :
    serdeString text = Chain.jsonString text := by
  rw [serdeString, Chain.jsonString,
    List.map_congr_left fun c hc => serdeEscape_eq_jsonEscape (h c hc)]

/-- A field as the chain's encoder writes it. -/
def SerdeField.member (field : SerdeField) : Option String :=
  if field.skipped then none else some (Chain.jsonMember field.name field.value)

/-- The name of the field needs no escape. -/
def SerdeField.Plain (field : SerdeField) : Prop :=
  serdeString field.name = "\"" ++ field.name ++ "\""

/-- What follows the first member of an object. -/
def furtherMembers (members : List String) : String :=
  if members = [] then "" else "," ++ ",".intercalate members

theorem intercalate_cons (member : String) (members : List String) :
    ",".intercalate (member :: members) = member ++ furtherMembers members := by
  cases members with
  | nil => simp [furtherMembers]
  | cons next members =>
      rw [String.intercalate_cons_cons, furtherMembers, if_neg (List.cons_ne_nil _ _),
        String.append_assoc]

theorem serializeFields_eq {fields : List SerdeField} (hplain : ∀ field ∈ fields, field.Plain) :
    serializeFields false fields =
        furtherMembers (fields.map SerdeField.member).reduceOption ++ "\x7d" ∧
      serializeFields true fields =
        ",".intercalate (fields.map SerdeField.member).reduceOption ++ "\x7d" := by
  induction fields with
  | nil => exact ⟨rfl, rfl⟩
  | cons field fields ih =>
      obtain ⟨hfurther, hall⟩ := ih fun f hf => hplain f (List.mem_cons_of_mem _ hf)
      rw [serializeFields, serializeFields, List.map_cons, SerdeField.member]
      by_cases hskipped : field.skipped = true
      · simp only [if_pos hskipped, List.reduceOption_cons_of_none]
        exact ⟨hfurther, hall⟩
      · have hname : serdeString field.name ++ ":" ++ field.value =
            Chain.jsonMember field.name field.value := by
          rw [hplain field (List.mem_cons_self ..), Chain.jsonMember]
          simp [String.append_assoc]
        simp only [if_neg hskipped, List.reduceOption_cons_of_some, Bool.false_eq_true, if_false,
          if_true, String.empty_append]
        rw [furtherMembers, if_neg (List.cons_ne_nil _ _), intercalate_cons, hfurther, ← hname]
        simp [String.append_assoc]

/-- The writer gives the object of the fields that are not skipped. -/
theorem serializeStruct_eq {fields : List SerdeField} (hplain : ∀ field ∈ fields, field.Plain) :
    serializeStruct fields = Chain.jsonObject (fields.map SerdeField.member) := by
  rw [serializeStruct, (serializeFields_eq hplain).2, Chain.jsonObject, String.append_assoc]

theorem natField_member (name : String) (n : ℕ) :
    (natField name n).member = Chain.jsonNat name n := by
  simp [natField, SerdeField.member, Chain.jsonNat]

theorem textField_member (name : String) {text : String} (h : HtmlSafe text) :
    (textField name text).member = Chain.jsonText name text := by
  simp [textField, SerdeField.member, Chain.jsonText, serdeString_eq_jsonString h]

/-- The names of the fields of reward and aggregate records. -/
def recordFieldNames : List String :=
  ["epoch_id", "recipient", "player_reward", "collect_reward", "store_reward", "verify_reward",
    "propose_reward", "slash_debit", "net_reward", "app_id", "total_weight_units", "player_count"]

theorem plain_of_names {fields : List SerdeField}
    (h : ∀ field ∈ fields, field.name ∈ recordFieldNames) : ∀ field ∈ fields, field.Plain := by
  have hplain : ∀ name ∈ recordFieldNames, serdeString name = "\"" ++ name ++ "\"" := by
    decide +kernel
  exact fun field hmem => hplain field.name (h field hmem)

theorem rewardRecordToChainJson_eq (record : RewardRecord) {recipient : String}
    (h : HtmlSafe recipient) :
    rewardRecordToChainJson record recipient =
      Chain.JsonRecord.json (chainRewardRecord record recipient) := by
  rw [rewardRecordToChainJson, serializeStruct_eq]
  · simp only [List.map_cons, List.map_nil, natField_member, textField_member _ h]
    rfl
  · refine plain_of_names ?_
    simp [recordFieldNames, natField, textField]

/-! ## The tree -/

section Tree

variable (env : NodeEnv)

theorem merkleParent_bytes (left right : Hash32) :
    (env.merkleParent left right).bytes =
      Chain.merkleParent env.chainSha256 left.bytes right.bytes := rfl

theorem merkleLevel_bytes (level : List Hash32) :
    (HashTree.level env.merkleParent level).map Hash32.bytes =
      Chain.merkleLevel env.chainSha256 (level.map Hash32.bytes) := by
  fun_induction HashTree.level env.merkleParent level with
  | case1 => rfl
  | case2 left => rfl
  | case3 left right rest ih =>
      rw [List.map_cons, ih, merkleParent_bytes, List.map_cons, List.map_cons, Chain.merkleLevel]

theorem merkleClimb_bytes (fuel : ℕ) {level : List Hash32} (hlevel : level ≠ []) :
    (env.merkleClimb fuel level).bytes =
      Chain.merkleClimb env.chainSha256 fuel (level.map Hash32.bytes) := by
  induction fuel generalizing level with
  | zero =>
      obtain ⟨node, rest, rfl⟩ := List.exists_cons_of_ne_nil hlevel
      rfl
  | succ fuel ih =>
      rw [NodeEnv.merkleClimb, Chain.merkleClimb, List.length_map]
      split
      · next hmany =>
          rw [ih, merkleLevel_bytes]
          intro hempty
          have hlength := HashTree.level_length env.merkleParent level
          rw [hempty, List.length_nil] at hlength
          omega
      · obtain ⟨node, rest, rfl⟩ := List.exists_cons_of_ne_nil hlevel
        rfl

/-- The two constructions agree for every number of leaves. -/
theorem merkleRoot_bytes (leaves : List Hash32) :
    (env.merkleRoot leaves).bytes =
      Chain.merkleRoot env.chainSha256 (leaves.map Hash32.bytes) := by
  unfold NodeEnv.merkleRoot Chain.merkleRoot
  by_cases hempty : leaves = []
  · subst hempty
    change Hash32.bytes 0 = List.replicate 32 0
    decide
  · rw [if_neg hempty, if_neg (by simpa using hempty), merkleClimb_bytes env _ hempty,
      List.length_map]

/-- The root of the chain over records whose JSON text the node reproduces. -/
theorem merkleRootHexForRecords_root {α : Type} [Chain.JsonRecord α] (records : List α) :
    (Chain.merkleRootHexForRecords env.chainSha256 records).root =
      hex32 (env.merkleRoot (records.map fun record =>
        env.merkleLeaf (Chain.JsonRecord.json record).toUTF8.toList)) := by
  rw [hex32, merkleRoot_bytes, List.map_map, Chain.merkleRootHexForRecords]
  by_cases hempty : records = []
  · rw [if_pos hempty, hempty]
    rfl
  · rw [if_neg hempty]
    rfl

end Tree

/-! ## Agreement -/

section Agreement

variable {encodeBech32 : String → Bytes → Except String String} {recipient : RewardRecord → String}
  {records : List RewardRecord}

theorem mapM_recipients (hrecipient : ∀ record ∈ records,
      chainRecipient encodeBech32 record = .ok (recipient record)) :
    (records.mapM fun record => do
      let recipient ← chainRecipient encodeBech32 record
      return (record.epochId, recipient, record) : Except String (List (ℕ × String × RewardRecord)))
      = .ok (records.map fun record => (record.epochId, recipient record, record)) := by
  induction records with
  | nil => rfl
  | cons record records ih =>
      rw [List.mapM_cons, hrecipient record (List.mem_cons_self ..),
        ih fun r hr => hrecipient r (List.mem_cons_of_mem _ hr)]
      rfl

/-- Off chain and on chain, the records are sorted and hashed alike. -/
theorem rewardRecordRoot_eq (env : NodeEnv)
    (hrecipient : ∀ record ∈ records,
      chainRecipient encodeBech32 record = .ok (recipient record))
    (hsafe : ∀ record ∈ records, HtmlSafe (recipient record))
    {listed : List Chain.RewardRecord}
    (hlisted : listed.Perm (records.map fun record => chainRewardRecord record (recipient record)))
    (hordered : listed.Pairwise fun a b => compare (chainRewardKey a) (chainRewardKey b) = .lt) :
    rewardRecordRoot encodeBech32 env records =
      .ok (env.merkleRoot (listed.map fun record =>
        env.merkleLeaf (Chain.JsonRecord.json record).toUTF8.toList)) := by
  let entries := records.map fun record => (record.epochId, recipient record, record)
  let stored := fun entry : ℕ × String × RewardRecord => chainRewardRecord entry.2.2 entry.2.1
  have hentry : ∀ entry ∈ entries, chainRewardKey (stored entry) = recipientKey entry ∧
      HtmlSafe entry.2.1 := by
    intro entry hmem
    obtain ⟨record, hrecord, rfl⟩ := List.mem_map.mp hmem
    exact ⟨rfl, hsafe record hrecord⟩
  have hsorted : (sortByKey recipientKey entries).map stored = listed := by
    rw [sortByKey_map fun entry hmem => (hentry entry hmem).1]
    refine sortByKey_eq ?_ hordered
    rw [List.map_map]
    exact hlisted.symm
  have hleaves : (sortByKey recipientKey entries).map (fun entry =>
        env.merkleLeaf (rewardRecordToChainJson entry.2.2 entry.2.1).toUTF8.toList) =
      listed.map fun record =>
        env.merkleLeaf (Chain.JsonRecord.json record).toUTF8.toList := by
    rw [← hsorted, List.map_map]
    refine List.map_congr_left ?_
    intro entry hmem
    have hsafeEntry := (hentry entry ((sortByKey_perm _ _).subset hmem)).2
    rw [Function.comp_apply, rewardRecordToChainJson_eq _ hsafeEntry]
  unfold rewardRecordRoot
  rw [mapM_recipients hrecipient]
  exact congrArg Except.ok (congrArg env.merkleRoot hleaves)

/-- For records with distinct recipients, none of which the chain's encoder writes with an HTML
escape, the root off chain does not depend on the order of the records and is the root of the
chain over its records in key order; each record has the same bytes on both sides. -/
theorem reward_root_is_chain_root (env : NodeEnv)
    (hrecipient : ∀ record ∈ records,
      chainRecipient encodeBech32 record = .ok (recipient record))
    (hsafe : ∀ record ∈ records, HtmlSafe (recipient record))
    (hdistinct : (records.map recipient).Nodup) :
    ∃ root, (∀ permuted : List RewardRecord, permuted.Perm records →
        rewardRecordRoot encodeBech32 env permuted = .ok root) ∧
      (∀ listed : List Chain.RewardRecord,
        listed.Perm (records.map fun record => chainRewardRecord record (recipient record)) →
        listed.Pairwise (fun a b => compare (chainRewardKey a) (chainRewardKey b) = .lt) →
        (Chain.merkleRootHexForRecords env.chainSha256 listed).root = hex32 root) ∧
      ∀ record ∈ records, rewardRecordToChainJson record (recipient record) =
        Chain.JsonRecord.json (chainRewardRecord record (recipient record)) := by
  let stored := records.map fun record => chainRewardRecord record (recipient record)
  have hkeys : (stored.map chainRewardKey).Nodup := by
    have hsnd : (stored.map chainRewardKey).map Prod.snd = records.map recipient := by
      rw [List.map_map, List.map_map]
      rfl
    rw [← hsnd] at hdistinct
    exact hdistinct.of_map _
  have hordered := sortByKey_ordered hkeys
  have hsorted := sortByKey_perm chainRewardKey stored
  refine ⟨env.merkleRoot ((sortByKey chainRewardKey stored).map fun record =>
    env.merkleLeaf (Chain.JsonRecord.json record).toUTF8.toList), ?_, ?_, ?_⟩
  · intro permuted hperm
    refine rewardRecordRoot_eq env (fun record hmem => hrecipient record (hperm.subset hmem))
      (fun record hmem => hsafe record (hperm.subset hmem)) ?_ hordered
    exact hsorted.trans (hperm.symm.map _)
  · intro listed hlisted hlistedOrdered
    have hsame : sortByKey chainRewardKey stored = listed :=
      sortByKey_eq hlisted.symm hlistedOrdered
    rw [hsame, merkleRootHexForRecords_root]
  · intro record hmem
    exact rewardRecordToChainJson_eq record (hsafe record hmem)

end Agreement

namespace RootSample

/-- A node whose digest is the length of the text. -/
def env : NodeEnv where
  nodeId := 1
  collect := true
  store := false
  quotaGb := 0
  identityKeypair := none
  sha256 bytes := BitVec.ofNat 256 bytes.length
  verifySignature _ _ _ := false
  encodeObservation _ := []
  encodeObservations _ := []
  decodeObservations _ := none
  encodePlaySession _ := []
  encodeAttestation _ := []
  encodeReceipt _ _ _ _ _ _ := []

def noBech32 (_ : String) (_ : Bytes) : Except String String := .error "no account"

/-- A record that pays one unit for collecting. -/
def record (recipientAddress : String) : RewardRecord where
  epochId := 1
  nodeId := 1
  recipientAddress
  playerReward := 0
  collectReward := 1
  storeReward := 0
  verifyReward := 0
  proposeReward := 0
  slashDebit := 0
  netReward := 1

end RootSample

open RootSample in
/-- Two records in the wrong order. -/
theorem reward_root_is_chain_root_two :
    ∃ root, rewardRecordRoot noBech32 env [record "cosmos1b", record "cosmos1a"] = .ok root ∧
      (Chain.merkleRootHexForRecords env.chainSha256
        [chainRewardRecord (record "cosmos1a") "cosmos1a",
          chainRewardRecord (record "cosmos1b") "cosmos1b"]).root = hex32 root := by
  have hrecords : ∀ r ∈ [record "cosmos1b", record "cosmos1a"],
      chainRecipient noBech32 r = .ok r.recipientAddress ∧ HtmlSafe r.recipientAddress := by
    simp only [List.forall_mem_cons]
    exact ⟨⟨rfl, by decide +kernel⟩, ⟨rfl, by decide +kernel⟩, nofun⟩
  obtain ⟨root, hroot, hlisted, _⟩ := reward_root_is_chain_root env
    (fun r hr => (hrecords r hr).1) (fun r hr => (hrecords r hr).2) (by decide)
  refine ⟨root, hroot _ (List.Perm.refl _), hlisted _ (List.Perm.swap ..) ?_⟩
  decide

open RootSample in
/-- Of a recipient with a less-than sign, the chain writes an escape and the node does not; with a
digest that tells the lengths of texts apart, the roots differ. -/
theorem less_than_sign_splits_roots :
    "<".toList.all (fun c => c.toNat < 128) = true ∧
      chainRecipient noBech32 (record "<") = .ok "<" ∧
      rewardRecordToChainJson (record "<") "<" ≠
        Chain.JsonRecord.json (chainRewardRecord (record "<") "<") ∧
      ¬ ∃ root, rewardRecordRoot noBech32 env [record "<"] = .ok root ∧
        (Chain.merkleRootHexForRecords env.chainSha256
          [chainRewardRecord (record "<") "<"]).root = hex32 root := by
  refine ⟨by decide +kernel, rfl, by decide +kernel, ?_⟩
  rintro ⟨root, hroot, hchain⟩
  have hvalue : rewardRecordRoot noBech32 env [record "<"] =
      .ok (env.merkleLeaf (rewardRecordToChainJson (record "<") "<").toUTF8.toList) := rfl
  rw [hvalue] at hroot
  cases hroot
  revert hchain
  decide +kernel

end PoleProtocol.Node
