import PoleProtocol.Chain.Types

/-!
# Merkle commitments

A record is committed through its JSON text: a leaf is the digest of a zero byte and the text,
a parent the digest of a one byte and its two children, and a level of odd length repeats its
last element. The digest function is a parameter.
-/

namespace PoleProtocol.Chain

abbrev Bytes := List UInt8

/-! ## JSON text of a record

Members are written in declaration order and left out when they hold their zero value. -/

def hexDigit (n : ℕ) : Char := Char.ofNat (if n < 10 then 48 + n else 87 + n)

/-- The two lower-case hexadecimal digits of a byte. -/
def hexByte (n : ℕ) : String := String.ofList [hexDigit (n / 16), hexDigit (n % 16)]

/-- One character of a JSON string, with the HTML-safe escapes of the standard encoder. -/
def jsonEscape (c : Char) : String :=
  match c.toNat with
  | 8 => "\\b"
  | 9 => "\\t"
  | 10 => "\\n"
  | 12 => "\\f"
  | 13 => "\\r"
  | 34 => "\\\""
  | 92 => "\\\\"
  | 8232 => "\\u2028"
  | 8233 => "\\u2029"
  | n => if n < 32 ∨ n = 38 ∨ n = 60 ∨ n = 62 then "\\u00" ++ hexByte n else String.singleton c

def jsonString (text : String) : String :=
  "\"" ++ String.join (text.toList.map jsonEscape) ++ "\""

def jsonMember (name value : String) : String := "\"" ++ name ++ "\":" ++ value

def jsonNat (name : String) (n : ℕ) : Option String :=
  if n = 0 then none else some (jsonMember name (toString n))

def jsonInt (name : String) (n : ℤ) : Option String :=
  if n = 0 then none else some (jsonMember name (toString n))

def jsonText (name text : String) : Option String :=
  if text = "" then none else some (jsonMember name (jsonString text))

def jsonObject (members : List (Option String)) : String :=
  "\x7b" ++ ",".intercalate members.reduceOption ++ "\x7d"

/-- A record with a JSON text. -/
class JsonRecord (α : Type) where
  json : α → String

instance : JsonRecord MerkleCommitment where
  json c := jsonObject [jsonText "root" c.root, jsonNat "leaf_count" c.leafCount]

instance : JsonRecord RewardRecord where
  json r := jsonObject [jsonNat "epoch_id" r.epochId, jsonText "recipient" r.recipient,
    jsonNat "player_reward" r.playerReward, jsonNat "collect_reward" r.collectReward,
    jsonNat "store_reward" r.storeReward, jsonNat "verify_reward" r.verifyReward,
    jsonNat "propose_reward" r.proposeReward, jsonNat "slash_debit" r.slashDebit,
    jsonNat "net_reward" r.netReward]

instance : JsonRecord AggregateRecord where
  json r := jsonObject [jsonNat "epoch_id" r.epochId, jsonNat "app_id" r.appId,
    jsonNat "total_weight_units" r.totalWeightUnits, jsonNat "player_count" r.playerCount]

instance : JsonRecord BatchCommit where
  json b := jsonObject [jsonNat "epoch_id" b.epochId,
    jsonText "collector_address" b.collectorAddress, jsonNat "slot_start" b.slotStart,
    jsonNat "slot_end" b.slotEnd,
    b.batch.map fun commitment => jsonMember "batch" (JsonRecord.json commitment),
    jsonText "payload_cid" b.payloadCid, jsonNat "observation_count" b.observationCount,
    jsonInt "submitted_at_height" b.submittedAtHeight]

instance : JsonRecord AvailabilityRecord where
  json r := jsonObject [jsonNat "epoch_id" r.epochId,
    jsonText "operator_address" r.operatorAddress, jsonText "payload_cid" r.payloadCid,
    jsonNat "retention_until_epoch" r.retentionUntilEpoch,
    jsonText "receipt_hash_hex" r.receiptHashHex]

/-! ## Hexadecimal text -/

def hexEncode (bytes : Bytes) : String := String.join (bytes.map fun b => hexByte b.toNat)

def hexValue? (c : Char) : Option ℕ :=
  let n := c.toNat
  if 48 ≤ n ∧ n ≤ 57 then some (n - 48)
  else if 97 ≤ n ∧ n ≤ 102 then some (n - 87)
  else if 65 ≤ n ∧ n ≤ 70 then some (n - 55)
  else none

def hexDecodeChars : List Char → Option Bytes
  | [] => some []
  | [_] => none
  | high :: low :: rest => do
      let h ← hexValue? high
      let l ← hexValue? low
      let bytes ← hexDecodeChars rest
      return UInt8.ofNat (16 * h + l) :: bytes

def hexDecode (text : String) : Option Bytes := hexDecodeChars text.toList

/-! ## Trees -/

section Tree

variable (sha256 : Bytes → Bytes)

def merkleLeafFromRecord {α : Type} [JsonRecord α] (record : α) : Bytes :=
  sha256 (0 :: (JsonRecord.json record).toUTF8.toList)

def merkleParent (left right : Bytes) : Bytes := sha256 (1 :: (left ++ right))

/-- The parents of one level, the last element paired with itself when it has no neighbour. -/
def merkleLevel : List Bytes → List Bytes
  | [] => []
  | [left] => [merkleParent sha256 left left]
  | left :: right :: rest => merkleParent sha256 left right :: merkleLevel rest

/-- Climb to the root. The fuel bounds the number of levels. -/
def merkleClimb : ℕ → List Bytes → Bytes
  | 0, level => level.headD []
  | fuel + 1, level =>
      if 1 < level.length then merkleClimb fuel (merkleLevel sha256 level) else level.headD []

def merkleRoot (leaves : List Bytes) : Bytes :=
  if leaves = [] then List.replicate 32 0 else merkleClimb sha256 leaves.length leaves

def merkleProofClimb : ℕ → List Bytes → ℕ → List Bytes
  | 0, _, _ => []
  | fuel + 1, level, index =>
      if 1 < level.length then
        let sibling := if index ^^^ 1 < level.length then index ^^^ 1 else index
        level.getD sibling [] :: merkleProofClimb fuel (merkleLevel sha256 level) (index / 2)
      else []

def merkleProof (leaves : List Bytes) (index : ℕ) : List Bytes :=
  merkleProofClimb sha256 leaves.length leaves index

def verifyMerkleProof (leaf : Bytes) : List Bytes → ℕ → Bytes
  | [], _ => leaf
  | sibling :: proof, index =>
      let current := if index % 2 = 0 then merkleParent sha256 leaf sibling
        else merkleParent sha256 sibling leaf
      verifyMerkleProof current proof (index / 2)

/-- The root and leaf count that commit to a list of records. -/
def merkleRootHexForRecords {α : Type} [JsonRecord α] (records : List α) : MerkleCommitment :=
  if records = [] then ⟨hexEncode (List.replicate 32 0), 0⟩
  else
    ⟨hexEncode (merkleRoot sha256 (records.map (merkleLeafFromRecord sha256))),
      Framework.wrap32 records.length⟩

def merkleProofHexForRecords {α : Type} [JsonRecord α] (records : List α) (index : ℕ) :
    Except ChainError (List String) :=
  if index < records.length then
    .ok ((merkleProof sha256 (records.map (merkleLeafFromRecord sha256)) index).map hexEncode)
  else .error (.plain "merkle proof index out of range")

def verifyMerkleProofHex (leaf : Bytes) (proofHex : List String) (index : ℕ)
    (expectedRootHex : String) : Bool :=
  match proofHex.mapM hexDecode with
  | none => false
  | some proof => hexEncode (verifyMerkleProof sha256 leaf proof index) == expectedRootHex

end Tree

end PoleProtocol.Chain
