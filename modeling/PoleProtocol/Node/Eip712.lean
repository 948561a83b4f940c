import PoleProtocol.Framework.TypedData
import PoleProtocol.Node.SignedTransactions

/-!
# Typed-data digests

The digest that a wallet signs covers a domain and a message, both hashed as records with the name
of their type. Short of a collision among the texts hashed, a digest belongs to one domain and one
message, so that a signature for one is not a signature for another.
-/

namespace PoleProtocol.Node.Eip712

open Framework Ledger

/-- Bytes of a fixed number. -/
abbrev FixedBytes (count : ℕ) := {bytes : Bytes // bytes.length = count}

/-! ## Fields -/

def beBytes64 (value : UInt64) : Bytes :=
  (List.range 8).map fun i => UInt8.ofNat (value.toNat / 2 ^ (8 * (7 - i)))

def encodeUint256 (value : UInt64) : FixedBytes 32 :=
  ⟨List.replicate 24 0 ++ beBytes64 value, by simp [beBytes64]⟩

def encodeAddress (value : FixedBytes 20) : FixedBytes 32 :=
  ⟨List.replicate 12 0 ++ value.1, by simp [value.2]⟩

def encodeBytes32 (value : FixedBytes 32) : FixedBytes 32 := value

section Keccak

variable (keccak256 : Bytes → FixedBytes 32)

def encodeString (value : String) : FixedBytes 32 := keccak256 value.toUTF8.toList

def hashStruct (typeHash : FixedBytes 32) (encodedFields : Bytes) : FixedBytes 32 :=
  keccak256 (typeHash.1 ++ encodedFields)

def typedDataHash (domainSeparator messageHash : FixedBytes 32) : FixedBytes 32 :=
  keccak256 ([0x19, 0x01] ++ domainSeparator.1 ++ messageHash.1)

end Keccak

/-! ## Domains -/

structure DomainSeparator where
  name : String
  version : String
  chainId : UInt64
  verifyingContract : FixedBytes 20
  salt : Option (FixedBytes 32)
  deriving DecidableEq

namespace DomainSeparator

def saltedType : String :=
  "EIP712Domain(string name,string version,uint256 chainId,address verifyingContract,bytes32 salt)"

def plainType : String :=
  "EIP712Domain(string name,string version,uint256 chainId,address verifyingContract)"

/-- Only the salt can be left out, and then also out of the type. -/
def domainType (domain : DomainSeparator) : String :=
  match domain.salt with
  | some _ => saltedType
  | none => plainType

def hash (keccak256 : Bytes → FixedBytes 32) (domain : DomainSeparator) : FixedBytes 32 :=
  keccak256 ((keccak256 domain.domainType.toUTF8.toList).1 ++
    (keccak256 domain.name.toUTF8.toList).1 ++ (keccak256 domain.version.toUTF8.toList).1 ++
    (encodeUint256 domain.chainId).1 ++ (encodeAddress domain.verifyingContract).1 ++
    (domain.salt.map (·.1)).getD [])

end DomainSeparator

/-- The signer sees the digest only. -/
def eip712Sign (keccak256 : Bytes → FixedBytes 32) (domain : DomainSeparator)
    (messageHash : FixedBytes 32) (sign : FixedBytes 32 → Except CosmosError Bytes) :
    Except CosmosError Bytes :=
  (sign (typedDataHash keccak256 (domain.hash keccak256) messageHash)).mapError fun e =>
    .encode ("eip712 sign: " ++ e.text)

/-! ## Domains and messages as typed data -/

/-- The hash over words of 32 bytes. -/
def wordHash (keccak256 : Bytes → FixedBytes 32) : WordHash (FixedBytes 32) where
  hash := keccak256
  bytes := Subtype.val
  width := 32
  length_bytes word := word.2
  bytes_injective := Subtype.val_injective

/-- A message whose members are of the kinds that its type says. -/
structure TypedMessage (schema : Bytes → List TypedKind) where
  primaryType : Bytes
  fields : List (TypedValue (FixedBytes 32))
  conforms : TypedValue.ConformsAll schema (schema primaryType) fields

def TypedMessage.value {schema : Bytes → List TypedKind} (message : TypedMessage schema) :
    TypedValue (FixedBytes 32) :=
  .record message.primaryType message.fields

def TypedMessage.hash {schema : Bytes → List TypedKind} (keccak256 : Bytes → FixedBytes 32)
    (message : TypedMessage schema) : FixedBytes 32 :=
  hashStruct keccak256 (keccak256 message.primaryType)
    (TypedValue.encodeAll (wordHash keccak256) message.fields)

namespace DomainSeparator

def fields (domain : DomainSeparator) : List (TypedValue (FixedBytes 32)) :=
  [.text domain.name.toUTF8.toList, .text domain.version.toUTF8.toList,
    .word (encodeUint256 domain.chainId), .word (encodeAddress domain.verifyingContract)] ++
    (domain.salt.map TypedValue.word).toList

def value (domain : DomainSeparator) : TypedValue (FixedBytes 32) :=
  .record domain.domainType.toUTF8.toList domain.fields

/-- The members that the two types of a domain list. -/
def schema (type : Bytes) : List TypedKind :=
  if type = saltedType.toUTF8.toList then [.text, .text, .word, .word, .word]
  else [.text, .text, .word, .word]

end DomainSeparator

/-- Everything that is hashed for an authorization. -/
def authorizationTexts {schema : Bytes → List TypedKind} (keccak256 : Bytes → FixedBytes 32)
    (domain : DomainSeparator) (message : TypedMessage schema) : List Bytes :=
  ([0x19, 0x01] ++ (domain.hash keccak256).1 ++ (message.hash keccak256).1) ::
    (domain.value.texts (wordHash keccak256) ++ message.value.texts (wordHash keccak256))

/-! ## Fields are determined by their words -/

theorem beBytes64_injective : Function.Injective beBytes64 := by
  intro value value' h
  have hbyte : ∀ i < 8, value.toNat / 2 ^ (8 * (7 - i)) % 256 =
      value'.toNat / 2 ^ (8 * (7 - i)) % 256 := by
    intro i hi
    have hsame := (List.map_inj_left.mp h) i (List.mem_range.mpr hi)
    simpa using congrArg UInt8.toNat hsame
  have h0 := hbyte 0 (by omega)
  have h1 := hbyte 1 (by omega)
  have h2 := hbyte 2 (by omega)
  have h3 := hbyte 3 (by omega)
  have h4 := hbyte 4 (by omega)
  have h5 := hbyte 5 (by omega)
  have h6 := hbyte 6 (by omega)
  have h7 := hbyte 7 (by omega)
  have hbound := value.toNat_lt
  have hbound' := value'.toNat_lt
  apply UInt64.toNat_inj.mp
  norm_num at h0 h1 h2 h3 h4 h5 h6 h7 hbound hbound'
  omega

theorem encodeUint256_injective : Function.Injective encodeUint256 := by
  intro value value' h
  have hbytes := congrArg Subtype.val h
  exact beBytes64_injective (List.append_cancel_left hbytes)

theorem encodeAddress_injective : Function.Injective encodeAddress := by
  intro value value' h
  have hbytes := congrArg Subtype.val h
  exact Subtype.ext (List.append_cancel_left hbytes)

/-! ## The digests of the source are those of the typed data -/

variable (keccak256 : Bytes → FixedBytes 32)

theorem DomainSeparator.hash_eq (domain : DomainSeparator) :
    domain.hash keccak256 = domain.value.encode (wordHash keccak256) := by
  rcases domain with ⟨name, version, chainId, verifyingContract, _ | salt⟩ <;>
    simp [DomainSeparator.hash, value, fields, domainType, TypedValue.encode,
      TypedValue.encodeAll, wordHash]

theorem TypedMessage.hash_eq {schema : Bytes → List TypedKind} (message : TypedMessage schema) :
    message.hash keccak256 = message.value.encode (wordHash keccak256) := by
  simp [TypedMessage.hash, hashStruct, value, TypedValue.encode, wordHash]

theorem DomainSeparator.conforms (domain : DomainSeparator) :
    TypedValue.ConformsAll schema (schema domain.domainType.toUTF8.toList) domain.fields := by
  rcases domain with ⟨name, version, chainId, verifyingContract, _ | salt⟩
  · have hplain : plainType.toUTF8.toList ≠ saltedType.toUTF8.toList := by
      intro h
      have htypes := Chain.utf8_injective h
      revert htypes
      decide
    have hkinds : schema plainType.toUTF8.toList = [.text, .text, .word, .word] := if_neg hplain
    change TypedValue.ConformsAll schema (schema plainType.toUTF8.toList) _
    rw [hkinds]
    simp [fields, TypedValue.ConformsAll, TypedValue.Conforms]
  · simp [schema, domainType, fields, TypedValue.ConformsAll, TypedValue.Conforms]

theorem DomainSeparator.fields_injective : Function.Injective DomainSeparator.fields := by
  intro domain domain' h
  rcases domain with ⟨name, version, chainId, verifyingContract, salt⟩
  rcases domain' with ⟨name', version', chainId', verifyingContract', salt'⟩
  simp only [fields, List.cons_append, List.nil_append, List.cons.injEq, TypedValue.text.injEq,
    TypedValue.word.injEq] at h
  obtain ⟨hname, hversion, hchain, haddress, hsalt⟩ := h
  have hsalts : salt = salt' := by
    cases salt <;> cases salt' <;> simp_all
  rw [Chain.utf8_injective hname, Chain.utf8_injective hversion, encodeUint256_injective hchain,
    encodeAddress_injective haddress, hsalts]

/-! ## A digest belongs to one authorization -/

/-- Two authorizations with one digest are the same domain and the same message, unless two of the
texts hashed for them collide. -/
theorem typed_data_binds {schema : Bytes → List TypedKind} {domain domain' : DomainSeparator}
    {message message' : TypedMessage schema}
    (hfree : TypedValue.CollisionFree (wordHash keccak256)
      (authorizationTexts keccak256 domain message)
      (authorizationTexts keccak256 domain' message'))
    (hsame : typedDataHash keccak256 (domain.hash keccak256) (message.hash keccak256) =
      typedDataHash keccak256 (domain'.hash keccak256) (message'.hash keccak256)) :
    domain = domain' ∧ message = message' := by
  have htext : [0x19, 0x01] ++ (domain.hash keccak256).1 ++ (message.hash keccak256).1 =
      [0x19, 0x01] ++ (domain'.hash keccak256).1 ++ (message'.hash keccak256).1 :=
    hfree _ List.mem_cons_self _ List.mem_cons_self hsame
  rw [List.append_assoc, List.append_assoc] at htext
  have hwords : (wordHash keccak256).bytes (domain.hash keccak256) ++ (message.hash keccak256).1 =
      (wordHash keccak256).bytes (domain'.hash keccak256) ++ (message'.hash keccak256).1 :=
    List.append_cancel_left htext
  obtain ⟨hdomains, hmessages⟩ := TypedValue.bytes_append_inj hwords
  constructor
  · rw [DomainSeparator.hash_eq, DomainSeparator.hash_eq] at hdomains
    have hdomainFree : TypedValue.CollisionFree (wordHash keccak256)
        (domain.value.texts (wordHash keccak256)) (domain'.value.texts (wordHash keccak256)) :=
      hfree.mono (fun text htext => List.mem_cons_of_mem _ (List.mem_append_left _ htext))
        (fun text htext => List.mem_cons_of_mem _ (List.mem_append_left _ htext))
    exact DomainSeparator.fields_injective
      (TypedValue.record_inj hdomainFree domain.conforms domain'.conforms hdomains).2
  · have hsameMessage : message.hash keccak256 = message'.hash keccak256 := Subtype.ext hmessages
    rw [TypedMessage.hash_eq, TypedMessage.hash_eq] at hsameMessage
    have hmessageFree : TypedValue.CollisionFree (wordHash keccak256)
        (message.value.texts (wordHash keccak256)) (message'.value.texts (wordHash keccak256)) :=
      hfree.mono (fun text htext => List.mem_cons_of_mem _ (List.mem_append_right _ htext))
        (fun text htext => List.mem_cons_of_mem _ (List.mem_append_right _ htext))
    obtain ⟨hname, hfields⟩ :=
      TypedValue.record_inj hmessageFree message.conforms message'.conforms hsameMessage
    cases message
    cases message'
    cases hname
    cases hfields
    rfl

namespace Sample

/-- The word of a number. -/
def word (value : ℕ) : FixedBytes 32 :=
  ⟨(List.range 32).map fun i => UInt8.ofNat (value / 256 ^ (31 - i)), by simp⟩

/-- The digests of the texts hashed for a mail, which differ in their lengths or last bytes. -/
def digests : List ((ℕ × UInt8) × ℕ) :=
  [((82, 0x29), 0x8b73c3c69bb8fe3d512ecc4cf759cc79239f7b179b0ffacaa9a75d522b39400f),
    ((10, 0x6c), 0xc70ef06638535b4881fafcac8287e210e3769ff1a8e91f1b95d6246e61e4d3c6),
    ((1, 0x31), 0xc89efdaa54c0f20c7adf612882df0950f5a951637e0307cdcb4c672f298b8bc6),
    ((160, 0xcc), 0xf2cee375fa42b42143804025fc449deafd50cc031ca257e0b194a650a912090f),
    ((77, 0x29), 0xa0cedeb2dc280ba39b857546d74f5549c3a1d7bdc2dd96bf881f76108e23dac2),
    ((34, 0x29), 0xb9d8c78acf9b987311de6c7b45bb6a9c8e1bf361fa7fd3467a2163f994c79500),
    ((3, 0x77), 0x8c1d2bd5348394761719da11ec67eedae9502d137e8940fee8ecd6f641ee1648),
    ((3, 0x62), 0x28cac318a86c8a0a6a9156c2dba2c8c2363677ba0514ef616592d81557e679b6),
    ((11, 0x21), 0xb5aadf3154a261abdd9086fc627b61efca26ae5702701d05cd2305f7c52a2fc8),
    ((96, 0x26), 0xfc71e5fa27ff56c350aa531bc129ebdf613b772b6604664f5d8dbe21b85eb0c8),
    ((96, 0x5c), 0xd5137c9108c051bb9c1e5c47ccbb93b23f696bacb36484b2cb0fe0e5934a228c),
    ((128, 0xc8), 0x1be177f7195c2412e97c6a288029793ca07b7713a7a82b7731dad07a3efe4e0d),
    ((66, 0x0d), 0x402e171069a6cd61bdee2ef100f90701ece65c39caf59ae30eaee87c74289604)]

def digest (text : Bytes) : FixedBytes 32 :=
  word ((digests.lookup (text.length, text.getLastD 0)).getD 0)

def mailType : Bytes :=
  "Mail(Person from,Person to,string contents)Person(string name,address wallet)".toUTF8.toList

def personType : Bytes := "Person(string name,address wallet)".toUTF8.toList

def schema (type : Bytes) : List TypedKind :=
  if type = mailType then [.record personType, .record personType, .text] else [.text, .word]

def person (name : String) (wallet : FixedBytes 20) : TypedValue (FixedBytes 32) :=
  .record personType [.text name.toUTF8.toList, .word (encodeAddress wallet)]

def mailFields : List (TypedValue (FixedBytes 32)) :=
  [person "Cow" ⟨(word 0xcd2a3d9f938e13cd947ec05abc7fe734df8dd826).1.drop 12, rfl⟩,
    person "Bob" ⟨(word 0xbbfa62c1571b141684e8cb46be5c5b48b0e89e5c).1.drop 12, rfl⟩,
    .text "Hello, Bob!".toUTF8.toList]

theorem conforms_person (name : String) (wallet : FixedBytes 20) :
    TypedValue.Conforms schema (.record personType) (person name wallet) := by
  have hother : personType ≠ mailType := by decide +kernel
  have hkinds : schema personType = [.text, .word] := if_neg hother
  simp [person, TypedValue.Conforms, TypedValue.ConformsAll, hkinds]

/-- Cow writes to Bob. -/
def mail : TypedMessage schema where
  primaryType := mailType
  fields := mailFields
  conforms := by
    have hkinds : schema mailType = [.record personType, .record personType, .text] := if_pos rfl
    rw [hkinds]
    simp [mailFields, TypedValue.ConformsAll, TypedValue.Conforms, conforms_person]

def etherMail : DomainSeparator where
  name := "Ether Mail"
  version := "1"
  chainId := 1
  verifyingContract := ⟨List.replicate 20 0xcc, rfl⟩
  salt := none

end Sample

/-- The digest of the mail belongs to it. -/
theorem typed_data_binds_mail :
    typedDataHash Sample.digest (Sample.etherMail.hash Sample.digest)
        (Sample.mail.hash Sample.digest) =
      Sample.word 0x402e171069a6cd61bdee2ef100f90701ece65c39caf59ae30eaee87c74289604 ∧
    Sample.etherMail = Sample.etherMail ∧ Sample.mail = Sample.mail := by
  have hfree : TypedValue.CollisionFree (wordHash Sample.digest)
      (authorizationTexts Sample.digest Sample.etherMail Sample.mail)
      (authorizationTexts Sample.digest Sample.etherMail Sample.mail) := by
    unfold TypedValue.CollisionFree
    decide +kernel
  exact ⟨by decide +kernel, typed_data_binds Sample.digest hfree rfl⟩

end PoleProtocol.Node.Eip712
