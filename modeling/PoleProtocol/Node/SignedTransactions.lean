import PoleProtocol.Framework.Base64
import PoleProtocol.Node.BridgeRoundTrip
import PoleProtocol.Node.RewardEvidence
import PoleProtocol.Node.Transactions

/-!
# What a transaction says

A transaction that is broadcast is read in direct mode as the message of the bridge, with the key,
the sequence and the fee that the builder put in, and its signature is one over the bytes that the
reader computes again. Two transactions with the same signed bytes say the same.
-/

namespace PoleProtocol.Node

open Framework Framework.Protobuf Ledger

/-! ## Reading in direct mode -/

/-- A transaction of one message and one signer. -/
structure DirectTx where
  message : AnyMessage
  memo : String
  timeoutHeight : UInt64
  publicKey : Bytes
  sequence : UInt64
  fee : Fee
  signature : Bytes
  /-- What the signature is over. -/
  signBytes : Bytes

/-- The key of a signer, an ed25519 one. -/
def readKey (key : AnyMessage) : Option Bytes :=
  if key.typeUrl = "/cosmos.crypto.ed25519.PubKey" then
    (parseFields key.value).bind fun fields => readBytes fields 1
  else none

def readDirect (chainId : String) (accountNumber : UInt64) (bytes : Bytes) : Option DirectTx := do
  let raw ← txRawFormat.decode bytes
  let body ← txBodyFormat.decode raw.bodyBytes
  let authInfo ← authInfoFormat.decode raw.authInfoBytes
  match body.messages, authInfo.signerInfos, raw.signatures with
  | [message], [{ publicKey := some key, modeInfo := some { single := some mode }, sequence }],
      [signature] => do
      guard (mode = 1)
      let publicKey ← readKey key
      let fee ← authInfo.fee
      let doc : SignDoc := { bodyBytes := raw.bodyBytes, authInfoBytes := raw.authInfoBytes,
                             chainId, accountNumber }
      return { message, memo := body.memo, timeoutHeight := body.timeoutHeight, publicKey, sequence,
               fee, signature, signBytes := signDocFormat.encode doc }
  | _, _, _ => none

/-! ## What the builder signs -/

theorem length_hash32_bytes (hash : Hash32) : hash.bytes.length = 32 := by
  simp [Hash32.bytes]

theorem readKey_pubkey (pubkey : Hash32) :
    readKey { typeUrl := "/cosmos.crypto.ed25519.PubKey",
              value := TxBuilder.pubkeyToProtoBytes pubkey } = some pubkey.bytes := by
  have hwritten : TxBuilder.pubkeyToProtoBytes pubkey =
      encodeFields [⟨1, .content pubkey.bytes⟩] := by
    rw [encodeFields_cons]
    change _ = (varint (8 * 1 + 2) ++ (varint pubkey.bytes.length ++ pubkey.bytes)) ++ []
    rw [length_hash32_bytes, varint_of_lt (by decide), varint_of_lt (by decide), List.append_nil]
    rfl
  have hlength : (encodeFields [⟨1, .content pubkey.bytes⟩]).length < 2 ^ 64 := by
    rw [← hwritten, TxBuilder.pubkeyToProtoBytes, List.length_cons, List.length_cons,
      length_hash32_bytes]
    decide
  have hlisted : ∀ field ∈ [WireField.mk 1 (.content pubkey.bytes)], field.Listed := by
    intro field hfield
    rw [List.mem_singleton.mp hfield]
    exact ⟨Nat.one_pos, Nat.one_lt_two_pow (by decide), WireValue.listed_content _⟩
  rw [readKey, if_pos rfl]
  change (parseFields (TxBuilder.pubkeyToProtoBytes pubkey)).bind _ = _
  rw [hwritten, parseFields_of_length hlisted hlength, Option.bind_some]
  rfl

section Build

variable {packages : TxPackages} {policy : Overflow} {builder : TxBuilder} {msg : BridgeMessage}
  {signer : CosmosAddress} {keypair : KeyPair} {signed : SignedTx}

/-- The text of the account of a key. -/
def derivedAddress (packages : TxPackages) (leading : String) (pubkey : Bytes) :
    Except String String :=
  packages.bech32Encode leading (cosmosAccountFromPubkey packages.sha256 pubkey)

/-- The transaction of the message, once the fee is known. -/
def TxBuilder.authInfo (builder : TxBuilder) (pubkey : Hash32) (amount : ℕ) : AuthInfo where
  signerInfos :=
    [{ publicKey := some { typeUrl := "/cosmos.crypto.ed25519.PubKey",
                           value := TxBuilder.pubkeyToProtoBytes pubkey },
       modeInfo := some { single := some 1 },
       sequence := builder.sequence }]
  fee := some { amount := [{ denom := builder.fee.denom, amount := toString amount }],
                gasLimit := builder.fee.gasLimit, payer := "", granter := "" }
  tip := none

def TxBuilder.signDoc (builder : TxBuilder) (msg : BridgeMessage) (pubkey : Hash32) (amount : ℕ) :
    SignDoc where
  bodyBytes := txBodyFormat.encode (builder.buildBody msg)
  authInfoBytes := authInfoFormat.encode (builder.authInfo pubkey amount)
  chainId := builder.chainId
  accountNumber := builder.accountNumber

theorem buildAuthInfo_eq_some {pubkey : Hash32} {authInfo : AuthInfo} :
    builder.buildAuthInfo policy pubkey = some authInfo ↔
      ∃ amount, builder.fee.estimatedFee policy = some amount ∧
        authInfo = builder.authInfo pubkey amount := by
  cases hfee : builder.fee.estimatedFee policy with
  | none => simp [TxBuilder.buildAuthInfo, FeeConfig.toProto, hfee]
  | some amount =>
      simp [TxBuilder.buildAuthInfo, FeeConfig.toProto, hfee, TxBuilder.authInfo, eq_comm]

theorem mapError_eq_ok {ε ε' α : Type} {h : ε → ε'} {x : Except ε α} {a : α} :
    x.mapError h = .ok a ↔ x = .ok a := by
  cases x <;> simp [Except.mapError]

theorem signSignDoc_eq_ok (hdocumented : packages.Documented) {doc : SignDoc} {signature : Bytes} :
    signSignDoc packages keypair doc = .ok signature ↔
      signature.length = 64 ∧ signature = keypair.sign (signDocFormat.encode doc) := by
  simp only [signSignDoc, SignDoc.signingBytes, hdocumented.signDoc, bind_eq_ok, mapError_eq_ok,
    Except.ok.injEq, exists_eq_left', ensure_eq_ok, pure_eq_ok]
  constructor
  · rintro ⟨_, hlength, rfl⟩
    exact ⟨hlength, rfl⟩
  · rintro ⟨hlength, rfl⟩
    exact ⟨(), hlength, rfl⟩

/-- When the builder returns a transaction, and which. -/
theorem TxBuilder.build_eq_ok (hdocumented : packages.Documented) :
    builder.build packages policy msg signer keypair = .ok signed ↔
      derivedAddress packages signer.prefixText keypair.publicKey.bytes = .ok signer.bech32 ∧
      ∃ amount, builder.fee.estimatedFee policy = some amount ∧
        ∃ signature, signature.length = 64 ∧
          signature = keypair.sign
            (signDocFormat.encode (builder.signDoc msg keypair.publicKey amount)) ∧
          signed =
            { bodyBytes := txBodyFormat.encode (builder.buildBody msg),
              authInfoBytes := authInfoFormat.encode (builder.authInfo keypair.publicKey amount),
              signatures := [signature] } := by
  simp only [TxBuilder.build, TxPackages.encodeBech32, mapError_eq_ok, bind_eq_ok, ensure_eq_ok,
    require_eq_ok, buildAuthInfo_eq_some, hdocumented.txBody, hdocumented.authInfo,
    Except.ok.injEq, exists_eq_left', signWithKeypair, signSignDoc_eq_ok hdocumented, pure_eq_ok]
  constructor
  · rintro ⟨_, hderived, _, rfl, _, ⟨amount, hamount, rfl⟩, signature, ⟨hlength, hsigned⟩, rfl⟩
    exact ⟨hderived, amount, hamount, signature, hlength, hsigned, rfl⟩
  · rintro ⟨hderived, amount, hamount, signature, hlength, hsigned, rfl⟩
    exact ⟨_, hderived, (), rfl, _, ⟨amount, hamount, rfl⟩, signature, ⟨hlength, hsigned⟩, rfl⟩

/-- What the signature of a transaction is over. -/
def SignedTx.signBytes (signed : SignedTx) (builder : TxBuilder) : Bytes :=
  signDocFormat.encode
    { bodyBytes := signed.bodyBytes, authInfoBytes := signed.authInfoBytes,
      chainId := builder.chainId, accountNumber := builder.accountNumber }

end Build

/-! ## What is read -/

section Build

variable {packages : TxPackages} {policy : Overflow} {builder : TxBuilder}
  {msg msg' : BridgeMessage} {signer signer' : CosmosAddress} {keypair keypair' : KeyPair}
  {signed signed' : SignedTx}

/-- What the transaction of the builder is read as. -/
def TxBuilder.directTx (builder : TxBuilder) (msg : BridgeMessage) (keypair : KeyPair)
    (amount : ℕ) : DirectTx where
  message := msg.toAny
  memo := builder.memo
  timeoutHeight := builder.timeoutHeight
  publicKey := keypair.publicKey.bytes
  sequence := builder.sequence
  fee := { amount := [{ denom := builder.fee.denom, amount := toString amount }],
           gasLimit := builder.fee.gasLimit, payer := "", granter := "" }
  signature := keypair.sign (signDocFormat.encode (builder.signDoc msg keypair.publicKey amount))
  signBytes := signDocFormat.encode (builder.signDoc msg keypair.publicKey amount)

theorem readDirect_build (hdocumented : packages.Documented)
    (hbuild : builder.build packages policy msg signer keypair = .ok signed)
    (hlength : (txRawFormat.encode signed.raw).length < 2 ^ 64) :
    ∃ amount, builder.fee.estimatedFee policy = some amount ∧
      readDirect builder.chainId builder.accountNumber (txRawFormat.encode signed.raw) =
        some (builder.directTx msg keypair amount) := by
  obtain ⟨_, amount, hamount, signature, _, rfl, rfl⟩ := (TxBuilder.build_eq_ok hdocumented).mp hbuild
  have hreadable := Format.readable hlength
  have hbody : txBodyFormat.decode _ = some (builder.buildBody msg) :=
    @Format.decode_of_bytes _ _ _ _ 1 hreadable (by simp [txRawFormat, SignedTx.raw])
  have hauthInfo : authInfoFormat.decode _ = some (builder.authInfo keypair.publicKey amount) :=
    @Format.decode_of_bytes _ _ _ _ 2 hreadable (by simp [txRawFormat, SignedTx.raw])
  refine ⟨amount, hamount, ?_⟩
  rw [readDirect, Format.decode_encode hlength, Option.bind_eq_bind, Option.bind_some]
  simp only [SignedTx.raw, hbody, hauthInfo, Option.bind_eq_bind, Option.bind_some]
  simp only [TxBuilder.authInfo, TxBuilder.buildBody, readKey_pubkey]
  rfl

/-- The signed bytes determine what is signed. -/
theorem signDoc_inj {builder' : TxBuilder} {pubkey pubkey' : Hash32} {amount amount' : ℕ}
    (hsame : signDocFormat.encode (builder.signDoc msg pubkey amount) =
      signDocFormat.encode (builder'.signDoc msg' pubkey' amount'))
    (hlength : (signDocFormat.encode (builder.signDoc msg pubkey amount)).length < 2 ^ 64) :
    (builder.chainId = builder'.chainId ∧ builder.accountNumber = builder'.accountNumber) ∧
      builder.buildBody msg = builder'.buildBody msg' ∧
      builder.authInfo pubkey amount = builder'.authInfo pubkey' amount' := by
  have hdoc := Format.encode_inj hlength hsame
  have hreadable := Format.readable hlength
  have hbody : (txBodyFormat.encode (builder.buildBody msg)).length < 2 ^ 64 :=
    @length_bytes_lt _ 1 hreadable _ (by simp [signDocFormat, TxBuilder.signDoc])
  have hauthInfo : (authInfoFormat.encode (builder.authInfo pubkey amount)).length < 2 ^ 64 :=
    @length_bytes_lt _ 2 hreadable _ (by simp [signDocFormat, TxBuilder.signDoc])
  refine ⟨⟨congrArg SignDoc.chainId hdoc, congrArg SignDoc.accountNumber hdoc⟩, ?_, ?_⟩
  · exact Format.encode_inj hbody (congrArg SignDoc.bodyBytes hdoc)
  · exact Format.encode_inj hauthInfo (congrArg SignDoc.authInfoBytes hdoc)

theorem pubkeyToProtoBytes_injective : Function.Injective TxBuilder.pubkeyToProtoBytes := by
  intro pubkey pubkey' h
  exact hash32_bytes_injective (List.cons.inj (List.cons.inj h).2).2

theorem authInfo_inj {builder' : TxBuilder} {pubkey pubkey' : Hash32} {amount amount' : ℕ}
    (h : builder.authInfo pubkey amount = builder'.authInfo pubkey' amount') :
    pubkey = pubkey' ∧ builder.sequence = builder'.sequence ∧
      builder.fee.denom = builder'.fee.denom ∧ builder.fee.gasLimit = builder'.fee.gasLimit ∧
      amount = amount' := by
  simp only [TxBuilder.authInfo, AuthInfo.mk.injEq, List.cons.injEq, SignerInfo.mk.injEq,
    AnyMessage.mk.injEq, Option.some.injEq, Fee.mk.injEq, Coin.mk.injEq, and_true, true_and] at h
  obtain ⟨⟨hkey, hsequence⟩, ⟨hdenom, hamount⟩, hgas⟩ := h
  exact ⟨pubkeyToProtoBytes_injective hkey, hsequence, hdenom, hgas, Nat.repr_injective hamount⟩

/-- A signature covers everything: two transactions whose signed bytes are the same were built
for one chain and one account, at one sequence, with one fee, by one key, and hold one message. -/
theorem signed_bytes_determine {builder' : TxBuilder} (hdocumented : packages.Documented)
    (hbuild : builder.build packages policy msg signer keypair = .ok signed)
    (hbuild' : builder'.build packages policy msg' signer' keypair' = .ok signed')
    (hsame : signed.signBytes builder = signed'.signBytes builder')
    (hlength : (signed.signBytes builder).length < 2 ^ 64) :
    (builder.chainId = builder'.chainId ∧ builder.accountNumber = builder'.accountNumber ∧
      builder.sequence = builder'.sequence) ∧
    (builder.fee.denom = builder'.fee.denom ∧ builder.fee.gasLimit = builder'.fee.gasLimit ∧
      builder.fee.estimatedFee policy = builder'.fee.estimatedFee policy) ∧
    (builder.memo = builder'.memo ∧ builder.timeoutHeight = builder'.timeoutHeight) ∧
    keypair.publicKey = keypair'.publicKey ∧
    msg.toAny = msg'.toAny ∧
    ∀ m m', msg.Fits → msg'.Fits → msg.meaning = some m → msg'.meaning = some m' → m = m' := by
  obtain ⟨_, amount, hamount, _, _, _, rfl⟩ := (TxBuilder.build_eq_ok hdocumented).mp hbuild
  obtain ⟨_, amount', hamount', _, _, _, rfl⟩ := (TxBuilder.build_eq_ok hdocumented).mp hbuild'
  obtain ⟨⟨hchain, haccount⟩, hbody, hauthInfo⟩ := signDoc_inj hsame hlength
  obtain ⟨hkey, hsequence, hdenom, hgas, rfl⟩ := authInfo_inj hauthInfo
  have hany : msg.toAny = msg'.toAny := (List.cons.inj (congrArg TxBody.messages hbody)).1
  refine ⟨⟨hchain, haccount, hsequence⟩, ⟨hdenom, hgas, hamount.trans hamount'.symm⟩,
    ⟨congrArg TxBody.memo hbody, congrArg TxBody.timeoutHeight hbody⟩, hkey, hany, ?_⟩
  intro m m' hfits hfits' hmeaning hmeaning'
  have hread := BridgeMessage.unpack_toAny hfits hmeaning
  rw [hany, BridgeMessage.unpack_toAny hfits' hmeaning'] at hread
  exact (Option.some.inj hread).symm

end Build

/-! ## A run of the builder -/

namespace Sample

def packages : TxPackages where
  encodeTxBody body := .ok (txBodyFormat.encode body)
  encodeAuthInfo authInfo := .ok (authInfoFormat.encode authInfo)
  encodeSignDoc doc := .ok (signDocFormat.encode doc)
  encodeTxRaw raw := .ok (txRawFormat.encode raw)
  sha256 _ := 7
  bech32Encode leading _ := .ok (leading ++ "1n")
  base64Encode := base64Encode
  base64Decode text := require (base64Decode text) "Invalid byte"

theorem packages_documented : packages.Documented :=
  ⟨fun _ => rfl, fun _ => rfl, fun _ => rfl, fun _ => rfl⟩

def txKey : KeyPair := ⟨1, fun _ => List.replicate 64 9⟩

def txBuilder : TxBuilder := (TxBuilder.new "pole-test").withSequence 4 2

/-- The registration of a node as a transaction. -/
def signedRegistration : SignedTx where
  bodyBytes := txBodyFormat.encode (txBuilder.buildBody registration)
  authInfoBytes := authInfoFormat.encode (txBuilder.authInfo txKey.publicKey 200000000)
  signatures := [List.replicate 64 9]

theorem build_registration : txBuilder.build packages .panic registration ⟨[], "pole1n"⟩ txKey =
    .ok signedRegistration := by
  have hderived : derivedAddress packages (CosmosAddress.prefixText ⟨[], "pole1n"⟩)
      txKey.publicKey.bytes = .ok "pole1n" := by decide +kernel
  exact (TxBuilder.build_eq_ok packages_documented).mpr ⟨hderived, 200000000, rfl, _, rfl, rfl, rfl⟩

theorem length_registration : (txRawFormat.encode signedRegistration.raw).length < 2 ^ 64 ∧
    (signedRegistration.signBytes txBuilder).length < 2 ^ 64 := by decide +kernel

end Sample

theorem signed_bytes_determine_registration :
    Sample.txBuilder.chainId = "pole-test" ∧ Sample.txBuilder.accountNumber = 4 := by
  have hdetermined := signed_bytes_determine Sample.packages_documented Sample.build_registration
    Sample.build_registration rfl Sample.length_registration.2
  exact ⟨hdetermined.1.1, hdetermined.1.2.1⟩

end PoleProtocol.Node
