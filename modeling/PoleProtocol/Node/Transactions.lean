import PoleProtocol.Framework.Fallible
import PoleProtocol.Framework.Formats
import PoleProtocol.Node.BridgeMessages
import PoleProtocol.Node.Config
import PoleProtocol.Node.RewardRoot

/-!
# Transactions

A message of the bridge is put into a transaction with a fee, signed by the key of its sender, and
broadcast. The messages of a transaction, their encoder, the digest and the address encoding come
from packages; the encoder is one that leaves out the fields that hold their default.
-/

namespace PoleProtocol.Node

open Framework Framework.Protobuf Ledger

/-! ## The messages of a transaction -/

structure Coin where
  denom : String
  amount : String
  deriving DecidableEq

structure Fee where
  amount : List Coin
  gasLimit : UInt64
  payer : String
  granter : String
  deriving DecidableEq

/-- How one key signs; the modes of several keys are not used. -/
structure ModeInfo where
  single : Option Int32
  deriving DecidableEq

structure SignerInfo where
  publicKey : Option AnyMessage
  modeInfo : Option ModeInfo
  sequence : UInt64

structure Tip where
  amount : List Coin
  tipper : String
  deriving DecidableEq

structure AuthInfo where
  signerInfos : List SignerInfo
  fee : Option Fee
  tip : Option Tip

structure TxBody where
  messages : List AnyMessage
  memo : String
  timeoutHeight : UInt64
  extensionOptions : List AnyMessage
  nonCriticalExtensionOptions : List AnyMessage

structure SignDoc where
  bodyBytes : Bytes
  authInfoBytes : Bytes
  chainId : String
  accountNumber : UInt64
  deriving DecidableEq

structure TxRaw where
  bodyBytes : Bytes
  authInfoBytes : Bytes
  signatures : List Bytes
  deriving DecidableEq

/-! ## How they are written -/

def readWord (fields : List WireField) (number : ℕ) : Option UInt64 :=
  (readNumber fields number).map UInt64.ofNat

theorem readWord_present {fields : List WireField} {number : ℕ} {value : UInt64}
    (h : valuesOf fields number = numberValues value.toNat) :
    readWord fields number = some value := by
  rw [readWord, readNumber_present h, Option.map_some, UInt64.ofNat_toNat]

theorem listed_contents (contents : List Bytes) : ListedValues (contents.map .content) := by
  intro value hvalue
  obtain ⟨bytes, _, rfl⟩ := List.mem_map.mp hvalue
  exact WireValue.listed_content bytes

def anyFormat : Format AnyMessage where
  fields m := written [(1, textValues m.typeUrl), (2, bytesValues m.value)]
  read fields := do
    let typeUrl ← readString fields 1
    let value ← readBytes fields 2
    return { typeUrl, value }
  listed m := listed_written (by simp)
  read_fields m _ := by
    simp [@readString_present _ 1 m.typeUrl, @readBytes_present _ 2 m.value]

def coinFormat : Format Coin where
  fields c := written [(1, textValues c.denom), (2, textValues c.amount)]
  read fields := do
    let denom ← readString fields 1
    let amount ← readString fields 2
    return { denom, amount }
  listed c := listed_written (by simp)
  read_fields c _ := by
    simp [@readString_present _ 1 c.denom, @readString_present _ 2 c.amount]

def feeFormat : Format Fee where
  fields f := written
    [(1, f.amount.map coinFormat.value),
      (2, numberValues f.gasLimit.toNat),
      (3, textValues f.payer),
      (4, textValues f.granter)]
  read fields := do
    let amount ← readMessages coinFormat.read fields 1
    let gasLimit ← readWord fields 2
    let payer ← readString fields 3
    let granter ← readString fields 4
    return { amount, gasLimit, payer, granter }
  listed f := listed_written (by simp)
  read_fields f h := by
    simp [@Format.readMessages _ _ _ 1 h f.amount, @readWord_present _ 2 f.gasLimit,
      @readString_present _ 3 f.payer, @readString_present _ 4 f.granter]

def singleFormat : Format Int32 where
  fields mode := written [(1, numberValues mode.toInt64.toUInt64.toNat)]
  read fields := do
    let mode ← readWord fields 1
    return mode.toInt64.toInt32
  listed mode := listed_written (by simp)
  read_fields mode _ := by
    simp [@readWord_present _ 1 mode.toInt64.toUInt64]

def modeInfoFormat : Format ModeInfo where
  fields m := written [(1, m.single.toList.map singleFormat.value)]
  read fields := do
    let single ← readMessage singleFormat.read fields 1
    return { single }
  listed m := listed_written (by simp)
  read_fields m h := by
    simp [@Format.readMessage _ _ _ 1 h m.single]

def signerInfoFormat : Format SignerInfo where
  fields s := written
    [(1, s.publicKey.toList.map anyFormat.value),
      (2, s.modeInfo.toList.map modeInfoFormat.value),
      (3, numberValues s.sequence.toNat)]
  read fields := do
    let publicKey ← readMessage anyFormat.read fields 1
    let modeInfo ← readMessage modeInfoFormat.read fields 2
    let sequence ← readWord fields 3
    return { publicKey, modeInfo, sequence }
  listed s := listed_written (by simp)
  read_fields s h := by
    simp [@Format.readMessage _ _ _ 1 h s.publicKey, @Format.readMessage _ _ _ 2 h s.modeInfo,
      @readWord_present _ 3 s.sequence]

def tipFormat : Format Tip where
  fields t := written [(1, t.amount.map coinFormat.value), (2, textValues t.tipper)]
  read fields := do
    let amount ← readMessages coinFormat.read fields 1
    let tipper ← readString fields 2
    return { amount, tipper }
  listed t := listed_written (by simp)
  read_fields t h := by
    simp [@Format.readMessages _ _ _ 1 h t.amount, @readString_present _ 2 t.tipper]

def authInfoFormat : Format AuthInfo where
  fields a := written
    [(1, a.signerInfos.map signerInfoFormat.value),
      (2, a.fee.toList.map feeFormat.value),
      (3, a.tip.toList.map tipFormat.value)]
  read fields := do
    let signerInfos ← readMessages signerInfoFormat.read fields 1
    let fee ← readMessage feeFormat.read fields 2
    let tip ← readMessage tipFormat.read fields 3
    return { signerInfos, fee, tip }
  listed a := listed_written (by simp)
  read_fields a h := by
    simp [@Format.readMessages _ _ _ 1 h a.signerInfos, @Format.readMessage _ _ _ 2 h a.fee,
      @Format.readMessage _ _ _ 3 h a.tip]

def txBodyFormat : Format TxBody where
  fields b := written
    [(1, b.messages.map anyFormat.value),
      (2, textValues b.memo),
      (3, numberValues b.timeoutHeight.toNat),
      (1023, b.extensionOptions.map anyFormat.value),
      (2047, b.nonCriticalExtensionOptions.map anyFormat.value)]
  read fields := do
    let messages ← readMessages anyFormat.read fields 1
    let memo ← readString fields 2
    let timeoutHeight ← readWord fields 3
    let extensionOptions ← readMessages anyFormat.read fields 1023
    let nonCriticalExtensionOptions ← readMessages anyFormat.read fields 2047
    return { messages, memo, timeoutHeight, extensionOptions, nonCriticalExtensionOptions }
  listed b := listed_written (by simp)
  read_fields b h := by
    simp [@Format.readMessages _ _ _ 1 h b.messages, @readString_present _ 2 b.memo,
      @readWord_present _ 3 b.timeoutHeight, @Format.readMessages _ _ _ 1023 h b.extensionOptions,
      @Format.readMessages _ _ _ 2047 h b.nonCriticalExtensionOptions]

def signDocFormat : Format SignDoc where
  fields d := written
    [(1, bytesValues d.bodyBytes),
      (2, bytesValues d.authInfoBytes),
      (3, textValues d.chainId),
      (4, numberValues d.accountNumber.toNat)]
  read fields := do
    let bodyBytes ← readBytes fields 1
    let authInfoBytes ← readBytes fields 2
    let chainId ← readString fields 3
    let accountNumber ← readWord fields 4
    return { bodyBytes, authInfoBytes, chainId, accountNumber }
  listed d := listed_written (by simp)
  read_fields d _ := by
    simp [@readBytes_present _ 1 d.bodyBytes, @readBytes_present _ 2 d.authInfoBytes,
      @readString_present _ 3 d.chainId, @readWord_present _ 4 d.accountNumber]

def txRawFormat : Format TxRaw where
  fields t := written
    [(1, bytesValues t.bodyBytes),
      (2, bytesValues t.authInfoBytes),
      (3, t.signatures.map .content)]
  read fields := do
    let bodyBytes ← readBytes fields 1
    let authInfoBytes ← readBytes fields 2
    let signatures ← readContents fields 3
    return { bodyBytes, authInfoBytes, signatures }
  listed t := listed_written (by simp [listed_contents])
  read_fields t _ := by
    simp [@readBytes_present _ 1 t.bodyBytes, @readBytes_present _ 2 t.authInfoBytes,
      @readContents_of_values _ 3 t.signatures]

/-! ## Errors -/

inductive CosmosError where
  | invalidHex (error : String)
  | invalidBech32 (error : String)
  | bech32PrefixMismatch (expected actual : String)
  | invalidPubKeyLength (length : ℕ)
  | invalidSignatureLength (length : ℕ)
  | http (error : String)
  | rpc (code : Int32) (message : String)
  | rest (status : UInt16) (body : String)
  | decode (error : String)
  | encode (error : String)
  | broadcastExhausted (attempts : UInt32) (last : String)
  | missingField (field : String)
  | unimplemented (what : String)
  deriving DecidableEq

def CosmosError.text : CosmosError → String
  | invalidHex error => "invalid hex address: " ++ error
  | invalidBech32 error => "invalid bech32 address: " ++ error
  | bech32PrefixMismatch expected actual =>
      "bech32 prefix mismatch: expected " ++ expected ++ ", got " ++ actual
  | invalidPubKeyLength length =>
      "invalid public key length: expected 32, got " ++ toString length
  | invalidSignatureLength length =>
      "invalid signature length: expected 64, got " ++ toString length
  | http error => "HTTP request failed: " ++ error
  | rpc code message => "RPC error (code=" ++ toString code ++ "): " ++ message
  | rest status body => "REST error (status=" ++ toString status ++ "): " ++ body
  | decode error => "failed to decode response: " ++ error
  | encode error => "failed to encode transaction: " ++ error
  | broadcastExhausted attempts last =>
      "broadcast failed after " ++ toString attempts ++ " attempts: " ++ last
  | missingField field => "missing field: " ++ field
  | unimplemented what => "not implemented: " ++ what

/-! ## Packages -/

structure TxPackages where
  encodeTxBody : TxBody → Except String Bytes
  encodeAuthInfo : AuthInfo → Except String Bytes
  encodeSignDoc : SignDoc → Except String Bytes
  encodeTxRaw : TxRaw → Except String Bytes
  sha256 : Bytes → Hash32
  bech32Encode : String → Bytes → Except String String
  base64Encode : Bytes → String
  base64Decode : String → Except String Bytes

/-- The encoder writes every message in its format. -/
structure TxPackages.Documented (packages : TxPackages) : Prop where
  txBody : ∀ body, packages.encodeTxBody body = .ok (txBodyFormat.encode body)
  authInfo : ∀ authInfo, packages.encodeAuthInfo authInfo = .ok (authInfoFormat.encode authInfo)
  signDoc : ∀ doc, packages.encodeSignDoc doc = .ok (signDocFormat.encode doc)
  txRaw : ∀ raw, packages.encodeTxRaw raw = .ok (txRawFormat.encode raw)

/-! ## Addresses -/

/-- The text in front of the first separator. -/
def CosmosAddress.prefixText (address : CosmosAddress) : String :=
  String.ofList (address.bech32.toList.takeWhile (· ≠ '1'))

def cosmosAccountFromPubkey (sha256 : Bytes → Hash32) (pubkey : Bytes) : Bytes :=
  (sha256 pubkey).bytes.take 20

def TxPackages.encodeBech32 (packages : TxPackages) (leading : String) (bytes : Bytes) :
    Except CosmosError String :=
  (packages.bech32Encode leading bytes).mapError .invalidBech32

/-! ## Fees -/

structure FeeConfig where
  denom : String
  gasLimit : UInt64
  /-- A word of 128 bits. -/
  gasPrice : ℕ
  deriving DecidableEq

def FeeConfig.default : FeeConfig where
  denom := "upole"
  gasLimit := 200000
  gasPrice := 1000

def FeeConfig.estimatedFee (policy : Overflow) (fee : FeeConfig) : Option ℕ :=
  policy.mul 128 fee.gasLimit.toNat fee.gasPrice

def FeeConfig.toProto (policy : Overflow) (fee : FeeConfig) : Option Fee := do
  let amount ← fee.estimatedFee policy
  return { amount := [{ denom := fee.denom, amount := toString amount }], gasLimit := fee.gasLimit,
           payer := "", granter := "" }

/-! ## Signatures -/

def SignDoc.signingBytes (packages : TxPackages) (doc : SignDoc) : Except CosmosError Bytes :=
  (packages.encodeSignDoc doc).mapError fun e => .encode ("SignDoc: " ++ e)

structure SignedTx where
  bodyBytes : Bytes
  authInfoBytes : Bytes
  signatures : List Bytes
  deriving DecidableEq

def SignedTx.raw (signed : SignedTx) : TxRaw where
  bodyBytes := signed.bodyBytes
  authInfoBytes := signed.authInfoBytes
  signatures := signed.signatures

def SignedTx.toBase64 (packages : TxPackages) (signed : SignedTx) : Except CosmosError String := do
  let bytes ← (packages.encodeTxRaw signed.raw).mapError fun e => .encode ("TxRaw: " ++ e)
  return packages.base64Encode bytes

def signSignDoc (packages : TxPackages) (keypair : KeyPair) (doc : SignDoc) :
    Except CosmosError Bytes := do
  let bytes ← doc.signingBytes packages
  ensure ((keypair.sign bytes).length = 64)
    (.invalidSignatureLength (keypair.sign bytes).length)
  return keypair.sign bytes

def signWithKeypair (packages : TxPackages) (keypair : KeyPair) (bodyBytes authInfoBytes : Bytes)
    (chainId : String) (accountNumber : UInt64) : Except CosmosError SignedTx := do
  let signature ← signSignDoc packages keypair { bodyBytes, authInfoBytes, chainId, accountNumber }
  return { bodyBytes, authInfoBytes, signatures := [signature] }

/-! ## The builder -/

structure TxBuilder where
  chainId : String
  accountNumber : UInt64
  sequence : UInt64
  fee : FeeConfig
  memo : String
  timeoutHeight : UInt64
  deriving DecidableEq

namespace TxBuilder

def new (chainId : String) : TxBuilder where
  chainId
  accountNumber := 0
  sequence := 0
  fee := .default
  memo := ""
  timeoutHeight := 0

def withSequence (builder : TxBuilder) (accountNumber sequence : UInt64) : TxBuilder :=
  { builder with accountNumber, sequence }

def buildBody (builder : TxBuilder) (msg : BridgeMessage) : TxBody where
  messages := [msg.toAny]
  memo := builder.memo
  timeoutHeight := builder.timeoutHeight
  extensionOptions := []
  nonCriticalExtensionOptions := []

/-- One field of thirty-two bytes, written by hand. -/
def pubkeyToProtoBytes (pubkey : Hash32) : Bytes := 0x0A :: 32 :: pubkey.bytes

def buildAuthInfo (builder : TxBuilder) (policy : Overflow) (signerPubkey : Hash32) :
    Option AuthInfo := do
  let fee ← builder.fee.toProto policy
  return { signerInfos :=
             [{ publicKey := some { typeUrl := "/cosmos.crypto.ed25519.PubKey",
                                    value := pubkeyToProtoBytes signerPubkey },
                modeInfo := some { single := some 1 },
                sequence := builder.sequence }],
           fee := some fee, tip := none }

/-- The key has to be the one of the signer's account. -/
def build (builder : TxBuilder) (packages : TxPackages) (policy : Overflow) (msg : BridgeMessage)
    (signer : CosmosAddress) (keypair : KeyPair) : Attempt CosmosError SignedTx := do
  let expected ← (packages.encodeBech32 signer.prefixText
    (cosmosAccountFromPubkey packages.sha256 keypair.publicKey.bytes)).mapError .refused
  ensure (expected = signer.bech32) (.refused (.encode ("signer mismatch: keypair derives '" ++
    expected ++ "', caller passed '" ++ signer.bech32 ++ "'")))
  let body := builder.buildBody msg
  let authInfo ← require (builder.buildAuthInfo policy keypair.publicKey) .panic
  let bodyBytes ← (packages.encodeTxBody body).mapError fun e =>
    .refused (.encode ("TxBody: " ++ e))
  let authInfoBytes ← (packages.encodeAuthInfo authInfo).mapError fun e =>
    .refused (.encode ("AuthInfo: " ++ e))
  (signWithKeypair packages keypair bodyBytes authInfoBytes builder.chainId
    builder.accountNumber).mapError .refused

end TxBuilder

end PoleProtocol.Node
