import PoleProtocol.Framework.Deliveries
import PoleProtocol.Framework.Text
import PoleProtocol.Node.GenesisBuilder
import PoleProtocol.Node.Transactions

/-!
# The client of the chain

The bridge looks up an account, builds a transaction for it and hands it to a node of the chain,
again and again while the node asks for patience. The node and the network are a gateway whose
calls can fail at any time.
-/

namespace PoleProtocol.Node

open Framework Ledger

/-! ## The gateway -/

structure AccountInfo where
  accountNumber : String
  sequence : String
  deriving DecidableEq

structure BroadcastTxResponse where
  txHash : String
  code : UInt32
  data : String
  log : String
  codespace : String
  deriving DecidableEq

def BroadcastTxResponse.isOk (resp : BroadcastTxResponse) : Bool := resp.code = 0

structure ResponseCheckTx where
  code : UInt32
  log : String
  codespace : String
  deriving DecidableEq

structure ResponseDeliverTx where
  code : UInt32
  data : Option String
  log : String
  codespace : String
  deriving DecidableEq

structure BroadcastTxCommitResult where
  checkTx : ResponseCheckTx
  txResult : ResponseDeliverTx
  hash : String
  deriving DecidableEq

/-- The reply to a call of a node. -/
structure Reply (α : Type) where
  status : UInt16
  /-- The JSON value, as text. -/
  raw : String
  /-- The error of the call: its code, if it has one, and its text. -/
  error : Option (Option Int64 × String)
  /-- The result as it is decoded, or why it is not. -/
  result : Except String α

def Reply.answer {α : Type} (reply : Reply α) : Except CosmosError α :=
  if ¬ (200 ≤ reply.status ∧ reply.status < 300) then .error (.rest reply.status reply.raw)
  else match reply.error with
    | some (code, message) => .error (.rpc (code.getD (-1)).toInt32 message)
    | none => reply.result.mapError .decode

/-- A node behind a network, in a world that goes on while the client waits. -/
structure Gateway (W : Type) where
  getAccount : String → Action W CosmosError AccountInfo
  postSync : String → Action W CosmosError (Reply BroadcastTxResponse)
  postCommit : String → Action W CosmosError (Reply BroadcastTxCommitResult)
  /-- In milliseconds. -/
  sleep : ℕ → W → W
  now : W → ℕ

structure BroadcastOptions where
  maxRetries : UInt32
  retryDelay : ℕ
  requestTimeout : ℕ
  commit : Bool
  deriving DecidableEq

def BroadcastOptions.default : BroadcastOptions where
  maxRetries := 3
  retryDelay := 2000
  requestTimeout := 15000
  commit := false

def BroadcastOptions.committing : BroadcastOptions where
  maxRetries := 3
  retryDelay := 2000
  requestTimeout := 30000
  commit := true

section Client

variable {W : Type} (packages : TxPackages) (gateway : Gateway W)

/-! ## Broadcasting -/

def isRetriableCode (code : UInt32) : Bool := code = 11 ∨ code = 19 ∨ code = 20 ∨ code = 25

def broadcastTxSyncOnce (txBytes : Bytes) : Action W CosmosError BroadcastTxResponse := do
  let reply ← gateway.postSync (packages.base64Encode txBytes)
  liftM (reply.answer.mapError Failure.refused : Attempt CosmosError BroadcastTxResponse)

/-- The outcome of the check if it failed, otherwise that of the execution. -/
def BroadcastTxCommitResult.response (commit : BroadcastTxCommitResult) : BroadcastTxResponse :=
  if commit.checkTx.code ≠ 0 then
    { txHash := commit.hash, code := commit.checkTx.code, data := commit.txResult.data.getD "",
      log := commit.checkTx.log, codespace := commit.checkTx.codespace }
  else
    { txHash := commit.hash, code := commit.txResult.code, data := commit.txResult.data.getD "",
      log := commit.txResult.log, codespace := commit.txResult.codespace }

def broadcastTxCommitOnce (txBytes : Bytes) : Action W CosmosError BroadcastTxResponse := do
  let reply ← gateway.postCommit (packages.base64Encode txBytes)
  let commit ← liftM (reply.answer.mapError Failure.refused :
    Attempt CosmosError BroadcastTxCommitResult)
  return commit.response

/-- What is left to say when the attempts are used up. -/
def lastError : Except CosmosError BroadcastTxResponse → String
  | .ok resp => "code=" ++ toString resp.code ++ " log=" ++ resp.log
  | .error e => e.text

/-- The client sleeps between two attempts. -/
def pauseBefore (left : ℕ) (opts : BroadcastOptions) : Action W CosmosError Unit :=
  if left ≠ 0 then modify (gateway.sleep opts.retryDelay) else pure ()

/-- The same bytes, as often as attempts are left, while the answer is a failure or asks to try
again. -/
def retryBroadcast (once : Action W CosmosError BroadcastTxResponse) (opts : BroadcastOptions) :
    ℕ → (last : String) → Action W CosmosError BroadcastTxResponse
  | 0, last => throw (.refused (.broadcastExhausted opts.maxRetries last))
  | left + 1, _ => do
      let outcome ← once.caught
      match outcome with
      | .ok resp =>
          if resp.isOk ∨ ¬ isRetriableCode resp.code then return resp
          else do
            pauseBefore gateway left opts
            retryBroadcast once opts left (lastError outcome)
      | .error _ => do
          pauseBefore gateway left opts
          retryBroadcast once opts left (lastError outcome)

def BroadcastOptions.attempts (opts : BroadcastOptions) : ℕ := max opts.maxRetries.toNat 1

def broadcastTxSync (txBytes : Bytes) (opts : BroadcastOptions) :
    Action W CosmosError BroadcastTxResponse :=
  retryBroadcast gateway (broadcastTxSyncOnce packages gateway txBytes) opts opts.attempts ""

def broadcastTxCommit (txBytes : Bytes) (opts : BroadcastOptions) :
    Action W CosmosError BroadcastTxResponse :=
  retryBroadcast gateway (broadcastTxCommitOnce packages gateway txBytes) opts opts.attempts ""

def broadcast (signed : SignedTx) (opts : BroadcastOptions) :
    Action W CosmosError BroadcastTxResponse := do
  let b64 ← liftM ((signed.toBase64 packages).mapError Failure.refused :
    Attempt CosmosError String)
  let bytes ← liftM ((packages.base64Decode b64).mapError fun e =>
    Failure.refused (CosmosError.decode ("base64: " ++ e)) : Attempt CosmosError Bytes)
  if opts.commit then broadcastTxCommit packages gateway bytes opts
  else broadcastTxSync packages gateway bytes opts

/-! ## Submitting -/

/-- The predecessor is still pending, or the sequence is not the account's. -/
def isSequenceRace (code : UInt32) : Bool := code = 19 ∨ code = 32

def parseWord (text : String) : Except CosmosError UInt64 :=
  match parseUnsigned 64 text with
  | some n => .ok (UInt64.ofNat n)
  | none => .error (.decode (parseIntError 64 text))

/-- The lookup found another sequence than the stale one. -/
def sequenceMoved (staleSequence : UInt64) : Except CosmosError AccountInfo → Bool
  | .ok info =>
      match parseUnsigned 64 info.sequence with
      | some n => UInt64.ofNat n ≠ staleSequence
      | none => false
  | .error _ => false

/-- Polls the account until the deadline; `polls` bounds how often. -/
def pollSequence (address : String) (staleSequence : UInt64) (deadline poll : ℕ) :
    (polls : ℕ) → Action W CosmosError Unit
  | 0 => pure ()
  | polls + 1 => do
      let world ← get
      if deadline ≤ gateway.now world then return ()
      else do
        let looked ← (gateway.getAccount address).caught
        if sequenceMoved staleSequence looked then return ()
        else do
          modify (gateway.sleep poll)
          pollSequence address staleSequence deadline poll polls

def waitForSequenceAbove (polls : ℕ) (address : String) (staleSequence : UInt64) (timeout : ℕ) :
    Action W CosmosError Unit := do
  let world ← get
  pollSequence gateway address staleSequence (gateway.now world + timeout) (min 250 timeout) polls

/-- A retry needs a sequence that has moved. -/
def waitBefore (left polls : ℕ) (address : String) (staleSequence : UInt64) (timeout : ℕ) :
    Action W CosmosError Unit :=
  if left ≠ 0 then waitForSequenceAbove gateway polls address staleSequence timeout else pure ()

variable (chainId : String) (polls : ℕ) (msg : BridgeMessage) (signer : CosmosAddress)
  (keypair : KeyPair) (opts : BroadcastOptions)

/-- The transaction for the account as it is looked up, with its sequence. -/
def signFor (policy : Overflow) (info : AccountInfo) : Attempt CosmosError (UInt64 × SignedTx) := do
  let accountNumber ← (parseWord info.accountNumber).mapError .refused
  let sequence ← (parseWord info.sequence).mapError .refused
  let builder := (TxBuilder.new chainId).withSequence accountNumber sequence
  let signed ← builder.build packages policy msg signer keypair
  return (sequence, signed)

/-- A new transaction for every attempt, as long as the sequence is the trouble. -/
def submitFrom (policy : Overflow) :
    ℕ → (last : Option BroadcastTxResponse) → Action W CosmosError BroadcastTxResponse
  | 0, last => liftM (require last Failure.panic : Attempt CosmosError BroadcastTxResponse)
  | left + 1, _ => do
      let info ← gateway.getAccount signer.bech32
      let built ← liftM (signFor packages chainId msg signer keypair policy info)
      let resp ← broadcast packages gateway built.2 opts
      if resp.isOk ∨ ¬ isSequenceRace resp.code then return resp
      else do
        waitBefore gateway left polls signer.bech32 built.1 opts.requestTimeout
        submitFrom policy left (some resp)

def submit (policy : Overflow) : Action W CosmosError BroadcastTxResponse :=
  submitFrom packages gateway chainId polls msg signer keypair opts policy opts.attempts none

end Client

end PoleProtocol.Node
