import PoleProtocol.Chain.Merkle
import PoleProtocol.Framework.HashTree
import PoleProtocol.Node.Messages

/-!
# What a node is configured with

The identity, the capabilities and the primitives of the node software. Digests, signatures and
the borsh encoding are parameters.
-/

namespace PoleProtocol.Node

open Ledger

/-- An Ed25519 key pair. -/
structure KeyPair where
  publicKey : Hash32
  sign : Bytes → Bytes

structure NodeEnv where
  nodeId : NodeId
  /-- The capabilities to collect and to store. -/
  collect : Bool
  store : Bool
  quotaGb : ℕ
  identityKeypair : Option KeyPair
  sha256 : Bytes → Hash32
  /-- The signature verifies over the message under the public key. -/
  verifySignature : Hash32 → Bytes → Bytes → Bool
  encodeObservation : ObservationRecord → Bytes
  encodeObservations : List ObservationRecord → Bytes
  decodeObservations : Bytes → Option (List ObservationRecord)
  encodePlaySession : PlaySession → Bytes
  encodeAttestation : WitnessAttestation → Bytes
  /-- The tuple that a storage receipt signs. -/
  encodeReceipt : NodeId → ℕ → ℕ → String → Hash32 → ℕ → Bytes

def hex32 (hash : Hash32) : String := Chain.hexEncode hash.bytes

def cidFromHash (hash : Hash32) (sourceNamespace : String) : String :=
  "cid://" ++ sourceNamespace ++ "/" ++ hex32 hash

/-! ## Addresses -/

/-- The account of a public key: the first twenty bytes of its digest, filled up with zeros. -/
def NodeEnv.identityAccountAddress (env : NodeEnv) (publicKey : Hash32) : Address :=
  (env.sha256 publicKey.bytes).extractLsb' 96 160 ++ 0#96

/-- The account of the configured identity. -/
def NodeEnv.localAddress (env : NodeEnv) : Option Address :=
  env.identityKeypair.map fun identity => env.identityAccountAddress identity.publicKey

/-! ## Signed bytes -/

/-- The signature field is left out of what is signed. -/
def PlaySession.signingPayload (env : NodeEnv) (session : PlaySession) : Bytes :=
  env.encodePlaySession { session with sessionSignature := [] }

def WitnessAttestation.signingPayload (env : NodeEnv) (attestation : WitnessAttestation) : Bytes :=
  env.encodeAttestation { attestation with witnessSignature := [] }

/-! ## Merkle roots -/

def NodeEnv.merkleParent (env : NodeEnv) (left right : Hash32) : Hash32 :=
  env.sha256 (1 :: (left.bytes ++ right.bytes))

def NodeEnv.merkleLeaf (env : NodeEnv) (recordBytes : Bytes) : Hash32 :=
  env.sha256 (0 :: recordBytes)

/-- Join the nodes of a level in pairs until one is left. The fuel bounds the number of levels. -/
def NodeEnv.merkleClimb (env : NodeEnv) : ℕ → List Hash32 → Hash32
  | 0, level => level.headD 0
  | fuel + 1, level =>
      if 1 < level.length then
        env.merkleClimb fuel (Framework.HashTree.level env.merkleParent level)
      else level.headD 0

def NodeEnv.merkleRoot (env : NodeEnv) (leaves : List Hash32) : Hash32 :=
  if leaves = [] then 0 else env.merkleClimb leaves.length leaves

def NodeEnv.observationLeaves (env : NodeEnv) (observations : List ObservationRecord) :
    List Hash32 :=
  observations.map fun observation => env.merkleLeaf (env.encodeObservation observation)

end PoleProtocol.Node
