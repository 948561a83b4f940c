import PoleProtocol.Framework.Checks
import PoleProtocol.Framework.FileTree
import PoleProtocol.Node.RewardRoot

/-!
# Release signatures

A release manifest lists the artifacts of a version. Its signature is a sidecar that is checked
against the bytes of the manifest, with the key of a certificate sidecar, or a text in the manifest
itself that is compared with a hash of its fields. Decoders, certificates and signature schemes are
those of other libraries.
-/

namespace PoleProtocol.Node

open Framework Ledger

structure ReleaseArtifact where
  platform : String
  kind : String
  path : String
  sha256 : String
  sizeBytes : ℕ
  deriving DecidableEq

/-- The fields of the signing block that the check reads. -/
structure ManifestSigning where
  scheme : String
  signatureFile : Option String
  certificateFile : Option String
  deriving DecidableEq

structure ReleaseManifest where
  channel : String
  version : String
  artifacts : List ReleaseArtifact
  signature : String
  signing : Option ManifestSigning
  deriving DecidableEq

/-- The errors of the updater; the texts are those it shows. -/
inductive UpdateError where
  | io
  | base64
  | utf8
  | json
  | missingCertificateSidecar (path : FilePath)
  | message (text : String)
  deriving DecidableEq

inductive ManifestSignatureVerification where
  | verified
  | missing
  | invalid
  deriving DecidableEq

def ManifestSignatureVerification.statusLabel : ManifestSignatureVerification → String
  | .verified => "manifest_signed"
  | .missing => "missing_signature"
  | .invalid => "invalid_signature"

/-! ## Versions -/

def parseVersion (input : String) : List ℕ :=
  (splitText (· == '.') input).map fun segment => (parseUnsigned 64 segment).getD 0

def versionIsNewer (candidate current : String) : Bool :=
  compare (parseVersion candidate) (parseVersion current) == .gt

/-! ## The inline signature -/

def artifactJson (artifact : ReleaseArtifact) : String :=
  "\x7b\"platform\":" ++ serdeString artifact.platform ++ ",\"kind\":" ++
    serdeString artifact.kind ++ ",\"path\":" ++ serdeString artifact.path ++ ",\"sha256\":" ++
    serdeString artifact.sha256 ++ ",\"size_bytes\":" ++ toString artifact.sizeBytes ++ "\x7d"

def releaseManifestSigningPayload (manifest : ReleaseManifest) : String :=
  "\x7b\"channel\":" ++ serdeString manifest.channel ++ ",\"version\":" ++
    serdeString manifest.version ++ ",\"artifacts\":[" ++
    ",".intercalate (manifest.artifacts.map artifactJson) ++ "]\x7d"

def developmentManifestSignature (manifest : ReleaseManifest) : String :=
  "dev-hash:" ++ hex32 (stableHash32 (releaseManifestSigningPayload manifest).toUTF8.toList)

/-! ## The sidecar signature -/

/-- What other libraries decode and verify. A key or a signature that does not parse gives the text
of the error. -/
structure SigningEnv where
  base64Decode : String → Option Bytes
  parseReleaseManifest : Bytes → Option ReleaseManifest
  /-- The algorithm of the public key in an X.509 certificate, and the key. -/
  certificateKey : Bytes → Except String (String × Bytes)
  ed25519Key : Bytes → Except String Unit
  ed25519Verify : (key message signature : Bytes) → Bool
  p256Key : Bytes → Except String Unit
  p256Signature : Bytes → Except String Unit
  p256Verify : (key message signature : Bytes) → Bool

inductive CertificatePublicKey where
  | ed25519 (key : Bytes)
  | p256 (key : Bytes)
  deriving DecidableEq

def readFile (files : FileTree Bytes) (path : FilePath) : Except UpdateError Bytes :=
  require (files path) .io

def readText (files : FileTree Bytes) (path : FilePath) : Except UpdateError String := do
  let bytes ← readFile files path
  require (String.fromUTF8? ⟨bytes.toArray⟩) .utf8

/-- The outcome of a library call, with the text that the caller puts before the error. -/
def called {α : Type} (context : String) : Except String α → Except UpdateError α
  | .ok a => .ok a
  | .error err => .error (.message (context ++ err))

section Sidecar

variable (env : SigningEnv)

def decodeBase64 (text : String) : Except UpdateError Bytes :=
  require (env.base64Decode text) .base64

def decodeCertPem (certContent : String) : Except UpdateError String :=
  let trimmed := trim certContent
  if beginsWith trimmed "-----BEGIN" then .ok trimmed
  else do
    let pemBytes ← decodeBase64 env trimmed
    require (String.fromUTF8? ⟨pemBytes.toArray⟩) .utf8

def extractCertificatePublicKey (pem : String) : Except UpdateError CertificatePublicKey := do
  let base64Content :=
    String.join ((textLines pem).filter fun line => !beginsWith line "-----")
  let der ← decodeBase64 env base64Content
  let (algorithmOid, key) ← called "parse x509 certificate: " (env.certificateKey der)
  if algorithmOid = "1.3.101.112" then
    if key.length = 32 then
      called "" (env.ed25519Key key)
      return .ed25519 key
    else throw (.message "ed25519 public key is not 32 bytes")
  else if algorithmOid = "1.2.840.10045.2.1" then
    called "parse p256 public key: " (env.p256Key key)
    return .p256 key
  else
    throw (.message ("unsupported certificate public key algorithm OID: " ++ algorithmOid))

def verifyWithKey (publicKey : CertificatePublicKey) (manifestBytes sigBytes : Bytes) :
    Except UpdateError Bool :=
  match publicKey with
  | .ed25519 key =>
      if sigBytes.length = 64 then .ok (env.ed25519Verify key manifestBytes sigBytes)
      else .error (.message "ed25519 signature is not 64 bytes")
  | .p256 key => do
      called "parse ecdsa signature: " (env.p256Signature sigBytes)
      return env.p256Verify key manifestBytes sigBytes

def sidecarDirectory (manifestPath : FilePath) : FilePath :=
  manifestPath.parent.getD (.ofText ".")

def signaturePath (signing : ManifestSigning) (manifestPath : FilePath) : FilePath :=
  (sidecarDirectory manifestPath).join (.ofText (signing.signatureFile.getD "stable.json.sig"))

def certificatePath (signing : ManifestSigning) (manifestPath : FilePath) : FilePath :=
  (sidecarDirectory manifestPath).join (.ofText (signing.certificateFile.getD "stable.json.cert"))

/-- One of the two sidecars is not there. -/
def sidecarMissing (files : FileTree Bytes) (signing : ManifestSigning) (manifestPath : FilePath) :
    Prop :=
  files (signaturePath signing manifestPath) = none ∨
    files (certificatePath signing manifestPath) = none

instance (files : FileTree Bytes) (signing : ManifestSigning) (manifestPath : FilePath) :
    Decidable (sidecarMissing files signing manifestPath) :=
  inferInstanceAs (Decidable (_ ∨ _))

def verifyCosignKeyless (files : FileTree Bytes) (manifestBytes : Bytes)
    (signing : ManifestSigning) (manifestPath : FilePath) :
    Except UpdateError ManifestSignatureVerification :=
  if sidecarMissing files signing manifestPath then .ok .missing
  else do
    let sigB64 ← readText files (signaturePath signing manifestPath)
    let sigBytes ← decodeBase64 env (trim sigB64)
    let certContent ←
      (readText files (certificatePath signing manifestPath)).mapError fun _ =>
        .missingCertificateSidecar (certificatePath signing manifestPath)
    let certPem ← decodeCertPem env certContent
    let publicKey ← extractCertificatePublicKey env certPem
    let verified ← verifyWithKey env publicKey manifestBytes sigBytes
    return if verified then .verified else .invalid

/-- The check of the inline signature; `debugAssertions` is how the program was built. -/
def verifyInlineSignature (debugAssertions : Bool) (manifest : ReleaseManifest) :
    ManifestSignatureVerification :=
  if trim manifest.signature = "" then .missing
  else if debugAssertions = true ∧ manifest.signature = "dev-signature" then .verified
  else if manifest.signature = developmentManifestSignature manifest then .verified
  else .invalid

def verifyReleaseManifestSignature (debugAssertions : Bool) (files : FileTree Bytes)
    (manifest : ReleaseManifest) (manifestPath : FilePath) :
    Except UpdateError ManifestSignatureVerification :=
  match manifest.signing with
  | none => .ok (verifyInlineSignature debugAssertions manifest)
  | some signing =>
      if signing.scheme = "cosign-keyless" then do
        let raw ← readFile files manifestPath
        match ← verifyCosignKeyless env files raw signing manifestPath with
        | .missing => return verifyInlineSignature debugAssertions manifest
        | other => return other
      else .ok (verifyInlineSignature debugAssertions manifest)

def loadReleaseManifest (files : FileTree Bytes) (path : FilePath) :
    Except UpdateError ReleaseManifest := do
  let bytes ← readFile files path
  require (env.parseReleaseManifest bytes) .json

theorem loadReleaseManifest_of {files : FileTree Bytes} {path : FilePath} {bytes : Bytes}
    {manifest : ReleaseManifest} (hfile : files path = some bytes)
    (hparse : env.parseReleaseManifest bytes = some manifest) :
    loadReleaseManifest env files path = .ok manifest := by
  have hread : readFile files path = .ok bytes := require_eq_ok.mpr hfile
  rw [loadReleaseManifest, bind_eq_ok]
  exact ⟨bytes, hread, require_eq_ok.mpr hparse⟩

end Sidecar

def releaseManifestPath (manifestDir : FilePath) (channel : String) : FilePath :=
  manifestDir.join (.ofText (channel ++ ".json"))

end PoleProtocol.Node
