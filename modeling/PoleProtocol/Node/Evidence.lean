import PoleProtocol.Node.Retention

/-!
# Play sessions and attestations

The two directories of a node that hold play sessions and witness attestations, one file for each
session id. What the node builds itself and what it receives is written to the same files.
-/

namespace PoleProtocol.Node

open Framework Ledger

inductive MutualProofError where
  | witnessIsPlayer
  | witnessIsCollector
  | witnessObservationReused
  | emptyObservationCid
  deriving DecidableEq

structure PlaySessionInputs where
  appId : ℕ
  epochId : ℕ
  slotId : ℕ
  playSeconds : ℕ
  collectorId : NodeId
  observationCid : String
  observedPlayers : ℕ
  deriving DecidableEq

/-- A word of the given number of bytes, its least significant byte first. -/
def wordLeBytes (width value : ℕ) : Bytes :=
  (List.range width).map fun i => UInt8.ofNat (value / 256 ^ i)

def sessionIdFromParts (nodeId : NodeId) (appId epochId slotId : ℕ) (observationCid : String) :
    Hash32 :=
  stableHash32 ("pole-play-session-v1".toUTF8.toList ++ nodeId.bytes ++ wordLeBytes 4 appId ++
    wordLeBytes 8 epochId ++ wordLeBytes 8 slotId ++ observationCid.toUTF8.toList)

namespace NodeEnv

variable (env : NodeEnv)

def buildPlaySession (identity : KeyPair) (inputs : PlaySessionInputs) :
    Except MutualProofError PlaySession :=
  if inputs.observationCid = "" then .error .emptyObservationCid
  else
    let session : PlaySession :=
      { sessionId := sessionIdFromParts env.nodeId inputs.appId inputs.epochId inputs.slotId
          inputs.observationCid
        nodeAddress := env.identityAccountAddress identity.publicKey
        appId := inputs.appId
        epochId := inputs.epochId
        slotId := inputs.slotId
        playSeconds := inputs.playSeconds
        collectorAddress := inputs.collectorId
        observationCid := inputs.observationCid
        observedPlayers := inputs.observedPlayers
        submittedAtHeight := 0
        sessionSignature := [] }
    .ok { session with sessionSignature := identity.sign (session.signingPayload env) }

def buildWitnessAttestation (identity : KeyPair) (session : PlaySession)
    (ownObservationCid : String) (observedPlaySeconds observedPlayers : ℕ) :
    Except MutualProofError WitnessAttestation :=
  let witnessAddress := env.identityAccountAddress identity.publicKey
  if ownObservationCid = "" then .error .emptyObservationCid
  else if witnessAddress = session.nodeAddress then .error .witnessIsPlayer
  else if env.nodeId = session.collectorAddress then .error .witnessIsCollector
  else if session.observationCid ≠ "" ∧ ownObservationCid = session.observationCid then
    .error .witnessObservationReused
  else
    let attestation : WitnessAttestation :=
      { sessionId := session.sessionId
        witnessAddress
        observedPlaySeconds
        witnessObservationCid := ownObservationCid
        observedPlayers
        attestedAtHeight := 0
        witnessSignature := [] }
    .ok { attestation with witnessSignature := identity.sign (attestation.signingPayload env) }

end NodeEnv

/-- The files of the two directories by session id. The last three fields list what was written:
the sessions the node built, the attestations the receive loop signed, with the sessions they were
signed for, and every attestation that was saved; no step reads them. -/
structure EvidenceStore where
  playSessions : OrderedMap Hash32 PlaySession
  attestations : OrderedMap Hash32 WitnessAttestation
  built : List PlaySession
  witnessed : List (PlaySession × WitnessAttestation)
  saved : List WitnessAttestation

namespace EvidenceStore

def fresh : EvidenceStore := ⟨∅, ∅, [], [], []⟩

variable (env : NodeEnv) (e : EvidenceStore)

/-! ## Files -/

def savePlaySession (session : PlaySession) : EvidenceStore :=
  { e with playSessions := e.playSessions.insert session.sessionId session }

def saveWitnessAttestation (attestation : WitnessAttestation) : EvidenceStore :=
  { e with
    attestations := e.attestations.insert attestation.sessionId attestation
    saved := e.saved ++ [attestation] }

/-- The files of the directory in the order of their names. -/
def loadPlaySessions : List PlaySession := e.playSessions.records

def loadWitnessAttestations : List WitnessAttestation := e.attestations.records

/-- The first stored session of each app in one slot, by the hexadecimal form of its id. -/
def localSessionIdsForSlot (epochId slotId : ℕ) : OrderedMap ℕ String :=
  e.loadPlaySessions.foldl
    (fun byApp session =>
      if session.epochId = epochId ∧ session.slotId = slotId ∧ byApp[session.appId]? = none then
        byApp.insert session.appId (hex32 session.sessionId)
      else byApp)
    ∅

/-- The witnesses of a session other than the node itself. -/
def independentWitnesses (session : PlaySession) : List Address :=
  ((e.loadWitnessAttestations.filter fun attestation =>
    attestation.sessionId = session.sessionId ∧
      env.localAddress ≠ some attestation.witnessAddress).map (·.witnessAddress)).dedup

/-- The sessions of an epoch that the chain has settled as valid or somebody else has witnessed.
`settlementValid` is what the chain answers for a session. -/
def verifiedSessionIdsForEpoch (settlementValid : String → Bool) (epochId : ℕ) : Finset String :=
  ((e.loadPlaySessions.filter fun session =>
    session.epochId = epochId ∧
      (settlementValid (hex32 session.sessionId) = true ∨
        0 < (e.independentWitnesses env session).length)).map fun session =>
          hex32 session.sessionId).toFinset

/-! ## The node's own sessions -/

/-- The session the node would sign. -/
def ownSession (inputs : PlaySessionInputs) : Option PlaySession := do
  let identity ← env.identityKeypair
  (env.buildPlaySession identity inputs).toOption

/-- Build a session and write it. -/
def buildSession (inputs : PlaySessionInputs) : EvidenceStore :=
  match ownSession env inputs with
  | none => e
  | some session => { e.savePlaySession session with built := e.built ++ [session] }

/-- The stored session that the play of this tick belongs to: same app, epoch and reward block. -/
def reusedSession (inputs : PlaySessionInputs) (slotsPerBlock : ℕ) : Option PlaySession :=
  e.loadPlaySessions.find? fun session =>
    session.appId = inputs.appId ∧ session.epochId = inputs.epochId ∧
      (session.slotId - 1) / slotsPerBlock = (inputs.slotId - 1) / slotsPerBlock

/-- One active app of `record_play_heartbeats`. -/
def recordPlay (inputs : PlaySessionInputs) (slotsPerBlock : ℕ) : EvidenceStore :=
  match e.reusedSession inputs slotsPerBlock with
  | some _ => e
  | none => e.buildSession env inputs

/-! ## Witnessing -/

def maxAutoAttestationsPerEpoch : ℕ := 64
def minWitnessObservationTolerancePpm : ℕ := 50000

def attestedIds : List Hash32 := e.loadWitnessAttestations.map (·.sessionId)

def epochAttestationCount (epochId : ℕ) : ℕ :=
  (e.loadPlaySessions.filter fun session =>
    session.epochId = epochId ∧ session.sessionId ∈ e.attestedIds).length

def PeerAppAlreadyWitnessed (session : PlaySession) : Prop :=
  ∃ other ∈ e.loadPlaySessions, other.epochId = session.epochId ∧
    other.nodeAddress = session.nodeAddress ∧ other.appId = session.appId ∧
    other.sessionId ∈ e.attestedIds

instance (session : PlaySession) : Decidable (e.PeerAppAlreadyWitnessed session) :=
  inferInstanceAs (Decidable (∃ other ∈ _, _))

/-- What one retained payload shows of an app: its content id and the player count of the first
observation of the app in its file. -/
def sighting (store : PayloadStore) (epochId appId : ℕ) (record : StoredPayloadRecord) :
    Option (String × ℕ) :=
  if record.epochId = epochId then do
    let bytes ← store.payloadFile record.payloadCid
    let observations ← env.decodeObservations bytes
    let observation ← observations.find? fun observation => observation.appId = appId
    return (record.payloadCid, observation.observedPlayers)
  else none

/-- The first retained payload, in the order of the content ids, that shows the app. -/
def ownObservation (store : PayloadStore) (session : PlaySession) : Option (String × ℕ) :=
  store.retentionBook.payloads.records.findSome? (sighting env store session.epochId session.appId)

/-- The product saturates, and two empty counts do not deviate. -/
def deviationPpm (ownPlayers observedPlayers : ℕ) : ℕ :=
  let diff := (ownPlayers - observedPlayers) + (observedPlayers - ownPlayers)
  min (diff * 1000000) (2 ^ 64 - 1) / max ownPlayers observedPlayers

/-- The attestation that the receive loop signs for an announced session, if any. -/
def autoWitness (store : PayloadStore) (identity : KeyPair) (session : PlaySession) :
    Option WitnessAttestation :=
  if session.nodeAddress ≠ env.identityAccountAddress identity.publicKey ∧
      session.collectorAddress ≠ env.nodeId ∧ env.collect = true then
    if e.attestations[session.sessionId]? ≠ none then none
    else if maxAutoAttestationsPerEpoch ≤ e.epochAttestationCount session.epochId then none
    else if e.PeerAppAlreadyWitnessed session then none
    else do
      let (ownCid, ownPlayers) ← ownObservation env store session
      if ownCid = session.observationCid then none
      else if deviationPpm ownPlayers session.observedPlayers ≤
          minWitnessObservationTolerancePpm then
        (env.buildWitnessAttestation identity session ownCid session.playSeconds
          ownPlayers).toOption
      else none
  else none

variable {env e}

theorem ok_of_toOption {α ε : Type} {result : Except ε α} {a : α}
    (h : result.toOption = some a) : result = .ok a := by
  cases result with
  | error _ => cases h
  | ok b => rw [Option.some.inj h]

theorem buildWitnessAttestation_fields {identity : KeyPair} {session : PlaySession} {cid : String}
    {seconds players : ℕ} {attestation : WitnessAttestation}
    (h : env.buildWitnessAttestation identity session cid seconds players = .ok attestation) :
    attestation.sessionId = session.sessionId ∧
      attestation.witnessAddress = env.identityAccountAddress identity.publicKey ∧
      attestation.witnessObservationCid = cid ∧ attestation.observedPlayers = players := by
  unfold NodeEnv.buildWitnessAttestation at h
  dsimp only at h
  split at h
  · cases h
  · split at h
    · cases h
    · split at h
      · cases h
      · split at h
        · cases h
        · cases h
          exact ⟨rfl, rfl, rfl, rfl⟩

/-- What holds when the receive loop signs an attestation. -/
structure AutoWitnessed (env : NodeEnv) (store : PayloadStore) (e : EvidenceStore)
    (identity : KeyPair) (session : PlaySession) (attestation : WitnessAttestation) : Prop where
  unattested : e.attestations[session.sessionId]? = none
  belowQuota : e.epochAttestationCount session.epochId < maxAutoAttestationsPerEpoch
  firstOfPeerApp : ¬ e.PeerAppAlreadyWitnessed session
  sessionId : attestation.sessionId = session.sessionId
  witnessAddress : attestation.witnessAddress = env.identityAccountAddress identity.publicKey
  observation : ownObservation env store session =
    some (attestation.witnessObservationCid, attestation.observedPlayers)

theorem autoWitnessed {store : PayloadStore} {identity : KeyPair} {session : PlaySession}
    {attestation : WitnessAttestation}
    (h : e.autoWitness env store identity session = some attestation) :
    AutoWitnessed env store e identity session attestation := by
  unfold autoWitness at h
  split at h
  · split at h
    · cases h
    · next hattested =>
      split at h
      · cases h
      · next hquota =>
        split at h
        · cases h
        · next hpeer =>
          obtain ⟨⟨cid, players⟩, hobservation, hbuild⟩ := Option.bind_eq_some_iff.mp h
          dsimp only at hbuild
          split at hbuild
          · cases hbuild
          · split at hbuild
            · have hfields := buildWitnessAttestation_fields (ok_of_toOption hbuild)
              obtain ⟨hid, hwitness, hcid, hplayers⟩ := hfields
              refine ⟨not_not.mp hattested, Nat.lt_of_not_le hquota, hpeer, hid, hwitness, ?_⟩
              rw [hcid, hplayers]
              exact hobservation
            · cases hbuild
  · cases h

variable (env e)

/-- A received session is written before anything is checked. -/
def ingestPlaySession (store : PayloadStore) (session : PlaySession) : EvidenceStore :=
  let stored := e.savePlaySession session
  match env.identityKeypair.bind (stored.autoWitness env store · session) with
  | none => stored
  | some attestation =>
      { stored.saveWitnessAttestation attestation with
        witnessed := stored.witnessed ++ [(session, attestation)] }

variable {env e} in
theorem ingestPlaySession_of_none {store : PayloadStore} {session : PlaySession}
    (h : env.identityKeypair.bind ((e.savePlaySession session).autoWitness env store · session) =
      none) :
    e.ingestPlaySession env store session = e.savePlaySession session := by
  simp only [ingestPlaySession, h]

variable {env e} in
theorem ingestPlaySession_of_some {store : PayloadStore} {session : PlaySession}
    {attestation : WitnessAttestation}
    (h : env.identityKeypair.bind ((e.savePlaySession session).autoWitness env store · session) =
      some attestation) :
    e.ingestPlaySession env store session =
      { (e.savePlaySession session).saveWitnessAttestation attestation with
        witnessed := e.witnessed ++ [(session, attestation)] } := by
  simp only [ingestPlaySession, h]
  rfl

/-- The attestation of a stored session by command, with a chosen observation. -/
def commandedAttestation (sessionId : Hash32) (ownObservationCid : String)
    (observedPlaySeconds observedPlayers : ℕ) : Option WitnessAttestation := do
  let identity ← env.identityKeypair
  let session ← e.playSessions[sessionId]?
  (env.buildWitnessAttestation identity session ownObservationCid observedPlaySeconds
    observedPlayers).toOption

def attestSession (sessionId : Hash32) (ownObservationCid : String)
    (observedPlaySeconds observedPlayers : ℕ) : EvidenceStore :=
  match e.commandedAttestation env sessionId ownObservationCid observedPlaySeconds
      observedPlayers with
  | none => e
  | some attestation => e.saveWitnessAttestation attestation

end EvidenceStore

end PoleProtocol.Node
