import PoleProtocol.Chain.WellFormed
import PoleProtocol.Chain.Writes

/-!
# Ownership of play sessions

An attestation is checked against the session stored when it arrives. This module says along
which runs the stored session stays the one that was attested: it keeps its player, epoch,
application and declared time, and no witness becomes its player or collector.
-/

namespace PoleProtocol.Chain

open Framework OrderedMap KeeperState

variable {env : Env} {s s' : KeeperState} {input : Input}

/-- Every stored attestation is by a witness that is neither player nor collector of the stored
session. -/
def Independent (s : KeeperState) : Prop :=
  ∀ (id witness : String) (attestation : WitnessAttestation),
    s.witnessAttestations[(id, witness)]? = some attestation →
    ∃ session : PlaySession, s.playSessions[id]? = some session ∧
      session.nodeAddress ≠ witness ∧ session.collectorAddress ≠ witness

/-- Two records of one session make the same claim. -/
structure SameClaim (a b : PlaySession) : Prop where
  node : b.nodeAddress = a.nodeAddress
  epoch : b.epochId = a.epochId
  app : b.appId = a.appId
  seconds : b.playSeconds = a.playSeconds

theorem SameClaim.refl (a : PlaySession) : SameClaim a a := ⟨rfl, rfl, rfl, rfl⟩

theorem SameClaim.trans {a b c : PlaySession} (h : SameClaim a b) (h' : SameClaim b c) :
    SameClaim a c :=
  ⟨h'.node.trans h.node, h'.epoch.trans h.epoch, h'.app.trans h.app, h'.seconds.trans h.seconds⟩

instance (a b : PlaySession) : Decidable (SameClaim a b) :=
  decidable_of_iff (b.nodeAddress = a.nodeAddress ∧ b.epochId = a.epochId ∧ b.appId = a.appId ∧
    b.playSeconds = a.playSeconds)
    ⟨fun h => ⟨h.1, h.2.1, h.2.2.1, h.2.2.2⟩, fun h => ⟨h.node, h.epoch, h.app, h.seconds⟩⟩

/-- Session `id` is stored and makes the claim of `session`. -/
def Claims (id : String) (session : PlaySession) (s : KeeperState) : Prop :=
  ∃ stored : PlaySession, s.playSessions[id]? = some stored ∧ SameClaim session stored

/-- A play claim for a stored session repeats that session's claim and names no collector who
attested it. -/
def RepeatsClaim (s : KeeperState) (input : Input) : Prop :=
  ∀ session ∈ input.playClaim, ∀ stored ∈ s.playSessions[session.sessionIdHex]?,
    SameClaim stored session ∧
      s.witnessAttestations[(session.sessionIdHex, session.collectorAddress)]? = none

instance (s : KeeperState) (input : Input) : Decidable (RepeatsClaim s input) :=
  inferInstanceAs (Decidable (∀ session ∈ input.playClaim,
    ∀ stored ∈ s.playSessions[session.sessionIdHex]?, _))

private theorem independent_of_step (h : Independent s) (hcond : RepeatsClaim s input)
    (hok : step env s input = .ok s') : Independent s' := by
  cases sessionWrite_of_step hok with
  | claimed ctx msg session supplied =>
      intro id witness attestation hget
      obtain ⟨stored, hstored, hnode, hcollector⟩ := h id witness attestation hget
      by_cases hid : session.sessionIdHex = id
      · subst hid
        obtain ⟨hsame, hunattested⟩ := hcond session supplied stored hstored
        refine ⟨_, get_insert_self _ _ _, ?_, ?_⟩
        · exact hsame.node.trans_ne hnode
        · rintro rfl
          have hattested : s.witnessAttestations[(session.sessionIdHex,
              session.collectorAddress)]? = some attestation := hget
          rw [hunattested] at hattested
          cases hattested
      · exact ⟨stored, (get_insert_ne _ _ hid).trans hstored, hnode, hcollector⟩
  | attested ctx msg attestation session named found independent =>
      obtain ⟨hnode, hcollector⟩ := validateWitnessIndependence_ok independent
      intro id witness attestation' hget
      rcases get_insert_cases hget with ⟨hkey, _⟩ | ⟨_, hstored⟩
      · obtain ⟨rfl, rfl⟩ := Prod.mk.inj hkey
        refine ⟨session, found, hnode.symm, ?_⟩
        rcases hcollector with hempty | hne
        · rw [hempty]
          exact named.symm
        · exact hne.symm
      · exact h id witness attestation' hstored
  | elsewhere input s' same =>
      intro id witness attestation hget
      rw [same.witnessAttestations] at hget
      rw [same.playSessions]
      exact h id witness attestation hget
  | settled | params => exact h

private theorem claims_of_step {id : String} {session : PlaySession} (h : Claims id session s)
    (hcond : RepeatsClaim s input) (hok : step env s input = .ok s') : Claims id session s' := by
  obtain ⟨stored, hstored, hsame⟩ := h
  cases sessionWrite_of_step hok with
  | claimed ctx msg submitted supplied =>
      by_cases hid : submitted.sessionIdHex = id
      · subst hid
        have hrepeated := (hcond submitted supplied stored hstored).1
        refine ⟨{ submitted with submittedAtHeight := ctx.height }, get_insert_self _ _ _,
          hsame.trans ?_⟩
        exact ⟨hrepeated.node, hrepeated.epoch, hrepeated.app, hrepeated.seconds⟩
      · exact ⟨stored, (get_insert_ne _ _ hid).trans hstored, hsame⟩
  | elsewhere input s' same => exact ⟨stored, same.playSessions ▸ hstored, hsame⟩
  | attested | settled | params => exact ⟨stored, hstored, hsame⟩

/-- Along a run whose accepted play claims for stored sessions repeat them, attestations stay
independent and a stored session keeps its claim from any point of the run on. -/
theorem session_ownership (env : Env) (bank : Bank) (genesisUnix : ℤ) (before after : List Input)
    (hmeets : Meets (next env) (IfAccepted (step env) RepeatsClaim)
      (defaultGenesis bank genesisUnix) (before ++ after)) :
    Independent (run (next env) (defaultGenesis bank genesisUnix) (before ++ after)) ∧
    ∀ (id : String) (session : PlaySession),
      (run (next env) (defaultGenesis bank genesisUnix) before).playSessions[id]? = some session →
      Claims id session (run (next env) (defaultGenesis bank genesisUnix) (before ++ after)) := by
  have hstart : Independent (defaultGenesis bank genesisUnix) := by
    intro id witness attestation hget
    simp [defaultGenesis] at hget
  constructor
  · refine run_invariant ?_ hmeets hstart
    intro s input hcond h
    exact attempt_preserves_of hcond
      (fun s' hs' hrepeats => independent_of_step h hrepeats hs') h
  · intro id session hget
    rw [run_append]
    refine run_invariant ?_ ((meets_append _ _ _ _ _).mp hmeets).2
      ⟨session, hget, SameClaim.refl session⟩
    intro s input hcond h
    exact attempt_preserves_of hcond
      (fun s' hs' hrepeats => claims_of_step h hrepeats hs') h

namespace Sample

def playSession (player : String) : PlaySession where
  sessionIdHex := "51"
  nodeAddress := player
  epochId := 7
  playSeconds := 60
  observationCid := "session-observation"

def claimPlay (session : PlaySession) : Input :=
  .deliver (ctx 3) (.submitPlaySession { nodeAddress := session.nodeAddress, session := some session })

def observe (collector : String) : Input :=
  .deliver (ctx 3) (.submitBatch
    { collector
      batchCommit := some
        { epochId := 7, collectorAddress := collector, payloadCid := "batch", observationCount := 1 } })

def attest (witness : String) : Input :=
  .deliver (ctx 4) (.attestSession
    { witness
      attestation := some
        { sessionIdHex := "51", witnessAddress := witness
          witnessObservationCid := "own-observation" } })

/-- A player's session with one witness. -/
def witnessedSession : List Input :=
  [register alice, register bob, observe bob, claimPlay (playSession alice), attest bob]

end Sample

/-- The player may submit the witnessed session again. -/
theorem session_ownership_repeated :
    let inputs := Sample.witnessedSession ++ [Sample.claimPlay (Sample.playSession Sample.alice)]
    Independent (run (next Sample.env) Sample.genesis inputs) ∧
    ∀ (id : String) (session : PlaySession),
      (run (next Sample.env) Sample.genesis Sample.witnessedSession).playSessions[id]? =
        some session →
      Claims id session (run (next Sample.env) Sample.genesis inputs) :=
  session_ownership Sample.env Sample.bank 0 Sample.witnessedSession
    [Sample.claimPlay (Sample.playSession Sample.alice)] (by decide +kernel)

/-- The witness submits the session id it attested and owns the session afterwards. -/
theorem submitPlaySession_takes_over :
    ¬ ∀ inputs, Independent (run (next Sample.env) Sample.genesis inputs) := by
  intro h
  have hindependent := h (Sample.witnessedSession ++
    [Sample.claimPlay (Sample.playSession Sample.bob)])
  have hattested : ((run (next Sample.env) Sample.genesis (Sample.witnessedSession ++
      [Sample.claimPlay (Sample.playSession Sample.bob)])).witnessAttestations[("51",
        Sample.bob)]?).isSome = true := by decide +kernel
  have howner : (run (next Sample.env) Sample.genesis (Sample.witnessedSession ++
      [Sample.claimPlay (Sample.playSession Sample.bob)])).playSessions["51"]? =
        some { Sample.playSession Sample.bob with submittedAtHeight := 3 } := by decide +kernel
  obtain ⟨attestation, hattestation⟩ := Option.isSome_iff_exists.mp hattested
  obtain ⟨session, hsession, hnode, _⟩ := hindependent "51" Sample.bob attestation hattestation
  rw [howner] at hsession
  cases hsession
  exact hnode rfl

end PoleProtocol.Chain
