import PoleProtocol.Node.Daemon

/-!
# Where the observation of a witness comes from

The receive loop looks for its own observation in the retention book, which also holds the batches
of its peers. An attestation cites a payload the node collected itself as long as, among the
retained payloads of the epoch in the order of their content ids, the first that shows the app is
such a payload and shows the slot of the session.
-/

namespace PoleProtocol.Node

open Framework OrderedMap Ledger

namespace NodeState

variable {env : NodeEnv} {s : NodeState}

/-! ## The property and the condition -/

/-- The node collected the cited payload itself, and observed in it what the attestation says: the
app in the epoch and slot of the session, with that player count. -/
def VouchesOwn (s : NodeState) (session : PlaySession) (attestation : WitnessAttestation) : Prop :=
  ∃ batch ∈ s.storage.collected, batch.payloadCid = attestation.witnessObservationCid ∧
    ∃ observation ∈ batch.observations, observation.appId = session.appId ∧
      observation.epochId = session.epochId ∧ observation.slotId = session.slotId ∧
      observation.observedPlayers = attestation.observedPlayers

/-- Every attestation that the receive loop has signed vouches with an own observation. -/
def WitnessesOwn (s : NodeState) : Prop :=
  ∀ entry ∈ s.evidence.witnessed, s.VouchesOwn entry.1 entry.2

/-- The file of a retained payload of the epoch shows the app, first in this observation. -/
def Shows (env : NodeEnv) (s : NodeState) (session : PlaySession) (record : StoredPayloadRecord)
    (observation : ObservationRecord) : Prop :=
  record.epochId = session.epochId ∧
    ∃ bytes observations, s.storage.payloadFile record.payloadCid = some bytes ∧
      env.decodeObservations bytes = some observations ∧
      observations.find? (·.appId = session.appId) = some observation

/-- No retained payload with a smaller content id shows the app. -/
def ShowsFirst (env : NodeEnv) (s : NodeState) (session : PlaySession)
    (record : StoredPayloadRecord) (observation : ObservationRecord) : Prop :=
  ∃ before after, s.storage.retentionBook.payloads.records = before ++ record :: after ∧
    (∀ earlier ∈ before, ∀ shown, ¬ Shows env s session earlier shown) ∧
    Shows env s session record observation

/-- What the first payload shows was collected by the node under that content id, in the epoch and
slot of the session. -/
def OwnComesFirst (env : NodeEnv) (s : NodeState) (session : PlaySession) : Prop :=
  ∀ record observation, ShowsFirst env s session record observation →
    observation.epochId = session.epochId ∧ observation.slotId = session.slotId ∧
      ∃ batch ∈ s.storage.collected,
        batch.payloadCid = record.payloadCid ∧ observation ∈ batch.observations

/-- A session for which the receive loop signs an attestation is announced when an own payload
comes first. -/
def SeesOwn (env : NodeEnv) (s : NodeState) : NodeEvent → Prop
  | .envelope (.playSession announcement) _ _ =>
      ∀ identity attestation, env.identityKeypair = some identity →
        (s.evidence.savePlaySession announcement.session).autoWitness env s.storage identity
          announcement.session = some attestation →
        OwnComesFirst env s announcement.session
  | _ => True

/-! ## What the search finds -/

theorem sighting_eq_some {session : PlaySession} {record : StoredPayloadRecord}
    {found : String × ℕ} :
    EvidenceStore.sighting env s.storage session.epochId session.appId record = some found ↔
      ∃ observation, Shows env s session record observation ∧
        found = (record.payloadCid, observation.observedPlayers) := by
  unfold EvidenceStore.sighting Shows
  by_cases hepoch : record.epochId = session.epochId
  · rw [if_pos hepoch]
    constructor
    · intro h
      obtain ⟨bytes, hbytes, hrest⟩ := Option.bind_eq_some_iff.mp h
      obtain ⟨observations, hdecode, hlast⟩ := Option.bind_eq_some_iff.mp hrest
      obtain ⟨observation, hfind, heq⟩ := Option.bind_eq_some_iff.mp hlast
      exact ⟨observation, ⟨hepoch, bytes, observations, hbytes, hdecode, hfind⟩,
        (Option.some.inj heq).symm⟩
    · rintro ⟨observation, ⟨_, bytes, observations, hbytes, hdecode, hfind⟩, rfl⟩
      simp only [hbytes, hdecode, hfind, Option.bind_eq_bind, Option.bind_some]
      rfl
  · rw [if_neg hepoch]
    constructor
    · intro h
      cases h
    · rintro ⟨observation, ⟨hsame, _⟩, _⟩
      exact absurd hsame hepoch

/-- The observation that is found is the first that a retained payload shows. -/
theorem showsFirst_of_ownObservation {session : PlaySession} {cid : String} {players : ℕ}
    (h : EvidenceStore.ownObservation env s.storage session = some (cid, players)) :
    ∃ record observation, ShowsFirst env s session record observation ∧
      record.payloadCid = cid ∧ observation.observedPlayers = players := by
  obtain ⟨before, record, after, hrecords, hfound, hearlier⟩ := List.findSome?_eq_some_iff.mp h
  obtain ⟨observation, hshows, heq⟩ := sighting_eq_some.mp hfound
  obtain ⟨rfl, rfl⟩ := Prod.mk.inj heq
  refine ⟨record, observation, ⟨before, after, hrecords, ?_, hshows⟩, rfl, rfl⟩
  intro earlier hmem shown hshown
  have hnone := hearlier earlier hmem
  rw [sighting_eq_some.mpr ⟨shown, hshown, rfl⟩] at hnone
  cases hnone

/-! ## Runs -/

/-- What the node has collected stays collected. -/
theorem collected_subset_next (env : NodeEnv) (s : NodeState) (event : NodeEvent) :
    s.storage.collected ⊆ (s.next env event).storage.collected := by
  cases event with
  | collectTick epochId slotId retentionEpochs samples =>
      change s.storage.collected ⊆
        (s.storage.collectTick env epochId slotId retentionEpochs samples).collected
      unfold PayloadStore.collectTick
      split
      · exact List.Subset.refl _
      · split
        · split
          · exact List.Subset.refl _
          · exact List.subset_append_left _ _
        · exact List.Subset.refl _
  | envelope message response retentionEpochs =>
      cases message with
      | batch announcement =>
          change s.storage.collected ⊆
            (s.storage.ingestBatch env announcement response retentionEpochs).collected
          unfold PayloadStore.ingestBatch
          split
          · exact List.Subset.refl _
          · dsimp only
            split <;> exact List.Subset.refl _
      | _ => exact List.Subset.refl _
  | _ => exact List.Subset.refl _

theorem VouchesOwn.mono {s' : NodeState} (h : s.storage.collected ⊆ s'.storage.collected)
    {session : PlaySession} {attestation : WitnessAttestation}
    (hvouches : s.VouchesOwn session attestation) : s'.VouchesOwn session attestation := by
  obtain ⟨batch, hbatch, hrest⟩ := hvouches
  exact ⟨batch, h hbatch, hrest⟩

/-- An attestation signed when an own payload comes first vouches with it. -/
theorem vouchesOwn_of_autoWitness {e : EvidenceStore} {identity : KeyPair} {session : PlaySession}
    {attestation : WitnessAttestation} (hfirst : OwnComesFirst env s session)
    (hauto : e.autoWitness env s.storage identity session = some attestation) :
    s.VouchesOwn session attestation := by
  have hfound := (EvidenceStore.autoWitnessed hauto).observation
  obtain ⟨record, observation, hshows, hcid, hplayers⟩ := showsFirst_of_ownObservation hfound
  obtain ⟨hepoch, hslot, batch, hbatch, hbatchCid, hmem⟩ := hfirst record observation hshows
  obtain ⟨_, _, _, _, _, bytes, observations, _, _, hfind⟩ := hshows
  have hshown := List.find?_some hfind
  have happ : observation.appId = session.appId := of_decide_eq_true hshown
  exact ⟨batch, hbatch, hbatchCid.trans hcid, observation, hmem, happ, hepoch, hslot, hplayers⟩

theorem witnessesOwn_next {event : NodeEvent} (hsees : SeesOwn env s event)
    (h : WitnessesOwn s) : WitnessesOwn (s.next env event) := by
  have hgrows := collected_subset_next env s event
  have hold : ∀ entry ∈ s.evidence.witnessed,
      (s.next env event).VouchesOwn entry.1 entry.2 :=
    fun entry hmem => (h entry hmem).mono hgrows
  have heffect := evidence_next env s event
  unfold WitnessesOwn
  generalize (s.next env event).evidence = e' at heffect ⊢
  cases heffect with
  | witnessed response retentionEpochs hidentity hauto =>
      intro entry hmem
      rcases List.mem_append.mp hmem with hearlier | hnew
      · exact hold entry hearlier
      · rw [List.mem_singleton.mp hnew]
        exact (vouchesOwn_of_autoWitness (hsees _ _ hidentity hauto) hauto).mono hgrows
  | _ => exact hold

end NodeState

end PoleProtocol.Node
