import PoleProtocol.Node.Daemon

/-!
# The two directories

Whatever a node receives and builds, each directory holds what its file names say, and every
attestation in it was saved.
-/

namespace PoleProtocol.Node

open Framework OrderedMap Ledger

namespace EvidenceStore

variable {env : NodeEnv} {e : EvidenceStore}

/-- Sessions and attestations are stored under their session ids, and all attestations were
saved. -/
structure Indexed (e : EvidenceStore) : Prop where
  playSessions : KeyedBy PlaySession.sessionId e.playSessions
  attestations : KeyedBy WitnessAttestation.sessionId e.attestations
  saved : ∀ (id : Hash32) (attestation : WitnessAttestation),
    e.attestations[id]? = some attestation → attestation ∈ e.saved

theorem indexed_fresh : Indexed fresh := by
  refine ⟨keyedBy_empty _, keyedBy_empty _, ?_⟩
  intro id attestation h
  simp [fresh] at h

theorem indexed_savePlaySession (h : Indexed e) (session : PlaySession) :
    Indexed (e.savePlaySession session) :=
  ⟨keyedBy_insert _ h.playSessions session, h.attestations, h.saved⟩

theorem indexed_saveWitnessAttestation (h : Indexed e) (attestation : WitnessAttestation) :
    Indexed (e.saveWitnessAttestation attestation) := by
  refine ⟨h.playSessions, keyedBy_insert _ h.attestations attestation, ?_⟩
  intro id stored hstored
  rcases get_insert_cases hstored with ⟨_, rfl⟩ | ⟨_, hold⟩
  · exact List.mem_append_right _ (List.mem_singleton.mpr rfl)
  · exact List.mem_append_left _ (h.saved id stored hold)

/-- What is loaded for a session is what is stored under its id. -/
theorem mem_loadPlaySessions (h : Indexed e) {session : PlaySession} :
    session ∈ e.loadPlaySessions ↔ e.playSessions[session.sessionId]? = some session := by
  rw [loadPlaySessions, mem_records]
  constructor
  · rintro ⟨id, hid⟩
    rw [h.playSessions id session hid]
    exact hid
  · exact fun hstored => ⟨_, hstored⟩

theorem mem_loadWitnessAttestations (h : Indexed e) {attestation : WitnessAttestation} :
    attestation ∈ e.loadWitnessAttestations ↔
      e.attestations[attestation.sessionId]? = some attestation := by
  rw [loadWitnessAttestations, mem_records]
  constructor
  · rintro ⟨id, hid⟩
    rw [h.attestations id attestation hid]
    exact hid
  · exact fun hstored => ⟨_, hstored⟩

theorem mem_attestedIds (h : Indexed e) {id : Hash32} :
    id ∈ e.attestedIds ↔ e.attestations[id]? ≠ none := by
  rw [attestedIds, List.mem_map]
  constructor
  · rintro ⟨attestation, hmem, rfl⟩
    rw [mem_loadWitnessAttestations h] at hmem
    rw [hmem]
    exact Option.some_ne_none _
  · intro hstored
    obtain ⟨attestation, hattestation⟩ := Option.ne_none_iff_exists'.mp hstored
    have hid := h.attestations id attestation hattestation
    refine ⟨attestation, (mem_loadWitnessAttestations h).mpr ?_, hid⟩
    rw [hid]
    exact hattestation

end EvidenceStore

open EvidenceStore

theorem indexed_next {env : NodeEnv} {s : NodeState} (event : NodeEvent)
    (h : Indexed s.evidence) : Indexed (s.next env event).evidence := by
  have heffect := evidence_next env s event
  generalize (s.next env event).evidence = e' at heffect ⊢
  cases heffect with
  | unchanged => exact h
  | received session => exact indexed_savePlaySession h session
  | @played _ session =>
      have hsaved := indexed_savePlaySession h session
      exact ⟨hsaved.playSessions, hsaved.attestations, hsaved.saved⟩
  | @recorded _ _ session =>
      have hsaved := indexed_savePlaySession h session
      exact ⟨hsaved.playSessions, hsaved.attestations, hsaved.saved⟩
  | attested attestation => exact indexed_saveWitnessAttestation h attestation
  | commanded => exact indexed_saveWitnessAttestation h _
  | @witnessed _ session attestation =>
      have hsaved := indexed_saveWitnessAttestation (indexed_savePlaySession h session) attestation
      exact ⟨hsaved.playSessions, hsaved.attestations, hsaved.saved⟩

end PoleProtocol.Node
