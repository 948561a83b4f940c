import PoleProtocol.Node.Directories

/-!
# Which attestations survive

The directory holds one attestation for each session. An attestation by another witness replaces
the stored one, so that all witnesses are kept exactly when no two of them attest one session.
-/

namespace PoleProtocol.Node

open Framework OrderedMap Ledger

namespace EvidenceStore

variable {env : NodeEnv} {e : EvidenceStore}

/-! ## The property and the condition -/

/-- For every attestation ever saved, an attestation of its session by its witness is loaded. -/
def AllWitnessesKept (e : EvidenceStore) : Prop :=
  ∀ attestation ∈ e.saved, ∃ loaded ∈ e.loadWitnessAttestations,
    loaded.sessionId = attestation.sessionId ∧
      loaded.witnessAddress = attestation.witnessAddress

/-- No attestation of another witness is loaded for a session that the node itself attested. -/
def OwnAttestationsKept (env : NodeEnv) (e : EvidenceStore) : Prop :=
  ∀ attestation ∈ e.saved, env.localAddress = some attestation.witnessAddress →
    ∀ loaded ∈ e.loadWitnessAttestations, loaded.sessionId = attestation.sessionId →
      loaded.witnessAddress = attestation.witnessAddress

/-- The attestation stored for the session, if any, is by the same witness. -/
def SameWitness (e : EvidenceStore) (attestation : WitnessAttestation) : Prop :=
  ∀ stored : WitnessAttestation, e.attestations[attestation.sessionId]? = some stored →
    stored.witnessAddress = attestation.witnessAddress

/-! ## One save -/

theorem allWitnessesKept_save_iff (h : Indexed e) (hkept : AllWitnessesKept e)
    (attestation : WitnessAttestation) :
    SameWitness e attestation ↔ AllWitnessesKept (e.saveWitnessAttestation attestation) := by
  have hindexed := indexed_saveWitnessAttestation h attestation
  have hnew : (e.saveWitnessAttestation attestation).attestations[attestation.sessionId]? =
      some attestation := get_insert_self _ _ _
  constructor
  · intro hsame kept hmem
    rcases List.mem_append.mp hmem with hold | hlast
    · obtain ⟨loaded, hloaded, hsession, hwitness⟩ := hkept kept hold
      have hstored := (mem_loadWitnessAttestations h).mp hloaded
      by_cases hid : loaded.sessionId = attestation.sessionId
      · rw [hid] at hstored
        refine ⟨attestation, (mem_loadWitnessAttestations hindexed).mpr hnew, ?_, ?_⟩
        · rw [← hid, hsession]
        · rw [← hsame loaded hstored, hwitness]
      · refine ⟨loaded, (mem_loadWitnessAttestations hindexed).mpr ?_, hsession, hwitness⟩
        exact (get_insert_ne _ _ (Ne.symm hid)).trans hstored
    · rw [List.mem_singleton.mp hlast]
      exact ⟨attestation, (mem_loadWitnessAttestations hindexed).mpr hnew, rfl, rfl⟩
  · intro hafter stored hstored
    have hsaved := List.mem_append_left [attestation] (h.saved _ stored hstored)
    obtain ⟨loaded, hloaded, hsession, hwitness⟩ := hafter stored hsaved
    rw [mem_loadWitnessAttestations hindexed, hsession, h.attestations _ stored hstored,
      hnew] at hloaded
    rw [← hwitness, Option.some.inj hloaded]

/-- All witnesses kept, the node's own ones are. -/
theorem ownAttestationsKept_of_all (h : Indexed e) (hkept : AllWitnessesKept e) :
    OwnAttestationsKept env e := by
  intro attestation hmem _ loaded hloaded hsession
  obtain ⟨other, hother, hotherSession, hwitness⟩ := hkept attestation hmem
  rw [mem_loadWitnessAttestations h] at hloaded hother
  rw [hsession] at hloaded
  rw [hotherSession, hloaded] at hother
  rw [Option.some.inj hother]
  exact hwitness

end EvidenceStore

namespace NodeState

open EvidenceStore

variable {env : NodeEnv}

/-- No attestation is saved over one by another witness. An attestation that the receive loop
signs is only saved where there is none. -/
def KeepsWitness (env : NodeEnv) (s : NodeState) : NodeEvent → Prop
  | .envelope (.witnessAttestation announcement) _ _ =>
      SameWitness s.evidence announcement.attestation
  | .attestSession sessionId cid seconds players =>
      ∀ attestation : WitnessAttestation,
        s.evidence.commandedAttestation env sessionId cid seconds players = some attestation →
        SameWitness s.evidence attestation
  | _ => True

/-- One event keeps all witnesses exactly when it meets the condition. -/
theorem allWitnessesKept_next_iff {s : NodeState} (event : NodeEvent)
    (h : Indexed s.evidence) (hkept : AllWitnessesKept s.evidence) :
    KeepsWitness env s event ↔ AllWitnessesKept (s.next env event).evidence := by
  cases event with
  | envelope message response retentionEpochs =>
      cases message with
      | witnessAttestation announcement =>
          exact allWitnessesKept_save_iff h hkept announcement.attestation
      | playSession announcement =>
          refine iff_of_true trivial ?_
          obtain ⟨session⟩ := announcement
          change AllWitnessesKept (s.evidence.ingestPlaySession env s.storage session)
          cases hauto : env.identityKeypair.bind
              ((s.evidence.savePlaySession session).autoWitness env s.storage · session) with
          | none =>
              rw [ingestPlaySession_of_none hauto]
              exact hkept
          | some attestation =>
              rw [ingestPlaySession_of_some hauto]
              obtain ⟨identity, _, hsigned⟩ := Option.bind_eq_some_iff.mp hauto
              have hfacts := autoWitnessed hsigned
              -- there was no attestation of the session, hence none by another witness
              have hsame : SameWitness s.evidence attestation := by
                intro stored hstored
                have hnone : s.evidence.attestations[session.sessionId]? = none :=
                  hfacts.unattested
                rw [hfacts.sessionId, hnone] at hstored
                cases hstored
              exact (allWitnessesKept_save_iff h hkept attestation).mp hsame
      | _ => exact iff_of_true trivial hkept
  | attestSession sessionId cid seconds players =>
      change (∀ attestation : WitnessAttestation,
          s.evidence.commandedAttestation env sessionId cid seconds players = some attestation →
          SameWitness s.evidence attestation) ↔
        AllWitnessesKept (s.evidence.attestSession env sessionId cid seconds players)
      unfold attestSession
      cases s.evidence.commandedAttestation env sessionId cid seconds players with
      | none => exact iff_of_true (fun attestation hnone => by cases hnone) hkept
      | some attestation =>
          rw [← allWitnessesKept_save_iff h hkept attestation]
          constructor
          · exact fun hall => hall attestation rfl
          · intro hsame other hother
            rw [← Option.some.inj hother]
            exact hsame
  | recordPlay inputs slotsPerBlock =>
      refine iff_of_true trivial ?_
      change AllWitnessesKept (s.evidence.recordPlay env inputs slotsPerBlock)
      unfold recordPlay buildSession
      cases s.evidence.reusedSession inputs slotsPerBlock with
      | some _ => exact hkept
      | none => cases ownSession env inputs <;> exact hkept
  | playSession inputs =>
      refine iff_of_true trivial ?_
      change AllWitnessesKept (s.evidence.buildSession env inputs)
      unfold buildSession
      cases ownSession env inputs <;> exact hkept
  | _ => exact iff_of_true trivial hkept

/-- In every order of receiving, witnessing and attesting by command: all witnesses, and the
node's own attestations with them, are kept in every state if and only if no attestation is saved
over one by another witness. -/
theorem witnesses_kept_iff (env : NodeEnv) (events : List NodeEvent) :
    Meets (next env) (KeepsWitness env) (fresh env) events ↔
      ∀ before after, events = before ++ after →
        AllWitnessesKept (run (next env) (fresh env) before).evidence ∧
          OwnAttestationsKept env (run (next env) (fresh env) before).evidence := by
  have hempty : AllWitnessesKept (fresh env).evidence := by
    intro attestation hmem
    cases hmem
  have hindexed : Indexed (fresh env).evidence := indexed_fresh
  refine meets_iff_prefixes (I := fun s : NodeState => Indexed s.evidence)
    (P := fun s : NodeState => AllWitnessesKept s.evidence ∧ OwnAttestationsKept env s.evidence)
    ?_ ?_ hindexed ⟨hempty, ownAttestationsKept_of_all hindexed hempty⟩ events
  · exact fun s event h => indexed_next event h
  · intro s event h hkept
    rw [allWitnessesKept_next_iff event h hkept.1]
    constructor
    · exact fun hall =>
        ⟨hall, ownAttestationsKept_of_all (indexed_next event h) hall⟩
    · exact And.left

/-- The second of two witnesses takes the place of the first. -/
theorem witness_lost :
    ¬ ∀ (env : NodeEnv) (events : List NodeEvent),
      AllWitnessesKept (run (next env) (fresh env) events).evidence ∧
        OwnAttestationsKept env (run (next env) (fresh env) events).evidence := by
  intro hall
  have hkept := (hall Sample.env [Sample.attested (Sample.attestation 7 1 []),
    Sample.attested (Sample.attestation 7 2 [])]).1
  obtain ⟨loaded, hloaded, hsession, hwitness⟩ := hkept (Sample.attestation 7 1 []) (by decide)
  have honly : ∀ loaded ∈ (run (next Sample.env) (fresh Sample.env)
      [Sample.attested (Sample.attestation 7 1 []),
        Sample.attested (Sample.attestation 7 2 [])]).evidence.loadWitnessAttestations,
      loaded.witnessAddress = 2 := by
    decide
  rw [honly loaded hloaded] at hwitness
  exact absurd hwitness (by decide)

end NodeState

end PoleProtocol.Node
