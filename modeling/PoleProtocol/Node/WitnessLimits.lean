import PoleProtocol.Node.Directories

/-!
# The limits on automatic witnessing

Both limits are counted over the stored sessions that have an attestation. The count is right as
long as a session that the node has attested is not announced again for another epoch, player or
app.
-/

namespace PoleProtocol.Node

open Framework OrderedMap Ledger

namespace EvidenceStore

variable {env : NodeEnv} {e : EvidenceStore}

/-! ## The property and the condition -/

/-- The two sessions are about the play of one node in one app and epoch. -/
def SameClaim (left right : PlaySession) : Prop :=
  left.epochId = right.epochId ∧ left.nodeAddress = right.nodeAddress ∧ left.appId = right.appId

instance (left right : PlaySession) : Decidable (SameClaim left right) :=
  inferInstanceAs (Decidable (_ ∧ _ ∧ _))

def witnessedInEpoch (e : EvidenceStore) (epochId : ℕ) : List (PlaySession × WitnessAttestation) :=
  e.witnessed.filter fun entry => entry.1.epochId = epochId

/-- At most 64 attestations for an epoch, and one for a node, app and epoch. -/
structure WithinLimits (e : EvidenceStore) : Prop where
  perEpoch : ∀ epochId, (e.witnessedInEpoch epochId).length ≤ maxAutoAttestationsPerEpoch
  perPeerApp : ∀ session : PlaySession,
    (e.witnessed.filter fun entry => SameClaim entry.1 session).length ≤ 1

/-- The session is not the id of an attested one with another claim. -/
def KeepsClaims (e : EvidenceStore) (session : PlaySession) : Prop :=
  ∀ entry ∈ e.witnessed, entry.1.sessionId = session.sessionId → SameClaim entry.1 session

instance (e : EvidenceStore) (session : PlaySession) : Decidable (KeepsClaims e session) :=
  inferInstanceAs (Decidable (∀ entry ∈ e.witnessed, _))

/-- The limits are about the attested sessions only. -/
theorem withinLimits_of_witnessed {e' : EvidenceStore} (h : WithinLimits e)
    (heq : e'.witnessed = e.witnessed) : WithinLimits e' := by
  refine ⟨?_, ?_⟩
  · intro epochId
    rw [witnessedInEpoch, heq]
    exact h.perEpoch epochId
  · intro session
    rw [heq]
    exact h.perPeerApp session

/-! ## What the directories know of the attested sessions -/

/-- Every attested session is stored with its claim and has an attestation. -/
structure Accounted (e : EvidenceStore) : Prop where
  distinct : (e.witnessed.map (·.1.sessionId)).Nodup
  stored : ∀ entry ∈ e.witnessed, ∃ session : PlaySession,
    e.playSessions[entry.1.sessionId]? = some session ∧ SameClaim entry.1 session
  attested : ∀ entry ∈ e.witnessed, e.attestations[entry.1.sessionId]? ≠ none

theorem accounted_fresh : Accounted fresh := by
  refine ⟨List.nodup_nil, ?_, ?_⟩
  · intro entry hmem
    cases hmem
  · intro entry hmem
    cases hmem

theorem accounted_savePlaySession (h : Accounted e) {session : PlaySession}
    (hkeeps : KeepsClaims e session) : Accounted (e.savePlaySession session) := by
  refine ⟨h.distinct, ?_, h.attested⟩
  intro entry hmem
  by_cases hid : session.sessionId = entry.1.sessionId
  · refine ⟨session, ?_, hkeeps entry hmem hid.symm⟩
    rw [← hid]
    exact get_insert_self _ _ _
  · obtain ⟨stored, hstored, hclaim⟩ := h.stored entry hmem
    exact ⟨stored, (get_insert_ne _ _ hid).trans hstored, hclaim⟩

theorem accounted_saveWitnessAttestation (h : Accounted e) (attestation : WitnessAttestation) :
    Accounted (e.saveWitnessAttestation attestation) :=
  ⟨h.distinct, h.stored, fun entry hmem => insert_ne_none _ _ (h.attested entry hmem)⟩

/-- The attested sessions of an epoch are among those that the quota counts. -/
theorem witnessedInEpoch_le_count (hindexed : Indexed e) (h : Accounted e) (epochId : ℕ) :
    (e.witnessedInEpoch epochId).length ≤ e.epochAttestationCount epochId := by
  have hnodup : ((e.witnessedInEpoch epochId).map (·.1.sessionId)).Nodup :=
    h.distinct.sublist (List.filter_sublist.map _)
  have hsubset : (e.witnessedInEpoch epochId).map (·.1.sessionId) ⊆
      (e.loadPlaySessions.filter fun session =>
        session.epochId = epochId ∧ session.sessionId ∈ e.attestedIds).map (·.sessionId) := by
    intro id hid
    obtain ⟨entry, hentry, rfl⟩ := List.mem_map.mp hid
    obtain ⟨hmem, hepoch⟩ := List.mem_filter.mp hentry
    obtain ⟨session, hsession, hclaim⟩ := h.stored entry hmem
    have hsessionId := hindexed.playSessions _ _ hsession
    refine List.mem_map.mpr ⟨session, List.mem_filter.mpr ⟨?_, ?_⟩, hsessionId⟩
    · rw [mem_loadPlaySessions hindexed, hsessionId]
      exact hsession
    · rw [decide_eq_true_eq, mem_attestedIds hindexed, hsessionId]
      exact ⟨hclaim.1.symm.trans (of_decide_eq_true hepoch), h.attested entry hmem⟩
  have hle := (List.subperm_of_subset hnodup hsubset).length_le
  rw [List.length_map, List.length_map] at hle
  exact hle

/-- An attested session of the same claim shows in the directories. -/
theorem peerAppAlreadyWitnessed_of_mem (hindexed : Indexed e) (h : Accounted e)
    {entry : PlaySession × WitnessAttestation} {session : PlaySession} (hmem : entry ∈ e.witnessed)
    (hclaim : SameClaim entry.1 session) : e.PeerAppAlreadyWitnessed session := by
  obtain ⟨stored, hstored, hsame⟩ := h.stored entry hmem
  have hid := hindexed.playSessions _ _ hstored
  refine ⟨stored, ?_, hsame.1.symm.trans hclaim.1, hsame.2.1.symm.trans hclaim.2.1,
    hsame.2.2.symm.trans hclaim.2.2, ?_⟩
  · rw [mem_loadPlaySessions hindexed, hid]
    exact hstored
  · rw [mem_attestedIds hindexed, hid]
    exact h.attested entry hmem

/-! ## One attestation -/

theorem accounted_witnessed {store : PayloadStore} {identity : KeyPair} {session : PlaySession}
    {attestation : WitnessAttestation} (h : Accounted e)
    (hauto : AutoWitnessed env store e identity session attestation)
    (hstored : e.playSessions[session.sessionId]? = some session) :
    Accounted { e.saveWitnessAttestation attestation with
      witnessed := e.witnessed ++ [(session, attestation)] } := by
  have hsaved := accounted_saveWitnessAttestation h attestation
  refine ⟨?_, ?_, ?_⟩
  · rw [List.map_append, List.map_singleton, ← List.concat_eq_append, List.nodup_concat]
    refine ⟨?_, h.distinct⟩
    intro hmem
    obtain ⟨entry, hentry, hid⟩ := List.mem_map.mp hmem
    apply h.attested entry hentry
    rw [hid]
    exact hauto.unattested
  · intro entry hmem
    rcases List.mem_append.mp hmem with hold | hnew
    · exact hsaved.stored entry hold
    · rw [List.mem_singleton.mp hnew]
      exact ⟨session, hstored, rfl, rfl, rfl⟩
  · intro entry hmem
    rcases List.mem_append.mp hmem with hold | hnew
    · exact hsaved.attested entry hold
    · rw [List.mem_singleton.mp hnew]
      change (e.attestations.insert attestation.sessionId attestation)[session.sessionId]? ≠ none
      rw [hauto.sessionId, get_insert_self]
      exact Option.some_ne_none _

theorem withinLimits_witnessed {store : PayloadStore} {identity : KeyPair} {session : PlaySession}
    {attestation : WitnessAttestation} (hindexed : Indexed e) (h : Accounted e)
    (hlimits : WithinLimits e) (hauto : AutoWitnessed env store e identity session attestation) :
    WithinLimits { e.saveWitnessAttestation attestation with
      witnessed := e.witnessed ++ [(session, attestation)] } := by
  refine ⟨?_, ?_⟩
  · intro epochId
    change ((e.witnessed ++ [(session, attestation)]).filter _).length ≤ _
    rw [List.filter_append, List.length_append]
    by_cases hepoch : session.epochId = epochId
    · have hcount := witnessedInEpoch_le_count hindexed h epochId
      have hquota := hauto.belowQuota
      rw [hepoch] at hquota
      have hlast : ([(session, attestation)].filter fun entry =>
          entry.1.epochId = epochId).length ≤ 1 := List.length_filter_le _ _
      unfold witnessedInEpoch at hcount
      omega
    · have hlast : ([(session, attestation)].filter fun entry =>
          entry.1.epochId = epochId) = [] := by simp [hepoch]
      rw [hlast]
      exact hlimits.perEpoch epochId
  · intro other
    change ((e.witnessed ++ [(session, attestation)]).filter _).length ≤ 1
    rw [List.filter_append, List.length_append]
    by_cases hclaim : SameClaim session other
    · -- an earlier attestation of this claim would have stopped this one
      have hnone : (e.witnessed.filter fun entry => SameClaim entry.1 other) = [] := by
        apply List.filter_eq_nil_iff.mpr
        intro entry hmem hsame
        have hentry : SameClaim entry.1 other := of_decide_eq_true hsame
        exact hauto.firstOfPeerApp (peerAppAlreadyWitnessed_of_mem hindexed h hmem
          ⟨hentry.1.trans hclaim.1.symm, hentry.2.1.trans hclaim.2.1.symm,
            hentry.2.2.trans hclaim.2.2.symm⟩)
      rw [hnone]
      have hlast : ([(session, attestation)].filter fun entry =>
          SameClaim entry.1 other).length ≤ 1 := List.length_filter_le _ _
      simpa using hlast
    · have hlast : ([(session, attestation)].filter fun entry => SameClaim entry.1 other) = [] := by
        simp [hclaim]
      rw [hlast]
      exact hlimits.perPeerApp other

end EvidenceStore

namespace NodeState

open EvidenceStore

variable {env : NodeEnv} {s : NodeState}

/-! ## Runs -/

/-- No session with another claim is written under the id of a session the node has attested. -/
def KeepsAttestedClaims (env : NodeEnv) (s : NodeState) : NodeEvent → Prop
  | .envelope (.playSession announcement) _ _ => KeepsClaims s.evidence announcement.session
  | .playSession inputs =>
      ∀ session : PlaySession, ownSession env inputs = some session → KeepsClaims s.evidence session
  | .recordPlay inputs slotsPerBlock =>
      s.evidence.reusedSession inputs slotsPerBlock = none →
        ∀ session : PlaySession, ownSession env inputs = some session →
          KeepsClaims s.evidence session
  | _ => True

/-- The directories account for the attested sessions, and the limits hold. -/
structure Limited (s : NodeState) : Prop where
  indexed : Indexed s.evidence
  accounted : Accounted s.evidence
  limits : WithinLimits s.evidence

theorem limited_fresh (env : NodeEnv) : Limited (fresh env) := by
  refine ⟨indexed_fresh, accounted_fresh, ?_, ?_⟩
  · exact fun epochId => Nat.zero_le _
  · exact fun session => Nat.zero_le _

theorem limited_next {event : NodeEvent} (hkeeps : KeepsAttestedClaims env s event)
    (h : Limited s) : Limited (s.next env event) := by
  suffices hboth : Accounted (s.next env event).evidence ∧
      WithinLimits (s.next env event).evidence from
    ⟨indexed_next event h.indexed, hboth.1, hboth.2⟩
  have heffect := evidence_next env s event
  generalize (s.next env event).evidence = e' at heffect ⊢
  cases heffect with
  | unchanged => exact ⟨h.accounted, h.limits⟩
  | received session =>
      exact ⟨accounted_savePlaySession h.accounted hkeeps, withinLimits_of_witnessed h.limits rfl⟩
  | attested attestation =>
      exact ⟨accounted_saveWitnessAttestation h.accounted attestation,
        withinLimits_of_witnessed h.limits rfl⟩
  | commanded =>
      exact ⟨accounted_saveWitnessAttestation h.accounted _,
        withinLimits_of_witnessed h.limits rfl⟩
  | played hown =>
      have hsaved := accounted_savePlaySession h.accounted (hkeeps _ hown)
      exact ⟨⟨hsaved.distinct, hsaved.stored, hsaved.attested⟩,
        withinLimits_of_witnessed h.limits rfl⟩
  | recorded hreused hown =>
      have hsaved := accounted_savePlaySession h.accounted (hkeeps hreused _ hown)
      exact ⟨⟨hsaved.distinct, hsaved.stored, hsaved.attested⟩,
        withinLimits_of_witnessed h.limits rfl⟩
  | @witnessed _ session attestation _ _ _ hsigned =>
      have hsaved := accounted_savePlaySession h.accounted hkeeps
      have hindexed := indexed_savePlaySession h.indexed session
      have hlimits : WithinLimits (s.evidence.savePlaySession session) :=
        withinLimits_of_witnessed h.limits rfl
      have hauto := autoWitnessed hsigned
      exact ⟨accounted_witnessed hsaved hauto (get_insert_self _ _ _),
        withinLimits_witnessed hindexed hsaved hlimits hauto⟩

/-- Over a whole run in which no attested session is written again with another claim, both limits
hold, whatever else is received. -/
theorem witness_limits_hold (env : NodeEnv) (events : List NodeEvent)
    (hmeets : Meets (next env) (KeepsAttestedClaims env) (fresh env) events) :
    WithinLimits (run (next env) (fresh env) events).evidence :=
  (run_invariant (P := Limited) (fun _ _ hkeeps h => limited_next hkeeps h) hmeets
    (limited_fresh env)).limits

/-- A session is attested, and announced again as it was. -/
theorem witness_limits_hold_repeated :
    WithinLimits (run (next Sample.env) (fresh Sample.env)
      [Sample.collected, Sample.announced (Sample.peerSession 7 1),
        Sample.announced (Sample.peerSession 7 1)]).evidence := by
  apply witness_limits_hold
  refine ⟨trivial, ?_, ?_, trivial⟩
  · change KeepsClaims (next Sample.env (fresh Sample.env) Sample.collected).evidence
      (Sample.peerSession 7 1)
    decide +kernel
  · change KeepsClaims (run (next Sample.env) (fresh Sample.env)
      [Sample.collected, Sample.announced (Sample.peerSession 7 1)]).evidence
      (Sample.peerSession 7 1)
    decide +kernel

/-- Announcing the attested session for another player makes room for a second one of the first
player. -/
theorem witness_limit_exceeded :
    ¬ ∀ (env : NodeEnv) (events : List NodeEvent),
      WithinLimits (run (next env) (fresh env) events).evidence := by
  intro hall
  have hone := (hall Sample.env [Sample.collected, Sample.announced (Sample.peerSession 7 1),
    Sample.announced (Sample.peerSession 7 2),
    Sample.announced (Sample.peerSession 8 1)]).perPeerApp (Sample.peerSession 7 1)
  revert hone
  decide +kernel

end NodeState

end PoleProtocol.Node
