import PoleProtocol.Chain.Commitment
import PoleProtocol.Node.Directories

/-!
# What releases the rewards of a player

The reward tick stamps a record with the stored session of its slot, and the reward of an epoch is
released for the sessions that another node has witnessed. Both read the directories that the
receive loop fills. Peers cannot release or redirect a reward as long as they announce only
sessions that come after an own one of the same slot and app, and attest with a valid signature.
-/

namespace PoleProtocol.Node

open Framework OrderedMap Ledger

/-! ## Session ids as text -/

private theorem getLsbD_of_bytes {left right : Hash32} (h : left.bytes = right.bytes) {i j : ℕ}
    (hi : i < 32) (hj : j < 8) :
    left.getLsbD (8 * (31 - i) + j) = right.getLsbD (8 * (31 - i) + j) := by
  have hbyte := (List.map_inj_left.mp h) i (List.mem_range.mpr hi)
  have hbits := congrArg (fun byte : UInt8 => byte.toBitVec.getLsbD j) hbyte
  simpa [BitVec.getLsbD_extractLsb', hj] using hbits

theorem hash32_bytes_injective : Function.Injective Hash32.bytes := by
  intro left right h
  apply BitVec.eq_of_getLsbD_eq
  intro n hn
  have hbit := getLsbD_of_bytes h (i := 31 - n / 8) (j := n % 8) (by omega) (by omega)
  have hposition : 8 * (31 - (31 - n / 8)) + n % 8 = n := by omega
  rw [hposition] at hbit
  exact hbit

theorem hex32_injective : Function.Injective hex32 := by
  intro left right h
  exact hash32_bytes_injective (Chain.hexEncode_injective h)

namespace EvidenceStore

variable {env : NodeEnv} {e : EvidenceStore}

/-! ## The property -/

/-- Every session the node built is stored as it was built. -/
def BuiltStored (e : EvidenceStore) : Prop :=
  ∀ session ∈ e.built, e.playSessions[session.sessionId]? = some session

/-- The reward tick finds only sessions the node built. -/
def SlotsOwn (e : EvidenceStore) : Prop :=
  ∀ (epochId slotId appId : ℕ) (id : String),
    (e.localSessionIdsForSlot epochId slotId)[appId]? = some id →
    ∃ session ∈ e.built, hex32 session.sessionId = id

/-- The signature verifies under a key of the witness's account. -/
def Authentic (env : NodeEnv) (attestation : WitnessAttestation) : Prop :=
  ∃ publicKey, env.verifySignature publicKey (attestation.signingPayload env)
      attestation.witnessSignature = true ∧
    env.identityAccountAddress publicKey = attestation.witnessAddress

/-- A session without a valid settlement counts as verified only where somebody other than its
player has signed an attestation of it. -/
def VerifiedBySignature (env : NodeEnv) (e : EvidenceStore) : Prop :=
  ∀ (settlementValid : String → Bool) (epochId : ℕ) (id : String), settlementValid id = false →
    id ∈ e.verifiedSessionIdsForEpoch env settlementValid epochId →
    ∃ session ∈ e.loadPlaySessions, hex32 session.sessionId = id ∧
      ∃ attestation ∈ e.loadWitnessAttestations, attestation.sessionId = session.sessionId ∧
        Authentic env attestation ∧ attestation.witnessAddress ≠ session.nodeAddress

/-- Peers neither release nor redirect the rewards of the node. -/
structure RewardsOwn (env : NodeEnv) (e : EvidenceStore) : Prop where
  builtStored : BuiltStored e
  slotsOwn : SlotsOwn e
  verified : VerifiedBySignature env e

/-! ## What it says of the files -/

def SameSlot (left right : PlaySession) : Prop :=
  left.epochId = right.epochId ∧ left.slotId = right.slotId ∧ left.appId = right.appId

/-- The node built a session of that slot and app whose file does not come later. -/
def FollowsOwn (e : EvidenceStore) (session : PlaySession) : Prop :=
  ∃ own ∈ e.built, SameSlot own session ∧ (compare own.sessionId session.sessionId).isLE

/-- An attestation that the node did not sign itself is authentic and not by the player. -/
def Corroborates (env : NodeEnv) (session : PlaySession) (attestation : WitnessAttestation) :
    Prop :=
  env.localAddress ≠ some attestation.witnessAddress →
    Authentic env attestation ∧ attestation.witnessAddress ≠ session.nodeAddress

def AllFollowOwn (e : EvidenceStore) : Prop := ∀ session ∈ e.loadPlaySessions, FollowsOwn e session

def AllCorroborate (env : NodeEnv) (e : EvidenceStore) : Prop :=
  ∀ session ∈ e.loadPlaySessions, ∀ attestation ∈ e.loadWitnessAttestations,
    attestation.sessionId = session.sessionId → Corroborates env session attestation

/-- The session that the reward tick finds is the first stored one of the slot and app. -/
theorem localSessionIdsForSlot_get (epochId slotId appId : ℕ) :
    (e.localSessionIdsForSlot epochId slotId)[appId]? =
      (e.loadPlaySessions.find? fun session =>
        (session.epochId = epochId ∧ session.slotId = slotId) ∧ session.appId = appId).map
          fun session => hex32 session.sessionId := by
  have hfill := get_foldl_fill PlaySession.appId
    (fun session : PlaySession => session.epochId = epochId ∧ session.slotId = slotId)
    (fun session => hex32 session.sessionId) e.loadPlaySessions ∅ appId
  simp only [and_assoc, Std.ExtTreeMap.getElem?_empty, Option.none_or] at hfill ⊢
  exact hfill

/-- The reward tick finds own sessions exactly when an own session comes first in every slot. -/
theorem slotsOwn_iff (h : Indexed e) (hbuilt : BuiltStored e) : SlotsOwn e ↔ AllFollowOwn e := by
  unfold SlotsOwn
  simp only [localSessionIdsForSlot_get]
  constructor
  · intro hown session hmem
    have hsome : (e.loadPlaySessions.find? fun other =>
        (other.epochId = session.epochId ∧ other.slotId = session.slotId) ∧
          other.appId = session.appId).isSome := by
      rw [List.find?_isSome]
      exact ⟨session, hmem, by simp⟩
    obtain ⟨first, hfirst⟩ := Option.isSome_iff_exists.mp hsome
    obtain ⟨own, hmemBuilt, hid⟩ := hown _ _ _ _ (congrArg (Option.map _) hfirst)
    obtain ⟨hfirstMem, hlabels, hleast⟩ :=
      (find_records_eq_some PlaySession.sessionId h.playSessions _).mp hfirst
    have hsame : own = first := by
      have hstored := hbuilt own hmemBuilt
      rw [hex32_injective hid, (mem_loadPlaySessions h).mp hfirstMem] at hstored
      exact (Option.some.inj hstored).symm
    have hslot := of_decide_eq_true hlabels
    refine ⟨own, hmemBuilt, ?_, ?_⟩
    · rw [hsame]
      exact ⟨hslot.1.1, hslot.1.2, hslot.2⟩
    · rw [hsame]
      exact hleast session hmem (by simp)
  · intro hfollow epochId slotId appId id hid
    obtain ⟨first, hfirst, hhex⟩ := Option.map_eq_some_iff.mp hid
    obtain ⟨hfirstMem, hlabels, hleast⟩ :=
      (find_records_eq_some PlaySession.sessionId h.playSessions _).mp hfirst
    obtain ⟨⟨hepoch, hslot⟩, happ⟩ := of_decide_eq_true hlabels
    obtain ⟨own, hmemBuilt, ⟨hownEpoch, hownSlot, hownApp⟩, hle⟩ := hfollow first hfirstMem
    have hownMem := (mem_loadPlaySessions h).mpr (hbuilt own hmemBuilt)
    have hge := hleast own hownMem (by simp [hownEpoch, hownSlot, hownApp, hepoch, hslot, happ])
    have hids : own.sessionId = first.sessionId :=
      Std.compare_eq_iff_eq.mp (Std.OrientedCmp.isLE_antisymm hle hge)
    exact ⟨own, hmemBuilt, by rw [hids, hhex]⟩

theorem mem_verifiedSessionIdsForEpoch {settlementValid : String → Bool} {epochId : ℕ}
    {id : String} (hunsettled : settlementValid id = false) :
    id ∈ e.verifiedSessionIdsForEpoch env settlementValid epochId ↔
      ∃ session ∈ e.loadPlaySessions, session.epochId = epochId ∧ hex32 session.sessionId = id ∧
        ∃ attestation ∈ e.loadWitnessAttestations, attestation.sessionId = session.sessionId ∧
          env.localAddress ≠ some attestation.witnessAddress := by
  have hwitnesses : ∀ session, 0 < (e.independentWitnesses env session).length ↔
      ∃ attestation ∈ e.loadWitnessAttestations, attestation.sessionId = session.sessionId ∧
        env.localAddress ≠ some attestation.witnessAddress := by
    intro session
    rw [List.length_pos_iff_exists_mem]
    simp [independentWitnesses, and_assoc]
  unfold verifiedSessionIdsForEpoch
  rw [List.mem_toFinset, List.mem_map]
  constructor
  · rintro ⟨session, hmem, rfl⟩
    obtain ⟨hload, hverified⟩ := List.mem_filter.mp hmem
    obtain ⟨hepoch, hsettled | hwitness⟩ := of_decide_eq_true hverified
    · rw [hunsettled] at hsettled
      cases hsettled
    · exact ⟨session, hload, hepoch, rfl, (hwitnesses session).mp hwitness⟩
  · rintro ⟨session, hload, hepoch, rfl, hwitness⟩
    have hverified := (hwitnesses session).mpr hwitness
    exact ⟨session, List.mem_filter.mpr ⟨hload, decide_eq_true ⟨hepoch, .inr hverified⟩⟩, rfl⟩

/-- Verified sessions are corroborated exactly when every foreign attestation of a stored session
is. A session has at most one attestation. -/
theorem verifiedBySignature_iff (h : Indexed e) :
    VerifiedBySignature env e ↔ AllCorroborate env e := by
  constructor
  · intro hverified session hmem attestation hattestation hid hforeign
    have hcounts : hex32 session.sessionId ∈
        e.verifiedSessionIdsForEpoch env (fun _ => false) session.epochId :=
      (mem_verifiedSessionIdsForEpoch rfl).mpr
        ⟨session, hmem, rfl, rfl, attestation, hattestation, hid, hforeign⟩
    obtain ⟨other, hother, hhex, signed, hsigned, hsignedId, hauthentic, hwitness⟩ :=
      hverified _ _ _ rfl hcounts
    have hids := hex32_injective hhex
    have hsession : other = session := by
      have hstored := (mem_loadPlaySessions h).mp hother
      rw [hids, (mem_loadPlaySessions h).mp hmem] at hstored
      exact (Option.some.inj hstored).symm
    have hattested : signed = attestation := by
      have hstored := (mem_loadWitnessAttestations h).mp hsigned
      rw [hsignedId, hids, ← hid, (mem_loadWitnessAttestations h).mp hattestation] at hstored
      exact (Option.some.inj hstored).symm
    rw [hattested] at hauthentic hwitness
    rw [hsession] at hwitness
    exact ⟨hauthentic, hwitness⟩
  · intro hall settlementValid epochId id hunsettled hverified
    obtain ⟨session, hmem, _, hhex, attestation, hattestation, hid, hforeign⟩ :=
      (mem_verifiedSessionIdsForEpoch hunsettled).mp hverified
    obtain ⟨hauthentic, hwitness⟩ := hall session hmem attestation hattestation hid hforeign
    exact ⟨session, hmem, hhex, attestation, hattestation, hid, hauthentic, hwitness⟩

theorem rewardsOwn_iff (h : Indexed e) :
    RewardsOwn env e ↔ BuiltStored e ∧ AllFollowOwn e ∧ AllCorroborate env e := by
  constructor
  · rintro ⟨hbuilt, hslots, hverified⟩
    exact ⟨hbuilt, (slotsOwn_iff h hbuilt).mp hslots, (verifiedBySignature_iff h).mp hverified⟩
  · rintro ⟨hbuilt, hfollow, hall⟩
    exact ⟨hbuilt, (slotsOwn_iff h hbuilt).mpr hfollow, (verifiedBySignature_iff h).mpr hall⟩

/-! ## One write -/

/-- No session of the same id with other content was built. -/
def KeepsBuilt (e : EvidenceStore) (session : PlaySession) : Prop :=
  ∀ own ∈ e.built, own.sessionId = session.sessionId → own = session

/-- The attestation that is stored for the session, if any, corroborates it. -/
def Corroborated (env : NodeEnv) (e : EvidenceStore) (session : PlaySession) : Prop :=
  ∀ attestation : WitnessAttestation, e.attestations[session.sessionId]? = some attestation →
    Corroborates env session attestation

/-- The session that is stored for the attestation, if any, is corroborated by it. -/
def Attests (env : NodeEnv) (e : EvidenceStore) (attestation : WitnessAttestation) : Prop :=
  ∀ session : PlaySession, e.playSessions[attestation.sessionId]? = some session →
    Corroborates env session attestation

/-- The node has built the session and written it. -/
def addBuilt (e : EvidenceStore) (session : PlaySession) : EvidenceStore :=
  { e.savePlaySession session with built := e.built ++ [session] }

theorem mem_loadPlaySessions_save (h : Indexed e) {session other : PlaySession} :
    other ∈ (e.savePlaySession session).loadPlaySessions ↔
      other = session ∨ (other.sessionId ≠ session.sessionId ∧ other ∈ e.loadPlaySessions) := by
  rw [mem_loadPlaySessions (indexed_savePlaySession h session), mem_loadPlaySessions h]
  exact get_insert_keyed PlaySession.sessionId

theorem mem_loadWitnessAttestations_save (h : Indexed e) {attestation other : WitnessAttestation} :
    other ∈ (e.saveWitnessAttestation attestation).loadWitnessAttestations ↔
      other = attestation ∨
        (other.sessionId ≠ attestation.sessionId ∧ other ∈ e.loadWitnessAttestations) := by
  rw [mem_loadWitnessAttestations (indexed_saveWitnessAttestation h attestation),
    mem_loadWitnessAttestations h]
  exact get_insert_keyed WitnessAttestation.sessionId

theorem builtStored_save_iff (hbuilt : BuiltStored e) (session : PlaySession) :
    KeepsBuilt e session ↔ BuiltStored (e.savePlaySession session) := by
  have hwritten : (e.savePlaySession session).playSessions[session.sessionId]? = some session :=
    get_insert_self _ _ _
  constructor
  · intro hkeeps own hmem
    by_cases hid : own.sessionId = session.sessionId
    · rw [hkeeps own hmem hid]
      exact hwritten
    · exact (get_insert_ne _ _ (Ne.symm hid)).trans (hbuilt own hmem)
  · intro hafter own hmem hid
    have hstored := hafter own hmem
    rw [hid, hwritten] at hstored
    exact (Option.some.inj hstored).symm

theorem builtStored_add_iff (hbuilt : BuiltStored e) (session : PlaySession) :
    KeepsBuilt e session ↔ BuiltStored (e.addBuilt session) := by
  rw [builtStored_save_iff hbuilt session]
  constructor
  · intro hsaved own hmem
    rcases List.mem_append.mp hmem with hearlier | hnew
    · exact hsaved own hearlier
    · rw [List.mem_singleton.mp hnew]
      exact get_insert_self _ _ _
  · intro hadded own hmem
    exact hadded own (List.mem_append_left _ hmem)

theorem allFollowOwn_save_iff (h : Indexed e) (hfollow : AllFollowOwn e) (session : PlaySession) :
    FollowsOwn e session ↔ AllFollowOwn (e.savePlaySession session) := by
  constructor
  · intro hnew other hmem
    rcases (mem_loadPlaySessions_save h).mp hmem with rfl | ⟨_, hold⟩
    · exact hnew
    · exact hfollow other hold
  · exact fun hafter => hafter session ((mem_loadPlaySessions_save h).mpr (.inl rfl))

theorem allFollowOwn_add (h : Indexed e) (hfollow : AllFollowOwn e) (session : PlaySession) :
    AllFollowOwn (e.addBuilt session) := by
  intro other hmem
  rcases (mem_loadPlaySessions_save h).mp hmem with rfl | ⟨_, hold⟩
  · exact ⟨other, List.mem_append_right _ (List.mem_singleton.mpr rfl), ⟨rfl, rfl, rfl⟩,
      Std.ReflOrd.isLE_rfl⟩
  · obtain ⟨own, hown, hrest⟩ := hfollow other hold
    exact ⟨own, List.mem_append_left _ hown, hrest⟩

theorem allCorroborate_save_iff (h : Indexed e) (hall : AllCorroborate env e)
    (session : PlaySession) :
    Corroborated env e session ↔ AllCorroborate env (e.savePlaySession session) := by
  constructor
  · intro hnew other hmem attestation hattestation hid
    rcases (mem_loadPlaySessions_save h).mp hmem with rfl | ⟨_, hold⟩
    · apply hnew
      rw [← hid]
      exact (mem_loadWitnessAttestations h).mp hattestation
    · exact hall other hold attestation hattestation hid
  · intro hafter attestation hstored
    have hid := h.attestations _ attestation hstored
    rw [← hid] at hstored
    exact hafter session ((mem_loadPlaySessions_save h).mpr (.inl rfl)) attestation
      ((mem_loadWitnessAttestations h).mpr hstored) hid

theorem allCorroborate_attest_iff (h : Indexed e) (hall : AllCorroborate env e)
    (attestation : WitnessAttestation) :
    Attests env e attestation ↔ AllCorroborate env (e.saveWitnessAttestation attestation) := by
  constructor
  · intro hnew session hmem other hother hid
    rcases (mem_loadWitnessAttestations_save h).mp hother with rfl | ⟨_, hold⟩
    · apply hnew
      rw [hid]
      exact (mem_loadPlaySessions h).mp hmem
    · exact hall session hmem other hold hid
  · intro hafter session hstored
    have hid := h.playSessions _ session hstored
    rw [← hid] at hstored
    exact hafter session ((mem_loadPlaySessions h).mpr hstored) attestation
      ((mem_loadWitnessAttestations_save h).mpr (.inl rfl)) hid.symm

/-- An attestation of the node itself counts for nothing. -/
theorem attests_own {identity : KeyPair} {attestation : WitnessAttestation}
    (hidentity : env.identityKeypair = some identity)
    (hwitness : attestation.witnessAddress = env.identityAccountAddress identity.publicKey) :
    Attests env e attestation := by
  intro session _ hforeign
  refine absurd ?_ hforeign
  rw [NodeEnv.localAddress, hidentity, hwitness]
  rfl

end EvidenceStore

/-! ## Runs -/

namespace NodeState

open EvidenceStore

variable {env : NodeEnv} {s : NodeState}

/-- A session that is written is not under the id of a built one with other content, and the
attestation stored for it corroborates it; a received one follows an own session. An attestation
that is received corroborates the session stored for it. -/
def KeepsRewards (env : NodeEnv) (s : NodeState) : NodeEvent → Prop
  | .envelope (.playSession announcement) _ _ =>
      KeepsBuilt s.evidence announcement.session ∧ FollowsOwn s.evidence announcement.session ∧
        Corroborated env s.evidence announcement.session
  | .envelope (.witnessAttestation announcement) _ _ =>
      Attests env s.evidence announcement.attestation
  | .recordPlay inputs slotsPerBlock =>
      s.evidence.reusedSession inputs slotsPerBlock = none →
        ∀ session, ownSession env inputs = some session →
          KeepsBuilt s.evidence session ∧ Corroborated env s.evidence session
  | .playSession inputs =>
      ∀ session, ownSession env inputs = some session →
        KeepsBuilt s.evidence session ∧ Corroborated env s.evidence session
  | _ => True

/-- Building a session keeps the rewards own exactly when it meets its condition. -/
theorem rewardsOwn_buildSession_iff {e : EvidenceStore} {inputs : PlaySessionInputs}
    (h : Indexed e) (howns : RewardsOwn env e) :
    (∀ session, ownSession env inputs = some session →
      KeepsBuilt e session ∧ Corroborated env e session) ↔
      RewardsOwn env (e.buildSession env inputs) := by
  unfold buildSession
  cases hown : ownSession env inputs with
  | none => exact iff_of_true (fun session hnone => by cases hnone) howns
  | some session =>
      obtain ⟨hbuilt, hfollow, hall⟩ := (rewardsOwn_iff h).mp howns
      have hsaved := indexed_savePlaySession h session
      have hindexed : Indexed (e.addBuilt session) :=
        ⟨hsaved.playSessions, hsaved.attestations, hsaved.saved⟩
      have hcorroborate : Corroborated env e session ↔ AllCorroborate env (e.addBuilt session) :=
        allCorroborate_save_iff h hall session
      change _ ↔ RewardsOwn env (e.addBuilt session)
      rw [rewardsOwn_iff hindexed, ← builtStored_add_iff hbuilt, ← hcorroborate,
        and_iff_right (allFollowOwn_add h hfollow session)]
      constructor
      · exact fun hcond => hcond session rfl
      · intro hcond other hother
        rw [← Option.some.inj hother]
        exact hcond

/-- Taking in a session keeps the rewards own exactly when it meets its condition, whether or not
the node attests it. -/
theorem rewardsOwn_ingestPlaySession_iff {e : EvidenceStore} {store : PayloadStore}
    {session : PlaySession} (h : Indexed e) (howns : RewardsOwn env e) :
    (KeepsBuilt e session ∧ FollowsOwn e session ∧ Corroborated env e session) ↔
      RewardsOwn env (e.ingestPlaySession env store session) := by
  obtain ⟨hbuilt, hfollow, hall⟩ := (rewardsOwn_iff h).mp howns
  have hsaved := indexed_savePlaySession h session
  have hwritten : (KeepsBuilt e session ∧ FollowsOwn e session ∧ Corroborated env e session) ↔
      BuiltStored (e.savePlaySession session) ∧ AllFollowOwn (e.savePlaySession session) ∧
        AllCorroborate env (e.savePlaySession session) := by
    rw [builtStored_save_iff hbuilt, allFollowOwn_save_iff h hfollow,
      allCorroborate_save_iff h hall]
  cases hauto : env.identityKeypair.bind
      ((e.savePlaySession session).autoWitness env store · session) with
  | none =>
      rw [ingestPlaySession_of_none hauto, rewardsOwn_iff hsaved]
      exact hwritten
  | some attestation =>
      rw [ingestPlaySession_of_some hauto]
      obtain ⟨identity, hidentity, hsigned⟩ := Option.bind_eq_some_iff.mp hauto
      have hfacts := autoWitnessed hsigned
      -- the session had no attestation, and the node's own one is not counted
      have hnew : Corroborated env e session := by
        intro stored hstored
        have hnone : e.attestations[session.sessionId]? = none := hfacts.unattested
        rw [hnone] at hstored
        cases hstored
      have hallSaved := (allCorroborate_save_iff h hall session).mp hnew
      have hallAfter := (allCorroborate_attest_iff hsaved hallSaved attestation).mp
        (attests_own hidentity hfacts.witnessAddress)
      have hattested := indexed_saveWitnessAttestation hsaved attestation
      have hindexed : Indexed
          { (e.savePlaySession session).saveWitnessAttestation attestation with
            witnessed := e.witnessed ++ [(session, attestation)] } :=
        ⟨hattested.playSessions, hattested.attestations, hattested.saved⟩
      rw [rewardsOwn_iff hindexed, hwritten]
      constructor
      · rintro ⟨hbuiltAfter, hfollowAfter, _⟩
        exact ⟨hbuiltAfter, hfollowAfter, hallAfter⟩
      · rintro ⟨hbuiltAfter, hfollowAfter, _⟩
        exact ⟨hbuiltAfter, hfollowAfter, hallSaved⟩

theorem rewardsOwn_saveWitnessAttestation_iff {e : EvidenceStore}
    {attestation : WitnessAttestation} (h : Indexed e) (howns : RewardsOwn env e) :
    Attests env e attestation ↔ RewardsOwn env (e.saveWitnessAttestation attestation) := by
  obtain ⟨hbuilt, hfollow, hall⟩ := (rewardsOwn_iff h).mp howns
  rw [rewardsOwn_iff (indexed_saveWitnessAttestation h attestation),
    allCorroborate_attest_iff h hall]
  constructor
  · exact fun hafter => ⟨hbuilt, hfollow, hafter⟩
  · exact fun hafter => hafter.2.2

/-- One event keeps the rewards own exactly when it meets the condition. -/
theorem keepsRewards_iff (event : NodeEvent) (h : Indexed s.evidence)
    (howns : RewardsOwn env s.evidence) :
    KeepsRewards env s event ↔ RewardsOwn env (s.next env event).evidence := by
  cases event with
  | envelope message response retentionEpochs =>
      cases message with
      | playSession announcement => exact rewardsOwn_ingestPlaySession_iff h howns
      | witnessAttestation announcement => exact rewardsOwn_saveWitnessAttestation_iff h howns
      | _ => exact iff_of_true trivial howns
  | playSession inputs => exact rewardsOwn_buildSession_iff h howns
  | recordPlay inputs slotsPerBlock =>
      change (s.evidence.reusedSession inputs slotsPerBlock = none → _) ↔
        RewardsOwn env (s.evidence.recordPlay env inputs slotsPerBlock)
      unfold recordPlay
      cases s.evidence.reusedSession inputs slotsPerBlock with
      | some session => exact iff_of_true (fun hnone => by cases hnone) howns
      | none =>
          rw [← rewardsOwn_buildSession_iff h howns]
          exact ⟨fun hcond => hcond rfl, fun hcond _ => hcond⟩
  | attestSession sessionId cid seconds players =>
      refine iff_of_true trivial ?_
      change RewardsOwn env (s.evidence.attestSession env sessionId cid seconds players)
      unfold attestSession
      cases hcommand : s.evidence.commandedAttestation env sessionId cid seconds players with
      | none => exact howns
      | some attestation =>
          obtain ⟨identity, hidentity, hrest⟩ := Option.bind_eq_some_iff.mp hcommand
          obtain ⟨session, _, hbuild⟩ := Option.bind_eq_some_iff.mp hrest
          have hfields := buildWitnessAttestation_fields (ok_of_toOption hbuild)
          exact (rewardsOwn_saveWitnessAttestation_iff h howns).mp
            (attests_own hidentity hfields.2.1)
  | _ => exact iff_of_true trivial howns

theorem rewardsOwn_fresh : RewardsOwn env (fresh env).evidence := by
  have hindexed : Indexed (fresh env).evidence := indexed_fresh
  rw [rewardsOwn_iff hindexed]
  have hnone : ∀ session, session ∉ (fresh env).evidence.loadPlaySessions := by
    intro session hmem
    have hstored := (mem_loadPlaySessions hindexed).mp hmem
    simp [fresh, EvidenceStore.fresh] at hstored
  refine ⟨?_, ?_, ?_⟩
  · intro session hmem
    cases hmem
  · exact fun session hmem => absurd hmem (hnone session)
  · exact fun session hmem => absurd hmem (hnone session)

/-- In every order of messages and of the node's own sessions: the rewards are the node's own in
every state if and only if each event meets its condition. -/
theorem rewards_own_iff (env : NodeEnv) (events : List NodeEvent) :
    Meets (next env) (KeepsRewards env) (fresh env) events ↔
      ∀ before after, events = before ++ after →
        RewardsOwn env (run (next env) (fresh env) before).evidence := by
  have hindexed : Indexed (fresh env).evidence := indexed_fresh
  exact meets_iff_prefixes (I := fun s : NodeState => Indexed s.evidence)
    (P := fun s : NodeState => RewardsOwn env s.evidence)
    (fun s event h => indexed_next event h) (fun s event h howns => keepsRewards_iff event h howns)
    hindexed rewardsOwn_fresh events

/-! ## Runs that break it -/

/-- The play of the sample node in the first slot. -/
def Sample.inputs : PlaySessionInputs := ⟨730, 1, 1, 3600, Sample.ownId, "cid://own", 100000⟩

def Sample.played : NodeEvent := .playSession Sample.inputs

/-- The session the sample node builds from it. -/
def Sample.ownSession : Option PlaySession := EvidenceStore.ownSession Sample.env Sample.inputs

def Sample.ownSessionId : Hash32 := (Sample.ownSession.map (·.sessionId)).getD 0

/-- A peer overwrites a session the node built, has its own session found by the reward tick, and
releases a session of the node with an attestation that nobody signed. -/
theorem rewards_not_own :
    (¬ ∀ (env : NodeEnv) (events : List NodeEvent),
        BuiltStored (run (next env) (fresh env) events).evidence) ∧
      (¬ ∀ (env : NodeEnv) (events : List NodeEvent),
        SlotsOwn (run (next env) (fresh env) events).evidence) ∧
      ¬ ∀ (env : NodeEnv) (events : List NodeEvent),
        VerifiedBySignature env (run (next env) (fresh env) events).evidence := by
  refine ⟨?_, ?_, ?_⟩
  · intro hall
    have hstored := hall Sample.env [Sample.played,
      Sample.announced (Sample.peerSession Sample.ownSessionId 1)]
    have hlost : ∃ session ∈ (run (next Sample.env) (fresh Sample.env) [Sample.played,
          Sample.announced (Sample.peerSession Sample.ownSessionId 1)]).evidence.built,
        (run (next Sample.env) (fresh Sample.env) [Sample.played,
          Sample.announced (Sample.peerSession Sample.ownSessionId 1)]).evidence.playSessions[
            session.sessionId]? ≠ some session := by
      decide +kernel
    obtain ⟨session, hmem, hne⟩ := hlost
    exact hne (hstored session hmem)
  · intro hall
    have hslots := hall Sample.env [Sample.announced (Sample.peerSession 7 1)]
    obtain ⟨session, hmem, _⟩ := hslots 1 1 730 (hex32 7) (by decide +kernel)
    cases hmem
  · intro hall
    have hverified := hall Sample.env [Sample.played,
      Sample.attested (Sample.attestation Sample.ownSessionId 9 [])]
    obtain ⟨session, _, _, attestation, hattestation, _, ⟨publicKey, hsignature, _⟩, _⟩ :=
      hverified (fun _ => false) 1 (hex32 Sample.ownSessionId) rfl (by decide +kernel)
    have hunsigned : ∀ attestation ∈ (run (next Sample.env) (fresh Sample.env) [Sample.played,
        Sample.attested (Sample.attestation Sample.ownSessionId 9
          [])]).evidence.loadWitnessAttestations, attestation.witnessSignature = [] := by
      decide +kernel
    have hverifies := of_decide_eq_true hsignature
    rw [hunsigned attestation hattestation] at hverifies
    exact absurd hverifies.2 (by decide)

end NodeState

end PoleProtocol.Node
