import PoleProtocol.Framework.Tally
import PoleProtocol.Chain.Settlements

/-!
# Witness credits

Credits are counted from the attestations in the store, the witness count of a settlement was
taken when the session settled. Settlement freezes a session's attestations, so the two agree in
every state the chain reaches.
-/

namespace PoleProtocol.Chain

open Framework OrderedMap KeeperState

variable {env : Env} {s s' : KeeperState} {input : Input} {id : String}

/-- The witness count of the session's settlement when that one is valid. -/
def validWitnessCount (s : KeeperState) (session : PlaySession) : ℕ :=
  match s.sessionSettlements[session.sessionIdHex]? with
  | some settlement => if settlement.valid then settlement.witnessCount else 0
  | none => 0

/-- Every settlement's witness count is the number of the attestations now stored for its
session. -/
def WitnessesFrozen (s : KeeperState) : Prop :=
  ∀ (id : String) (settlement : SessionSettlement), s.sessionSettlements[id]? = some settlement →
    settlement.witnessCount = (s.witnessAttestationsForSession id).length

/-! ## One step -/

/-- No witness is listed twice for a session. -/
theorem witnesses_nodup (hwf : WellFormed s) (id : String) :
    ((s.witnessAttestationsForSession id).map (·.witnessAddress)).Nodup := by
  have hkeys := List.pairwise_map.mp (nodup_keys s.witnessAttestations)
  unfold witnessAttestationsForSession prefixedValues
  rw [List.map_map, List.Nodup, List.pairwise_map]
  refine (hkeys.sublist List.filter_sublist).imp_of_mem ?_
  rintro ⟨key, attestation⟩ ⟨key', attestation'⟩ hentry hentry' hne heq
  obtain ⟨hstored, howner⟩ := List.mem_filter.mp hentry
  obtain ⟨hstored', howner'⟩ := List.mem_filter.mp hentry'
  have hkey := hwf.attestations key attestation (mem_toList.mp hstored)
  have hkey' := hwf.attestations key' attestation' (mem_toList.mp hstored')
  have hsession : attestation.sessionIdHex = id := (of_decide_eq_true howner).2
  have hsession' : attestation'.sessionIdHex = id := (of_decide_eq_true howner').2
  have hwitness : attestation.witnessAddress = attestation'.witnessAddress := heq
  refine hne (hkey.symm.trans (Eq.trans ?_ hkey'))
  exact Prod.ext (hsession.trans hsession'.symm) hwitness

theorem witnessCount_sessionVerdict (hwf : WellFormed s) (ctx : Ctx) (session : PlaySession) :
    (s.sessionVerdict ctx id session).witnessCount =
      (s.witnessAttestationsForSession id).length := by
  have hdistinct : ((s.witnessAttestationsForSession id).map (·.witnessAddress)).dedup.length =
      (s.witnessAttestationsForSession id).length := by
    rw [(witnesses_nodup hwf id).dedup, List.length_map]
  unfold sessionVerdict
  dsimp only
  split <;> exact hdistinct

/-- The attestations of a settled session stay as they are. -/
theorem attestations_of_step (hsettled : s.sessionSettlements[id]? ≠ none)
    (h : step env s input = .ok s') :
    s'.witnessAttestationsForSession id = s.witnessAttestationsForSession id := by
  cases write_of_step h with
  | attestation ctx msg attestation supplied unsettled =>
      have hother : attestation.sessionIdHex ≠ id := by
        rintro rfl
        exact hsettled unsettled
      exact prefixedValues_insert_ne _ _ _ hother
  | elsewhere input s' other same =>
      rw [witnessAttestationsForSession, same.witnessAttestations]
      rfl
  | node | batch | receipt | verification | weight | heartbeat => rfl

theorem witnessesFrozen_of_step (hwf : WellFormed s) (h : WitnessesFrozen s)
    (hok : step env s input = .ok s') : WitnessesFrozen s' := by
  intro id settlement hget
  rcases settlement_of_step hok with hsame | ⟨ctx, msg, session, rfl, hsession, rfl⟩
  · rw [hsame] at hget
    have hsettled : s.sessionSettlements[id]? ≠ none := by
      rw [hget]
      exact Option.some_ne_none settlement
    rw [attestations_of_step hsettled hok]
    exact h id settlement hget
  · rw [get_settled hwf hsession] at hget
    split at hget
    · next hid =>
        subst hid
        obtain rfl := Option.some.inj hget
        exact witnessCount_sessionVerdict hwf ctx session
    · exact h id settlement hget

theorem witnessesFrozen_run (env : Env) (bank : Bank) (genesisUnix : ℤ) (inputs : List Input) :
    WellFormed (run (next env) (defaultGenesis bank genesisUnix) inputs) ∧
      WitnessesFrozen (run (next env) (defaultGenesis bank genesisUnix) inputs) := by
  have hgenesis : WitnessesFrozen (defaultGenesis bank genesisUnix) := by
    intro id settlement hget
    simp [defaultGenesis] at hget
  refine run_preserves (P := fun s => WellFormed s ∧ WitnessesFrozen s) ?_ inputs
    ⟨wellFormed_defaultGenesis bank genesisUnix, hgenesis⟩
  rintro s input ⟨hwf, h⟩
  exact ⟨wellFormed_next hwf input,
    attempt_preserves (fun _ hok => witnessesFrozen_of_step hwf h hok) h⟩

/-! ## Credits -/

/-- The sessions of an epoch that settled as valid. -/
def corroborated (s : KeeperState) (epochId : ℕ) : List PlaySession :=
  (s.playSessionsForEpoch epochId).filter fun session =>
    (s.sessionSettlements[session.sessionIdHex]?.map (·.valid)).getD false

/-- The witnesses of those sessions, one occurrence for each attestation. -/
def corroborations (s : KeeperState) (epochId : ℕ) : List String :=
  (corroborated s epochId).flatMap fun session =>
    (s.witnessAttestationsForSession session.sessionIdHex).map (·.witnessAddress)

/-- A witness occurs at most once for each session of the epoch. -/
theorem count_corroborations_le (hwf : WellFormed s) (epochId : ℕ) (witness : String) :
    (corroborations s epochId).count witness ≤ (s.playSessionsForEpoch epochId).length := by
  have honce : ∀ n ∈ (corroborated s epochId).map fun session =>
      List.count witness
        ((s.witnessAttestationsForSession session.sessionIdHex).map (·.witnessAddress)),
      n ≤ 1 := by
    intro n hn
    obtain ⟨session, _, rfl⟩ := List.mem_map.mp hn
    exact List.nodup_iff_count_le_one.mp (witnesses_nodup hwf session.sessionIdHex) witness
  have hsum := List.sum_le_card_nsmul _ 1 honce
  rw [List.length_map, smul_eq_mul, Nat.mul_one] at hsum
  unfold corroborations
  rw [List.count_flatMap]
  exact hsum.trans (List.length_filter_le _ _)

/-- There are as many occurrences as the valid settlements count witnesses. -/
theorem length_corroborations (h : WitnessesFrozen s) (epochId : ℕ) :
    (corroborations s epochId).length =
      ((s.playSessionsForEpoch epochId).map (validWitnessCount s)).sum := by
  unfold corroborations corroborated
  rw [List.length_flatMap]
  induction s.playSessionsForEpoch epochId with
  | nil => rfl
  | cons session sessions ih =>
      rw [List.filter_cons, List.map_cons, List.sum_cons, ← ih, validWitnessCount]
      cases hget : s.sessionSettlements[session.sessionIdHex]? with
      | none => simp
      | some settlement =>
          have hcount := h _ settlement hget
          cases hvalid : settlement.valid <;> simp [hvalid, hcount]

/-- In every state the chain reaches, the credits of an epoch come to what the valid settlements of
its stored sessions count: as the 64-bit counters they are, and exactly when the sessions fit a
list. No witness has more credits than there are sessions. -/
theorem witness_credits_match (env : Env) (bank : Bank) (genesisUnix : ℤ) (inputs : List Input)
    (epochId : ℕ) :
    let s := run (next env) (defaultGenesis bank genesisUnix) inputs
    let sessions := s.playSessionsForEpoch epochId
    let credits := s.witnessCreditsForEpoch epochId
    (credits.toList.map (·.2)).sum ≡ (sessions.map (validWitnessCount s)).sum [MOD 2 ^ 64] ∧
    (sessions.length < 2 ^ 64 →
      (credits.toList.map (·.2)).sum = (sessions.map (validWitnessCount s)).sum) ∧
    ∀ (witness : String) (credit : ℕ), credits[witness]? = some credit →
      credit ≤ sessions.length := by
  intro s sessions credits
  obtain ⟨hwf, hfrozen⟩ := witnessesFrozen_run env bank genesisUnix inputs
  have hlength := length_corroborations hfrozen epochId
  refine ⟨?_, fun hfits => ?_, fun witness credit hcredit => ?_⟩
  · rw [← hlength]
    exact sum_tally_modEq _
  · rw [← hlength]
    exact sum_tally_of_lt fun witness =>
      lt_of_le_of_lt (count_corroborations_le hwf epochId witness) hfits
  · exact (tally_le_count hcredit).trans (count_corroborations_le hwf epochId witness)

/-- The credits of a settled session with one witness. -/
theorem witness_credits_match_single :
    (((run (next Sample.env) Sample.genesis
        (Sample.settledSession 0)).witnessCreditsForEpoch 7).toList.map (·.2)).sum =
      (((run (next Sample.env) Sample.genesis (Sample.settledSession 0)).playSessionsForEpoch 7).map
        (validWitnessCount (run (next Sample.env) Sample.genesis (Sample.settledSession 0)))).sum :=
  (witness_credits_match Sample.env Sample.bank 0 (Sample.settledSession 0) 7).2.1 (by decide +kernel)

end PoleProtocol.Chain
