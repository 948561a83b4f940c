import PoleProtocol.Chain.Verdicts
import PoleProtocol.Framework.Listings

/-!
# More evidence

A verdict reads the evidence of a session as sets, so the order in which heartbeats and attestations
came does not matter. Further evidence raises every count of a verdict; it raises coverage and
weight as well, as long as their products stay in a word.
-/

namespace PoleProtocol.Chain

open Framework OrderedMap KeeperState

/-! ## What a verdict reads -/

/-- An attestation without the height it was stored at, which no verdict reads. -/
def WitnessAttestation.unstamped (attestation : WitnessAttestation) : WitnessAttestation :=
  { attestation with attestedAtHeight := 0 }

/-- Two states with the same evidence for every session, up to the heights of attestations. -/
structure SameEvidence (s s' : KeeperState) : Prop where
  params : s'.params = s.params
  nodes : s'.nodes = s.nodes
  weights : s'.gameWeightEntries = s.gameWeightEntries
  heartbeats : s'.playHeartbeats = s.playHeartbeats
  attestations : s'.witnessAttestations.map (fun _ => WitnessAttestation.unstamped) =
    s.witnessAttestations.map fun _ => WitnessAttestation.unstamped

section Read

variable {s s' : KeeperState}

private theorem unstamped_listed (s : KeeperState) (id : String) :
    (s.witnessAttestationsForSession id).map WitnessAttestation.unstamped =
      prefixedValues (·.sessionIdHex)
        (s.witnessAttestations.map fun _ => WitnessAttestation.unstamped) id := by
  unfold witnessAttestationsForSession prefixedValues
  rw [Std.ExtTreeMap.toList_map, List.filter_map, List.map_map, List.map_map]
  rfl

/-- What is read of the attestations without their heights is the same. -/
theorem SameEvidence.map_attestations (h : SameEvidence s s') (id : String) {α : Type}
    (f : WitnessAttestation → α) (hf : ∀ attestation, f attestation.unstamped = f attestation) :
    (s'.witnessAttestationsForSession id).map f = (s.witnessAttestationsForSession id).map f := by
  have hunstamp : ∀ t : KeeperState, (t.witnessAttestationsForSession id).map f =
      ((t.witnessAttestationsForSession id).map WitnessAttestation.unstamped).map f := by
    intro t
    rw [List.map_map]
    exact List.map_congr_left fun attestation _ => (hf attestation).symm
  rw [hunstamp s', hunstamp s, unstamped_listed, unstamped_listed, h.attestations]

/-- The same evidence gives the same verdict. -/
theorem SameEvidence.sessionVerdict_eq (h : SameEvidence s s') (ctx : Ctx) (id : String)
    (session : PlaySession) :
    s'.sessionVerdict ctx id session = s.sessionVerdict ctx id session := by
  have hparams : s'.getParams = s.getParams := by
    rw [getParams, h.params]
    rfl
  have hheartbeats : s'.playHeartbeatsForSession id = s.playHeartbeatsForSession id := by
    rw [playHeartbeatsForSession, h.heartbeats]
    rfl
  have hweight : s'.gameWeightPpmForApp session.appId session.epochId =
      s.gameWeightPpmForApp session.appId session.epochId := by
    rw [gameWeightPpmForApp, h.weights]
    rfl
  have haddress : s'.witnessRewardAddress = s.witnessRewardAddress := by
    funext address
    rw [witnessRewardAddress, h.nodes]
    rfl
  have hwitnesses := h.map_attestations id (·.witnessAddress) fun _ => rfl
  have hobservations := h.map_attestations id (·.witnessObservationCid) fun _ => rfl
  have haddresses := h.map_attestations id
    (fun attestation => s.witnessRewardAddress attestation.witnessAddress) fun _ => rfl
  have hdraft : s'.settlementDraft id ctx session = s.settlementDraft id ctx session := by
    unfold settlementDraft coveredSeconds citedObservations
    rw [hparams, hheartbeats, hweight, hwitnesses, hobservations]
  have hdefect : s'.verdictDefect id ctx session = s.verdictDefect id ctx session := by
    unfold verdictDefect citedRewardAddresses
    rw [hparams, hdraft, haddress, haddresses]
  rw [KeeperState.sessionVerdict_eq, KeeperState.sessionVerdict_eq, hdefect, hdraft]

end Read

/-! ## The order of the evidence -/

/-- A message that brings evidence. -/
inductive EvidenceMsg where
  | heartbeat (msg : MsgSubmitPlayHeartbeat)
  | attestation (msg : MsgAttestSession)
  deriving DecidableEq

def EvidenceMsg.suppliedHeartbeat : EvidenceMsg → Option PlayHeartbeat
  | .heartbeat msg => msg.heartbeat
  | .attestation _ => none

def EvidenceMsg.suppliedAttestation : EvidenceMsg → Option WitnessAttestation
  | .heartbeat _ => none
  | .attestation msg => msg.attestation

def heartbeatKey (heartbeat : PlayHeartbeat) : String × ℕ :=
  (heartbeat.sessionIdHex, heartbeat.bucketIndex)

def attestationKey (attestation : WitnessAttestation) : String × String :=
  (attestation.sessionIdHex, attestation.witnessAddress)

/-- No two messages are about the same heartbeat or the same attestation. -/
def DistinctKeys (msgs : List EvidenceMsg) : Prop :=
  ((msgs.filterMap (·.suppliedHeartbeat)).map heartbeatKey).Nodup ∧
    ((msgs.filterMap (·.suppliedAttestation)).map attestationKey).Nodup

namespace KeeperState

def submitEvidence (s : KeeperState) (delivery : Ctx × EvidenceMsg) :
    Except ChainError KeeperState :=
  match delivery.2 with
  | .heartbeat msg => s.submitPlayHeartbeat msg
  | .attestation msg => s.attestSession delivery.1 msg

/-- Handle one message after the other, each in its own block. -/
def submitAllEvidence (s : KeeperState) (deliveries : List (Ctx × EvidenceMsg)) :
    Except ChainError KeeperState :=
  deliveries.foldlM submitEvidence s

variable {s s' : KeeperState}

/-- What accepted evidence leaves: its records under their keys, and nothing else. -/
structure StoredEvidence (s s' : KeeperState) (msgs : List EvidenceMsg) : Prop where
  params : s'.params = s.params
  nodes : s'.nodes = s.nodes
  weights : s'.gameWeightEntries = s.gameWeightEntries
  heartbeats : s'.playHeartbeats =
    storeAll heartbeatKey s.playHeartbeats (msgs.filterMap (·.suppliedHeartbeat))
  attestations : s'.witnessAttestations.map (fun _ => WitnessAttestation.unstamped) =
    storeAll attestationKey (s.witnessAttestations.map fun _ => WitnessAttestation.unstamped)
      ((msgs.filterMap (·.suppliedAttestation)).map WitnessAttestation.unstamped)

private theorem unstamped_insert (m : OrderedMap (String × String) WitnessAttestation)
    (attestation : WitnessAttestation) (height : ℤ) :
    (m.insert (attestationKey attestation) { attestation with attestedAtHeight := height }).map
        (fun _ => WitnessAttestation.unstamped) =
      (m.map fun _ => WitnessAttestation.unstamped).insert (attestationKey attestation)
        attestation.unstamped := by
  apply Std.ExtTreeMap.ext_getElem?
  intro k
  rw [Std.ExtTreeMap.getElem?_map, get_insert, get_insert, Std.ExtTreeMap.getElem?_map]
  split <;> rfl

private theorem storedEvidence_submit {delivery : Ctx × EvidenceMsg} {msgs : List EvidenceMsg}
    {start : KeeperState} (hstored : StoredEvidence start s msgs)
    (h : s.submitEvidence delivery = .ok s') :
    StoredEvidence start s' (msgs ++ [delivery.2]) := by
  obtain ⟨ctx, msg⟩ := delivery
  cases msg with
  | heartbeat msg =>
      simp only [submitEvidence, submitPlayHeartbeat, bind_eq_ok, ensure_eq_ok, exists_const,
        require_eq_ok, pure_eq_ok] at h
      obtain ⟨heartbeat, hsupplied, _, _, _, _, _, _, _, rfl⟩ := h
      have hheartbeats : (msgs ++ [EvidenceMsg.heartbeat msg]).filterMap (·.suppliedHeartbeat) =
          msgs.filterMap (·.suppliedHeartbeat) ++ [heartbeat] := by
        simp [EvidenceMsg.suppliedHeartbeat, hsupplied]
      have hattestations : (msgs ++ [EvidenceMsg.heartbeat msg]).filterMap
          (·.suppliedAttestation) = msgs.filterMap (·.suppliedAttestation) := by
        simp [EvidenceMsg.suppliedAttestation]
      refine ⟨hstored.params, hstored.nodes, hstored.weights, ?_, ?_⟩
      · change s.playHeartbeats.insert _ heartbeat = _
        rw [hheartbeats, storeAll_concat, hstored.heartbeats]
        rfl
      · rw [hattestations]
        exact hstored.attestations
  | attestation msg =>
      simp only [submitEvidence, attestSession, bind_eq_ok, ensure_eq_ok, exists_const,
        require_eq_ok] at h
      obtain ⟨attestation, hsupplied, _, _, _, _, _, _, h⟩ := h
      have hheartbeats : (msgs ++ [EvidenceMsg.attestation msg]).filterMap (·.suppliedHeartbeat) =
          msgs.filterMap (·.suppliedHeartbeat) := by
        simp [EvidenceMsg.suppliedHeartbeat]
      have hattestations : (msgs ++ [EvidenceMsg.attestation msg]).filterMap
          (·.suppliedAttestation) = msgs.filterMap (·.suppliedAttestation) ++ [attestation] := by
        simp [EvidenceMsg.suppliedAttestation, hsupplied]
      split at h
      · cases h
      · cases h
        refine ⟨hstored.params, hstored.nodes, hstored.weights, ?_, ?_⟩
        · rw [hheartbeats]
          exact hstored.heartbeats
        · rw [hattestations, List.map_append, List.map_singleton, storeAll_concat,
            ← hstored.attestations]
          exact unstamped_insert s.witnessAttestations attestation ctx.height

theorem storedEvidence_of_ok {deliveries : List (Ctx × EvidenceMsg)}
    (h : s.submitAllEvidence deliveries = .ok s') :
    StoredEvidence s s' (deliveries.map (·.2)) := by
  induction deliveries using List.reverseRecOn generalizing s' with
  | nil =>
      cases h
      exact ⟨rfl, rfl, rfl, rfl, rfl⟩
  | append_singleton deliveries delivery ih =>
      simp only [submitAllEvidence, List.foldlM_append, List.foldlM_cons, List.foldlM_nil,
        bind_eq_ok, pure_eq_ok] at h
      obtain ⟨before, hbefore, _, hlast, rfl⟩ := h
      rw [List.map_append, List.map_singleton]
      exact storedEvidence_submit (ih hbefore) hlast

/-- Two orders of the same messages leave the same evidence. -/
theorem sameEvidence_of_perm {s₁ s₂ : KeeperState}
    {deliveries deliveries' : List (Ctx × EvidenceMsg)}
    (hperm : (deliveries'.map (·.2)).Perm (deliveries.map (·.2)))
    (hkeys : DistinctKeys (deliveries.map (·.2))) (h₁ : s.submitAllEvidence deliveries = .ok s₁)
    (h₂ : s.submitAllEvidence deliveries' = .ok s₂) : SameEvidence s₁ s₂ := by
  have hfirst := storedEvidence_of_ok h₁
  have hsecond := storedEvidence_of_ok h₂
  refine ⟨?_, ?_, ?_, ?_, ?_⟩
  · rw [hsecond.params, hfirst.params]
  · rw [hsecond.nodes, hfirst.nodes]
  · rw [hsecond.weights, hfirst.weights]
  · rw [hsecond.heartbeats, hfirst.heartbeats]
    exact (storeAll_perm _ (hperm.symm.filterMap _) hkeys.1).symm
  · rw [hsecond.attestations, hfirst.attestations]
    refine (storeAll_perm _ ((hperm.symm.filterMap _).map _) ?_).symm
    rw [List.map_map]
    exact hkeys.2

/-! ## Further evidence -/

/-- The second state has what the first one has for the session, and maybe more. -/
structure MoreEvidence (id : String) (s s' : KeeperState) : Prop where
  params : s'.params = s.params
  nodes : s'.nodes = s.nodes
  weights : s'.gameWeightEntries = s.gameWeightEntries
  heartbeats : ∀ (key : String × ℕ) (heartbeat : PlayHeartbeat), key.1 = id →
    s.playHeartbeats[key]? = some heartbeat → s'.playHeartbeats[key]? = some heartbeat
  attestations : ∀ (key : String × String) (attestation : WitnessAttestation), key.1 = id →
    s.witnessAttestations[key]? = some attestation →
    s'.witnessAttestations[key]? = some attestation

end KeeperState

/-- A settlement is not worse than another one. -/
structure SessionSettlement.NoWorse (settlement settlement' : SessionSettlement) : Prop where
  valid : settlement.valid = true → settlement'.valid = true
  playSeconds : settlement.playSeconds ≤ settlement'.playSeconds
  heartbeatCoverageBps : settlement.heartbeatCoverageBps ≤ settlement'.heartbeatCoverageBps
  playerWeightUnits : settlement.playerWeightUnits ≤ settlement'.playerWeightUnits

section Growth

variable {α β V : Type} [Ord α] [Ord β] [Std.TransOrd α] [Std.TransOrd β]
  [Std.LawfulEqOrd α] [Std.LawfulEqOrd β] [DecidableEq α]

private theorem filtered_subset {owner : V → α} {m m' : OrderedMap (α × β) V} {key : α}
    (h : ∀ (k : α × β) (v : V), k.1 = key → m[k]? = some v → m'[k]? = some v) :
    m.toList.filter (fun entry => entry.1.1 = key ∧ owner entry.2 = key) ⊆
      m'.toList.filter fun entry => entry.1.1 = key ∧ owner entry.2 = key := by
  rintro ⟨k, v⟩ hmem
  obtain ⟨hlisted, hselected⟩ := List.mem_filter.mp hmem
  have hkey : k.1 = key := (of_decide_eq_true hselected).1
  exact List.mem_filter.mpr ⟨mem_toList.mpr (h k v hkey (mem_toList.mp hlisted)), hselected⟩

theorem prefixedValues_subset (owner : V → α) {m m' : OrderedMap (α × β) V} {key : α}
    (h : ∀ (k : α × β) (v : V), k.1 = key → m[k]? = some v → m'[k]? = some v) :
    prefixedValues owner m key ⊆ prefixedValues owner m' key :=
  List.map_subset _ (filtered_subset h)

theorem length_prefixedValues_le (owner : V → α) {m m' : OrderedMap (α × β) V} {key : α}
    (h : ∀ (k : α × β) (v : V), k.1 = key → m[k]? = some v → m'[k]? = some v) :
    (prefixedValues owner m key).length ≤ (prefixedValues owner m' key).length := by
  unfold prefixedValues
  rw [List.length_map, List.length_map]
  exact (List.subperm_of_subset ((nodup_toList m).filter _) (filtered_subset h)).length_le

end Growth

theorem length_dedup_le {α : Type} [DecidableEq α] {xs ys : List α} (h : xs ⊆ ys) :
    xs.dedup.length ≤ ys.dedup.length := by
  have hsub : xs.dedup ⊆ ys.dedup := fun x hx => List.mem_dedup.mpr (h (List.mem_dedup.mp hx))
  exact (List.subperm_of_subset (List.nodup_dedup xs) hsub).length_le

/-- Coverage grows with the heartbeats while the larger product stays in a word. -/
theorem heartbeatCoverageBps_mono {count count' playSeconds bucketSeconds : ℕ}
    (hle : count ≤ count')
    (hfits : min count' (wrap64 (playSeconds + bucketSeconds - 1) / bucketSeconds) * 10000 <
      2 ^ 64) :
    heartbeatCoverageBps count playSeconds bucketSeconds ≤
      heartbeatCoverageBps count' playSeconds bucketSeconds := by
  unfold heartbeatCoverageBps
  split
  · exact le_rfl
  · dsimp only
    split
    · exact le_rfl
    · have hcovered : min count (wrap64 (playSeconds + bucketSeconds - 1) / bucketSeconds) * 10000 ≤
          min count' (wrap64 (playSeconds + bucketSeconds - 1) / bucketSeconds) * 10000 :=
        Nat.mul_le_mul_right _ (min_le_min_right _ hle)
      rw [wrap64_of_lt hfits, wrap64_of_lt (lt_of_le_of_lt hcovered hfits)]
      exact min_le_min_right _ (Nat.div_le_div_right hcovered)

namespace KeeperState

/-- The two products that a verdict on the session multiplies out are words. -/
structure ProductsFit (s : KeeperState) (id : String) (session : PlaySession) : Prop where
  covered : min (s.playHeartbeatsForSession id).length
    (wrap64 (session.playSeconds + s.getParams.bucketSeconds - 1) / s.getParams.bucketSeconds) *
      10000 < 2 ^ 64
  weight : s.coveredSeconds id session *
    s.gameWeightPpmForApp session.appId session.epochId < 2 ^ 64

section More

variable {s s' : KeeperState} {id : String} {session : PlaySession}

theorem MoreEvidence.heartbeats_le (h : MoreEvidence id s s') :
    (s.playHeartbeatsForSession id).length ≤ (s'.playHeartbeatsForSession id).length :=
  length_prefixedValues_le _ h.heartbeats

theorem MoreEvidence.attestations_subset (h : MoreEvidence id s s') :
    s.witnessAttestationsForSession id ⊆ s'.witnessAttestationsForSession id :=
  prefixedValues_subset _ h.attestations

theorem MoreEvidence.getParams_eq (h : MoreEvidence id s s') : s'.getParams = s.getParams := by
  rw [getParams, h.params]
  rfl

theorem MoreEvidence.gameWeight_eq (h : MoreEvidence id s s') (appId epochId : ℕ) :
    s'.gameWeightPpmForApp appId epochId = s.gameWeightPpmForApp appId epochId := by
  rw [gameWeightPpmForApp, h.weights]
  rfl

theorem MoreEvidence.coveredSeconds_le (h : MoreEvidence id s s')
    (hwindow : (s'.playHeartbeatsForSession id).length * s'.getParams.bucketSeconds < 2 ^ 64) :
    s.coveredSeconds id session ≤ s'.coveredSeconds id session := by
  have hproduct := Nat.mul_le_mul_right s'.getParams.bucketSeconds h.heartbeats_le
  unfold coveredSeconds
  rw [← h.getParams_eq, wrap64_of_lt hwindow, wrap64_of_lt (lt_of_le_of_lt hproduct hwindow)]
  exact min_le_min_left _ hproduct

/-- Further evidence removes no defect's absence. -/
theorem MoreEvidence.valid (h : MoreEvidence id s s') {ctx ctx' : Ctx}
    (hcoverage : (s.settlementDraft id ctx session).heartbeatCoverageBps ≤
      (s'.settlementDraft id ctx' session).heartbeatCoverageBps)
    (hvalid : (s.sessionVerdict ctx id session).valid = true) :
    (s'.sessionVerdict ctx' id session).valid = true := by
  have haddress : s'.witnessRewardAddress = s.witnessRewardAddress := by
    funext address
    rw [witnessRewardAddress, h.nodes]
    rfl
  have hwitnesses := length_dedup_le (List.map_subset (·.witnessAddress) h.attestations_subset)
  have hcited : s.citedObservations id ⊆ s'.citedObservations id := by
    intro cid hmem
    obtain ⟨hlisted, hnamed⟩ := List.mem_filter.mp hmem
    exact List.mem_filter.mpr ⟨List.map_subset _ h.attestations_subset hlisted, hnamed⟩
  have haddresses : s.citedRewardAddresses id ⊆ s'.citedRewardAddresses id := by
    unfold citedRewardAddresses
    rw [haddress]
    exact List.map_subset _ h.attestations_subset
  rw [sessionVerdict_valid_iff, verdictDefect, settlementDefect_eq_none_iff] at hvalid ⊢
  rw [h.getParams_eq]
  obtain ⟨henough, hpaid, hobserved, hbeats, hcovered, hdeclared⟩ := hvalid
  exact ⟨henough.trans hwitnesses, hpaid.trans (length_dedup_le haddresses),
    hobserved.trans (length_dedup_le hcited), hbeats.trans h.heartbeats_le,
    hcovered.trans hcoverage, hdeclared⟩

/-- Further evidence makes no verdict worse while the products of the larger one stay in a word. -/
theorem MoreEvidence.noWorse (h : MoreEvidence id s s')
    (hwindow : (s'.playHeartbeatsForSession id).length * s'.getParams.bucketSeconds < 2 ^ 64)
    (hfits : s'.ProductsFit id session) (ctx ctx' : Ctx) :
    (s.sessionVerdict ctx id session).NoWorse (s'.sessionVerdict ctx' id session) := by
  have hcoverage : (s.settlementDraft id ctx session).heartbeatCoverageBps ≤
      (s'.settlementDraft id ctx' session).heartbeatCoverageBps := by
    change heartbeatCoverageBps _ _ s.getParams.bucketSeconds ≤ _
    rw [← h.getParams_eq]
    exact heartbeatCoverageBps_mono h.heartbeats_le hfits.covered
  have hseconds : s.coveredSeconds id session ≤ s'.coveredSeconds id session :=
    h.coveredSeconds_le hwindow
  have hvalid : (s.sessionVerdict ctx id session).valid = true →
      (s'.sessionVerdict ctx' id session).valid = true := fun hsound => h.valid hcoverage hsound
  refine ⟨hvalid, ?_, ?_, ?_⟩
  · rw [sessionVerdict_playSeconds, sessionVerdict_playSeconds]
    exact hseconds
  · rw [sessionVerdict_heartbeatCoverageBps, sessionVerdict_heartbeatCoverageBps]
    exact hcoverage
  · rw [sessionVerdict_playerWeightUnits, sessionVerdict_playerWeightUnits]
    split
    · next hsound =>
        have hproduct := Nat.mul_le_mul_right
          (s.gameWeightPpmForApp session.appId session.epochId) hseconds
        have hlarger := hfits.weight
        rw [h.gameWeight_eq] at hlarger
        rw [if_pos (hvalid hsound), computePlayerHourWeight_eq, computePlayerHourWeight_eq,
          h.gameWeight_eq, wrap64_of_lt hlarger, wrap64_of_lt (lt_of_le_of_lt hproduct hlarger)]
        exact hproduct
    · exact Nat.zero_le _

end More

end KeeperState

namespace Sample

/-- Governance asks for no witness, and for buckets of `2 ^ 32` seconds. -/
def longBuckets : Input :=
  .deliver (ctx 1) (.updateParams
    { authority := governance
      params := some { defaultParams with
        rewardBlockDurationSeconds := 2 ^ 33, heartbeatBucketSeconds := 2 ^ 32,
        minWitnessCount := 0, minDistinctObservations := 0, minHeartbeatCount := 1 } })

def weighPlay (gameWeightPpm : ℕ) : Input :=
  .deliver (ctx 1) (.upsertGameWeight
    { authority := governance, entry := some { appId := 730, gameWeightPpm } })

/-- A session of two buckets. -/
def longPlay : PlaySession where
  sessionIdHex := "01"
  nodeAddress := alice
  appId := 730
  epochId := 7
  playSeconds := 2 ^ 33

def beat (bucketIndex : ℕ) : PlayHeartbeat where
  sessionIdHex := "01"
  nodeAddress := alice
  bucketIndex := bucketIndex

/-- The session with its first heartbeat, under a game weight. -/
def started (gameWeightPpm : ℕ) : KeeperState :=
  run (next env) genesis [register alice, longBuckets, weighPlay gameWeightPpm,
    .deliver (ctx 2) (.submitPlaySession ⟨alice, some longPlay⟩),
    .deliver (ctx 2) (.submitPlayHeartbeat ⟨alice, some (beat 0)⟩)]

/-- The session with its second heartbeat as well. -/
def continued (gameWeightPpm : ℕ) : KeeperState :=
  next env (started gameWeightPpm) (.deliver (ctx 3) (.submitPlayHeartbeat ⟨alice, some (beat 1)⟩))

/-- The second heartbeat is new to the session. -/
theorem moreEvidence_continued {gameWeightPpm : ℕ}
    (hstored : continued gameWeightPpm = (started gameWeightPpm).setPlayHeartbeat (beat 1))
    (hfresh : (started gameWeightPpm).playHeartbeats[(("01", 1) : String × ℕ)]? = none) :
    MoreEvidence "01" (started gameWeightPpm) (continued gameWeightPpm) := by
  rw [hstored]
  refine ⟨rfl, rfl, rfl, ?_, fun _ _ _ hget => hget⟩
  intro key heartbeat _ hget
  refine (get_insert_ne _ _ ?_).trans hget
  rintro rfl
  change (started gameWeightPpm).playHeartbeats[(("01", 1) : String × ℕ)]? = _ at hget
  rw [hfresh] at hget
  cases hget

/-- The second and the third heartbeat. -/
def laterBeats : List (Ctx × EvidenceMsg) :=
  [(ctx 3, .heartbeat ⟨alice, some (beat 1)⟩), (ctx 3, .heartbeat ⟨alice, some (beat 2)⟩)]

end Sample

end PoleProtocol.Chain
