import PoleProtocol.Chain.Settlements

/-!
# Covered play time

A settlement counts the heartbeats of its session. A heartbeat may name any bucket, so the count
says how much of the declared window is covered only if it counts no bucket outside the window, or
if every bucket of the window is there anyway.
-/

namespace PoleProtocol.Chain

open Framework OrderedMap KeeperState

/-! ## Windows -/

/-- Seconds per heartbeat bucket; a length of zero counts as one. -/
def Params.bucketSeconds (params : Params) : ℕ :=
  if params.heartbeatBucketSeconds = 0 then 1 else params.heartbeatBucketSeconds

theorem Params.bucketSeconds_pos (params : Params) : 0 < params.bucketSeconds := by
  unfold bucketSeconds
  split
  · exact Nat.one_pos
  · next hne => exact Nat.pos_of_ne_zero hne

/-- The number of buckets in a declared window. -/
def Params.windowBuckets (params : Params) (playSeconds : ℕ) : ℕ :=
  playSeconds ⌈/⌉ params.bucketSeconds

/-- The buckets of the window that a stored heartbeat of the session fills. -/
def KeeperState.filledBuckets (s : KeeperState) (sessionIdHex : String) (window : ℕ) : Finset ℕ :=
  (Finset.range window).filter fun bucket => s.playHeartbeats[(sessionIdHex, bucket)]? ≠ none

/-- Every stored heartbeat of the session lies in the window. -/
def KeeperState.HeartbeatsInside (s : KeeperState) (sessionIdHex : String) (window : ℕ) : Prop :=
  ∀ entry ∈ s.playHeartbeats.toList, entry.1.1 = sessionIdHex → entry.1.2 < window

/-- Every bucket of the window has a stored heartbeat of the session. -/
def KeeperState.WindowFilled (s : KeeperState) (sessionIdHex : String) (window : ℕ) : Prop :=
  ∀ bucket < window, s.playHeartbeats[(sessionIdHex, bucket)]? ≠ none

instance (s : KeeperState) (sessionIdHex : String) (window : ℕ) :
    Decidable (s.HeartbeatsInside sessionIdHex window) :=
  inferInstanceAs (Decidable (∀ entry ∈ s.playHeartbeats.toList, _))

instance (s : KeeperState) (sessionIdHex : String) (window : ℕ) :
    Decidable (s.WindowFilled sessionIdHex window) :=
  inferInstanceAs (Decidable (∀ bucket < window, _))

section Count

variable {s : KeeperState} {id : String} {window : ℕ}

theorem filledBuckets_card_of_filled (h : s.WindowFilled id window) :
    (s.filledBuckets id window).card = window := by
  have hall : s.filledBuckets id window = Finset.range window := by
    apply Finset.filter_true_of_mem
    intro bucket hbucket
    exact h bucket (Finset.mem_range.mp hbucket)
  rw [hall, Finset.card_range]

/-- Without heartbeats outside the window, the count of all of them counts filled buckets. -/
theorem heartbeats_length_le (h : s.HeartbeatsInside id window) :
    (s.playHeartbeatsForSession id).length ≤ (s.filledBuckets id window).card := by
  have hkeys : ((s.playHeartbeats.toList.filter fun entry =>
      entry.1.1 = id ∧ entry.2.sessionIdHex = id).map (·.1)).Nodup :=
    (nodup_keys s.playHeartbeats).sublist (List.filter_sublist.map _)
  have hbuckets : ((s.playHeartbeats.toList.filter fun entry =>
      entry.1.1 = id ∧ entry.2.sessionIdHex = id).map (·.1.2)).Nodup := by
    rw [List.Nodup, List.pairwise_map] at hkeys ⊢
    refine hkeys.imp_of_mem ?_
    intro x y hx hy hne heq
    have hxid := (of_decide_eq_true (List.mem_filter.mp hx).2).1
    have hyid := (of_decide_eq_true (List.mem_filter.mp hy).2).1
    exact hne (Prod.ext (hxid.trans hyid.symm) heq)
  have hlength : (s.playHeartbeatsForSession id).length =
      ((s.playHeartbeats.toList.filter fun entry =>
        entry.1.1 = id ∧ entry.2.sessionIdHex = id).map (·.1.2)).length := by
    rw [playHeartbeatsForSession, prefixedValues, List.length_map, List.length_map]
  rw [hlength, ← List.toFinset_card_of_nodup hbuckets]
  apply Finset.card_le_card
  intro bucket hbucket
  obtain ⟨⟨⟨_, _⟩, heartbeat⟩, hentry, rfl⟩ := List.mem_map.mp (List.mem_toFinset.mp hbucket)
  obtain ⟨hstored, howner⟩ := List.mem_filter.mp hentry
  obtain rfl := (of_decide_eq_true howner).1
  refine Finset.mem_filter.mpr ⟨Finset.mem_range.mpr (h _ hstored rfl), ?_⟩
  rw [mem_toList.mp hstored]
  exact Option.some_ne_none heartbeat

end Count

/-! ## Verdicts -/

/-- So many filled buckets of the declared window support the settlement. -/
structure Covered (params : Params) (declaredSeconds : ℕ) (settlement : SessionSettlement)
    (filled : ℕ) : Prop where
  share : params.minHeartbeatCoverageBps * params.windowBuckets declaredSeconds ≤ filled * 10000
  seconds : settlement.playSeconds ≤ params.bucketSeconds * filled

/-- A coverage that is reached is reached by buckets of the window. An addition that wraps leaves no
buckets to expect, and covers nothing. -/
theorem le_of_heartbeatCoverageBps {heartbeatCount playSeconds bucketSeconds bps : ℕ}
    (hword : playSeconds < 2 ^ 64) (hbucket : 0 < bucketSeconds)
    (h : bps ≤ heartbeatCoverageBps heartbeatCount playSeconds bucketSeconds) :
    bps * (playSeconds ⌈/⌉ bucketSeconds) ≤
      min heartbeatCount (playSeconds ⌈/⌉ bucketSeconds) * 10000 := by
  unfold heartbeatCoverageBps at h
  split at h
  · have hzero : bps = 0 := Nat.le_zero.mp h
    rw [hzero, Nat.zero_mul]
    exact Nat.zero_le _
  · by_cases hwraps : playSeconds + bucketSeconds - 1 < 2 ^ 64
    · rw [wrap64_of_lt hwraps, ← Nat.ceilDiv_eq_add_pred_div] at h
      dsimp only at h
      split at h
      · next hnone => rw [hnone, Nat.mul_zero]; exact Nat.zero_le _
      · have hscaled : bps ≤ min heartbeatCount (playSeconds ⌈/⌉ bucketSeconds) * 10000 /
            (playSeconds ⌈/⌉ bucketSeconds) :=
          h.trans ((min_le_left _ _).trans (Nat.div_le_div_right (wrap64_le _)))
        exact (Nat.mul_le_mul_right _ hscaled).trans (Nat.div_mul_le_self _ _)
    · have hnone : wrap64 (playSeconds + bucketSeconds - 1) / bucketSeconds = 0 := by
        apply Nat.div_eq_of_lt
        rw [wrap64]
        omega
      simp only [hnone, if_pos] at h
      rw [Nat.le_zero.mp h, Nat.zero_mul]
      exact Nat.zero_le _

/-- A settlement without a defect reaches the share its parameters ask for. -/
theorem coverage_of_no_defect {params : Params} {settlement : SessionSettlement}
    {distinctRewardAddrs declaredSeconds : ℕ}
    (h : settlementDefect params settlement distinctRewardAddrs declaredSeconds = none) :
    params.minHeartbeatCoverageBps ≤ settlement.heartbeatCoverageBps := by
  unfold settlementDefect at h
  split_ifs at h with _ _ _ _ hshort
  exact not_lt.mp hshort

/-- A verdict credits what its heartbeats allow, and is valid only if they reach the share of the
declared window that the parameters ask for. -/
theorem sessionVerdict_coverage (ctx : Ctx) (s : KeeperState) (id : String)
    (session : PlaySession) :
    (s.sessionVerdict ctx id session).playSeconds = min session.playSeconds
      (wrap64 ((s.playHeartbeatsForSession id).length * s.getParams.bucketSeconds)) ∧
    ((s.sessionVerdict ctx id session).valid = true → s.getParams.minHeartbeatCoverageBps ≤
      heartbeatCoverageBps (s.playHeartbeatsForSession id).length session.playSeconds
        s.getParams.bucketSeconds) := by
  unfold sessionVerdict
  dsimp only
  split
  · next hsound => exact ⟨rfl, fun _ => coverage_of_no_defect hsound⟩
  · refine ⟨rfl, fun hvalid => ?_⟩
    cases hvalid

section Settling

variable {env : Env} {s s' : KeeperState} {input : Input} {id : String}

/-- A settlement finds no heartbeat outside the declared window, or one in every bucket of it. -/
def HeartbeatsFitWindow (s : KeeperState) (input : Input) : Prop :=
  ∀ session ∈ settledSession s input,
    s.HeartbeatsInside session.sessionIdHex (s.getParams.windowBuckets session.playSeconds) ∨
      s.WindowFilled session.sessionIdHex (s.getParams.windowBuckets session.playSeconds)

instance (s : KeeperState) (input : Input) : Decidable (HeartbeatsFitWindow s input) :=
  inferInstanceAs (Decidable (∀ session ∈ settledSession s input, _))

/-- A valid verdict is covered by filled buckets of the window. -/
theorem covered_of_verdict (ctx : Ctx) {session : PlaySession} (hword : session.playSeconds < 2 ^ 64)
    (hfits : s.HeartbeatsInside id (s.getParams.windowBuckets session.playSeconds) ∨
      s.WindowFilled id (s.getParams.windowBuckets session.playSeconds))
    (hvalid : (s.sessionVerdict ctx id session).valid = true) :
    Covered s.getParams session.playSeconds (s.sessionVerdict ctx id session)
      (s.filledBuckets id (s.getParams.windowBuckets session.playSeconds)).card := by
  obtain ⟨hseconds, hcoverage⟩ := sessionVerdict_coverage ctx s id session
  have hpos := s.getParams.bucketSeconds_pos
  have hshare := le_of_heartbeatCoverageBps hword hpos (hcoverage hvalid)
  change s.getParams.minHeartbeatCoverageBps * s.getParams.windowBuckets session.playSeconds ≤
    min _ (s.getParams.windowBuckets session.playSeconds) * 10000 at hshare
  have hdeclared : session.playSeconds ≤
      s.getParams.bucketSeconds * s.getParams.windowBuckets session.playSeconds :=
    (ceilDiv_le_iff_le_mul hpos).mp le_rfl
  rcases hfits with hinside | hfilled
  · have hcount := heartbeats_length_le hinside
    refine ⟨hshare.trans (Nat.mul_le_mul_right _ ((min_le_left _ _).trans hcount)), ?_⟩
    calc (s.sessionVerdict ctx id session).playSeconds
        ≤ (s.playHeartbeatsForSession id).length * s.getParams.bucketSeconds := by
          rw [hseconds]
          exact (min_le_right _ _).trans (wrap64_le _)
      _ ≤ s.getParams.bucketSeconds *
          (s.filledBuckets id (s.getParams.windowBuckets session.playSeconds)).card := by
          rw [Nat.mul_comm]
          exact Nat.mul_le_mul_left _ hcount
  · rw [filledBuckets_card_of_filled hfilled]
    refine ⟨hshare.trans (Nat.mul_le_mul_right _ (min_le_right _ _)), ?_⟩
    rw [hseconds]
    exact (min_le_left _ _).trans hdeclared

/-! ## Runs -/

/-- The session and the parameters an accepted settlement of the session is computed from. -/
def settlementBasis (env : Env) (id : String) (s : KeeperState) (input : Input) :
    Option (PlaySession × Params) :=
  if Accepts (step env) s input ∧ input.settles id = true then
    (settledSession s input).map fun session => (session, s.getParams)
  else none

/-- In the state a run reaches, every valid settlement is covered by the window its session declared
when it was last settled, under the parameters of that moment. -/
def PlayTimeCovered (env : Env) (genesis : KeeperState) (inputs : List Input) : Prop :=
  ∀ (id : String) (settlement : SessionSettlement),
    (run (next env) genesis inputs).sessionSettlements[id]? = some settlement →
    settlement.valid = true →
    ∃ session params,
      lastRead (next env) (settlementBasis env id) genesis inputs = some (session, params) ∧
      Covered params session.playSeconds settlement
        ((run (next env) genesis inputs).filledBuckets id
          (params.windowBuckets session.playSeconds)).card

/-- The heartbeats of a settled session are frozen. -/
theorem filledBuckets_of_step (hsettled : s.sessionSettlements[id]? ≠ none)
    (h : step env s input = .ok s') (window : ℕ) :
    s'.filledBuckets id window = s.filledBuckets id window := by
  have hheartbeats : ∀ bucket : ℕ,
      s'.playHeartbeats[(id, bucket)]? = s.playHeartbeats[(id, bucket)]? := by
    intro bucket
    cases write_of_step h with
    | heartbeat ctx msg heartbeat supplied unsettled =>
        have hother : (heartbeat.sessionIdHex, heartbeat.bucketIndex) ≠ (id, bucket) := by
          intro heq
          rw [← (Prod.mk.inj heq).1] at hsettled
          exact hsettled unsettled
        exact get_insert_ne _ _ hother
    | elsewhere input s' other same => rw [same.playHeartbeats]
    | node | batch | receipt | verification | weight | attestation => rfl
  unfold filledBuckets
  simp only [hheartbeats]

/-- Only a settlement of the session writes its settlement. -/
theorem settlement_of_other (hwf : WellFormed s) (hother : input.settles id = false)
    (h : step env s input = .ok s') : s'.sessionSettlements[id]? = s.sessionSettlements[id]? := by
  rcases settlement_of_step h with hsame | ⟨ctx, msg, session, rfl, hsession, rfl⟩
  · rw [hsame]
  · rw [get_settled hwf hsession, if_neg (of_decide_eq_false hother)]

/-- The declared play times are words. -/
def WordPlayTimes (s : KeeperState) : Prop :=
  ∀ (id : String) (session : PlaySession), s.playSessions[id]? = some session →
    session.playSeconds < 2 ^ 64

/-- Declared play times are words when the submitted ones are. -/
theorem wordPlayTimes_run (env : Env) (bank : Bank) (genesisUnix : ℤ) (inputs : List Input)
    (hwords : ∀ input ∈ inputs, ∀ session ∈ input.playClaim, session.playSeconds < 2 ^ 64) :
    WordPlayTimes (run (next env) (defaultGenesis bank genesisUnix) inputs) := by
  induction inputs using List.reverseRecOn with
  | nil =>
      intro id session hget
      simp [defaultGenesis] at hget
  | append_singleton before input ih =>
      have hbefore := ih fun i hi => hwords i (List.mem_append_left _ hi)
      rw [run_append, run_cons, run_nil]
      refine attempt_preserves ?_ hbefore
      intro s' hok
      cases sessionWrite_of_step hok with
      | claimed ctx msg session supplied =>
          intro id stored hget
          rcases get_insert_cases hget with ⟨rfl, rfl⟩ | ⟨_, hstored⟩
          · exact hwords _ (List.mem_append_right _ List.mem_cons_self) session supplied
          · exact hbefore id stored hstored
      | elsewhere input s' same => rwa [WordPlayTimes, same.playSessions]
      | attested | settled | params => exact hbefore

end Settling

/-- Along a run whose accepted settlements find heartbeats that fit the declared window, the play
time of every valid settlement is covered. Play times are words. -/
theorem play_time_covered (env : Env) (bank : Bank) (genesisUnix : ℤ) (inputs : List Input)
    (hwords : ∀ input ∈ inputs, ∀ session ∈ input.playClaim, session.playSeconds < 2 ^ 64)
    (hmeets : Meets (next env) (IfAccepted (step env) HeartbeatsFitWindow)
      (defaultGenesis bank genesisUnix) inputs) :
    PlayTimeCovered env (defaultGenesis bank genesisUnix) inputs := by
  induction inputs using List.reverseRecOn with
  | nil =>
      intro id settlement hget
      simp [defaultGenesis] at hget
  | append_singleton before input ih =>
      have hbeforeWords : ∀ i ∈ before, ∀ session ∈ i.playClaim, session.playSeconds < 2 ^ 64 :=
        fun i hi => hwords i (List.mem_append_left _ hi)
      obtain ⟨hbefore, hinput, _⟩ := (meets_append _ _ _ _ _).mp hmeets
      have hcovered := ih hbeforeWords hbefore
      have hwf := wellFormed_run env (wellFormed_defaultGenesis bank genesisUnix) before
      have hstored := wordPlayTimes_run env bank genesisUnix before hbeforeWords
      unfold PlayTimeCovered at hcovered ⊢
      rw [run_append, run_cons, run_nil]
      simp only [lastRead_concat]
      generalize run (next env) (defaultGenesis bank genesisUnix) before = s at *
      intro id settlement hget hvalid
      cases hok : step env s input with
      | error e =>
          have hrefused : ¬ Accepts (step env) s input := by
            rw [Accepts, hok]
            exact Bool.false_ne_true
          have hnext : next env s input = s := attempt_of_error hok
          rw [hnext] at hget ⊢
          rw [settlementBasis, if_neg fun h => hrefused h.1, Option.none_or]
          exact hcovered id settlement hget hvalid
      | ok s' =>
          have haccepts : Accepts (step env) s input := accepts_iff.mpr ⟨s', hok⟩
          have hnext : next env s input = s' := attempt_of_ok hok
          rw [hnext] at hget ⊢
          by_cases hsettles : input.settles id = true
          · obtain ⟨ctx, session, hsession, hbasis, rfl⟩ := settled_of_step hsettles hok
            have hkey : session.sessionIdHex = id := hwf.sessions id session hsession
            rw [get_settled hwf hsession, if_pos rfl] at hget
            cases hget
            have hfits := hinput haccepts session hbasis
            rw [hkey] at hfits
            refine ⟨session, s.getParams, ?_, ?_⟩
            · rw [settlementBasis, if_pos ⟨haccepts, hsettles⟩, hbasis]
              rfl
            · exact covered_of_verdict ctx (hstored id session hsession) hfits hvalid
          · have hother : input.settles id = false := Bool.eq_false_of_not_eq_true hsettles
            rw [settlement_of_other hwf hother hok] at hget
            rw [settlementBasis, if_neg fun h => hsettles h.2, Option.none_or]
            obtain ⟨session, params, hbasis, hcover⟩ := hcovered id settlement hget hvalid
            refine ⟨session, params, hbasis, ?_⟩
            rwa [filledBuckets_of_step (by rw [hget]; exact Option.some_ne_none _) hok]

/-- One heartbeat in the first of the window's buckets. -/
theorem play_time_covered_first_bucket :
    PlayTimeCovered Sample.env Sample.genesis (Sample.settledSession 0) :=
  play_time_covered Sample.env Sample.bank 0 (Sample.settledSession 0) (by decide) (by decide +kernel)

/-- A minute of play is settled on a heartbeat in bucket one thousand. -/
theorem settleSession_counts_any_bucket :
    ¬ ∀ inputs, PlayTimeCovered Sample.env Sample.genesis inputs := by
  intro h
  have hvalid : (run (next Sample.env) Sample.genesis
      (Sample.settledSession 1000)).sessionSettlements["51"]?.map (fun settlement =>
        (settlement.valid, settlement.playSeconds)) = some (true, 60) := by decide +kernel
  obtain ⟨settlement, hget, hsettled⟩ := Option.map_eq_some_iff.mp hvalid
  obtain ⟨hsound, hseconds⟩ := Prod.mk.inj hsettled
  obtain ⟨session, params, hbasis, hcover⟩ := h (Sample.settledSession 1000) "51" settlement hget hsound
  have hfilled : ∀ basis ∈ lastRead (next Sample.env) (settlementBasis Sample.env "51")
      Sample.genesis (Sample.settledSession 1000),
      ((run (next Sample.env) Sample.genesis (Sample.settledSession 1000)).filledBuckets "51"
        (basis.2.windowBuckets basis.1.playSeconds)).card = 0 := by decide +kernel
  have hcount := hcover.seconds
  rw [hfilled (session, params) hbasis, hseconds] at hcount
  omega

end PoleProtocol.Chain
