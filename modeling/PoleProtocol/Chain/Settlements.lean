import PoleProtocol.Chain.Ownership

/-!
# Settled sessions

The heartbeats and attestations of a settled session are frozen. Its record, the nodes, the game
weights and the parameters are not, and a session may be settled again. A settlement keeps its
outcome as long as it is not computed anew from other evidence.
-/

namespace PoleProtocol.Chain

open Framework OrderedMap KeeperState

variable {env : Env} {s s' : KeeperState} {input : Input} {id : String}

/-- What a settlement decides. -/
structure Outcome where
  valid : Bool
  playSeconds : ℕ
  playerWeightUnits : ℕ
  gameWeightPpm : ℕ
  epochId : ℕ
  nodeAddress : String
  deriving DecidableEq

def SessionSettlement.outcome (settlement : SessionSettlement) : Outcome where
  valid := settlement.valid
  playSeconds := settlement.playSeconds
  playerWeightUnits := settlement.playerWeightUnits
  gameWeightPpm := settlement.gameWeightPpm
  epochId := settlement.epochId
  nodeAddress := settlement.nodeAddress

/-- The outcome stored for a session. -/
def KeeperState.outcomeOf (s : KeeperState) (id : String) : Option Outcome :=
  s.sessionSettlements[id]?.map (·.outcome)

/-! ## What a verdict is computed from -/

/-- The input is a claim for the session. -/
def Input.settles (id : String) : Input → Bool
  | .deliver _ (.settleSession msg) => msg.sessionIdHex = id
  | _ => false

/-- The record of the session an input settles. -/
def settledSession (s : KeeperState) : Input → Option PlaySession
  | .deliver _ (.settleSession msg) => s.playSessions[msg.sessionIdHex]?
  | _ => none

/-- The input writes something that a verdict on the session is computed from, and that settlement
does not freeze. -/
def Input.unsettles (id : String) : Input → Bool
  | .deliver _ (.submitPlaySession msg) => (msg.session.map (·.sessionIdHex)) = some id
  | .deliver _ (.upsertNode _) => true
  | .deliver _ (.upsertGameWeight _) => true
  | .deliver _ (.updateParams _) => true
  | _ => false

/-- Two states give the same verdict on a session. -/
structure SameBasis (id : String) (s s' : KeeperState) : Prop where
  session : s'.playSessions[id]? = s.playSessions[id]?
  params : s'.params = s.params
  nodes : s'.nodes = s.nodes
  weights : s'.gameWeightEntries = s.gameWeightEntries
  attestations : s'.witnessAttestationsForSession id = s.witnessAttestationsForSession id
  heartbeats : s'.playHeartbeatsForSession id = s.playHeartbeatsForSession id

theorem sessionVerdict_outcome (hsame : SameBasis id s s') (ctx ctx' : Ctx)
    (session : PlaySession) : (s'.sessionVerdict ctx' id session).outcome =
      (s.sessionVerdict ctx id session).outcome := by
  have hparams : s'.getParams = s.getParams := by rw [getParams, hsame.params]; rfl
  have hweights : ∀ appId epochId, s'.gameWeightPpmForApp appId epochId =
      s.gameWeightPpmForApp appId epochId := by
    intro appId epochId
    rw [gameWeightPpmForApp, hsame.weights]
    rfl
  have haddresses : s'.witnessRewardAddress = s.witnessRewardAddress := by
    funext address
    rw [witnessRewardAddress, hsame.nodes]
    rfl
  -- the height of the settlement does not enter its outcome
  have hheight : ∀ t : KeeperState, (t.sessionVerdict ctx' id session).outcome =
      (t.sessionVerdict ctx id session).outcome := by
    intro t
    unfold sessionVerdict
    dsimp only
    generalize (if t.getParams.heartbeatBucketSeconds = 0 then 1
      else t.getParams.heartbeatBucketSeconds) = bucketSeconds
    split
    · next hnone =>
        split
        · rfl
        · next reason hsome => cases hnone.symm.trans hsome
    · next reason hsome =>
        split
        · next hnone => cases hsome.symm.trans hnone
        · rfl
  rw [hheight]
  unfold sessionVerdict
  rw [hparams, hweights, haddresses, hsame.attestations, hsame.heartbeats]

/-- The session record and the parameters a quiet step leaves behind. -/
private theorem claimed_of_step (hquiet : input.unsettles id = false)
    (h : step env s input = .ok s') :
    s'.playSessions[id]? = s.playSessions[id]? ∧ s'.params = s.params := by
  cases sessionWrite_of_step h with
  | params => cases hquiet
  | claimed ctx msg session supplied =>
      have hother : session.sessionIdHex ≠ id := by
        rintro rfl
        simp [Input.unsettles, supplied] at hquiet
      exact ⟨get_insert_ne _ _ hother, rfl⟩
  | elsewhere input s' same => exact ⟨by rw [same.playSessions], same.params⟩
  | attested | settled => exact ⟨rfl, rfl⟩

/-- What settlement freezes stays, so a step that leaves the rest alone leaves the verdict alone. -/
theorem sameBasis_of_step (hsettled : s.sessionSettlements[id]? ≠ none)
    (hquiet : input.unsettles id = false) (h : step env s input = .ok s') : SameBasis id s s' := by
  obtain ⟨hsession, hparams⟩ := claimed_of_step hquiet h
  cases write_of_step h with
  | node | weight => cases hquiet
  | batch | receipt | verification => exact ⟨hsession, hparams, rfl, rfl, rfl, rfl⟩
  | heartbeat ctx msg heartbeat supplied unsettled =>
      have hother : heartbeat.sessionIdHex ≠ id := by
        rintro rfl
        exact hsettled unsettled
      exact ⟨hsession, hparams, rfl, rfl, rfl, prefixedValues_insert_ne _ _ _ hother⟩
  | attestation ctx msg attestation supplied unsettled =>
      have hother : attestation.sessionIdHex ≠ id := by
        rintro rfl
        exact hsettled unsettled
      exact ⟨hsession, hparams, rfl, rfl, prefixedValues_insert_ne _ _ _ hother, rfl⟩
  | elsewhere input s' other same =>
      refine ⟨hsession, hparams, same.nodes, same.gameWeightEntries, ?_, ?_⟩
      · rw [witnessAttestationsForSession, same.witnessAttestations]
        rfl
      · rw [playHeartbeatsForSession, same.playHeartbeats]
        rfl

/-! ## Runs -/

/-- Only a settlement writes a settlement. -/
theorem settlement_of_step (h : step env s input = .ok s') :
    s'.sessionSettlements = s.sessionSettlements ∨
      ∃ ctx msg session, input = .deliver ctx (.settleSession msg) ∧
        s.playSessions[msg.sessionIdHex]? = some session ∧
        s' = s.setSessionSettlement (s.sessionVerdict ctx msg.sessionIdHex session) := by
  cases sessionWrite_of_step h with
  | settled ctx msg session found => exact .inr ⟨ctx, msg, session, rfl, found, rfl⟩
  | elsewhere input s' same => exact .inl same.sessionSettlements
  | claimed | attested | params => exact .inl rfl

/-- A step that settles a session has found its record and stores the verdict on it. -/
theorem settled_of_step (hsettles : input.settles id = true) (h : step env s input = .ok s') :
    ∃ ctx session, s.playSessions[id]? = some session ∧ settledSession s input = some session ∧
      s' = s.setSessionSettlement (s.sessionVerdict ctx id session) := by
  rcases input with ⟨ctx, msg⟩ | ctx
  · cases msg with
    | settleSession msg =>
        obtain rfl : msg.sessionIdHex = id := of_decide_eq_true hsettles
        simp only [step, handle, settleSession, settlePlaySession, bind_eq_ok, ensure_eq_ok,
          exists_const, require_eq_ok, pure_eq_ok] at h
        obtain ⟨_, _, _, _, session, hsession, rfl⟩ := h
        exact ⟨ctx, session, hsession, hsession, rfl⟩
    | _ => cases hsettles
  · cases hsettles

/-- The stored settlement is what a settlement would come to now. -/
def Current (id : String) (s : KeeperState) : Prop :=
  ∃ session outcome, s.playSessions[id]? = some session ∧ s.outcomeOf id = some outcome ∧
    ∀ ctx, (s.sessionVerdict ctx id session).outcome = outcome

theorem Current.settled (h : Current id s) : s.sessionSettlements[id]? ≠ none := by
  obtain ⟨session, outcome, _, houtcome, _⟩ := h
  intro hnone
  rw [outcomeOf, hnone] at houtcome
  cases houtcome

theorem get_settled {ctx : Ctx} {session : PlaySession} {key : String} (hwf : WellFormed s)
    (hsession : s.playSessions[key]? = some session) :
    (s.setSessionSettlement (s.sessionVerdict ctx key session)).sessionSettlements[id]? =
      if key = id then some (s.sessionVerdict ctx key session) else s.sessionSettlements[id]? := by
  have hkey : (s.sessionVerdict ctx key session).sessionIdHex = key := by
    have hid : session.sessionIdHex = key := hwf.sessions key session hsession
    unfold sessionVerdict
    dsimp only
    split <;> exact hid
  unfold setSessionSettlement
  dsimp only
  rw [get_insert, hkey]

theorem outcomeOf_settled {ctx : Ctx} {session : PlaySession} {key : String}
    (hwf : WellFormed s) (hsession : s.playSessions[key]? = some session) :
    (s.setSessionSettlement (s.sessionVerdict ctx key session)).outcomeOf id =
      if key = id then some (s.sessionVerdict ctx key session).outcome else s.outcomeOf id := by
  unfold outcomeOf
  rw [get_settled hwf hsession]
  split <;> rfl

/-- A settlement makes the stored one current. -/
theorem current_of_settled {ctx : Ctx} {session : PlaySession} (hwf : WellFormed s)
    (hsession : s.playSessions[id]? = some session) :
    Current id (s.setSessionSettlement (s.sessionVerdict ctx id session)) := by
  have hsame : SameBasis id s (s.setSessionSettlement (s.sessionVerdict ctx id session)) :=
    ⟨rfl, rfl, rfl, rfl, rfl, rfl⟩
  refine ⟨session, _, hsession, (outcomeOf_settled hwf hsession).trans (if_pos rfl), fun ctx' => ?_⟩
  exact sessionVerdict_outcome hsame ctx ctx' session

/-- A step that leaves the evidence alone leaves the outcome alone, also when it settles anew. -/
theorem current_of_step (hwf : WellFormed s) (h : Current id s)
    (hquiet : input.unsettles id = false) (hok : step env s input = .ok s') :
    Current id s' ∧ s'.outcomeOf id = s.outcomeOf id := by
  have hsame := sameBasis_of_step h.settled hquiet hok
  obtain ⟨session, outcome, hsession, hstored, hverdict⟩ := h
  have hstays : s'.outcomeOf id = s.outcomeOf id := by
    rcases settlement_of_step hok with hsettlements | ⟨ctx, msg, other, rfl, hother, rfl⟩
    · rw [outcomeOf, hsettlements]
      rfl
    · rw [outcomeOf_settled hwf hother]
      split
      · next hkey =>
          subst hkey
          cases hsession.symm.trans hother
          rw [hverdict ctx, hstored]
      · rfl
  refine ⟨⟨session, outcome, hsame.session.trans hsession, hstays.trans hstored, fun ctx => ?_⟩,
    hstays⟩
  rw [sessionVerdict_outcome hsame ctx ctx, hverdict ctx]

/-- A run in which nothing settles the session keeps its outcome. -/
theorem outcomeOf_of_unsettled {later : List Input} (hwf : WellFormed s)
    (h : ∀ earlier again rest, later = earlier ++ again :: rest → again.settles id = true →
      ¬ Accepts (step env) (run (next env) s earlier) again) :
    (run (next env) s later).outcomeOf id = s.outcomeOf id := by
  induction later generalizing s with
  | nil => rfl
  | cons input later ih =>
      have hrest := ih (wellFormed_next hwf input) fun earlier again rest heq =>
        h (input :: earlier) again rest (by rw [heq]; rfl)
      rw [run_cons, hrest]
      refine attempt_preserves (P := fun t : KeeperState => t.outcomeOf id = s.outcomeOf id)
        (fun s' hok => ?_) rfl
      rcases settlement_of_step hok with hsettlements | ⟨ctx, msg, session, rfl, hsession, rfl⟩
      · rw [outcomeOf, hsettlements]
        rfl
      · rw [outcomeOf_settled hwf hsession, if_neg]
        intro hkey
        exact h [] _ later rfl (decide_eq_true hkey) (accepts_iff.mpr ⟨_, hok⟩)

/-- Whenever the session is settled again, no step accepted before that has written what verdicts
on it are computed from. -/
def ResettledUnchanged (env : Env) (id : String) (s : KeeperState) (later : List Input) : Prop :=
  ∀ earlier again rest, later = earlier ++ again :: rest → again.settles id = true →
    Accepts (step env) (run (next env) s earlier) again →
    Meets (next env) (IfAccepted (step env) fun _ input => input.unsettles id = false) s earlier

theorem outcomeOf_of_current {later : List Input} (hwf : WellFormed s) (h : Current id s)
    (hagain : ResettledUnchanged env id s later) :
    (run (next env) s later).outcomeOf id = s.outcomeOf id := by
  induction later generalizing s with
  | nil => rfl
  | cons input later ih =>
      rw [run_cons]
      have hwf' : WellFormed (next env s input) := wellFormed_next hwf input
      have hlater : ∀ {earlier again rest}, later = earlier ++ again :: rest →
          again.settles id = true →
          Accepts (step env) (run (next env) (next env s input) earlier) again →
          Meets (next env) (IfAccepted (step env) fun _ i => i.unsettles id = false) s
            (input :: earlier) := by
        intro earlier again rest heq
        exact hagain (input :: earlier) again rest (by rw [heq]; rfl)
      by_cases hwrites : Accepts (step env) s input ∧ input.unsettles id = true
      · -- from here on the session is not settled any more
        obtain ⟨haccepts, hunsettles⟩ := hwrites
        have hrest : (run (next env) (next env s input) later).outcomeOf id =
            (next env s input).outcomeOf id := by
          refine outcomeOf_of_unsettled hwf' fun earlier again rest heq hsettles hagain => ?_
          have hquiet : input.unsettles id = false := (hlater heq hsettles hagain).1 haccepts
          rw [hunsettles] at hquiet
          cases hquiet
        rw [hrest]
        obtain ⟨s', hok⟩ := accepts_iff.mp haccepts
        have hnext : next env s input = s' := attempt_of_ok hok
        rw [hnext]
        rcases settlement_of_step hok with hsettlements | ⟨ctx, msg, session, rfl, _, _⟩
        · rw [outcomeOf, hsettlements]
          rfl
        · cases hunsettles
      · have hkept : Current id (next env s input) ∧
            (next env s input).outcomeOf id = s.outcomeOf id := by
          refine attempt_preserves (P := fun t => Current id t ∧ t.outcomeOf id = s.outcomeOf id)
            (fun s' hok => ?_) ⟨h, rfl⟩
          have hquiet : input.unsettles id = false := by
            by_contra hunsettles
            exact hwrites ⟨accepts_iff.mpr ⟨s', hok⟩, Bool.eq_true_of_not_eq_false hunsettles⟩
          exact current_of_step hwf h hquiet hok
        rw [ih hwf' hkept.1 fun earlier again rest heq hsettles haccepts =>
          (hlater heq hsettles haccepts).2, hkept.2]

/-- A settlement keeps its outcome in every run in which the session is settled again only while
nothing was written that verdicts on it are computed from. -/
theorem settlements_final (env : Env) (bank : Bank) (genesisUnix : ℤ) (before later : List Input)
    (settle : Input) (id : String) (hsettles : settle.settles id = true)
    (haccepts : Accepts (step env) (run (next env) (defaultGenesis bank genesisUnix) before) settle)
    (hagain : ResettledUnchanged env id
      (run (next env) (defaultGenesis bank genesisUnix) (before ++ [settle])) later) :
    ∃ outcome,
      (run (next env) (defaultGenesis bank genesisUnix) (before ++ [settle])).outcomeOf id =
        some outcome ∧
      (run (next env) (defaultGenesis bank genesisUnix) (before ++ [settle] ++ later)).outcomeOf id =
        some outcome := by
  have hwf := wellFormed_run env (wellFormed_defaultGenesis bank genesisUnix) before
  have hwf' := wellFormed_run env (wellFormed_defaultGenesis bank genesisUnix) (before ++ [settle])
  have hcurrent : Current id
      (run (next env) (defaultGenesis bank genesisUnix) (before ++ [settle])) := by
    rw [run_append]
    obtain ⟨s', hok⟩ := accepts_iff.mp haccepts
    have hnext : next env (run (next env) (defaultGenesis bank genesisUnix) before) settle = s' :=
      attempt_of_ok hok
    rw [run_cons, run_nil, hnext]
    obtain ⟨ctx, session, hsession, _, rfl⟩ := settled_of_step hsettles hok
    exact current_of_settled hwf hsession
  obtain ⟨session, outcome, hsession, hstored, hverdict⟩ := hcurrent
  refine ⟨outcome, hstored, ?_⟩
  rw [run_append, outcomeOf_of_current hwf' ⟨session, outcome, hsession, hstored, hverdict⟩ hagain,
    hstored]

namespace Sample

def settle : Input := .deliver (ctx 6) (.settleSession { settler := bob, sessionIdHex := "51" })

/-- Governance asks for one witness, one observation and one heartbeat of a session. -/
def relaxEvidence : Input :=
  .deliver (ctx 1) (.updateParams
    { authority := governance
      params := some { defaultParams with
        minWitnessCount := 1, minDistinctObservations := 1, minHeartbeatCount := 1 } })

def heartbeat (sessionIdHex : String) (bucketIndex : ℕ) : Input :=
  .deliver (ctx 5) (.submitPlayHeartbeat
    { nodeAddress := alice
      heartbeat := some { sessionIdHex, nodeAddress := alice, bucketIndex } })

/-- The witnessed session with one heartbeat, settled as valid. -/
def settledSession (bucketIndex : ℕ) : List Input :=
  relaxEvidence :: witnessedSession ++ [heartbeat "51" bucketIndex, settle]

end Sample

/-- Settling twice in a row comes to the same outcome. -/
theorem settlements_final_twice :
    ∃ outcome,
      (run (next Sample.env) Sample.genesis (Sample.witnessedSession ++ [Sample.settle])).outcomeOf
        "51" = some outcome ∧
      (run (next Sample.env) Sample.genesis (Sample.witnessedSession ++ [Sample.settle] ++
        [Sample.settle])).outcomeOf "51" = some outcome := by
  refine settlements_final Sample.env Sample.bank 0 Sample.witnessedSession [Sample.settle]
    Sample.settle "51" (by decide) (by decide +kernel) fun earlier again rest heq _ _ => ?_
  have hfirst : earlier = [] := by
    cases earlier with
    | nil => rfl
    | cons input earlier => cases earlier <;> cases heq
  rw [hfirst]
  trivial

/-- The session is submitted again for another epoch and settled again. -/
theorem settleSession_overwrites :
    ¬ ∀ before later settle id, settle.settles id = true →
      Accepts (step Sample.env) (run (next Sample.env) Sample.genesis before) settle →
      (run (next Sample.env) Sample.genesis (before ++ [settle] ++ later)).outcomeOf id =
        (run (next Sample.env) Sample.genesis (before ++ [settle])).outcomeOf id := by
  intro h
  have hsame := h Sample.witnessedSession
    [Sample.claimPlay { Sample.playSession Sample.alice with epochId := 8 }, Sample.settle]
    Sample.settle "51" (by decide) (by decide +kernel)
  exact absurd hsame (by decide +kernel)

end PoleProtocol.Chain
