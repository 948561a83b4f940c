import PoleProtocol.Chain.Solvency

/-!
# Claimed rewards

A claim is checked against the stored record, paid out and marked. The commit and the record of a
claimed reward can be rewritten later; the marker cannot, and it alone keeps a reward from being
paid twice.
-/

namespace PoleProtocol.Chain

open Framework OrderedMap KeeperState

variable {env : Env} {ctx : Ctx} {s s' : KeeperState} {input : Input} {msg : MsgClaimReward}
  {claim : ClaimedReward}

def ClaimedReward.key (claim : ClaimedReward) : ℕ × String := (claim.epochId, claim.recipient)

/-- The checks of a claim, up to its payout. -/
def KeeperState.checkClaim (ctx : Ctx) (s : KeeperState) (msg : MsgClaimReward) :
    Except ChainError ClaimedReward := do
  ensure (msg.claimer ≠ "" ∧ msg.recipient ≠ "")
    (.wrapped .invalidAddress "claimer and recipient are required")
  ensure (msg.claimer = msg.recipient)
    (.wrapped .unauthorized "claimer must match recipient")
  ensure (s.claimedRewards[(msg.epochId, msg.recipient)]? = none)
    (.wrapped .invalidRequest "reward already claimed")
  let commit ← s.getEpochCommit msg.epochId
  ensure (commit.finalized = true) (.wrapped .invalidRequest "epoch is not finalized")
  let record ← s.getRewardRecord msg.epochId msg.recipient
  ensure (record.netReward ≠ 0) (.wrapped .invalidRequest "reward amount is zero")
  return { epochId := msg.epochId
           recipient := msg.recipient
           claimedAtHeight := ctx.height
           amount := record.netReward }

/-- A claim is its checks, its payout and its marker. -/
theorem claimReward_eq (env : Env) (ctx : Ctx) (s : KeeperState) (msg : MsgClaimReward) :
    s.claimReward env ctx msg = (do
      let claim ← s.checkClaim ctx msg
      let s ← s.payoutClaimedReward env claim
      return s.setClaimedReward claim) := by
  simp only [claimReward, checkClaim, bind_assoc, pure_bind]

/-- The claim that a step pays out. -/
def payout (env : Env) (s : KeeperState) : Input → Option ClaimedReward
  | .deliver ctx (.claimReward msg) =>
      match s.checkClaim ctx msg with
      | .error _ => none
      | .ok claim =>
          match s.payoutClaimedReward env claim with
          | .error _ => none
          | .ok _ => some claim
  | _ => none

/-- The claims that a run pays out, in order. -/
def payouts (env : Env) : KeeperState → List Input → List ClaimedReward
  | _, [] => []
  | s, input :: inputs => (payout env s input).toList ++ payouts env (next env s input) inputs

/-- A reward that nobody has claimed is sent to its recipient and marked. -/
structure PaidOut (env : Env) (s s' : KeeperState) (claim : ClaimedReward) : Prop where
  unclaimed : s.claimedRewards[claim.key]? = none
  owed : ∃ record : RewardRecord, s.rewardRecords[claim.key]? = some record ∧
    claim.amount = record.netReward
  sent : ∃ address, env.accAddressFromBech32 claim.recipient = .ok address ∧
    s'.bank.accounts = Function.update s.bank.accounts address (s.bank.accounts address +
      sub64 claim.amount (claimBurnAmount s.getParams claim.amount))
  marked : s'.claimedRewards = s.claimedRewards.insert claim.key claim

/-! ## Steps -/

theorem checkClaim_ok (h : s.checkClaim ctx msg = .ok claim) :
    claim.key = (msg.epochId, msg.recipient) ∧ s.claimedRewards[claim.key]? = none ∧
      ∃ record : RewardRecord, s.rewardRecords[claim.key]? = some record ∧
        claim.amount = record.netReward := by
  simp only [checkClaim, bind_eq_ok, ensure_eq_ok, exists_const, pure_eq_ok] at h
  obtain ⟨_, _, hunclaimed, _, _, _, record, hrecord, _, rfl⟩ := h
  have hfound : s.rewardRecords[(msg.epochId, msg.recipient)]? = some record := by
    simpa [getRewardRecord] using hrecord
  exact ⟨rfl, hunclaimed, record, hfound, rfl⟩

theorem payoutClaimedReward_ok (h : s.payoutClaimedReward env claim = .ok s') :
    ∃ bank address, s' = { s with bank } ∧
      env.accAddressFromBech32 claim.recipient = .ok address ∧
      bank.accounts = Function.update s.bank.accounts address (s.bank.accounts address +
        sub64 claim.amount (claimBurnAmount s.getParams claim.amount)) := by
  simp only [payoutClaimedReward, bind_eq_ok, ensure_eq_ok, exists_const, foreign_eq_ok,
    pure_eq_ok] at h
  obtain ⟨_, address, haddress, paid, hpays, bank, hburns, rfl⟩ := h
  have hpaid := (Bank.payClaim_ok hpays).2.2
  have hburned := (Bank.burnClaimShare_ok hburns).2
  exact ⟨bank, address, rfl, haddress, hburned.trans hpaid⟩

/-- A step that pays a claim is the accepted message that claims it. -/
theorem payout_eq_some (h : payout env s input = some claim) :
    ∃ ctx msg paid, input = .deliver ctx (.claimReward msg) ∧ s.checkClaim ctx msg = .ok claim ∧
      s.payoutClaimedReward env claim = .ok paid ∧
      next env s input = paid.setClaimedReward claim := by
  unfold payout at h
  split at h
  · next ctx msg =>
      split at h
      · cases h
      · next checked hchecked =>
          split at h
          · cases h
          · next paid hpaid =>
              cases h
              refine ⟨ctx, msg, paid, rfl, hchecked, hpaid, attempt_of_ok ?_⟩
              change s.claimReward env ctx msg = _
              rw [claimReward_eq, hchecked, ok_bind, hpaid, ok_bind]
              rfl
  · cases h

theorem paidOut_of_payout (h : payout env s input = some claim) :
    PaidOut env s (next env s input) claim := by
  obtain ⟨ctx, msg, paid, rfl, hchecked, hpaid, hnext⟩ := payout_eq_some h
  obtain ⟨_, hunclaimed, hrecord⟩ := checkClaim_ok hchecked
  obtain ⟨bank, address, rfl, haddress, haccounts⟩ := payoutClaimedReward_ok hpaid
  refine ⟨hunclaimed, hrecord, ⟨address, haddress, ?_⟩, ?_⟩
  · rw [hnext]
    exact haccounts
  · rw [hnext]
    rfl

/-- Every accepted claim is paid out. -/
theorem payout_of_claimReward (h : s.claimReward env ctx msg = .ok s') :
    ∃ claim, payout env s (.deliver ctx (.claimReward msg)) = some claim ∧
      claim.key = (msg.epochId, msg.recipient) := by
  rw [claimReward_eq] at h
  simp only [bind_eq_ok] at h
  obtain ⟨claim, hchecked, paid, hpaid, _⟩ := h
  refine ⟨claim, ?_, (checkClaim_ok hchecked).1⟩
  simp only [payout, hchecked, hpaid]

/-- A step without a payout leaves every marker as it is, and sets none. -/
theorem claimedRewards_of_unpaid (h : payout env s input = none) :
    (next env s input).claimedRewards = s.claimedRewards := by
  refine attempt_preserves (P := fun t : KeeperState => t.claimedRewards = s.claimedRewards) ?_ rfl
  intro s' hs'
  have heffect := effect_of_step hs'
  cases heffect with
  | claimed ctx msg record recipient paid bank claim found pays burns =>
      have hclaimed : s.claimReward env ctx msg = .ok _ := hs'
      obtain ⟨claim, hpays, _⟩ := payout_of_claimReward hclaimed
      rw [hpays] at h
      cases h
  | aggregate ctx msg record =>
      rcases refreshAggregatesCommitment_cases env (s.setAggregateRecord record) record.epochId with
        heq | ⟨commit, _, _, heq⟩
      · rw [heq]
        rfl
      · rw [heq]
        rfl
  | resolved ctx msg stored settled slashed rewarded commit _ _ _ settles slashes rewards =>
      obtain ⟨bank, records, hframe⟩ := resolution_frame settles slashes
      rw [hframe] at rewards
      subst rewards
      rfl
  | rewards ctx msg commit records =>
      obtain ⟨rewardRecords, hframe⟩ := setRewardRecords_frame s records
      rw [hframe]
  | quiet | params | commit | finalized | opened | session | attested | settled | emitted
    | burned => rfl

/-- A marker that stands is neither removed nor rewritten. -/
theorem marker_next {key : ℕ × String} {marker : ClaimedReward}
    (h : s.claimedRewards[key]? = some marker) (input : Input) :
    (next env s input).claimedRewards[key]? = some marker := by
  cases hpays : payout env s input with
  | none => rw [claimedRewards_of_unpaid hpays, h]
  | some claim =>
      have hpaid := paidOut_of_payout hpays
      have hkey : claim.key ≠ key := by
        intro heq
        have hunclaimed := hpaid.unclaimed
        rw [heq, h] at hunclaimed
        cases hunclaimed
      rw [hpaid.marked, get_insert_ne _ _ hkey, h]

/-! ## Runs -/

theorem marker_run {key : ℕ × String} {marker : ClaimedReward} (inputs : List Input)
    {s : KeeperState} (h : s.claimedRewards[key]? = some marker) :
    (run (next env) s inputs).claimedRewards[key]? = some marker :=
  run_preserves (P := fun s : KeeperState => s.claimedRewards[key]? = some marker)
    (fun _ input hmarked => marker_next hmarked input) inputs h

/-- A claim that a run pays was not marked when the run began. -/
theorem unclaimed_of_mem_payouts (inputs : List Input) :
    ∀ {s : KeeperState}, claim ∈ payouts env s inputs → s.claimedRewards[claim.key]? = none := by
  induction inputs with
  | nil =>
      intro s h
      cases h
  | cons input inputs ih =>
      intro s h
      rcases List.mem_append.mp h with hnow | hlater
      · exact (paidOut_of_payout (Option.mem_toList.mp hnow)).unclaimed
      · have hunclaimed := ih hlater
        cases hmarker : s.claimedRewards[claim.key]? with
        | none => rfl
        | some marker =>
            rw [marker_next hmarker input] at hunclaimed
            cases hunclaimed

/-- The marker of a claim that a run pays stands when the run ends. -/
theorem marked_of_mem_payouts (inputs : List Input) :
    ∀ {s : KeeperState}, claim ∈ payouts env s inputs →
      (run (next env) s inputs).claimedRewards[claim.key]? = some claim := by
  induction inputs with
  | nil =>
      intro s h
      cases h
  | cons input inputs ih =>
      intro s h
      rcases List.mem_append.mp h with hnow | hlater
      · have hpaid := paidOut_of_payout (Option.mem_toList.mp hnow)
        apply marker_run inputs
        rw [hpaid.marked, get_insert_self]
      · exact ih hlater

theorem payouts_nodup (inputs : List Input) :
    ∀ s : KeeperState, ((payouts env s inputs).map ClaimedReward.key).Nodup := by
  induction inputs with
  | nil =>
      intro s
      exact List.nodup_nil
  | cons input inputs ih =>
      intro s
      cases hpays : payout env s input with
      | none => simpa [payouts, hpays] using ih (next env s input)
      | some claim =>
          have hpaid := paidOut_of_payout hpays
          simp only [payouts, hpays, Option.toList_some, List.singleton_append, List.map_cons,
            List.nodup_cons, List.mem_map, not_exists, not_and]
          refine ⟨?_, ih (next env s input)⟩
          -- the marker set now shuts out every later claim of the same reward
          intro later hlater hkey
          have hunclaimed := unclaimed_of_mem_payouts inputs hlater
          rw [hkey, hpaid.marked, get_insert_self] at hunclaimed
          cases hunclaimed

/-- Over any run no reward is paid twice. Every payout goes to the recipient it names, of the net
reward stored when it is made, and sets a marker that stands from then on; a step without a payout
sets none. -/
theorem rewards_paid_once (env : Env) (s : KeeperState) (inputs : List Input) :
    ((payouts env s inputs).map ClaimedReward.key).Nodup ∧
    (∀ claim ∈ payouts env s inputs,
      (run (next env) s inputs).claimedRewards[claim.key]? = some claim) ∧
    (∀ (key : ℕ × String) (marker : ClaimedReward), s.claimedRewards[key]? = some marker →
      (run (next env) s inputs).claimedRewards[key]? = some marker) ∧
    ∀ before input after, inputs = before ++ input :: after →
      let t := run (next env) s before
      (∀ claim, payout env t input = some claim → PaidOut env t (next env t input) claim) ∧
      (payout env t input = none → (next env t input).claimedRewards = t.claimedRewards) ∧
      ∀ ctx msg, input = .deliver ctx (.claimReward msg) →
        Accepts (step env) t input → ∃ claim, payout env t input = some claim ∧
          claim.key = (msg.epochId, msg.recipient) := by
  refine ⟨payouts_nodup inputs s, fun claim => marked_of_mem_payouts inputs,
    fun key marker => marker_run inputs, ?_⟩
  intro before input after _ t
  refine ⟨fun claim => paidOut_of_payout, claimedRewards_of_unpaid, ?_⟩
  rintro ctx msg rfl haccepted
  obtain ⟨s', hs'⟩ := accepts_iff.mp haccepted
  exact payout_of_claimReward hs'

/-- Bob claims the same reward twice and is paid once. -/
example : (payouts Sample.env Sample.genesis (Sample.owedReward ++
    [Sample.claim Sample.bob, Sample.claim Sample.bob])).map ClaimedReward.key =
      [(7, Sample.bob)] := by
  decide +kernel

end PoleProtocol.Chain
