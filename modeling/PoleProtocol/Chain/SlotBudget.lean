import PoleProtocol.Chain.PlayTime

/-!
# Play time in one slot

One claim may not declare more play time than a slot holds, but a node may make any number of
claims for the same slot under different session ids. The credited time stays within the slot if
each settlement leaves room for it beside the node's other sessions of that slot.
-/

namespace PoleProtocol.Chain

open Framework OrderedMap KeeperState

namespace KeeperState

/-- What a stored settlement credits to a node for a slot of an epoch: its play seconds when it is
valid and the session record names that slot. -/
def creditedSeconds (s : KeeperState) (node : String) (epochId slotId : ℕ) (sessionIdHex : String)
    (settlement : SessionSettlement) : ℕ :=
  if settlement.valid = true ∧ settlement.nodeAddress = node ∧ settlement.epochId = epochId ∧
      s.playSessions[sessionIdHex]?.map (·.slotId) = some slotId then settlement.playSeconds
  else 0

/-- The play time a node is credited with in one slot. -/
def slotSeconds (s : KeeperState) (node : String) (epochId slotId : ℕ) : ℕ :=
  total (s.creditedSeconds node epochId slotId) s.sessionSettlements

/-- The part of it that other sessions account for. -/
def otherSlotSeconds (s : KeeperState) (sessionIdHex node : String) (epochId slotId : ℕ) : ℕ :=
  total (s.creditedSeconds node epochId slotId) (s.sessionSettlements.erase sessionIdHex)

end KeeperState

/-- No node is credited with more play time in a slot than the slot holds. -/
def SlotBudget (s : KeeperState) : Prop :=
  ∀ node epochId slotId,
    s.slotSeconds node epochId slotId ≤ s.getParams.rewardBlockDurationSeconds

/-- The parameters an update supplies. -/
def Input.suppliedParams : Input → Option Params
  | .deliver _ (.updateParams msg) => msg.params
  | _ => none

/-- A settlement leaves the slot room for the declared time beside the node's other sessions. -/
def SettlesWithin (s : KeeperState) (input : Input) : Prop :=
  ∀ session ∈ settledSession s input,
    s.otherSlotSeconds session.sessionIdHex session.nodeAddress session.epochId session.slotId +
      session.playSeconds ≤ s.getParams.rewardBlockDurationSeconds

/-- A claim for a session with a valid settlement names a slot with room for the settled time. -/
def RelabelsWithin (s : KeeperState) (input : Input) : Prop :=
  ∀ session ∈ input.playClaim, ∀ settlement ∈ s.sessionSettlements[session.sessionIdHex]?,
    settlement.valid = true →
      s.otherSlotSeconds session.sessionIdHex settlement.nodeAddress settlement.epochId
        session.slotId + settlement.playSeconds ≤ s.getParams.rewardBlockDurationSeconds

/-- An update of the parameters leaves the length of a slot alone. -/
def KeepsSlotLength (s : KeeperState) (input : Input) : Prop :=
  ∀ params ∈ input.suppliedParams,
    params.rewardBlockDurationSeconds = s.getParams.rewardBlockDurationSeconds

/-- The step keeps slots within their length. -/
def FitsSlot (s : KeeperState) (input : Input) : Prop :=
  SettlesWithin s input ∧ RelabelsWithin s input ∧ KeepsSlotLength s input

instance (s : KeeperState) (input : Input) : Decidable (SettlesWithin s input) :=
  inferInstanceAs (Decidable (∀ session ∈ settledSession s input, _))

instance (s : KeeperState) (input : Input) : Decidable (RelabelsWithin s input) :=
  inferInstanceAs (Decidable (∀ session ∈ input.playClaim,
    ∀ settlement ∈ s.sessionSettlements[session.sessionIdHex]?, _))

instance (s : KeeperState) (input : Input) : Decidable (KeepsSlotLength s input) :=
  inferInstanceAs (Decidable (∀ params ∈ input.suppliedParams, _))

instance (s : KeeperState) (input : Input) : Decidable (FitsSlot s input) :=
  inferInstanceAs (Decidable (_ ∧ _ ∧ _))

section Steps

variable {env : Env} {s s' : KeeperState} {input : Input} {id node : String} {epochId slotId : ℕ}

theorem otherSlotSeconds_le (s : KeeperState) (id node : String) (epochId slotId : ℕ) :
    s.otherSlotSeconds id node epochId slotId ≤ s.slotSeconds node epochId slotId :=
  total_erase_le _ _ _

theorem slotSeconds_of_get {settlement : SessionSettlement}
    (h : s.sessionSettlements[id]? = some settlement) :
    s.slotSeconds node epochId slotId = s.creditedSeconds node epochId slotId id settlement +
      s.otherSlotSeconds id node epochId slotId :=
  total_eq_add_erase _ h

theorem slotSeconds_of_none (h : s.sessionSettlements[id]? = none) :
    s.slotSeconds node epochId slotId = s.otherSlotSeconds id node epochId slotId := by
  rw [otherSlotSeconds, erase_of_none h, slotSeconds]

/-- What other sessions account for does not depend on the record or the settlement of this one. -/
theorem otherSlotSeconds_congr
    (hsessions : ∀ key ≠ id, s'.playSessions[key]? = s.playSessions[key]?)
    (hsettlements : ∀ key ≠ id, s'.sessionSettlements[key]? = s.sessionSettlements[key]?) :
    s'.otherSlotSeconds id node epochId slotId = s.otherSlotSeconds id node epochId slotId := by
  have herased : s'.sessionSettlements.erase id = s.sessionSettlements.erase id := by
    apply Std.ExtTreeMap.ext_getElem?
    intro key
    rw [get_erase, get_erase]
    split
    · rfl
    · next hne => exact hsettlements key (Ne.symm hne)
  unfold otherSlotSeconds
  rw [herased]
  apply total_congr
  intro key settlement hget
  have hne : key ≠ id := by
    rintro rfl
    rw [get_erase, if_pos rfl] at hget
    cases hget
  unfold creditedSeconds
  rw [hsessions key hne]

/-- A verdict credits no more than was declared, and only to the session's own slot. -/
theorem creditedSeconds_verdict_le (s s' : KeeperState) (ctx : Ctx) {session : PlaySession}
    (hsession : s'.playSessions[id]? = some session) (node : String) (epochId slotId : ℕ) :
    s'.creditedSeconds node epochId slotId id (s.sessionVerdict ctx id session) ≤
      if session.nodeAddress = node ∧ session.epochId = epochId ∧ session.slotId = slotId then
        session.playSeconds else 0 := by
  have hseconds := (sessionVerdict_coverage ctx s id session).1
  have hfields : (s.sessionVerdict ctx id session).nodeAddress = session.nodeAddress ∧
      (s.sessionVerdict ctx id session).epochId = session.epochId := by
    unfold sessionVerdict
    dsimp only
    split <;> exact ⟨rfl, rfl⟩
  unfold creditedSeconds
  rw [hfields.1, hfields.2, hsession]
  split
  · next hcredited =>
      obtain ⟨_, hnode, hepoch, hslot⟩ := hcredited
      rw [if_pos ⟨hnode, hepoch, Option.some.inj hslot⟩, hseconds]
      exact min_le_left _ _
  · exact Nat.zero_le _

/-- A step that meets its condition keeps slots within their length. -/
theorem slotBudget_of_step (hwf : WellFormed s) (h : SlotBudget s) (hcond : FitsSlot s input)
    (hok : step env s input = .ok s') : SlotBudget s' := by
  obtain ⟨hsettles, hrelabels, hlength⟩ := hcond
  intro node epochId slotId
  have hbudget := h node epochId slotId
  cases sessionWrite_of_step hok with
  | params ctx msg params supplied =>
      change s.slotSeconds node epochId slotId ≤ params.rewardBlockDurationSeconds
      rwa [hlength params supplied]
  | attested => exact hbudget
  | elsewhere input s' same =>
      have hparams : s'.getParams = s.getParams := by
        rw [getParams, same.params]
        rfl
      have hcredited : s'.creditedSeconds node epochId slotId =
          s.creditedSeconds node epochId slotId := by
        funext key settlement
        unfold creditedSeconds
        rw [same.playSessions]
      rw [hparams, slotSeconds, hcredited, same.sessionSettlements]
      exact hbudget
  | settled ctx msg session found =>
      have hkey : session.sessionIdHex = msg.sessionIdHex := hwf.sessions _ _ found
      have hroom := hsettles session found
      rw [hkey] at hroom
      have hstored : (s.setSessionSettlement (s.sessionVerdict ctx msg.sessionIdHex
          session)).sessionSettlements[msg.sessionIdHex]? =
            some (s.sessionVerdict ctx msg.sessionIdHex session) := by
        rw [get_settled hwf found, if_pos rfl]
      have hothers : (s.setSessionSettlement (s.sessionVerdict ctx msg.sessionIdHex
          session)).otherSlotSeconds msg.sessionIdHex node epochId slotId =
            s.otherSlotSeconds msg.sessionIdHex node epochId slotId := by
        apply otherSlotSeconds_congr
        · exact fun key _ => rfl
        · intro key hne
          rw [get_settled hwf found, if_neg (Ne.symm hne)]
      have hcredit := creditedSeconds_verdict_le s (s.setSessionSettlement
        (s.sessionVerdict ctx msg.sessionIdHex session)) ctx found node epochId slotId
      have hle := otherSlotSeconds_le s msg.sessionIdHex node epochId slotId
      change _ ≤ s.getParams.rewardBlockDurationSeconds
      rw [slotSeconds_of_get hstored, hothers]
      split at hcredit
      · next hslot =>
          obtain ⟨rfl, rfl, rfl⟩ := hslot
          omega
      · omega
  | claimed ctx msg session supplied =>
      have hothers : (s.setPlaySession { session with
          submittedAtHeight := ctx.height }).otherSlotSeconds session.sessionIdHex node epochId slotId =
            s.otherSlotSeconds session.sessionIdHex node epochId slotId := by
        apply otherSlotSeconds_congr
        · exact fun key hne => get_insert_ne _ _ (Ne.symm hne)
        · exact fun key _ => rfl
      have hle := otherSlotSeconds_le s session.sessionIdHex node epochId slotId
      change _ ≤ s.getParams.rewardBlockDurationSeconds
      cases hstored : s.sessionSettlements[session.sessionIdHex]? with
      | none =>
          have hunsettled : (s.setPlaySession { session with
            submittedAtHeight := ctx.height }).sessionSettlements[session.sessionIdHex]? = none :=
              hstored
          rw [slotSeconds_of_none hunsettled, hothers]
          omega
      | some settlement =>
          have hsettled : (s.setPlaySession { session with
            submittedAtHeight := ctx.height }).sessionSettlements[session.sessionIdHex]? =
              some settlement := hstored
          rw [slotSeconds_of_get hsettled, hothers, creditedSeconds]
          split
          · next hcredited =>
              obtain ⟨hvalid, rfl, rfl, hslot⟩ := hcredited
              have hrecord : (s.setPlaySession { session with submittedAtHeight :=
                  ctx.height }).playSessions[session.sessionIdHex]?.map (·.slotId) =
                    some session.slotId := congrArg _ (get_insert_self _ _ _)
              obtain rfl := Option.some.inj (hrecord.symm.trans hslot)
              have hroom := hrelabels session supplied settlement hstored hvalid
              omega
          · omega

end Steps

/-- Along a run whose steps leave room in the slots they touch, no node is credited with more play
time in a slot than the slot holds. -/
theorem slot_budget (env : Env) (bank : Bank) (genesisUnix : ℤ) (inputs : List Input)
    (hmeets : Meets (next env) (IfAccepted (step env) FitsSlot) (defaultGenesis bank genesisUnix)
      inputs) : SlotBudget (run (next env) (defaultGenesis bank genesisUnix) inputs) := by
  have hboth : WellFormed (run (next env) (defaultGenesis bank genesisUnix) inputs) ∧
      SlotBudget (run (next env) (defaultGenesis bank genesisUnix) inputs) := by
    refine run_invariant (P := fun s => WellFormed s ∧ SlotBudget s) ?_ hmeets
      ⟨wellFormed_defaultGenesis bank genesisUnix, ?_⟩
    · rintro s input hcond ⟨hwf, h⟩
      refine ⟨wellFormed_next hwf input, ?_⟩
      exact attempt_preserves_of hcond
        (fun s' hok hfits => slotBudget_of_step hwf h hfits hok) h
    · intro node epochId slotId
      exact Nat.zero_le _
  exact hboth.2

namespace Sample

def attestOwn (sessionIdHex witness : String) : Input :=
  .deliver (ctx 4) (.attestSession
    { witness
      attestation := some
        { sessionIdHex, witnessAddress := witness, witnessObservationCid := witness } })

/-- Alice declares a whole slot under a session id, is seen for seven of its buckets, and settles. -/
def playSlot (sessionIdHex : String) : List Input :=
  [claimPlay { playSession alice with sessionIdHex, slotId := 4, playSeconds := 3600 },
    attestOwn sessionIdHex bob, attestOwn sessionIdHex carol] ++
  (List.range 7).map (heartbeat sessionIdHex) ++
  [.deliver (ctx 6) (.settleSession { settler := bob, sessionIdHex })]

/-- Two observers besides the player. -/
def observers : List Input :=
  [register alice, register bob, register carol, observe bob, observe carol]

end Sample

/-- One session for the slot stays within it. -/
theorem slot_budget_single :
    SlotBudget (run (next Sample.env) Sample.genesis (Sample.observers ++ Sample.playSlot "51")) :=
  slot_budget Sample.env Sample.bank 0 (Sample.observers ++ Sample.playSlot "51") (by decide +kernel)

/-- Under default parameters, two sessions for the same slot of an hour are credited with seventy
minutes. -/
theorem settleSession_exceeds_slot :
    ¬ ∀ inputs : List Input, (∀ input ∈ inputs, input.suppliedParams = none) →
      SlotBudget (run (next Sample.env) Sample.genesis inputs) := by
  intro h
  have hbudget := h (Sample.observers ++ Sample.playSlot "51" ++ Sample.playSlot "52") (by decide)
    Sample.alice 7 4
  have hslot : (run (next Sample.env) Sample.genesis (Sample.observers ++ Sample.playSlot "51" ++
        Sample.playSlot "52")).slotSeconds Sample.alice 7 4 = 4200 ∧
      (run (next Sample.env) Sample.genesis (Sample.observers ++ Sample.playSlot "51" ++
        Sample.playSlot "52")).getParams.rewardBlockDurationSeconds = 3600 := by
    decide +kernel
  rw [hslot.1, hslot.2] at hbudget
  omega

end PoleProtocol.Chain
