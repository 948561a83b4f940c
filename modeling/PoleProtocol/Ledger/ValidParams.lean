import PoleProtocol.Framework.Run
import PoleProtocol.Ledger.Agenda

/-!
# Valid parameters

A proposal may carry any parameters. They are validated when they are scheduled, and parameters
come into force only out of the schedule, so the parameters in force have passed validation.
-/

namespace PoleProtocol.Ledger

open Framework OrderedMap Action

variable {env : Env} {s s' t : ProtocolState}

/-- A ledger over a store; parameters that do not pass validation are a panic. -/
def ProtocolState.withStore (params : ProtocolParams) (height currentEpoch : ℕ)
    (store : InMemoryStore) : Option ProtocolState :=
  match params.validate with
  | .ok () => some { height, currentEpoch, params, store }
  | .error _ => none

/-- A ledger over the empty store. -/
def ProtocolState.new (params : ProtocolParams) (height currentEpoch : ℕ) : Option ProtocolState :=
  ProtocolState.withStore params height currentEpoch {}

/-- The parameters in force and those scheduled have passed validation. -/
structure ProtocolState.ParamsValid (s : ProtocolState) : Prop where
  active : s.params.validate = .ok ()
  scheduled : ∀ (epochId : ℕ) (params : ProtocolParams),
    s.store.scheduledProtocolParams[epochId]? = some params → params.validate = .ok ()

theorem paramsValid_of_same (hparams : t.params = s.params)
    (hscheduled : t.store.scheduledProtocolParams = s.store.scheduledProtocolParams) :
    Preserves ProtocolState.ParamsValid s t := by
  intro h
  refine ⟨hparams ▸ h.active, fun epochId params hget => ?_⟩
  rw [hscheduled] at hget
  exact h.scheduled epochId params hget

theorem paramsValid_schedule {effectiveEpoch : ℕ} {params : ProtocolParams}
    (hvalid : params.validate = .ok ()) (hparams : t.params = s.params)
    (hscheduled : t.store.scheduledProtocolParams =
      s.store.scheduledProtocolParams.insert effectiveEpoch params) :
    Preserves ProtocolState.ParamsValid s t := by
  intro h
  refine ⟨hparams ▸ h.active, fun epochId scheduled hget => ?_⟩
  rw [hscheduled, get_insert] at hget
  split at hget
  · cases hget
    exact hvalid
  · exact h.scheduled epochId scheduled hget

/-- What is installed comes out of the schedule. -/
theorem paramsValid_install {epochId : ℕ} {params : ProtocolParams}
    (hget : s.store.scheduledProtocolParams[epochId]? = some params) (hparams : t.params = params)
    (hscheduled : t.store.scheduledProtocolParams = s.store.scheduledProtocolParams.erase epochId) :
    Preserves ProtocolState.ParamsValid s t := by
  intro h
  refine ⟨hparams ▸ h.scheduled epochId params hget, fun other scheduled hother => ?_⟩
  rw [hscheduled, get_erase] at hother
  split at hother
  · cases hother
  · exact h.scheduled other scheduled hother

theorem paramsValid_scheduling {proposalId : Hash32} (h : Scheduling env proposalId s t) :
    Preserves ProtocolState.ParamsValid s t := by
  cases h with
  | none => exact Std.Refl.refl s
  | full happroved _ _ => exact paramsValid_schedule happroved.valid rfl rfl

theorem paramsValid_applied {tx : Transaction} (h : Applied env tx s t) :
    Preserves ProtocolState.ParamsValid s t := by
  cases h with
  | @vote _ _ tx voter voter' _ _ _ hscheduling =>
      have hvoted : Preserves ProtocolState.ParamsValid s
          ((s.insertAccount tx.voter voter').insertVote tx) := paramsValid_of_same rfl rfl
      exact IsTrans.trans _ _ _ hvoted (paramsValid_scheduling hscheduling)
  | unbond =>
      unfold ProtocolState.reduceDelegation
      split <;> exact paramsValid_of_same rfl rfl
  | transfer | stake | submitBatch | commitEpoch | openChallenge | challengeResponse | claimReward
    | proposeProtocolParamsUpdate => exact paramsValid_of_same rfl rfl

/-- A vote whose bond cannot be returned may leave the schedule behind; it was validated too. -/
theorem paramsValid_stranded {tx : Transaction} (h : Stranded env tx s t) :
    Preserves ProtocolState.ParamsValid s t := by
  cases h with
  | @schedule _ tx voter voter' proposal _ _ _ happroved _ =>
      have hvoted : Preserves ProtocolState.ParamsValid s
          ((s.insertAccount tx.voter voter').insertVote tx) := paramsValid_of_same rfl rfl
      exact IsTrans.trans _ _ _ hvoted (paramsValid_schedule happroved.valid rfl rfl)
  | transfer | unbond | vote => exact paramsValid_of_same rfl rfl

theorem paramsValid_step (op : Operation) :
    Preserves ProtocolState.ParamsValid s (op.step env s) := by
  refine step_related ?_ ?_ ?_ ?_ ?_ ?_
  · exact fun _ _ _ => paramsValid_of_same rfl rfl
  · exact fun _ _ => mature_returns (fun _ => paramsValid_of_same rfl rfl)
      fun _ _ _ _ _ _ => paramsValid_of_same rfl rfl
  · exact fun _ _ _ _ => apply_returns (fun _ _ => paramsValid_applied) fun _ _ => paramsValid_stranded
  · refine fun _ _ _ _ => resolve_returns (fun _ _ hresolved => ?_) fun _ _ hdropped => ?_
    · cases hresolved <;> exact paramsValid_of_same rfl rfl
    · cases hdropped <;> exact paramsValid_of_same rfl rfl
  · intro epochId _ t hfinalize
    refine finalize_related ?_ ?_ ?_ ?_ ?_ hfinalize
    · exact fun _ => paramsValid_of_same rfl rfl
    · exact fun _ _ => paramsValid_of_same rfl rfl
    · exact fun _ _ hget => paramsValid_install hget rfl rfl
    · exact fun _ _ _ _ _ => paramsValid_of_same rfl rfl
    · exact fun _ _ _ _ _ _ => paramsValid_of_same rfl rfl
  · exact fun _ _ _ hvalid _ => paramsValid_schedule hvalid rfl rfl

/-- An operation, or a registration from outside. -/
inductive HostCall where
  | change (registration : Change)
  | upsertAccount (account : AccountState)

def HostCall.step (env : Env) (s : ProtocolState) : HostCall → ProtocolState
  | .change registration => registration.step env s
  | .upsertAccount account => s.insertAccount account.address account

theorem paramsValid_hostCall (call : HostCall) :
    Preserves ProtocolState.ParamsValid s (call.step env s) := by
  cases call with
  | change registration =>
      cases registration with
      | operation op => exact paramsValid_step op
      | upsertNode | upsertRewardRecord => exact paramsValid_of_same rfl rfl
  | upsertAccount => exact paramsValid_of_same rfl rfl

/-- In every state reached from a new ledger, the parameters in force and those scheduled are
valid. -/
theorem active_params_valid (env : Env) (params : ProtocolParams) (height currentEpoch : ℕ)
    (s : ProtocolState) (calls : List HostCall)
    (hnew : ProtocolState.new params height currentEpoch = some s) :
    (run (HostCall.step env) s calls).ParamsValid := by
  have hstart : s.ParamsValid := by
    unfold ProtocolState.new ProtocolState.withStore at hnew
    split at hnew
    · next hvalid =>
        cases hnew
        exact ⟨hvalid, fun epochId scheduled hget => by simp at hget⟩
    · cases hnew
  exact run_preserves (fun _ => paramsValid_hostCall) calls hstart

/-- Alice's proposal is scheduled for epoch eight in a new ledger. -/
theorem active_params_valid_proposal : ∃ s, ProtocolState.new defaultProtocolParams 1 0 = some s ∧
    (run (HostCall.step Sample.proposalEnv) s [.upsertAccount (Sample.account Sample.alice 20000),
      .change (.operation (.executeBlock
        ⟨2, [.proposeProtocolParamsUpdate Sample.propose, .vote Sample.vote]⟩))]).ParamsValid :=
  ⟨_, rfl, active_params_valid Sample.proposalEnv defaultProtocolParams 1 0 _ _ rfl⟩

end PoleProtocol.Ledger
