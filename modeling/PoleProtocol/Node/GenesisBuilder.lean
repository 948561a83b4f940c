import PoleProtocol.Chain.Merkle
import PoleProtocol.Framework.Fallible
import PoleProtocol.Framework.Lexing
import PoleProtocol.Framework.OrderedMap
import PoleProtocol.Framework.WordSums

/-!
# The genesis document

Allocations come from a table of addresses and whole amounts, validators from a list of their own.
The builder checks the sum of the allocations and the keys, and writes balances, supply and stakes
in micro-units. Its sums and products are 128-bit words, and it never compares two addresses: the
document is consistent exactly when the addresses are distinct and no word overflows.
-/

namespace PoleProtocol.Node

open Framework

def defaultTotalSupplyUpoles : ℕ := 1000000000000000

def microsPerUpoles : ℕ := 1000000

inductive GenesisError where
  | csv (line : ℕ) (message : String)
  | validation (message : String)
  | missing (field : String)
  deriving DecidableEq

/-! ## Inputs -/

structure Allocation where
  address : String
  amountUpole : ℕ
  deriving DecidableEq

structure ValidatorSpec where
  moniker : String
  operatorAddress : String
  consensusPubkeyHex : String
  stakeUpole : ℕ
  deriving DecidableEq

/-- What the builder works on; the overrides are the entries of a JSON object with values in `J`, if
the parameters are an object. -/
structure GenesisInputs (J : Type) where
  chainId : String
  allocations : List Allocation
  validators : List ValidatorSpec
  paramsOverrides : Option (List (String × J)) := none

/-! ## The table of allocations -/

/-- What is wrong with a text that is not a number of the given width: the first character that is
no digit or at which the number leaves its width. -/
def firstNumberProblem (width : ℕ) : ℕ → List Char → String
  | _, [] => ""
  | value, c :: chars =>
      if c.isDigit then
        let next := 10 * value + (c.toNat - 48)
        if next < 2 ^ width then firstNumberProblem width next chars
        else "number too large to fit in target type"
      else "invalid digit found in string"

def parseIntError (width : ℕ) (text : String) : String :=
  match text.toList with
  | [] => "cannot parse integer from empty string"
  | ['+'] => "invalid digit found in string"
  | '+' :: chars => firstNumberProblem width 0 chars
  | chars => firstNumberProblem width 0 chars

def allocationOfLine (number : ℕ) (line : String) : Except GenesisError Allocation :=
  match splitText (· == ',') line with
  | [] => .error (.csv number "missing address column")
  | [_] => .error (.csv number "missing amount column")
  | [address, amountStr] =>
      match parseUnsigned 128 (trim amountStr) with
      | none =>
          .error (.csv number ("invalid amount `" ++ amountStr ++ "`: " ++
            parseIntError 128 (trim amountStr)))
      | some amount => .ok { address := trim address, amountUpole := amount }
  | _ => .error (.csv number "too many columns (expected 2)")

/-- Blank lines and comments are skipped. -/
def loadAllocationsCsv (raw : String) : Except GenesisError (List Allocation) :=
  let lines := (textLines raw).zipIdx.map fun (line, i) => (trim line, i)
  (lines.filter fun (line, _) => line ≠ "" ∧ ¬ beginsWith line "#").mapM fun (line, i) =>
    allocationOfLine (i + 1) line

/-- An amount from the table is a 128-bit word. -/
theorem loadAllocationsCsv_amount {raw : String} {allocations : List Allocation}
    (h : loadAllocationsCsv raw = .ok allocations) :
    ∀ a ∈ allocations, a.amountUpole < 2 ^ 128 := by
  intro a ha
  obtain ⟨⟨line, i⟩, -, hline⟩ := mem_of_mapM_ok h a ha
  simp only [allocationOfLine] at hline
  split at hline
  · cases hline
  · cases hline
  · split at hline
    · cases hline
    · next amount hamount =>
        cases hline
        exact parseUnsigned_lt hamount
  · cases hline

/-! ## The document -/

structure GenesisCoin where
  denom : String
  amount : ℕ
  deriving DecidableEq

structure BankBalance where
  address : String
  coins : List GenesisCoin
  deriving DecidableEq

structure StakingValidator where
  operatorAddress : String
  consensusPubkey : List UInt8
  tokens : ℕ
  moniker : String
  deriving DecidableEq

/-- The parts of the document that depend on the inputs. Amounts and tokens are written in decimal,
keys in base 64. -/
structure GenesisDocument (J : Type) where
  chainId : String
  balances : List BankBalance
  supply : List GenesisCoin
  validators : List StakingValidator
  poleParams : OrderedMap String J

/-- The coins of one denomination. -/
def amountOf (denom : String) (coins : List GenesisCoin) : ℕ :=
  ((coins.filter fun coin => coin.denom = denom).map (·.amount)).sum

def baseHourlyReward : ℕ := defaultTotalSupplyUpoles * microsPerUpoles * 2 / 100 / (365 * 24)

def defaultPoleParams : List (String × ℕ) :=
  [("reward_block_duration_seconds", 3600),
    ("base_hourly_reward", baseHourlyReward),
    ("target_network_weight_units", 150000000000000),
    ("reward_adjustment_cap_bps", 2000),
    ("challenge_window_blocks", 20),
    ("min_retention_epochs", 2),
    ("player_reward_allocation_bps", 8000),
    ("service_reward_allocation_bps", 1000),
    ("collect_reward_bps", 5000),
    ("store_reward_bps", 2500),
    ("verify_reward_bps", 1500),
    ("propose_reward_bps", 1000),
    ("tier1_weight_ppm", 1000000),
    ("tier2_weight_min_ppm", 300000),
    ("tier2_weight_max_ppm", 600000),
    ("tier3_weight_min_ppm", 50000),
    ("tier3_weight_max_ppm", 150000),
    ("fee_burn_bps", 2500),
    ("reward_burn_threshold", 10000),
    ("reward_burn_bps", 1000),
    ("governance_burn_bps", 100),
    ("min_verification_count", 3),
    ("min_player_verifier_share_bps", 5000),
    ("min_witness_count", 2),
    ("min_witness_observation_tolerance_ppm", 50000),
    ("min_distinct_observations", 2),
    ("session_slash_bps", 5000),
    ("min_heartbeat_count", 2),
    ("heartbeat_bucket_seconds", 300),
    ("min_heartbeat_coverage_bps", 5000),
    ("challenge_bond_burn_bps", 2500)]

section Build

variable {J : Type} (policy : Overflow) (fromHexError : String → String) (ofNumber : ℕ → J)

/-! ## Checking the inputs -/

def validateKey (v : ValidatorSpec) : Attempt GenesisError Unit := do
  ensure (v.consensusPubkeyHex.utf8ByteSize = 64) (.refused (.validation
    ("validator " ++ v.moniker ++ " has invalid pubkey length (expected 64 hex chars)")))
  ensure ((Chain.hexDecode v.consensusPubkeyHex).isSome = true) (.refused (.validation
    ("validator " ++ v.moniker ++ " pubkey: " ++ fromHexError v.consensusPubkeyHex)))

def validateInputs (inputs : GenesisInputs J) : Attempt GenesisError Unit := do
  ensure (inputs.chainId ≠ "") (.refused (.missing "chain_id"))
  ensure (inputs.validators ≠ [])
    (.refused (.validation "at least one validator is required"))
  let total ← require (policy.sumFrom 128 0 (inputs.allocations.map (·.amountUpole))) .panic
  ensure (total ≤ defaultTotalSupplyUpoles) (.refused (.validation
    ("allocations sum " ++ toString total ++ " upole exceeds total supply " ++
      toString defaultTotalSupplyUpoles ++ " upole")))
  inputs.validators.forM (validateKey fromHexError)

/-! ## Filling the document -/

/-- The balance of an allocation in micro-units. -/
def balanceEntry (a : Allocation) : BankBalance :=
  { address := a.address
    coins := [{ denom := "upole", amount := a.amountUpole * microsPerUpoles }] }

/-- The balances written so far, and the supply by denomination. -/
abbrev BankState := List BankBalance × OrderedMap String ℕ

def BankState.upoles (bank : BankState) : ℕ := bank.2["upole"]?.getD 0

def addAllocation (bank : BankState) (a : Allocation) : Attempt GenesisError BankState := do
  ensure (a.amountUpole * microsPerUpoles < 2 ^ 128)
    (.refused (.validation "overflow on amount"))
  let amount ← require (policy.add 128 bank.upoles (a.amountUpole * microsPerUpoles)) .panic
  return (bank.1 ++ [balanceEntry a], bank.2.insert "upole" amount)

def populateBank (inputs : GenesisInputs J) :
    Attempt GenesisError (List BankBalance × List GenesisCoin) := do
  let bank ← inputs.allocations.foldlM (addAllocation policy) ([], ∅)
  return (bank.1, bank.2.toList.map fun (denom, amount) => { denom, amount })

def stakingValidator (v : ValidatorSpec) : Attempt GenesisError StakingValidator := do
  let stake ← require (policy.mul 128 v.stakeUpole microsPerUpoles) .panic
  let key ← require (Chain.hexDecode v.consensusPubkeyHex) .panic
  return { operatorAddress := v.operatorAddress, consensusPubkey := key, tokens := stake,
           moniker := v.moniker }

def populateStaking (inputs : GenesisInputs J) : Attempt GenesisError (List StakingValidator) :=
  inputs.validators.mapM (stakingValidator policy)

/-- The defaults, and over them what the inputs override. -/
def populatePoleParams (inputs : GenesisInputs J) : OrderedMap String J :=
  let defaults := defaultPoleParams.foldl (fun params (key, value) =>
    params.insert key (ofNumber value)) (∅ : OrderedMap String J)
  (inputs.paramsOverrides.getD []).foldl (fun params (key, value) => params.insert key value)
    defaults

def build (inputs : GenesisInputs J) : Attempt GenesisError (GenesisDocument J) := do
  validateInputs policy fromHexError inputs
  let (balances, supply) ← populateBank policy inputs
  let validators ← populateStaking policy inputs
  return { chainId := inputs.chainId, balances, supply, validators,
           poleParams := populatePoleParams ofNumber inputs }

/-! ## What the steps do -/

section Steps

variable {policy fromHexError ofNumber} {inputs : GenesisInputs J}

theorem addAllocation_eq_ok {bank bank' : BankState} {a : Allocation} :
    addAllocation policy bank a = .ok bank' ↔
      a.amountUpole * microsPerUpoles < 2 ^ 128 ∧
        ∃ amount, policy.add 128 bank.upoles (a.amountUpole * microsPerUpoles) = some amount ∧
          (bank.1 ++ [balanceEntry a], bank.2.insert "upole" amount) = bank' := by
  simp only [addAllocation, bind_eq_ok, ensure_eq_ok, require_eq_ok, pure_eq_ok, exists_const]

/-- The loop over the allocations: each one becomes a balance, no other denomination is touched, and
the supply is the sum of the balances in words. -/
theorem addAllocations_spec {allocations : List Allocation} {bank bank' : BankState}
    (h : allocations.foldlM (addAllocation policy) bank = .ok bank') :
    bank'.1 = bank.1 ++ allocations.map balanceEntry ∧
      (∀ a ∈ allocations, a.amountUpole * microsPerUpoles < 2 ^ 128) ∧
      (∀ denom, denom ≠ "upole" → bank'.2[denom]? = bank.2[denom]?) ∧
      policy.sumFrom 128 bank.upoles (allocations.map (·.amountUpole * microsPerUpoles)) =
        some bank'.upoles := by
  induction allocations generalizing bank with
  | nil =>
      cases h
      exact ⟨by simp, by simp, fun _ _ => rfl, rfl⟩
  | cons a allocations ih =>
      rw [List.foldlM_cons, bind_eq_ok] at h
      obtain ⟨next, hnext, hrest⟩ := h
      obtain ⟨hfits, amount, hamount, rfl⟩ := addAllocation_eq_ok.mp hnext
      obtain ⟨hbalances, hallFit, hothers, hsupply⟩ := ih hrest
      refine ⟨?_, List.forall_mem_cons.mpr ⟨hfits, hallFit⟩, fun denom hdenom => ?_, ?_⟩
      · rw [hbalances, List.map_cons, List.append_assoc, List.singleton_append]
      · rw [hothers denom hdenom]
        exact OrderedMap.get_insert_ne _ _ (Ne.symm hdenom)
      · have hheld : BankState.upoles (bank.1 ++ [balanceEntry a], bank.2.insert "upole" amount) =
            amount := by
          rw [BankState.upoles, OrderedMap.get_insert_self, Option.getD_some]
        rw [hheld] at hsupply
        rw [List.map_cons, Overflow.sumFrom_cons, hamount, Option.bind_some, hsupply]

/-- The listed supply of a denomination is the one on the map. -/
theorem amountOf_listed (supply : OrderedMap String ℕ) (denom : String) :
    amountOf denom (supply.toList.map fun (denom, amount) => { denom, amount }) =
      supply[denom]?.getD 0 := by
  have hlisted : amountOf denom (supply.toList.map fun (denom, amount) => { denom, amount }) =
      OrderedMap.total (fun k v => if k = denom then v else 0) supply := by
    unfold amountOf OrderedMap.total
    induction supply.toList with
    | nil => rfl
    | cons entry entries ih =>
        by_cases hk : entry.1 = denom
        · simpa [hk] using ih
        · simpa [hk] using ih
  have hothers : OrderedMap.total (fun k v => if k = denom then v else 0) (supply.erase denom) =
      0 := by
    rw [OrderedMap.total_congr (g := fun _ _ => 0) (fun k v hget => ?_)]
    · simp [OrderedMap.total]
    · rw [OrderedMap.get_erase] at hget
      refine if_neg ?_
      rintro rfl
      rw [if_pos rfl] at hget
      cases hget
  have hsplit := OrderedMap.total_erase_add (fun k v => if k = denom then v else 0) supply denom
  rw [hothers, Nat.zero_add] at hsplit
  rw [hlisted, ← hsplit]
  cases supply[denom]? with
  | none => rfl
  | some v => simp

theorem populateBank_spec {balances : List BankBalance} {supply : List GenesisCoin}
    (h : populateBank policy inputs = .ok (balances, supply)) :
    balances = inputs.allocations.map balanceEntry ∧
      (∀ a ∈ inputs.allocations, a.amountUpole * microsPerUpoles < 2 ^ 128) ∧
      (∀ denom, denom ≠ "upole" → amountOf denom supply = 0) ∧
      policy.sumFrom 128 0 (inputs.allocations.map (·.amountUpole * microsPerUpoles)) =
        some (amountOf "upole" supply) := by
  simp only [populateBank, bind_eq_ok, pure_eq_ok, Prod.mk.injEq] at h
  obtain ⟨bank, hloop, rfl, rfl⟩ := h
  obtain ⟨hbalances, hfit, hothers, hsupply⟩ := addAllocations_spec hloop
  refine ⟨hbalances, hfit, fun denom hdenom => ?_, ?_⟩
  · rw [amountOf_listed, hothers denom hdenom]
    rfl
  · rw [amountOf_listed]
    exact hsupply

theorem stakingValidator_eq_ok {v : ValidatorSpec} {validator : StakingValidator}
    (h : stakingValidator policy v = .ok validator) :
    policy.mul 128 v.stakeUpole microsPerUpoles = some validator.tokens := by
  simp only [stakingValidator, bind_eq_ok, require_eq_ok, pure_eq_ok] at h
  obtain ⟨stake, hstake, key, -, rfl⟩ := h
  exact hstake

/-- What the builder accepts has passed the check of the sum, and its parts are those that the steps
fill in. -/
theorem build_eq_ok {doc : GenesisDocument J}
    (h : build policy fromHexError ofNumber inputs = .ok doc) :
    (∃ total, policy.sumFrom 128 0 (inputs.allocations.map (·.amountUpole)) = some total ∧
        total ≤ defaultTotalSupplyUpoles) ∧
      populateBank policy inputs = .ok (doc.balances, doc.supply) ∧
      populateStaking policy inputs = .ok doc.validators := by
  simp only [build, bind_eq_ok, pure_eq_ok] at h
  obtain ⟨_, hvalid, ⟨balances, supply⟩, hbank, validators, hstaking, rfl⟩ := h
  simp only [validateInputs, bind_eq_ok, ensure_eq_ok, require_eq_ok, exists_const] at hvalid
  obtain ⟨-, -, total, htotal, hbound, -⟩ := hvalid
  exact ⟨⟨total, htotal, hbound⟩, hbank, hstaking⟩

end Steps

/-! ## Consistency -/

/-- The supply of every denomination is the sum of the balances and at most the total supply, no
address has two balances, every validator's tokens are its stake, and nothing left its word. -/
structure GenesisDocument.Consistent (doc : GenesisDocument J) (inputs : GenesisInputs J) :
    Prop where
  supply : ∀ denom, amountOf denom doc.supply =
    (doc.balances.map fun balance => amountOf denom balance.coins).sum
  bounded : amountOf "upole" doc.supply ≤ defaultTotalSupplyUpoles * microsPerUpoles
  addresses : (doc.balances.map (·.address)).Nodup
  tokens : doc.validators.map (·.tokens) =
    inputs.validators.map (·.stakeUpole * microsPerUpoles)
  sumFits : (inputs.allocations.map (·.amountUpole)).sum < 2 ^ 128
  supplyFits : (inputs.allocations.map (·.amountUpole * microsPerUpoles)).sum < 2 ^ 128
  amountsFit : ∀ a ∈ inputs.allocations, a.amountUpole * microsPerUpoles < 2 ^ 128
  stakesFit : ∀ v ∈ inputs.validators, v.stakeUpole * microsPerUpoles < 2 ^ 128

section Consistency

variable {policy fromHexError ofNumber} {inputs : GenesisInputs J} {doc : GenesisDocument J}

theorem sum_micros (allocations : List Allocation) :
    (allocations.map (·.amountUpole * microsPerUpoles)).sum =
      (allocations.map (·.amountUpole)).sum * microsPerUpoles := by
  rw [List.sum_map_mul_right]

theorem amountOf_balanceEntry (a : Allocation) (denom : String) :
    amountOf denom (balanceEntry a).coins =
      if "upole" = denom then a.amountUpole * microsPerUpoles else 0 := by
  by_cases hdenom : "upole" = denom <;> simp [amountOf, balanceEntry, hdenom]

/-- The balances of a denomination sum up to the allocations, in micro-units. -/
theorem sum_balances (allocations : List Allocation) (denom : String) :
    ((allocations.map balanceEntry).map fun balance => amountOf denom balance.coins).sum =
      if "upole" = denom then (allocations.map (·.amountUpole)).sum * microsPerUpoles else 0 := by
  rw [List.map_map, ← sum_micros]
  by_cases hdenom : "upole" = denom
  · simp only [if_pos hdenom]
    congr 1
    apply List.map_congr_left
    intro a _
    rw [Function.comp_apply, amountOf_balanceEntry, if_pos hdenom]
  · simp only [if_neg hdenom]
    apply List.sum_eq_zero
    intro x hx
    obtain ⟨a, -, rfl⟩ := List.mem_map.mp hx
    rw [Function.comp_apply, amountOf_balanceEntry, if_neg hdenom]

/-- A sum that fits its word was checked as it is. -/
theorem sum_le_of_fits (h : build policy fromHexError ofNumber inputs = .ok doc)
    (hfits : (inputs.allocations.map (·.amountUpole)).sum < 2 ^ 128) :
    (inputs.allocations.map (·.amountUpole)).sum ≤ defaultTotalSupplyUpoles := by
  obtain ⟨⟨total, htotal, hbound⟩, -⟩ := build_eq_ok h
  rw [Overflow.sumFrom_of_lt (by omega), Option.some.injEq] at htotal
  omega

/-- The stakes that fit are written as they are. -/
theorem tokens_of_fits {validators : List ValidatorSpec} {written : List StakingValidator}
    (h : validators.mapM (stakingValidator policy) = .ok written)
    (hfits : ∀ v ∈ validators, v.stakeUpole * microsPerUpoles < 2 ^ 128) :
    written.map (·.tokens) = validators.map (·.stakeUpole * microsPerUpoles) := by
  have hpairs := mapM_eq_ok.mp h
  clear h
  induction hpairs with
  | nil => rfl
  | cons hwritten _ ih =>
      obtain ⟨hv, hvs⟩ := List.forall_mem_cons.mp hfits
      have htokens := stakingValidator_eq_ok hwritten
      rw [policy.mul_of_lt hv, Option.some.injEq] at htokens
      rw [List.map_cons, List.map_cons, ← htokens, ih hvs]

/-- With overflow checks every stake that is written fits. -/
theorem stakes_fit {validators : List ValidatorSpec} {written : List StakingValidator}
    (h : validators.mapM (stakingValidator .panic) = .ok written) :
    ∀ v ∈ validators, v.stakeUpole * microsPerUpoles < 2 ^ 128 := by
  intro v hv
  obtain ⟨validator, _, hwritten⟩ := ok_of_mapM_ok h v hv
  by_contra hlarge
  have htokens := stakingValidator_eq_ok hwritten
  rw [Overflow.mul_panic_of_le (Nat.not_lt.mp hlarge)] at htokens
  cases htokens

/-- A build with overflow checks accepts only sums and products that fit. -/
theorem checked_build_fits (h : build .panic fromHexError ofNumber inputs = .ok doc) :
    (inputs.allocations.map (·.amountUpole)).sum < 2 ^ 128 ∧
      ∀ v ∈ inputs.validators, v.stakeUpole * microsPerUpoles < 2 ^ 128 := by
  obtain ⟨⟨total, htotal, -⟩, -, hstaking⟩ := build_eq_ok h
  have hsum := (Overflow.sumFrom_panic (by omega) htotal).1
  rw [Nat.zero_add] at hsum
  exact ⟨hsum, stakes_fit hstaking⟩

/-- A parameter that the inputs do not override keeps its default. -/
theorem populatePoleParams_default {key : String}
    (hkey : key ∉ (inputs.paramsOverrides.getD []).map (·.1)) :
    (populatePoleParams ofNumber inputs)[key]? =
      (defaultPoleParams.foldl (fun params (key, value) =>
        params.insert key (ofNumber value)) (∅ : OrderedMap String J))[key]? :=
  OrderedMap.get_foldl_update_of_not_mem Prod.fst (fun entry _ => entry.2) _ hkey

/-- An accepted document is consistent exactly when no address is allocated twice, the allocations
sum up inside a word and so does every stake in micro-units. -/
theorem genesis_consistent_iff (h : build policy fromHexError ofNumber inputs = .ok doc) :
    doc.Consistent inputs ↔
      (inputs.allocations.map (·.address)).Nodup ∧
        (inputs.allocations.map (·.amountUpole)).sum < 2 ^ 128 ∧
        ∀ v ∈ inputs.validators, v.stakeUpole * microsPerUpoles < 2 ^ 128 := by
  obtain ⟨-, hbank, hstaking⟩ := build_eq_ok h
  obtain ⟨hbalances, hamounts, hothers, hsupply⟩ := populateBank_spec hbank
  have haddresses : doc.balances.map (·.address) = inputs.allocations.map (·.address) := by
    rw [hbalances, List.map_map]
    rfl
  constructor
  · intro hconsistent
    refine ⟨haddresses ▸ hconsistent.addresses, hconsistent.sumFits, hconsistent.stakesFit⟩
  · rintro ⟨hdistinct, hfits, hstakes⟩
    have hsum := sum_le_of_fits h hfits
    have hmicros : (inputs.allocations.map (·.amountUpole * microsPerUpoles)).sum ≤
        defaultTotalSupplyUpoles * microsPerUpoles := by
      rw [sum_micros]
      exact Nat.mul_le_mul_right _ hsum
    have hword : defaultTotalSupplyUpoles * microsPerUpoles < 2 ^ 128 := by decide
    have hexact : amountOf "upole" doc.supply =
        (inputs.allocations.map (·.amountUpole)).sum * microsPerUpoles := by
      rw [Overflow.sumFrom_of_lt (by omega), Option.some.injEq, Nat.zero_add] at hsupply
      rw [← hsupply, sum_micros]
    refine ⟨fun denom => ?_, ?_, haddresses ▸ hdistinct, tokens_of_fits hstaking hstakes, hfits,
      hmicros.trans_lt hword, hamounts, hstakes⟩
    · rw [hbalances, sum_balances]
      split
      · next hdenom => rw [← hdenom, hexact]
      · next hdenom => exact hothers denom (Ne.symm hdenom)
    · rw [hexact]
      exact Nat.mul_le_mul_right _ hsum

end Consistency

end Build

/-! ## A repeated address -/

namespace GenesisSample

def validator (stakeUpole : ℕ) : ValidatorSpec :=
  { moniker := "v1", operatorAddress := "cosmosvaloper1xxx",
    consensusPubkeyHex := String.ofList (List.replicate 64 '0'), stakeUpole }

def inputs (allocations : List Allocation) (stakeUpole : ℕ) : GenesisInputs ℕ :=
  { chainId := "pole-test", allocations, validators := [validator stakeUpole] }

def twoAccounts : List Allocation := [⟨"cosmos1abc", 1000⟩, ⟨"cosmos1def", 2000⟩]

def oneAccountTwice : List Allocation := [⟨"cosmos1abc", 1000⟩, ⟨"cosmos1abc", 2000⟩]

/-- What the builder makes of the allocations and one validator. -/
def built (policy : Overflow) (allocations : List Allocation) (stakeUpole : ℕ) :
    Attempt GenesisError (GenesisDocument ℕ) :=
  build policy id id (inputs allocations stakeUpole)

theorem built_isOk {policy : Overflow} {allocations : List Allocation} {stakeUpole : ℕ}
    (h : (built policy allocations stakeUpole).isOk = true) :
    ∃ doc, build policy id id (inputs allocations stakeUpole) = .ok doc := by
  unfold built at h
  cases hb : build policy id id (inputs allocations stakeUpole) with
  | ok doc => exact ⟨doc, rfl⟩
  | error e =>
      rw [hb] at h
      cases h

end GenesisSample

open GenesisSample in
/-- The theorem at two accounts with one allocation each. -/
theorem genesis_of_two_accounts :
    ∃ doc, build .panic id id (inputs twoAccounts 1000000) = .ok doc ∧
      doc.Consistent (inputs twoAccounts 1000000) := by
  obtain ⟨doc, hdoc⟩ := @built_isOk .panic twoAccounts 1000000 (by decide +kernel)
  exact ⟨doc, hdoc, (genesis_consistent_iff hdoc).mpr (by decide)⟩

open GenesisSample in
/-- A table that allocates to one address twice is accepted, and the document has two balances of
that address. -/
theorem repeated_address_accepted :
    loadAllocationsCsv "cosmos1abc,1000\ncosmos1abc,2000" = .ok oneAccountTwice ∧
      ∃ doc, build .panic id id (inputs oneAccountTwice 1000000) = .ok doc ∧
        ¬ doc.Consistent (inputs oneAccountTwice 1000000) := by
  obtain ⟨doc, hdoc⟩ := @built_isOk .panic oneAccountTwice 1000000 (by decide +kernel)
  refine ⟨by decide +kernel, doc, hdoc, fun hconsistent => ?_⟩
  have hbalances := (populateBank_spec (build_eq_ok hdoc).2.1).1
  have haddresses := hconsistent.addresses
  rw [hbalances, List.map_map] at haddresses
  revert haddresses
  decide

open GenesisSample in
/-- Without overflow checks a stake that leaves its word is accepted too, and no tokens are written
for it. -/
theorem overflowing_stake_accepted :
    ∃ doc, build .wrap id id (inputs twoAccounts (2 ^ 122)) = .ok doc ∧
      doc.validators.map (·.tokens) = [0] := by
  obtain ⟨doc, hdoc⟩ := @built_isOk .wrap twoAccounts (2 ^ 122) (by decide +kernel)
  refine ⟨doc, hdoc, ?_⟩
  have hstaking : [validator (2 ^ 122)].mapM (stakingValidator .wrap) = .ok doc.validators :=
    (build_eq_ok hdoc).2.2
  simp only [List.mapM_cons, List.mapM_nil, bind_eq_ok, pure_eq_ok] at hstaking
  obtain ⟨written, hwritten, _, rfl, hvalidators⟩ := hstaking
  have htokens := stakingValidator_eq_ok hwritten
  have hwrapped : Overflow.wrap.mul 128 (2 ^ 122) microsPerUpoles = some 0 := by decide
  rw [validator, hwrapped, Option.some.injEq] at htokens
  rw [← hvalidators, List.map_cons, List.map_nil, htokens]

end PoleProtocol.Node
