import PoleProtocol.Node.EpochRewards

/-!
# Shares of an epoch

The split over scores hands out its whole pool, and so does the split over witness credits, unless
the saturated total lets the rounded shares exceed it. Shares that are gathered by node keep their
sums, and a node keeps the account it is named by last.
-/

namespace PoleProtocol.Node

open Framework Ledger OrderedMap

/-! ## The split over scores -/

section Scores

variable {weights : OrderedMap NodeId ℕ} {pool : ℕ}

/-- The loop over the scores, as three separate passes. -/
theorem foldl_shareOut {totalWeight : ℕ} {entries : List (NodeId × ℕ)}
    (hentries : ∀ entry ∈ entries, pool * entry.2 < 2 ^ 128) (allocations : OrderedMap NodeId ℕ)
    (distributed : ℕ) (remainders : List (ℕ × NodeId)) :
    entries.foldl (shareOut pool totalWeight)
        (allocations, min distributed (2 ^ 128 - 1), remainders) =
      (entries.foldl
          (fun allocations entry => allocations.insert entry.1 (pool * entry.2 / totalWeight))
          allocations,
        min (distributed + (entries.map fun entry => pool * entry.2 / totalWeight).sum)
          (2 ^ 128 - 1),
        remainders ++ entries.map fun entry => (pool * entry.2 % totalWeight, entry.1)) := by
  induction entries generalizing allocations distributed remainders with
  | nil => simp
  | cons entry entries ih =>
      have hrest := ih fun e he => hentries e (List.mem_cons_of_mem entry he)
      have hproduct : saturatingMul128 pool entry.2 = pool * entry.2 :=
        saturatingMul128_of_lt (hentries entry List.mem_cons_self)
      have hshare : shareOut pool totalWeight
          (allocations, min distributed (2 ^ 128 - 1), remainders) entry =
            (allocations.insert entry.1 (pool * entry.2 / totalWeight),
              min (distributed + pool * entry.2 / totalWeight) (2 ^ 128 - 1),
              remainders ++ [(pool * entry.2 % totalWeight, entry.1)]) := by
        unfold shareOut
        simp only [hproduct, saturatingAdd128_min]
      rw [List.foldl_cons, hshare, hrest, List.foldl_cons]
      simp only [List.map_cons, List.sum_cons, List.append_assoc, List.singleton_append,
        Nat.add_assoc]

/-- Going around a ranking hands out every unit. -/
theorem amount_handAround {remainders : List (ℕ × NodeId)} (hsome : remainders ≠ [])
    (leftover index : ℕ) (allocations : OrderedMap NodeId ℕ) :
    amount (handAround remainders leftover index allocations) = amount allocations + leftover := by
  induction leftover generalizing index allocations with
  | zero => rfl
  | succ leftover ih =>
      have hindex : index % remainders.length < remainders.length :=
        Nat.mod_lt _ (List.length_pos_of_ne_nil hsome)
      rw [handAround, List.getElem?_eq_getElem hindex]
      change amount (handAround remainders leftover (index + 1) _) = _
      rw [ih, amount_addAmount]
      omega

theorem keySet_handAround {remainders : List (ℕ × NodeId)} (leftover index : ℕ)
    {allocations : OrderedMap NodeId ℕ} (h : ∀ entry ∈ remainders, entry.2 ∈ keySet allocations) :
    keySet (handAround remainders leftover index allocations) = keySet allocations := by
  induction leftover generalizing index allocations with
  | zero => rfl
  | succ leftover ih =>
      rw [handAround]
      split
      · next entry hget =>
          have hkey := h entry (List.mem_of_getElem? hget)
          have hsame := keySet_addAmount 1 hkey
          rw [ih (index + 1) (by rwa [hsame]), hsame]
      · rfl

/-- There is a pool, and a score to split it over. -/
def Splits (weights : OrderedMap NodeId ℕ) (pool : ℕ) : Prop := pool ≠ 0 ∧ amount weights ≠ 0

instance : Decidable (Splits weights pool) := inferInstanceAs (Decidable (_ ∧ _))

/-- Inside 128 bits the split writes the rounded shares and hands out the rest. -/
theorem allocateProportional_eq (hproducts : ∀ entry ∈ weights.toList, pool * entry.2 < 2 ^ 128)
    (hweights : amount weights < 2 ^ 128) :
    allocateProportional weights pool =
      if Splits weights pool then
        handAround
          ((weights.toList.map fun entry =>
            (pool * entry.2 % amount weights, entry.1)).insertionSort largestFirst)
          (pool - min (weights.toList.map fun entry => pool * entry.2 / amount weights).sum
            (2 ^ 128 - 1)) 0
          (shareOf (fun weight => pool * weight / amount weights) weights)
      else ∅ := by
  have htotal : sumAmounts (weights.toList.map (·.2)) = amount weights :=
    sumAmounts_of_lt hweights
  unfold allocateProportional
  simp only [htotal]
  by_cases hsplits : Splits weights pool
  · have hsome : ¬ (pool = 0 ∨ weights.isEmpty = true) := by
      rintro (hpool | hempty)
      · exact hsplits.1 hpool
      · rw [Std.ExtTreeMap.isEmpty_iff] at hempty
        exact hsplits.2 (by rw [hempty, amount, total_empty])
    have hloop := @foldl_shareOut pool (amount weights) _ hproducts ∅ 0 []
    rw [Nat.zero_min, Nat.zero_add, List.nil_append] at hloop
    rw [if_neg hsome, if_neg hsplits.2, if_pos hsplits, hloop]
    rfl
  · rw [if_neg hsplits]
    by_cases hpool : pool = 0 ∨ weights.isEmpty = true
    · rw [if_pos hpool]
    · have hzero : amount weights = 0 := by
        by_contra hne
        exact hsplits ⟨fun h => hpool (.inl h), hne⟩
      rw [if_neg hpool, if_pos hzero]

variable (hproducts : ∀ entry ∈ weights.toList, pool * entry.2 < 2 ^ 128)
  (hweights : amount weights < 2 ^ 128)

include hproducts hweights

/-- The whole pool is split. -/
theorem amount_allocateProportional (hpool : pool < 2 ^ 128) (hsome : amount weights ≠ 0) :
    amount (allocateProportional weights pool) = pool := by
  rw [allocateProportional_eq hproducts hweights]
  by_cases hzero : pool = 0
  · rw [if_neg fun h => h.1 hzero, hzero, amount, total_empty]
  · have hle := @sum_quota_le NodeId weights.toList pool (Nat.pos_of_ne_zero hsome)
    have hshares : (weights.toList.map fun entry => pool * entry.2 / amount weights).sum ≤ pool :=
      hle
    have hranked : (weights.toList.map fun entry =>
        (pool * entry.2 % amount weights, entry.1)).insertionSort largestFirst ≠ [] := by
      intro hempty
      have hlength := congrArg List.length hempty
      rw [List.length_insertionSort, List.length_map, List.length_nil] at hlength
      exact hsome (by rw [amount_eq_sum, List.length_eq_zero_iff.mp hlength]; rfl)
    rw [if_pos ⟨hzero, hsome⟩, amount_handAround hranked, amount_shareOf]
    omega

theorem keySet_allocateProportional :
    keySet (allocateProportional weights pool) =
      if Splits weights pool then keySet weights else ∅ := by
  rw [allocateProportional_eq hproducts hweights]
  by_cases hsplits : Splits weights pool
  · rw [if_pos hsplits, if_pos hsplits, keySet_handAround, keySet_shareOf]
    intro entry hentry
    rw [keySet_shareOf, mem_keySet]
    obtain ⟨⟨nodeId, weight⟩, hmem, rfl⟩ :=
      List.mem_map.mp ((List.perm_insertionSort _ _).subset hentry)
    rw [mem_toList.mp hmem]
    exact Option.some_ne_none weight
  · rw [if_neg hsplits, if_neg hsplits, keySet_empty]

end Scores

/-! ## The split over credits -/

section Credits

variable {credits : OrderedMap String ℕ} {pool : ℕ}

/-- Every unit handed out is added, as long as there are witnesses left. -/
theorem amount_handOut {remainders : List (ℕ × String)} (leftover : ℕ)
    {allocation : OrderedMap String ℕ} (h : ∀ entry ∈ remainders, entry.2 ∈ keySet allocation) :
    amount (handOut leftover remainders allocation) =
      amount allocation + min leftover remainders.length := by
  induction remainders generalizing leftover allocation with
  | nil => cases leftover <;> simp [handOut]
  | cons entry remainders ih =>
      cases leftover with
      | zero => simp [handOut]
      | succ leftover =>
          have hkey := h entry List.mem_cons_self
          obtain ⟨share, hshare⟩ := Option.ne_none_iff_exists'.mp (mem_keySet.mp hkey)
          have hadd : addAmount allocation entry.2 1 = allocation.insert entry.2 (share + 1) := by
            rw [addAmount, hshare, Option.getD_some]
          have hrest : ∀ e ∈ remainders, e.2 ∈ keySet (addAmount allocation entry.2 1) := by
            rw [keySet_addAmount 1 hkey]
            exact fun e he => h e (List.mem_cons_of_mem entry he)
          rw [handOut, hshare]
          change amount (handOut leftover remainders (allocation.insert entry.2 (share + 1))) = _
          rw [← hadd, ih leftover hrest, amount_addAmount, List.length_cons]
          omega

theorem keySet_handOut (remainders : List (ℕ × String)) (leftover : ℕ)
    (allocation : OrderedMap String ℕ) :
    keySet (handOut leftover remainders allocation) = keySet allocation := by
  induction remainders generalizing leftover allocation with
  | nil => cases leftover <;> rfl
  | cons entry remainders ih =>
      cases leftover with
      | zero => rfl
      | succ leftover =>
          rw [handOut, ih]
          split
          · next amount hget =>
              rw [keySet_insert, Finset.insert_eq_of_mem]
              exact mem_keySet.mpr (by rw [hget]; exact Option.some_ne_none amount)
          · rfl

/-- Every credited witness gets a share, and nobody else. -/
theorem keySet_allocateWitnessRewards
    (hproducts : ∀ entry ∈ credits.toList, pool * entry.2 < 2 ^ 128) :
    keySet (allocateWitnessRewards credits pool) = keySet credits := by
  unfold allocateWitnessRewards
  dsimp only
  split
  · exact keySet_shareOf (fun _ => 0) credits
  · have hloop := @foldl_roundShare pool
      ((credits.toList.map (·.2)).foldl saturatingAdd64 0) _ hproducts ∅ 0 []
    rw [Nat.zero_min] at hloop
    rw [hloop]
    exact (keySet_handOut _ _ _).trans (keySet_shareOf (fun credit => pool * credit /
      (credits.toList.map (·.2)).foldl saturatingAdd64 0) credits)

/-- The total of the credits is a 64-bit word that saturates. -/
def creditTotal (credits : OrderedMap String ℕ) : ℕ := min (amount credits) (2 ^ 64 - 1)

/-- What the rounded shares of the pool come to. -/
def roundedTotal (credits : OrderedMap String ℕ) (pool : ℕ) : ℕ :=
  (credits.toList.map fun entry => pool * entry.2 / creditTotal credits).sum

/-- Credits share out the whole pool, or what their rounded shares come to if that is more. -/
theorem amount_allocateWitnessRewards
    (hproducts : ∀ entry ∈ credits.toList, pool * entry.2 < 2 ^ 128)
    (hpool : pool < 2 ^ 128) (hsome : amount credits ≠ 0) :
    amount (allocateWitnessRewards credits pool) = max pool (roundedTotal credits pool) := by
  have htotal : (credits.toList.map (·.2)).foldl saturatingAdd64 0 = creditTotal credits := by
    have hfold := foldl_saturatingAdd64 (credits.toList.map (·.2)) 0
    rwa [Nat.zero_min, Nat.zero_add] at hfold
  have hpositive : 0 < creditTotal credits := by
    unfold creditTotal
    omega
  unfold allocateWitnessRewards
  simp only [htotal]
  by_cases hzero : pool = 0
  · have hempty : amount (shareOf (fun _ => 0) credits) = 0 := by
      rw [amount_shareOf]
      simp
    rw [if_pos (.inl hzero)]
    refine hempty.trans ?_
    subst hzero
    simp [roundedTotal]
  · rw [if_neg (not_or.mpr ⟨hzero, hpositive.ne'⟩)]
    have hloop := @foldl_roundShare pool (creditTotal credits) _ hproducts ∅ 0 []
    rw [Nat.zero_min, Nat.zero_add, List.nil_append] at hloop
    rw [hloop]
    have hkeys : ∀ entry ∈ (((credits.toList.filter (·.2 ≠ 0)).map fun entry =>
        (pool * entry.2 % creditTotal credits, entry.1)).insertionSort remainderFirst),
        entry.2 ∈ keySet (shareOf (fun credit => pool * credit / creditTotal credits) credits) := by
      intro entry hentry
      rw [keySet_shareOf, mem_keySet]
      obtain ⟨⟨witness, credit⟩, hmem, rfl⟩ :=
        List.mem_map.mp ((List.perm_insertionSort _ _).subset hentry)
      rw [mem_toList.mp (List.mem_filter.mp hmem).1]
      exact Option.some_ne_none credit
    -- the witnesses without credit add nothing to the rounded shares
    have hfilter : ∀ (f : ℕ → ℕ), f 0 = 0 →
        ((credits.toList.filter (·.2 ≠ 0)).map fun entry => f entry.2).sum =
          (credits.toList.map fun entry => f entry.2).sum := by
      intro f hf
      refine sum_filter_of_zero (fun entry : String × ℕ => entry.2 ≠ 0) (fun entry => f entry.2)
        fun entry _ hzero => ?_
      rw [not_not.mp hzero, hf]
    have hrounded := hfilter (fun credit => pool * credit / creditTotal credits) (by simp)
    have hcredits := hfilter id rfl
    have hlength : pool ≤ roundedTotal credits pool +
        (credits.toList.filter (·.2 ≠ 0)).length := by
      have hle : creditTotal credits ≤ ((credits.toList.filter (·.2 ≠ 0)).map (·.2)).sum := by
        calc creditTotal credits ≤ amount credits := min_le_left _ _
          _ = ((credits.toList.filter (·.2 ≠ 0)).map (·.2)).sum := hcredits.symm
      have hbound := pool_le_quotients_add_length pool hpositive hle
      rw [List.map_map, List.length_map] at hbound
      calc pool ≤ _ := hbound
        _ = _ := by
            rw [roundedTotal, ← hrounded]
            rfl
    have hhanded := amount_handOut (pool - min ((credits.toList.filter (·.2 ≠ 0)).map fun entry =>
      pool * entry.2 / creditTotal credits).sum (2 ^ 128 - 1)) hkeys
    refine hhanded.trans ?_
    rw [hrounded, amount_shareOf, List.length_insertionSort, List.length_map]
    change roundedTotal credits pool + min (pool - min (roundedTotal credits pool) (2 ^ 128 - 1))
      (credits.toList.filter (·.2 ≠ 0)).length = _
    omega

/-- The rounded shares stay within the pool: the credits come to a 64-bit word, or the division by
the saturated total rounds enough of them down. -/
def CreditsDivide (credits : OrderedMap String ℕ) (pool : ℕ) : Prop :=
  amount credits < 2 ^ 64 ∨
    (credits.toList.map fun entry => pool * entry.2 / (2 ^ 64 - 1)).sum ≤ pool

theorem creditsDivide_iff (hsome : amount credits ≠ 0) :
    CreditsDivide credits pool ↔ roundedTotal credits pool ≤ pool := by
  unfold CreditsDivide roundedTotal creditTotal
  by_cases hword : amount credits < 2 ^ 64
  · have hle := @sum_quota_le String credits.toList pool (Nat.pos_of_ne_zero hsome)
    have htotal : min (amount credits) (2 ^ 64 - 1) = amount credits := by omega
    rw [htotal]
    exact iff_of_true (.inl hword) hle
  · have htotal : min (amount credits) (2 ^ 64 - 1) = 2 ^ 64 - 1 := by omega
    rw [htotal]
    exact or_iff_right hword

end Credits

/-! ## The shares of an epoch -/

/-- What a node has a share in the epoch for. -/
inductive ShareKind where
  | collect
  | store
  | name
  | play
  | credited
  | attested
  | propose
  deriving DecidableEq

/-- A share of a node, with the account that the node is named by along with it. -/
structure RewardShare where
  kind : ShareKind
  nodeId : NodeId
  account : Option String
  amount : ℕ

def ShareKind.credit (kind : ShareKind) (amount : ℕ) (record : RewardRecord) : RewardRecord :=
  match kind with
  | .collect => { record with collectReward := record.collectReward + amount }
  | .store => { record with storeReward := record.storeReward + amount }
  | .name => record
  | .play => { record with playerReward := record.playerReward + amount }
  | .credited => { record with verifyReward := saturatingAdd128 record.verifyReward amount }
  | .attested => { record with verifyReward := record.verifyReward + amount }
  | .propose => { record with proposeReward := record.proposeReward + amount }

def applyShare (epochId : ℕ) (rewards : RewardMap) (share : RewardShare) : RewardMap :=
  updateReward epochId rewards share.nodeId fun record =>
    share.kind.credit share.amount (stampRecipient share.account record)

/-- The name of a node after one more share. -/
def nameNode (nodeId : NodeId) (name : String) (role : NodeId × Option String) : String :=
  if role.1 = nodeId then
    match role.2 with
    | some address => if address ≠ "" then address else name
    | none => name
  else name

/-- The account that a node is named by last; it is empty for a node without a name. -/
def lastAccount (roles : List (NodeId × Option String)) (nodeId : NodeId) : String :=
  roles.foldl (nameNode nodeId) ""

def RewardShare.role (share : RewardShare) : NodeId × Option String :=
  (share.nodeId, share.account)

theorem stampRecipient_eq (account : Option String) (record : RewardRecord) :
    ∃ address, stampRecipient account record = { record with recipientAddress := address } := by
  unfold stampRecipient
  split
  · split
    · exact ⟨_, rfl⟩
    · exact ⟨record.recipientAddress, rfl⟩
  · exact ⟨record.recipientAddress, rfl⟩

theorem stampRecipient_address (account : Option String) (record : RewardRecord) :
    (stampRecipient account record).recipientAddress =
      nameNode record.nodeId record.recipientAddress (record.nodeId, account) := by
  unfold stampRecipient nameNode
  rw [if_pos rfl]
  cases account with
  | none => rfl
  | some address => dsimp only; split <;> rfl

/-- A share changes nothing else about a record than its own component and the name. -/
theorem credit_stamp (share : RewardShare) (record : RewardRecord) :
    (share.kind.credit share.amount (stampRecipient share.account record)).nodeId =
        record.nodeId ∧
      (share.kind.credit share.amount (stampRecipient share.account record)).epochId =
        record.epochId ∧
      (share.kind.credit share.amount (stampRecipient share.account record)).slashDebit =
        record.slashDebit ∧
      (share.kind.credit share.amount (stampRecipient share.account record)).recipientAddress =
        nameNode record.nodeId record.recipientAddress (record.nodeId, share.account) := by
  have hstamp : (stampRecipient share.account record).nodeId = record.nodeId ∧
      (stampRecipient share.account record).epochId = record.epochId ∧
      (stampRecipient share.account record).slashDebit = record.slashDebit := by
    unfold stampRecipient
    split
    · split <;> exact ⟨rfl, rfl, rfl⟩
    · exact ⟨rfl, rfl, rfl⟩
  rw [← stampRecipient_address]
  cases share.kind <;> exact ⟨hstamp.1, hstamp.2.1, hstamp.2.2, rfl⟩

/-- What the gathered records say besides their components. -/
structure Gathered (epochId : ℕ) (shares : List RewardShare) (nodeId : NodeId)
    (record : RewardRecord) : Prop where
  node : record.nodeId = nodeId
  epoch : record.epochId = epochId
  noDebit : record.slashDebit = 0
  name : record.recipientAddress = lastAccount (shares.map RewardShare.role) nodeId

section Gathering

variable (epochId : ℕ) (shares : List RewardShare)

def gather : RewardMap := shares.foldl (applyShare epochId) ∅

theorem gather_concat (share : RewardShare) :
    gather epochId (shares ++ [share]) = applyShare epochId (gather epochId shares) share := by
  rw [gather, List.foldl_append]
  rfl

theorem keySet_gather : keySet (gather epochId shares) = (shares.map (·.nodeId)).toFinset := by
  have hkeys := keySet_foldl_update (fun share : RewardShare => share.nodeId)
    (fun share old => share.kind.credit share.amount (stampRecipient share.account
      (old.getD (emptyRewardRecord epochId share.nodeId)))) shares ∅
  rw [keySet_empty, Finset.empty_union] at hkeys
  exact hkeys

variable {epochId shares}

theorem lastAccount_of_not_mem {roles : List (NodeId × Option String)} {nodeId : NodeId}
    (h : nodeId ∉ roles.map (·.1)) : lastAccount roles nodeId = "" := by
  induction roles using List.reverseRecOn with
  | nil => rfl
  | append_singleton roles role ih =>
      rw [List.map_append, List.mem_append, not_or] at h
      have hne : role.1 ≠ nodeId := by
        intro heq
        exact h.2 (by simp [heq])
      rw [lastAccount, List.foldl_append]
      change nameNode nodeId (lastAccount roles nodeId) role = ""
      rw [ih h.1, nameNode, if_neg hne]

theorem gathered {nodeId : NodeId} {record : RewardRecord}
    (h : (gather epochId shares)[nodeId]? = some record) :
    Gathered epochId shares nodeId record := by
  induction shares using List.reverseRecOn generalizing nodeId record with
  | nil => simp [gather] at h
  | append_singleton shares share ih =>
      have hname : ∀ name, lastAccount ((shares ++ [share]).map RewardShare.role) nodeId = name ↔
          nameNode nodeId (lastAccount (shares.map RewardShare.role) nodeId) share.role = name := by
        intro name
        rw [lastAccount, List.map_append, List.foldl_append]
        rfl
      rw [gather_concat, applyShare, updateReward, get_insert] at h
      by_cases hnode : share.nodeId = nodeId
      · -- the record of the share's node, or an empty one
        have hold : Gathered epochId shares nodeId
            ((gather epochId shares)[nodeId]?.getD (emptyRewardRecord epochId nodeId)) := by
          cases hget : (gather epochId shares)[nodeId]? with
          | some old => exact ih hget
          | none =>
              refine ⟨rfl, rfl, rfl, (lastAccount_of_not_mem ?_).symm⟩
              intro hmem
              rw [List.map_map] at hmem
              have hkey : nodeId ∈ keySet (gather epochId shares) := by
                rw [keySet_gather]
                exact List.mem_toFinset.mpr hmem
              exact mem_keySet.mp hkey hget
        subst hnode
        rw [if_pos rfl] at h
        obtain ⟨hnodeId, hepoch, hdebit, haddress⟩ := credit_stamp share
          ((gather epochId shares)[share.nodeId]?.getD (emptyRewardRecord epochId share.nodeId))
        rw [Option.some.inj h] at hnodeId hepoch hdebit haddress
        refine ⟨hnodeId.trans hold.node, hepoch.trans hold.epoch, hdebit.trans hold.noDebit, ?_⟩
        rw [haddress, hold.node, hold.name]
        exact ((hname _).mpr rfl).symm
      · rw [if_neg hnode] at h
        have hold := ih h
        refine ⟨hold.node, hold.epoch, hold.noDebit, hold.name.trans ?_⟩
        refine ((hname _).mpr ?_).symm
        exact if_neg hnode

/-- A component that a share adds to is, over all records, the sum of what the shares add. -/
theorem total_gather {component : RewardRecord → ℕ} {added : RewardShare → ℕ}
    (hempty : ∀ nodeId, component (emptyRewardRecord epochId nodeId) = 0)
    (hcredit : ∀ share record, component record + added share < 2 ^ 128 →
      component (share.kind.credit share.amount (stampRecipient share.account record)) =
        component record + added share)
    (hfits : (shares.map added).sum < 2 ^ 128) :
    total (fun _ record => component record) (gather epochId shares) = (shares.map added).sum := by
  induction shares using List.reverseRecOn with
  | nil => simp [gather]
  | append_singleton shares share ih =>
      rw [List.map_append, List.sum_append, List.map_singleton, List.sum_singleton] at hfits ⊢
      have htotal := ih (by omega)
      have hinsert := total_insert_add (fun (_ : NodeId) record => component record)
        (gather epochId shares) share.nodeId
        (share.kind.credit share.amount (stampRecipient share.account
          ((gather epochId shares)[share.nodeId]?.getD
            (emptyRewardRecord epochId share.nodeId))))
      rw [gather_concat, applyShare, updateReward]
      cases hget : (gather epochId shares)[share.nodeId]? with
      | none =>
          rw [hget, Option.getD_none, hcredit _ _ (by rw [hempty]; omega), hempty] at hinsert
          rw [Option.getD_none]
          simp only [Option.map_none, Option.getD_none] at hinsert
          omega
      | some old =>
          have hle := le_total (fun (_ : NodeId) record => component record) hget
          rw [hget, Option.getD_some, hcredit _ _ (by omega)] at hinsert
          rw [Option.getD_some]
          simp only [Option.map_some, Option.getD_some] at hinsert
          omega

end Gathering

end PoleProtocol.Node
