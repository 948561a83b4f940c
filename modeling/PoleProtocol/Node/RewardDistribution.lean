import PoleProtocol.Node.RewardShares

/-!
# The records of an epoch as a distribution

The records are gathered from the shares of the epoch, so that their components come to the pools.
Their recipients are distinct as long as different nodes come under different accounts.
-/

namespace PoleProtocol.Node

open Framework Ledger OrderedMap

/-! ## The records as gathered shares -/

namespace EpochRewardParts

variable (parts : EpochRewardParts)

/-- A share of the local node, which is named by its account where it has one. -/
def localShare (kind : ShareKind) (amount : ℕ) : RewardShare :=
  ⟨kind, parts.localNodeId, parts.localRecipient, amount⟩

def scoreShares : List RewardShare :=
  parts.collectRewards.toList.map (fun entry => ⟨.collect, entry.1, none, entry.2⟩) ++
    parts.storeRewards.toList.map fun entry => ⟨.store, entry.1, none, entry.2⟩

def verifyShares : List RewardShare :=
  if ¬ parts.credits.isEmpty then
    (allocateWitnessRewards parts.credits parts.pools.verifyPool).toList.map fun entry =>
      ⟨.credited, parts.witnessNode entry.1, some entry.1, entry.2⟩
  else if 0 < parts.pools.verifyPool ∧ 0 < parts.localAttestationCount then
    [parts.localShare .attested parts.pools.verifyPool]
  else []

/-- All shares in the order in which they are gathered; a local node among the scores is named
first. -/
def shares : List RewardShare :=
  parts.scoreShares ++
    (if parts.localNodeId ∈ parts.scoreShares.map (·.nodeId) then [parts.localShare .name 0]
      else []) ++
    (if 0 < parts.verifiedPlayerRewardTotal then
      [parts.localShare .play parts.verifiedPlayerRewardTotal]
    else []) ++
    parts.verifyShares ++
    (if 0 < parts.pools.proposePool then [parts.localShare .propose parts.pools.proposePool]
      else [])

variable {parts} {epochId : ℕ}

theorem gather_append (first second : List RewardShare) :
    gather epochId (first ++ second) = second.foldl (applyShare epochId) (gather epochId first) :=
  List.foldl_append

theorem merge_eq_gather :
    mergeRewardComponent epochId .store parts.storeRewards
        (mergeRewardComponent epochId .collect parts.collectRewards ∅) =
      gather epochId parts.scoreShares := by
  rw [scoreShares, gather_append, gather, List.foldl_map, List.foldl_map]
  rfl

theorem lastAccount_scoreShares (nodeId : NodeId) :
    lastAccount (parts.scoreShares.map RewardShare.role) nodeId = "" := by
  have hnone : ∀ roles : List (NodeId × Option String), (∀ role ∈ roles, role.2 = none) →
      lastAccount roles nodeId = "" := by
    intro roles hroles
    induction roles using List.reverseRecOn with
    | nil => rfl
    | append_singleton roles role ih =>
        have hrole := hroles role (by simp)
        rw [lastAccount, List.foldl_append]
        change nameNode nodeId (lastAccount roles nodeId) role = ""
        rw [ih fun r hr => hroles r (List.mem_append_left _ hr), nameNode, hrole]
        split <;> rfl
  apply hnone
  intro role hrole
  obtain ⟨share, hshare, rfl⟩ := List.mem_map.mp hrole
  rcases List.mem_append.mp hshare with hin | hin
  · obtain ⟨entry, -, rfl⟩ := List.mem_map.mp hin
    rfl
  · obtain ⟨entry, -, rfl⟩ := List.mem_map.mp hin
    rfl

/-- Naming the local record among the scores is one more share, without an amount. -/
theorem nameLocalRecord_eq :
    parts.nameLocalRecord (gather epochId parts.scoreShares) =
      gather epochId (parts.scoreShares ++
        if parts.localNodeId ∈ parts.scoreShares.map (·.nodeId) then [parts.localShare .name 0]
        else []) := by
  have hmem : parts.localNodeId ∈ parts.scoreShares.map (·.nodeId) ↔
      (gather epochId parts.scoreShares)[parts.localNodeId]? ≠ none := by
    rw [← mem_keySet, keySet_gather, List.mem_toFinset]
  by_cases hlocal : parts.localNodeId ∈ parts.scoreShares.map (·.nodeId)
  · obtain ⟨own, hown⟩ := Option.ne_none_iff_exists'.mp (hmem.mp hlocal)
    have hunnamed : own.recipientAddress = "" :=
      (gathered hown).name.trans (lastAccount_scoreShares _)
    rw [if_pos hlocal, gather_concat, applyShare, updateReward]
    change _ = (gather epochId parts.scoreShares).insert parts.localNodeId
      (stampRecipient parts.localRecipient
        ((gather epochId parts.scoreShares)[parts.localNodeId]?.getD
          (emptyRewardRecord epochId parts.localNodeId)))
    rw [hown, Option.getD_some, nameLocalRecord]
    cases parts.localRecipient with
    | none => exact (insert_get_self hown).symm
    | some address =>
        have hstamp :
            stampRecipient (some address) own = { own with recipientAddress := address } := by
          unfold stampRecipient
          dsimp only
          split
          · rfl
          · next hempty => rw [not_not.mp hempty, ← hunnamed]
        rw [hstamp]
        apply Std.ExtTreeMap.ext_getElem?
        intro nodeId
        rw [Std.ExtTreeMap.getElem?_map, get_insert]
        by_cases hnode : parts.localNodeId = nodeId
        · subst hnode
          rw [if_pos rfl, hown, Option.map_some, if_pos (gathered hown).node]
        · rw [if_neg hnode]
          cases hget : (gather epochId parts.scoreShares)[nodeId]? with
          | none => rfl
          | some record =>
              rw [Option.map_some, if_neg]
              rw [(gathered hget).node]
              exact Ne.symm hnode
  · rw [if_neg hlocal, List.append_nil, nameLocalRecord]
    cases parts.localRecipient with
    | none => rfl
    | some address =>
        apply Std.ExtTreeMap.ext_getElem?
        intro nodeId
        dsimp only
        rw [Std.ExtTreeMap.getElem?_map]
        cases hget : (gather epochId parts.scoreShares)[nodeId]? with
        | none => rfl
        | some record =>
            rw [Option.map_some, if_neg]
            rw [(gathered hget).node]
            rintro rfl
            exact hlocal (hmem.mpr (by rw [hget]; exact Option.some_ne_none record))

theorem creditPlayer_eq (rewards : RewardMap) :
    parts.creditPlayer epochId rewards =
      (if 0 < parts.verifiedPlayerRewardTotal then
        [parts.localShare .play parts.verifiedPlayerRewardTotal] else []).foldl
          (applyShare epochId) rewards := by
  unfold creditPlayer
  split <;> rfl

theorem creditVerification_eq (rewards : RewardMap) :
    parts.creditVerification epochId rewards =
      parts.verifyShares.foldl (applyShare epochId) rewards := by
  unfold creditVerification verifyShares
  split
  · rw [List.foldl_map]
    rfl
  · split <;> rfl

theorem creditProposal_eq (rewards : RewardMap) :
    parts.creditProposal epochId rewards =
      (if 0 < parts.pools.proposePool then [parts.localShare .propose parts.pools.proposePool]
        else []).foldl (applyShare epochId) rewards := by
  unfold creditProposal
  split <;> rfl

/-- The map of the source gathers the shares. -/
theorem rewardMap_eq_gather : parts.rewardMap epochId = gather epochId parts.shares := by
  unfold rewardMap shares
  dsimp only
  rw [merge_eq_gather, nameLocalRecord_eq, creditPlayer_eq, creditVerification_eq,
    creditProposal_eq]
  simp only [gather_append]

/-! ## Roles and accounts -/

variable (parts)

/-- The nodes that a pool is split over by their scores. -/
def scorers : List NodeId :=
  (if Splits parts.collectScores parts.pools.collectPool then parts.collectScores.keys else []) ++
    if Splits parts.storageScores parts.pools.storePool then parts.storageScores.keys else []

def localRole : NodeId × Option String := (parts.localNodeId, parts.localRecipient)

/-- Who has a part in the epoch, in the order of gathering, and the account each part names its
node by: scores name none, the parts of the local node its own, and a credit its witness. -/
def roles : List (NodeId × Option String) :=
  parts.scorers.map (fun nodeId => (nodeId, none)) ++
    (if parts.localNodeId ∈ parts.scorers then [parts.localRole] else []) ++
    (if 0 < parts.verifiedPlayerRewardTotal then [parts.localRole] else []) ++
    (if ¬ parts.credits.isEmpty then
      parts.credits.keys.map fun account => (parts.witnessNode account, some account)
    else if 0 < parts.pools.verifyPool ∧ 0 < parts.localAttestationCount then [parts.localRole]
    else []) ++
    (if 0 < parts.pools.proposePool then [parts.localRole] else [])

/-- The account of a node: the last name it is given, or its legacy account. -/
def accountOf (encodeBech32 : String → Bytes → Except String String) (nodeId : NodeId) :
    Except String String :=
  if lastAccount parts.roles nodeId ≠ "" then .ok (lastAccount parts.roles nodeId)
  else nodeIdToBech32 encodeBech32 nodeId

/-- Different nodes of the epoch have different accounts. -/
def DistinctAccounts (encodeBech32 : String → Bytes → Except String String) : Prop :=
  ∀ a ∈ parts.roles.map (·.1), ∀ b ∈ parts.roles.map (·.1),
    parts.accountOf encodeBech32 a = parts.accountOf encodeBech32 b → a = b

/-- No amount of the epoch leaves its 128 bits. -/
structure AmountsFit : Prop where
  collectProducts : ∀ entry ∈ parts.collectScores.toList,
    parts.pools.collectPool * entry.2 < 2 ^ 128
  collectScores : amount parts.collectScores < 2 ^ 128
  storeProducts : ∀ entry ∈ parts.storageScores.toList, parts.pools.storePool * entry.2 < 2 ^ 128
  storageScores : amount parts.storageScores < 2 ^ 128
  creditProducts : ∀ entry ∈ parts.credits.toList, parts.pools.verifyPool * entry.2 < 2 ^ 128
  rewards : (parts.shares.map (·.amount)).sum < 2 ^ 128

instance (encodeBech32 : String → Bytes → Except String String) :
    Decidable (parts.DistinctAccounts encodeBech32) :=
  @List.decidableBAll _ _ (fun a => @List.decidableBAll _
    (fun b => parts.accountOf encodeBech32 a = parts.accountOf encodeBech32 b → a = b)
    (fun _ => inferInstance) _) _

instance : Decidable parts.AmountsFit :=
  decidable_of_iff
    ((∀ entry ∈ parts.collectScores.toList, parts.pools.collectPool * entry.2 < 2 ^ 128) ∧
      amount parts.collectScores < 2 ^ 128 ∧
      (∀ entry ∈ parts.storageScores.toList, parts.pools.storePool * entry.2 < 2 ^ 128) ∧
      amount parts.storageScores < 2 ^ 128 ∧
      (∀ entry ∈ parts.credits.toList, parts.pools.verifyPool * entry.2 < 2 ^ 128) ∧
      (parts.shares.map (·.amount)).sum < 2 ^ 128)
    ⟨fun ⟨hcollect, hcollectScores, hstore, hstorageScores, hcredits, hrewards⟩ =>
        ⟨hcollect, hcollectScores, hstore, hstorageScores, hcredits, hrewards⟩,
      fun ⟨hcollect, hcollectScores, hstore, hstorageScores, hcredits, hrewards⟩ =>
        ⟨hcollect, hcollectScores, hstore, hstorageScores, hcredits, hrewards⟩⟩

variable {parts}

/-- A pool whose products with positive weights fit, fits. -/
theorem pool_lt {K : Type} [Ord K] [Std.TransOrd K] {weights : OrderedMap K ℕ} {pool : ℕ}
    (hproducts : ∀ entry ∈ weights.toList, pool * entry.2 < 2 ^ 128) (hsome : amount weights ≠ 0) :
    pool < 2 ^ 128 := by
  by_contra hlarge
  apply hsome
  rw [amount_eq_sum]
  refine List.sum_eq_zero ?_
  intro weight hweight
  obtain ⟨entry, hentry, rfl⟩ := List.mem_map.mp hweight
  have hproduct := hproducts entry hentry
  by_contra hpositive
  have hle : pool * 1 ≤ pool * entry.2 := Nat.mul_le_mul_left pool (Nat.pos_of_ne_zero hpositive)
  omega

theorem shares_roles (hfits : parts.AmountsFit) :
    parts.shares.map RewardShare.role = parts.roles := by
  have hkeys : ∀ {weights : OrderedMap NodeId ℕ} {pool : ℕ}
      (_ : ∀ entry ∈ weights.toList, pool * entry.2 < 2 ^ 128) (_ : amount weights < 2 ^ 128),
      (allocateProportional weights pool).toList.map (·.1) =
        if Splits weights pool then weights.keys else [] := by
    intro weights pool hproducts hweights
    have hset := keySet_allocateProportional hproducts hweights
    rw [← keys_eq_map]
    by_cases hsplits : Splits weights pool
    · rw [if_pos hsplits] at hset ⊢
      exact keys_eq_of_keySet hset
    · rw [allocateProportional_eq hproducts hweights, if_neg hsplits, if_neg hsplits]
      rw [keys_eq_map, Std.ExtTreeMap.toList_eq_nil_iff.mpr rfl]
      rfl
  have hnodes : parts.scoreShares.map (·.nodeId) = parts.scorers := by
    rw [scoreShares, List.map_append, List.map_map, List.map_map, scorers,
      ← hkeys hfits.collectProducts hfits.collectScores,
      ← hkeys hfits.storeProducts hfits.storageScores]
    rfl
  have hscores : parts.scoreShares.map RewardShare.role =
      parts.scorers.map fun nodeId => (nodeId, none) := by
    rw [← hnodes, List.map_map, scoreShares, List.map_append, List.map_append, List.map_map,
      List.map_map, List.map_map, List.map_map]
    rfl
  have hverify : parts.verifyShares.map RewardShare.role =
      if ¬ parts.credits.isEmpty then
        parts.credits.keys.map fun account => (parts.witnessNode account, some account)
      else if 0 < parts.pools.verifyPool ∧ 0 < parts.localAttestationCount then [parts.localRole]
      else [] := by
    unfold verifyShares
    split
    · rw [← keys_eq_of_keySet (keySet_allocateWitnessRewards hfits.creditProducts), keys_eq_map,
        List.map_map, List.map_map]
      rfl
    · split <;> rfl
  unfold shares roles
  simp only [List.map_append, hscores, hnodes, hverify]
  congr 1
  · congr 2
    · congr 1
      split <;> rfl
    · split <;> rfl
  · split <;> rfl

theorem chainRecipient_eq (hfits : parts.AmountsFit)
    (encodeBech32 : String → Bytes → Except String String) {nodeId : NodeId}
    {record : RewardRecord} (h : (parts.rewardMap epochId)[nodeId]? = some record) :
    chainRecipient encodeBech32 record = parts.accountOf encodeBech32 nodeId := by
  rw [rewardMap_eq_gather] at h
  obtain ⟨hnode, -, -, hname⟩ := gathered h
  rw [shares_roles hfits] at hname
  rw [chainRecipient, accountOf, hname, hnode]

/-- The recipients are distinct exactly when the accounts are. -/
theorem nodup_recipients_iff (hfits : parts.AmountsFit)
    (encodeBech32 : String → Bytes → Except String String) :
    ((OrderedMap.records (parts.rewardMap epochId)).map (chainRecipient encodeBech32)).Nodup ↔
      parts.DistinctAccounts encodeBech32 := by
  have hmap : (OrderedMap.records (parts.rewardMap epochId)).map (chainRecipient encodeBech32) =
      (parts.rewardMap epochId).keys.map (parts.accountOf encodeBech32) := by
    rw [OrderedMap.records, keys_eq_map, List.map_map, List.map_map]
    refine List.map_congr_left ?_
    rintro ⟨nodeId, record⟩ hentry
    exact chainRecipient_eq hfits encodeBech32 (mem_toList.mp hentry)
  have hmem : ∀ nodeId, nodeId ∈ (parts.rewardMap epochId).keys ↔
      nodeId ∈ parts.roles.map (·.1) := by
    intro nodeId
    rw [← List.mem_toFinset]
    change nodeId ∈ keySet _ ↔ _
    rw [rewardMap_eq_gather, keySet_gather, List.mem_toFinset, ← shares_roles hfits, List.map_map]
    rfl
  rw [hmap, List.nodup_map_iff_inj_on Std.ExtTreeMap.nodup_keys]
  simp only [hmem]
  rfl

/-! ## Sums -/

/-- What the shares of some kinds come to. -/
def sharesOf (shares : List RewardShare) (kinds : List ShareKind) : ℕ :=
  (shares.map fun share => if share.kind ∈ kinds then share.amount else 0).sum

theorem sharesOf_append (first second : List RewardShare) (kinds : List ShareKind) :
    sharesOf (first ++ second) kinds = sharesOf first kinds + sharesOf second kinds := by
  rw [sharesOf, List.map_append, List.sum_append]
  rfl

theorem sharesOf_le (shares : List RewardShare) (kinds : List ShareKind) :
    sharesOf shares kinds ≤ (shares.map (·.amount)).sum := by
  refine List.sum_le_sum ?_
  intro share _
  split
  · exact le_rfl
  · exact Nat.zero_le _

theorem sharesOf_if_local {p : Prop} [Decidable p] (kind : ShareKind) (amount : ℕ)
    (kinds : List ShareKind) :
    sharesOf (if p then [parts.localShare kind amount] else []) kinds =
      if p ∧ kind ∈ kinds then amount else 0 := by
  by_cases hp : p <;> simp [sharesOf, localShare, hp]

theorem sharesOf_map {K : Type} [Ord K] [Std.TransOrd K] (kind : ShareKind) (node : K → NodeId)
    (account : K → Option String) (rewards : OrderedMap K ℕ) (kinds : List ShareKind) :
    sharesOf (rewards.toList.map fun entry => ⟨kind, node entry.1, account entry.1, entry.2⟩)
      kinds = if kind ∈ kinds then amount rewards else 0 := by
  rw [sharesOf, List.map_map, amount_eq_sum]
  by_cases hkind : kind ∈ kinds
  · rw [if_pos hkind]
    congr 1
    refine List.map_congr_left ?_
    intro entry _
    exact if_pos hkind
  · rw [if_neg hkind]
    refine List.sum_eq_zero ?_
    intro a ha
    obtain ⟨entry, -, rfl⟩ := List.mem_map.mp ha
    exact if_neg hkind

theorem sharesOf_scoreShares (kinds : List ShareKind) :
    sharesOf parts.scoreShares kinds =
      (if ShareKind.collect ∈ kinds then amount parts.collectRewards else 0) +
        if ShareKind.store ∈ kinds then amount parts.storeRewards else 0 := by
  rw [scoreShares, sharesOf_append]
  exact congrArg₂ (· + ·) (sharesOf_map .collect id (fun _ => none) _ kinds)
    (sharesOf_map .store id (fun _ => none) _ kinds)

theorem sharesOf_verifyShares (kinds : List ShareKind) :
    sharesOf parts.verifyShares kinds =
      if ¬ parts.credits.isEmpty then
        if ShareKind.credited ∈ kinds then
          amount (allocateWitnessRewards parts.credits parts.pools.verifyPool)
        else 0
      else if 0 < parts.pools.verifyPool ∧ 0 < parts.localAttestationCount ∧
          ShareKind.attested ∈ kinds then parts.pools.verifyPool
      else 0 := by
  unfold verifyShares
  split
  · exact sharesOf_map .credited parts.witnessNode some _ kinds
  · rw [sharesOf_if_local]
    simp only [and_assoc]

theorem sharesOf_shares (kinds : List ShareKind) :
    sharesOf parts.shares kinds = sharesOf parts.scoreShares kinds +
      (if 0 < parts.verifiedPlayerRewardTotal ∧ ShareKind.play ∈ kinds then
        parts.verifiedPlayerRewardTotal else 0) +
      sharesOf parts.verifyShares kinds +
      if 0 < parts.pools.proposePool ∧ ShareKind.propose ∈ kinds then parts.pools.proposePool
        else 0 := by
  rw [shares, sharesOf_append, sharesOf_append, sharesOf_append, sharesOf_append,
    sharesOf_if_local, sharesOf_if_local, sharesOf_if_local]
  simp

/-- A component of the records comes to the shares of its kinds. -/
theorem total_rewardMap (hfits : parts.AmountsFit) (component : RewardRecord → ℕ)
    (kinds : List ShareKind)
    (hempty : ∀ nodeId, component (emptyRewardRecord epochId nodeId) = 0)
    (hcredit : ∀ (share : RewardShare) record,
      component record + (if share.kind ∈ kinds then share.amount else 0) < 2 ^ 128 →
      component (share.kind.credit share.amount (stampRecipient share.account record)) =
        component record + if share.kind ∈ kinds then share.amount else 0) :
    total (fun _ record => component record) (parts.rewardMap epochId) =
      sharesOf parts.shares kinds := by
  rw [rewardMap_eq_gather]
  exact total_gather hempty hcredit ((sharesOf_le _ _).trans_lt hfits.rewards)

/-- What a record distributes. -/
def components (record : RewardRecord) : ℕ :=
  record.playerReward + record.collectReward + record.storeReward + record.verifyReward +
    record.proposeReward

section Components

variable (hfits : parts.AmountsFit)

include hfits

theorem total_collectReward :
    total (fun _ record => record.collectReward) (parts.rewardMap epochId) =
      amount parts.collectRewards := by
  rw [total_rewardMap hfits (·.collectReward) [.collect] (fun _ => rfl), sharesOf_shares,
    sharesOf_scoreShares, sharesOf_verifyShares]
  · simp
  · intro share record _
    obtain ⟨address, hstamp⟩ := stampRecipient_eq share.account record
    rw [hstamp]
    cases share.kind <;> rfl

theorem total_storeReward :
    total (fun _ record => record.storeReward) (parts.rewardMap epochId) =
      amount parts.storeRewards := by
  rw [total_rewardMap hfits (·.storeReward) [.store] (fun _ => rfl), sharesOf_shares,
    sharesOf_scoreShares, sharesOf_verifyShares]
  · simp
  · intro share record _
    obtain ⟨address, hstamp⟩ := stampRecipient_eq share.account record
    rw [hstamp]
    cases share.kind <;> rfl

theorem total_verifyReward :
    total (fun _ record => record.verifyReward) (parts.rewardMap epochId) =
      sharesOf parts.verifyShares [.credited, .attested] := by
  rw [total_rewardMap hfits (·.verifyReward) [.credited, .attested] (fun _ => rfl), sharesOf_shares,
    sharesOf_scoreShares]
  · simp
  · intro share record hroom
    obtain ⟨address, hstamp⟩ := stampRecipient_eq share.account record
    rw [hstamp]
    revert hroom
    cases share.kind <;> intro hroom <;>
      simp only [ShareKind.credit, saturatingAdd128, List.mem_cons, reduceCtorEq, or_false,
        or_true, List.not_mem_nil, if_true, if_false, Nat.add_zero] at hroom ⊢
    omega

theorem total_proposeReward :
    total (fun _ record => record.proposeReward) (parts.rewardMap epochId) =
      parts.pools.proposePool := by
  rw [total_rewardMap hfits (·.proposeReward) [.propose] (fun _ => rfl), sharesOf_shares,
    sharesOf_scoreShares, sharesOf_verifyShares]
  · simp
    omega
  · intro share record _
    obtain ⟨address, hstamp⟩ := stampRecipient_eq share.account record
    rw [hstamp]
    cases share.kind <;> rfl

/-- No record distributes more than the epoch does. -/
theorem components_lt {nodeId : NodeId} {record : RewardRecord}
    (h : (parts.rewardMap epochId)[nodeId]? = some record) : components record < 2 ^ 128 := by
  have hall : ∀ (share : RewardShare) record, components record +
      (if share.kind ∈ [ShareKind.collect, .store, .play, .credited, .attested, .propose] then
        share.amount else 0) < 2 ^ 128 →
      components (share.kind.credit share.amount (stampRecipient share.account record)) =
        components record +
          if share.kind ∈ [ShareKind.collect, .store, .play, .credited, .attested, .propose] then
            share.amount else 0 := by
    intro share record hroom
    obtain ⟨address, hstamp⟩ := stampRecipient_eq share.account record
    rw [hstamp]
    revert hroom
    cases share.kind <;> intro hroom <;>
      simp only [components, ShareKind.credit, saturatingAdd128, List.mem_cons, reduceCtorEq,
        or_false, or_true, List.not_mem_nil, if_true, if_false, Nat.add_zero] at hroom ⊢ <;>
      omega
  have htotal := @total_rewardMap parts epochId hfits components _ (fun _ => rfl) hall
  have hle := le_total (fun (_ : NodeId) record => components record) h
  rw [htotal] at hle
  exact (hle.trans (sharesOf_le _ _)).trans_lt hfits.rewards

theorem withNetReward_net {nodeId : NodeId} {record : RewardRecord}
    (h : (parts.rewardMap epochId)[nodeId]? = some record) :
    (withNetReward record).netReward = components record := by
  have hlt := components_lt hfits h
  rw [rewardMap_eq_gather] at h
  have hdebit := (gathered h).noDebit
  unfold components at hlt ⊢
  unfold withNetReward saturatingAdd128
  rw [hdebit]
  dsimp only
  omega

end Components

end EpochRewardParts

/-! ## The distribution -/

/-- What the records of an epoch owe to their pools: distinct recipients, net rewards that are the
sums of their components, and components that come to the pools where there is something to split
them over. -/
structure ProperDistribution (encodeBech32 : String → Bytes → Except String String)
    (parts : EpochRewardParts) (computation : EpochRewardComputation) : Prop where
  recipients : (computation.records.map (chainRecipient encodeBech32)).Nodup
  net : ∀ record ∈ computation.records,
    record.netReward + record.slashDebit = EpochRewardParts.components record
  collect : amount parts.collectScores ≠ 0 →
    (computation.records.map (·.collectReward)).sum = computation.artifact.collectPool
  store : amount parts.storageScores ≠ 0 →
    (computation.records.map (·.storeReward)).sum = computation.artifact.storePool
  verify : amount parts.credits ≠ 0 →
    (computation.records.map (·.verifyReward)).sum = computation.artifact.verifyPool
  propose : (computation.records.map (·.proposeReward)).sum = computation.artifact.proposePool

section Distribution

variable {encodeBatchCommit : BatchCommit → Bytes}
  {encodeBech32 : String → Bytes → Except String String} {config : EpochRewardConfig}
  {inputs : EpochRewardInputs} {epochId : ℕ}

theorem computeLocalEpochRewards_ok {computation : EpochRewardComputation}
    (h : computeLocalEpochRewards encodeBatchCommit encodeBech32 config inputs epochId =
      .ok computation) :
    let pools := (epochRewardParts encodeBatchCommit encodeBech32 config inputs epochId).pools
    computation.records =
        epochRewardRecords encodeBatchCommit encodeBech32 config inputs epochId ∧
      computation.artifact.collectPool = pools.collectPool ∧
      computation.artifact.storePool = pools.storePool ∧
      computation.artifact.verifyPool = pools.verifyPool ∧
      computation.artifact.proposePool = pools.proposePool := by
  unfold computeLocalEpochRewards at h
  dsimp only at h
  rw [bind_eq_ok] at h
  obtain ⟨rewardRoot, -, hreturn⟩ := h
  cases hreturn
  exact ⟨rfl, rfl, rfl, rfl, rfl⟩

/-- The records are those of the gathered map, each with its net reward. -/
theorem epochRewardRecords_perm :
    (epochRewardRecords encodeBatchCommit encodeBech32 config inputs epochId).Perm
      ((OrderedMap.records ((epochRewardParts encodeBatchCommit encodeBech32 config inputs
        epochId).rewardMap epochId)).map withNetReward) :=
  (sortByKey_perm _ _).map withNetReward

theorem sum_epochRewardRecords {component : RewardRecord → ℕ}
    (hnet : ∀ record, component (withNetReward record) = component record) :
    ((epochRewardRecords encodeBatchCommit encodeBech32 config inputs epochId).map
      component).sum =
      total (fun _ record => component record) ((epochRewardParts encodeBatchCommit encodeBech32
        config inputs epochId).rewardMap epochId) := by
  rw [(epochRewardRecords_perm.map component).sum_eq, List.map_map, OrderedMap.records,
    List.map_map, total]
  congr 1
  refine List.map_congr_left ?_
  intro entry _
  exact hnet entry.2

/-- For amounts that stay inside their 128 bits, the records of an epoch are a proper distribution
exactly when different nodes come under different accounts and the rounded shares of the credits
stay within the verify pool. -/
theorem proper_distribution_iff {computation : EpochRewardComputation}
    (hfits : (epochRewardParts encodeBatchCommit encodeBech32 config inputs epochId).AmountsFit)
    (h : computeLocalEpochRewards encodeBatchCommit encodeBech32 config inputs epochId =
      .ok computation) :
    ProperDistribution encodeBech32
        (epochRewardParts encodeBatchCommit encodeBech32 config inputs epochId) computation ↔
      (epochRewardParts encodeBatchCommit encodeBech32 config inputs epochId).DistinctAccounts
          encodeBech32 ∧
        CreditsDivide (epochRewardParts encodeBatchCommit encodeBech32 config inputs epochId).credits
          (epochRewardParts encodeBatchCommit encodeBech32 config inputs
            epochId).pools.verifyPool := by
  obtain ⟨hrecords, hcollect, hstore, hverify, hpropose⟩ := computeLocalEpochRewards_ok h
  have hsum := @sum_epochRewardRecords encodeBatchCommit encodeBech32 config inputs epochId
  rw [← hrecords] at hsum
  have hperm := @epochRewardRecords_perm encodeBatchCommit encodeBech32 config inputs epochId
  rw [← hrecords] at hperm
  generalize hparts : epochRewardParts encodeBatchCommit encodeBech32 config inputs epochId = parts
    at *
  have hrecipients : (computation.records.map (chainRecipient encodeBech32)).Nodup ↔
      parts.DistinctAccounts encodeBech32 := by
    rw [(hperm.map _).nodup_iff, List.map_map]
    exact EpochRewardParts.nodup_recipients_iff hfits encodeBech32
  have hverified : amount parts.credits ≠ 0 →
      (computation.records.map (·.verifyReward)).sum =
        max parts.pools.verifyPool (roundedTotal parts.credits parts.pools.verifyPool) := by
    intro hsome
    have hcredits : ¬ parts.credits.isEmpty = true := by
      rw [Std.ExtTreeMap.isEmpty_iff]
      intro hempty
      exact hsome (by rw [hempty, amount, total_empty])
    rw [hsum fun _ => rfl, EpochRewardParts.total_verifyReward hfits,
      EpochRewardParts.sharesOf_verifyShares, if_pos hcredits, if_pos (by simp),
      amount_allocateWitnessRewards hfits.creditProducts
        (EpochRewardParts.pool_lt hfits.creditProducts hsome) hsome]
  constructor
  · intro hproper
    refine ⟨hrecipients.mp hproper.recipients, ?_⟩
    by_cases hsome : amount parts.credits = 0
    · left
      rw [hsome]
      norm_num
    · have hpool := hproper.verify hsome
      rw [hverified hsome, hverify] at hpool
      rw [creditsDivide_iff hsome]
      omega
  · rintro ⟨hdistinct, hdivide⟩
    refine ⟨hrecipients.mpr hdistinct, ?_, ?_, ?_, ?_, ?_⟩
    · intro record hrecord
      obtain ⟨stored, hstored, rfl⟩ := List.mem_map.mp (hperm.subset hrecord)
      obtain ⟨nodeId, hget⟩ := mem_records.mp hstored
      have hnet := EpochRewardParts.withNetReward_net hfits hget
      rw [EpochRewardParts.rewardMap_eq_gather] at hget
      have hdebit := (gathered hget).noDebit
      calc (withNetReward stored).netReward + stored.slashDebit
          = EpochRewardParts.components stored := by rw [hnet, hdebit, Nat.add_zero]
        _ = EpochRewardParts.components (withNetReward stored) := rfl
    · intro hsome
      rw [hsum fun _ => rfl, EpochRewardParts.total_collectReward hfits, hcollect]
      exact amount_allocateProportional hfits.collectProducts hfits.collectScores
        (EpochRewardParts.pool_lt hfits.collectProducts hsome) hsome
    · intro hsome
      rw [hsum fun _ => rfl, EpochRewardParts.total_storeReward hfits, hstore]
      exact amount_allocateProportional hfits.storeProducts hfits.storageScores
        (EpochRewardParts.pool_lt hfits.storeProducts hsome) hsome
    · intro hsome
      rw [hverified hsome, hverify]
      exact max_eq_left ((creditsDivide_iff hsome).mp hdivide)
    · rw [hsum fun _ => rfl, EpochRewardParts.total_proposeReward hfits, hpropose]

end Distribution

namespace RewardSample

/-- A stand-in for the account encoding: the prefix, then the bytes in hexadecimal. -/
def encodeBech32 (humanPart : String) (bytes : Bytes) : Except String String :=
  .ok (humanPart ++ Chain.hexEncode bytes)

def observation (collectorId : NodeId) : ObservationRecord where
  epochId := 1
  slotId := 1
  appId := 730
  sourceKind := .steam
  sourceConfidencePpm := 1000000
  observedPlayers := 2000
  observedAtMillis := 1000
  collectorId
  rawBodyCid := "cid://steam-observation/00"
  rawBodyHash := 0
  collectorSignature := [1]

def batch (observations : List ObservationRecord) : AssembledBatch where
  batchCommit := ⟨1, 0x22, 1, 1, ⟨0, 1⟩, "cid://batch-payload/00", 1, 0⟩
  payloadHash := 0
  payloadCid := "cid://batch-payload/00"
  payloadBytes := []
  observations

/-- Static rewards and no other role than collecting. -/
def config : EpochRewardConfig where
  env := RootSample.env
  settings :=
    { reward :=
        { rewardSource := .static
          emissionYear := 1
          rewardBlockSecs := 3600
          playerBlockReward := 100
          rewardAdjustmentPeriodBlocks := 24
          targetNetworkWeightUnits := 1000
          rewardAdjustmentCapBps := 1000
          collectRewardBps := 5000
          storeRewardBps := 2000
          verifyRewardBps := 2000
          proposeRewardBps := 1000
          tailEmissionStartYear := 4
          tailEmissionRateBps := 200
          gameMappings := [] }
      activated := none }
  slotsPerEpoch := 1
  verify := false
  propose := false

/-- The observations of some collectors, and nothing else. -/
def inputs (collectors : List NodeId) : EpochRewardInputs where
  batches := [batch (collectors.map observation)]
  retentionBook := .withQuotaGb 1
  playerTicks := []
  evidence := .fresh
  credentials := []
  settlementValid _ := false
  witnessCredits := none

def parts (collectors : List NodeId) : EpochRewardParts :=
  epochRewardParts (fun _ => []) encodeBech32 config (inputs collectors) 1

def computation (collectors : List NodeId) : Except String EpochRewardComputation :=
  computeLocalEpochRewards (fun _ => []) encodeBech32 config (inputs collectors) 1

/-- Two ids that differ in their first twenty bytes. -/
def leftId : NodeId := 0x22000000000000000000000000#256
def rightId : NodeId := 0x33000000000000000000000000#256

end RewardSample

open RewardSample in
/-- Two collectors with different accounts share the pool. -/
theorem proper_distribution_two :
    ∃ c, computation [leftId, rightId] = .ok c ∧
      ProperDistribution encodeBech32 (parts [leftId, rightId]) c := by
  have hrun : (computation [leftId, rightId]).isOk = true ∧
      (parts [leftId, rightId]).AmountsFit ∧
      (parts [leftId, rightId]).DistinctAccounts encodeBech32 ∧
      amount (parts [leftId, rightId]).credits < 2 ^ 64 := by decide +kernel
  obtain ⟨hok, hfits, hdistinct, hword⟩ := hrun
  cases hcomputation : computation [leftId, rightId] with
  | error e =>
      rw [hcomputation] at hok
      cases hok
  | ok c => exact ⟨c, rfl, (proper_distribution_iff hfits hcomputation).mpr ⟨hdistinct, .inl hword⟩⟩

open RewardSample in
/-- Two collectors whose ids begin with the same twenty bytes get two records under one account. -/
theorem truncated_ids_share_recipient :
    ∃ c, computation [0x22, 0x33] = .ok c ∧ (parts [0x22, 0x33]).AmountsFit ∧
      c.records.map (chainRecipient encodeBech32) =
        [nodeIdToBech32 encodeBech32 0x22, nodeIdToBech32 encodeBech32 0x22] ∧
      ¬ ProperDistribution encodeBech32 (parts [0x22, 0x33]) c := by
  have hrun : (computation [0x22, 0x33]).isOk = true ∧ (parts [0x22, 0x33]).AmountsFit ∧
      (computation [0x22, 0x33]).toOption.map (fun c =>
        c.records.map (chainRecipient encodeBech32)) =
          some [nodeIdToBech32 encodeBech32 0x22, nodeIdToBech32 encodeBech32 0x22] := by
    decide +kernel
  obtain ⟨hok, hfits, hrecipients⟩ := hrun
  cases hcomputation : computation [0x22, 0x33] with
  | error e =>
      rw [hcomputation] at hok
      cases hok
  | ok c =>
      rw [hcomputation] at hrecipients
      have hsame : c.records.map (chainRecipient encodeBech32) =
          [nodeIdToBech32 encodeBech32 0x22, nodeIdToBech32 encodeBech32 0x22] :=
        Option.some.inj hrecipients
      refine ⟨c, rfl, hfits, hsame, ?_⟩
      intro hproper
      have hnodup := hproper.recipients
      rw [hsame, List.nodup_cons] at hnodup
      exact hnodup.1 (List.mem_singleton.mpr rfl)

end PoleProtocol.Node
