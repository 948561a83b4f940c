import PoleProtocol.Framework.HashTree
import PoleProtocol.Chain.RewardRecords

/-!
# What a Merkle root binds

The trees of the chain are hash trees whose pairs are told from leaves by their first byte. Their
proofs lead to the root, and, short of a collision among the texts hashed, nothing else does.
-/

namespace PoleProtocol.Chain

open Framework

variable {sha256 : Bytes → Bytes}

/-! ## The trees of the chain -/

theorem above_merkleRoot {leaves : List Bytes} (h : leaves ≠ []) :
    HashTree.above (merkleParent sha256) (HashTree.depth leaves) leaves =
      [merkleRoot sha256 leaves] := by
  rw [merkleRoot, if_neg h]
  exact above_merkleClimb (List.length_pos_iff.mpr h) (Nat.le_succ _)

theorem verifyMerkleProof_eq_follow (leaf : Bytes) (siblings : List Bytes) (index : ℕ) :
    verifyMerkleProof sha256 leaf siblings index =
      HashTree.follow (merkleParent sha256) leaf siblings index := by
  induction siblings generalizing leaf index with
  | nil => rfl
  | cons sibling siblings ih => rw [verifyMerkleProof, HashTree.follow, ih]

/-- The generated proof is the path of its leaf. -/
theorem merkleProofClimb_eq_path {fuel : ℕ} {nodes : List Bytes} (hfuel : nodes.length ≤ fuel + 1)
    (index : ℕ) :
    merkleProofClimb sha256 fuel nodes index =
      HashTree.path (merkleParent sha256) [] (HashTree.depth nodes) nodes index := by
  induction fuel generalizing nodes index with
  | zero => rw [HashTree.depth_of_length_le hfuel]; rfl
  | succ fuel ih =>
      rw [merkleProofClimb]
      by_cases hmany : 1 < nodes.length
      · rw [if_pos hmany, HashTree.depth_level (merkleParent sha256) hmany,
          HashTree.path, merkleLevel_eq_level, ih]
        rw [HashTree.level_length]
        omega
      · rw [if_neg hmany, HashTree.depth_of_length_le (Nat.not_lt.mp hmany)]
        rfl

/-- A generated proof verifies. -/
theorem verifyMerkleProof_merkleProof {leaves : List Bytes} {index : ℕ} {leaf : Bytes}
    (h : leaves[index]? = some leaf) :
    verifyMerkleProof sha256 leaf (merkleProof sha256 leaves index) index =
      merkleRoot sha256 leaves := by
  obtain ⟨hindex, _⟩ := List.getElem?_eq_some_iff.mp h
  have hleaves : leaves ≠ [] := List.ne_nil_of_length_pos (Nat.zero_lt_of_lt hindex)
  have htop : (HashTree.above (merkleParent sha256) (HashTree.depth leaves) leaves)[
      index / 2 ^ HashTree.depth leaves]? = some (HashTree.follow (merkleParent sha256) leaf
        (HashTree.path (merkleParent sha256) [] (HashTree.depth leaves) leaves index) index) :=
    HashTree.follow_path [] h
  rw [above_merkleRoot hleaves] at htop
  rw [merkleProof, merkleProofClimb_eq_path (Nat.le_succ _), verifyMerkleProof_eq_follow]
  have hfirst := (List.getElem?_eq_some_iff.mp htop).2
  rw [List.getElem_singleton] at hfirst
  exact hfirst.symm

/-- A place in the tree has a proof, and the proof has one step for each level above it. -/
theorem merkle_proofs_complete (sha256 : Bytes → Bytes) (leaves : List Bytes)
    (index : Fin leaves.length) :
    verifyMerkleProof sha256 leaves[index] (merkleProof sha256 leaves index) index =
        merkleRoot sha256 leaves ∧
      (merkleProof sha256 leaves index).length = Nat.clog 2 leaves.length := by
  refine ⟨verifyMerkleProof_merkleProof (List.getElem?_eq_getElem index.isLt), ?_⟩
  rw [merkleProof, merkleProofClimb_eq_path (Nat.le_succ _), HashTree.path_length]
  rfl

/-! ## Binding -/

/-- The texts of leaf hashes: payloads after a byte of zero. -/
def leafTexts (payloads : List Bytes) : List Bytes := payloads.map fun payload => 0 :: payload

def leafHashes (sha256 : Bytes → Bytes) (payloads : List Bytes) : List Bytes :=
  (leafTexts payloads).map sha256

/-- The texts that are hashed from the payloads up to the root. -/
def treeTexts (sha256 : Bytes → Bytes) (payloads : List Bytes) : List Bytes :=
  leafTexts payloads ++ climbTexts sha256 payloads.length (leafHashes sha256 payloads)

/-- The texts that are hashed to verify a proof. -/
def verifyTexts (sha256 : Bytes → Bytes) (leaf : Bytes) : List Bytes → ℕ → List Bytes
  | [], _ => []
  | sibling :: proof, index =>
      let text := 1 :: (if index % 2 = 0 then leaf ++ sibling else sibling ++ leaf)
      text :: verifyTexts sha256 (sha256 text) proof (index / 2)

section Joined

variable {width : ℕ} (hwidth : ∀ text, (sha256 text).length = width)

theorem verifyTexts_eq_followTexts (leaf : Bytes) (siblings : List Bytes) (index : ℕ) :
    verifyTexts sha256 leaf siblings index =
      (joining sha256 hwidth).followTexts leaf siblings index := by
  induction siblings generalizing leaf index with
  | nil => rfl
  | cons sibling siblings ih =>
      have htext : (joining sha256 hwidth).followTexts leaf (sibling :: siblings) index =
          (1 :: (if index % 2 = 0 then leaf ++ sibling else sibling ++ leaf)) ::
            (joining sha256 hwidth).followTexts
              (sha256 (1 :: (if index % 2 = 0 then leaf ++ sibling else sibling ++ leaf))) siblings
              (index / 2) := by
        rw [HashTree.Joining.followTexts]
        by_cases heven : index % 2 = 0
        · simp only [if_pos heven]
          rfl
        · simp only [if_neg heven]
          rfl
      rw [verifyTexts, htext, ← ih]

theorem leafText_ne_pair (payload : Bytes) (left right : Bytes) :
    0 :: payload ≠ (joining sha256 hwidth).pair left right := by
  intro heq
  cases (List.cons.inj heq).1

end Joined

/-- Short of a collision among the texts hashed, equally many leaf hashes with one root are the
same, and a proof that leads from a leaf hash to a root proves the leaf at its index, however long
it is and whatever its siblings are. -/
theorem merkle_commitments_bind (sha256 : Bytes → Bytes)
    (hwidth : ∀ text, (sha256 text).length = 32) :
    (∀ payloads payloads' : List Bytes, payloads.length = payloads'.length →
      0 < payloads.length →
      Set.InjOn sha256 {text | text ∈ treeTexts sha256 payloads ∨
        text ∈ treeTexts sha256 payloads'} →
      merkleRoot sha256 (leafHashes sha256 payloads) =
        merkleRoot sha256 (leafHashes sha256 payloads') →
      leafHashes sha256 payloads = leafHashes sha256 payloads') ∧
    ∀ (payloads : List Bytes) (index : ℕ) (payload : Bytes) (siblings : List Bytes),
      index < payloads.length →
      Set.InjOn sha256 {text | text ∈ treeTexts sha256 payloads ∨ text = 0 :: payload ∨
        text ∈ verifyTexts sha256 (sha256 (0 :: payload)) siblings index} →
      verifyMerkleProof sha256 (sha256 (0 :: payload)) siblings index =
        merkleRoot sha256 (leafHashes sha256 payloads) →
      (leafHashes sha256 payloads)[index]? = some (sha256 (0 :: payload)) := by
  have hcount : ∀ payloads : List Bytes,
      (leafHashes sha256 payloads).length = payloads.length := by
    intro payloads
    rw [leafHashes, leafTexts, List.length_map, List.length_map]
  have hne : ∀ payloads : List Bytes, 0 < payloads.length → leafHashes sha256 payloads ≠ [] := by
    intro payloads hpos
    exact List.ne_nil_of_length_pos (by rwa [hcount])
  have hdigests : ∀ payloads, ∀ digest ∈ leafHashes sha256 payloads, digest.length = 32 := by
    intro payloads digest hmem
    obtain ⟨text, _, rfl⟩ := List.mem_map.mp hmem
    exact hwidth text
  constructor
  · intro payloads payloads' hlength hpos hinj hroot
    rw [merkleRoot, merkleRoot, if_neg (hne payloads hpos), if_neg (hne payloads' (hlength ▸ hpos)),
      hcount, hcount, ← hlength] at hroot
    refine merkleClimb_injective hwidth ?_ ?_ (hdigests payloads) (hdigests payloads')
      (hinj.mono ?_) hroot
    · rw [hcount]
      exact Nat.le_succ _
    · rw [hcount, hcount, hlength]
    · rintro text (htext | htext)
      · exact .inl (List.mem_append_right _ htext)
      · exact .inr (List.mem_append_right _ (hlength ▸ htext))
  · intro payloads index payload siblings hindex hinj hroot
    have hpos : 0 < payloads.length := Nat.zero_lt_of_lt hindex
    have htexts : ∀ text ∈ leafTexts payloads, ∀ left right,
        text ≠ (joining sha256 hwidth).pair left right := by
      intro text htext left right
      obtain ⟨payload', _, rfl⟩ := List.mem_map.mp htext
      exact leafText_ne_pair hwidth payload' left right
    have hhashed : Set.InjOn (joining sha256 hwidth).digest
        ((joining sha256 hwidth).Hashed (leafTexts payloads) (0 :: payload) siblings index) := by
      refine hinj.mono ?_
      rintro text (hleaf | hleaf | htree | hpath)
      · exact .inl (List.mem_append_left _ hleaf)
      · exact .inr (.inl hleaf)
      · refine .inl (List.mem_append_right _ ?_)
        rw [climbTexts_eq_texts hwidth (by rw [hcount]; exact Nat.le_succ _)]
        exact htree
      · refine .inr (.inr ?_)
        rw [verifyTexts_eq_followTexts hwidth]
        exact hpath
    have htop := @above_merkleRoot sha256 _ (hne payloads hpos)
    rw [← hroot, verifyMerkleProof_eq_follow] at htop
    have hbound : index < (leafTexts payloads).length := by
      rwa [leafTexts, List.length_map]
    exact HashTree.Joining.getElem?_of_follow htexts (leafText_ne_pair hwidth payload) hhashed
      hbound htop

namespace Sample

def leafA : Bytes := bytesOf "022a6979e6dab7aa5ae4c3e5e45f7e977112a7e63593820dbec1ec738a24f93c"
def leafB : Bytes := bytesOf "57eb35615d47f34ec714cacdf5fd74608a5e8e102724e80b24b287c0c27b6a31"

/-- The digests of the leaves of two letters and of their parent. -/
def letterDigest (text : Bytes) : Bytes :=
  if text = [0, 97] then leafA
  else if text = [0, 98] then leafB
  else if text = 1 :: (leafA ++ leafB) then
    bytesOf "b137985ff484fb600db93107c77b0365c80d78f5b429ded0fd97361d077999eb"
  else List.replicate 32 0

theorem letterDigest_length (text : Bytes) : (letterDigest text).length = 32 := by
  unfold letterDigest
  split
  · decide +kernel
  · split
    · decide +kernel
    · split <;> decide +kernel

end Sample

/-- The second letter, proved by the first one's leaf. -/
theorem merkle_commitments_bind_letters :
    (leafHashes Sample.letterDigest [[97], [98]])[1]? = some (Sample.letterDigest [0, 98]) := by
  refine (merkle_commitments_bind Sample.letterDigest Sample.letterDigest_length).2 [[97], [98]] 1
    [98] [Sample.leafA] (by decide) ?_ (by decide +kernel)
  intro x hx y hy hsame
  have hused : ∀ text, text ∈ treeTexts Sample.letterDigest [[97], [98]] ∨ text = [0, 98] ∨
      text ∈ verifyTexts Sample.letterDigest (Sample.letterDigest [0, 98]) [Sample.leafA] 1 →
      text ∈ [[0, 97], [0, 98], 1 :: (Sample.leafA ++ Sample.leafB)] := by
    rintro text (htree | rfl | hpath)
    · exact (by decide +kernel : ∀ text ∈ treeTexts Sample.letterDigest [[97], [98]],
        text ∈ [[0, 97], [0, 98], 1 :: (Sample.leafA ++ Sample.leafB)]) text htree
    · decide +kernel
    · exact (by decide +kernel : ∀ text ∈ verifyTexts Sample.letterDigest
        (Sample.letterDigest [0, 98]) [Sample.leafA] 1,
        text ∈ [[0, 97], [0, 98], 1 :: (Sample.leafA ++ Sample.leafB)]) text hpath
  exact (by decide +kernel : ∀ x ∈ [[0, 97], [0, 98], 1 :: (Sample.leafA ++ Sample.leafB)],
    ∀ y ∈ [[0, 97], [0, 98], 1 :: (Sample.leafA ++ Sample.leafB)],
    Sample.letterDigest x = Sample.letterDigest y → x = y) x (hused x hx) y (hused y hy) hsame

end PoleProtocol.Chain
