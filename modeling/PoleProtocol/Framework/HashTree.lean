import Mathlib

/-!
# Hash trees over a list

The nodes of a level are joined in pairs, the last one with itself when it has no neighbour, until
one is left. A path of siblings leads from a node to the top; which side a sibling stands on is read
off the bits of an index. Honest paths lead to the top, and, short of a collision, a path that leads
to the top starts at the node it claims.
-/

namespace PoleProtocol.Framework.HashTree

section Shape

variable {α β : Type}

/-- Join the nodes of a level in pairs. -/
def level (join : α → α → β) : List α → List β
  | [] => []
  | [left] => [join left left]
  | left :: right :: rest => join left right :: level join rest

@[simp] theorem level_length (join : α → α → β) (nodes : List α) :
    (level join nodes).length = (nodes.length + 1) / 2 := by
  fun_induction level join nodes with
  | case1 => simp
  | case2 left => simp
  | case3 left right rest ih =>
      simp only [List.length_cons, ih]
      omega

/-- What the two nodes under a place are joined to. -/
theorem level_getElem? (join : α → α → β) (nodes : List α) (i : ℕ) :
    (level join nodes)[i]? =
      nodes[2 * i]?.map fun left => join left (nodes[2 * i + 1]?.getD left) := by
  fun_induction level join nodes generalizing i with
  | case1 => simp
  | case2 left =>
      cases i with
      | zero => rfl
      | succ i => simp [show 2 * (i + 1) = 2 * i + 1 + 1 by omega]
  | case3 left right rest ih =>
      cases i with
      | zero => rfl
      | succ i =>
          rw [show 2 * (i + 1) = 2 * i + 1 + 1 by omega]
          simpa using ih i

theorem level_map {γ : Type} (f : β → γ) (join : α → α → β) (nodes : List α) :
    level (fun left right => f (join left right)) nodes = (level join nodes).map f := by
  fun_induction level join nodes with
  | case1 => rfl
  | case2 left => rfl
  | case3 left right rest ih => rw [level, ih, List.map_cons]

variable (parent : α → α → α)

/-- The level that stands a number of steps above. -/
def above (steps : ℕ) (nodes : List α) : List α := (level parent)^[steps] nodes

/-- How many steps lead to the top. -/
def depth (nodes : List α) : ℕ := Nat.clog 2 nodes.length

/-- Where a path from a node leads. -/
def follow (node : α) : List α → ℕ → α
  | [], _ => node
  | sibling :: path, index =>
      follow (if index % 2 = 0 then parent node sibling else parent sibling node) path (index / 2)

/-- The siblings on the way up from a place, the node itself where there is none. -/
def path (missing : α) : ℕ → List α → ℕ → List α
  | 0, _, _ => []
  | steps + 1, nodes, index =>
      nodes.getD (if index ^^^ 1 < nodes.length then index ^^^ 1 else index) missing ::
        path missing steps (level parent nodes) (index / 2)

variable {parent}

theorem above_succ (steps : ℕ) (nodes : List α) :
    above parent (steps + 1) nodes = above parent steps (level parent nodes) :=
  Function.iterate_succ_apply _ _ _

theorem above_above (steps more : ℕ) (nodes : List α) :
    above parent more (above parent steps nodes) = above parent (more + steps) nodes :=
  (Function.iterate_add_apply _ _ _ _).symm

variable (parent) in
theorem depth_level {nodes : List α} (h : 1 < nodes.length) :
    depth nodes = depth (level parent nodes) + 1 := by
  have hclog : Nat.clog 2 nodes.length = Nat.clog 2 ((nodes.length + 1) / 2) + 1 :=
    Nat.clog_of_two_le (by decide) h
  rw [depth, depth, level_length, hclog]

theorem depth_of_length_le {nodes : List α} (h : nodes.length ≤ 1) : depth nodes = 0 :=
  Nat.clog_of_right_le_one h 2

theorem depth_eq_zero_iff {nodes : List α} : depth nodes = 0 ↔ nodes.length ≤ 1 := by
  refine ⟨fun h => ?_, depth_of_length_le⟩
  by_contra hmany
  exact absurd h (Nat.clog_pos (by decide) (Nat.not_le.mp hmany)).ne'

@[simp] theorem path_length (missing : α) (steps : ℕ) (nodes : List α) (index : ℕ) :
    (path parent missing steps nodes index).length = steps := by
  induction steps generalizing nodes index with
  | zero => rfl
  | succ steps ih => rw [path, List.length_cons, ih]

/-- The path of a node leads to the node above it. -/
theorem follow_path (missing : α) {steps : ℕ} {nodes : List α} {index : ℕ} {node : α}
    (h : nodes[index]? = some node) :
    (above parent steps nodes)[index / 2 ^ steps]? =
      some (follow parent node (path parent missing steps nodes index) index) := by
  induction steps generalizing nodes index node with
  | zero => simpa [above, path, follow] using h
  | succ steps ih =>
      obtain ⟨hindex, rfl⟩ := List.getElem?_eq_some_iff.mp h
      rw [above_succ, path, follow, pow_succ', ← Nat.div_div_eq_div_mul]
      refine ih ?_
      rw [level_getElem?]
      by_cases heven : index % 2 = 0
      · have hleft : 2 * (index / 2) = index := by omega
        rw [if_pos heven, hleft, Nat.xor_one_of_even (Nat.even_iff.mpr heven), h]
        by_cases hright : index + 1 < nodes.length
        · simp [hright]
        · simp [hright, hindex]
      · have hodd : Odd index := Nat.odd_iff.mpr (by omega)
        have hright : 2 * (index / 2) + 1 = index := by omega
        have hleft : 2 * (index / 2) = index - 1 := by omega
        have hbefore : index - 1 < nodes.length := by omega
        rw [if_neg heven, hright, hleft, Nat.xor_one_of_odd hodd, if_pos hbefore, h]
        simp [hbefore]

theorem follow_append (node : α) (first second : List α) (index : ℕ) :
    follow parent node (first ++ second) index =
      follow parent (follow parent node first index) second (index / 2 ^ first.length) := by
  induction first generalizing node index with
  | nil => simp [follow]
  | cons sibling first ih =>
      rw [List.cons_append, follow, ih, follow, Nat.div_div_eq_div_mul, List.length_cons, pow_succ']

end Shape

/-! ## Binding -/

theorem map_injOn {β γ : Type} {f : β → γ} {xs ys : List β}
    (hinj : Set.InjOn f {x | x ∈ xs ∨ x ∈ ys}) (h : xs.map f = ys.map f) : xs = ys := by
  induction xs generalizing ys with
  | nil => exact (List.map_eq_nil_iff.mp h.symm).symm
  | cons x xs ih =>
      cases ys with
      | nil => cases h
      | cons y ys =>
          simp only [List.map_cons, List.cons.injEq] at h
          have hxy := hinj (.inl List.mem_cons_self) (.inr List.mem_cons_self) h.1
          have hrest := ih (hinj.mono fun z hz => hz.imp (List.mem_cons_of_mem x)
            (List.mem_cons_of_mem y)) h.2
          rw [hxy, hrest]

/-- How nodes are joined: by the digest of a text that is put together from the two. A digest can be
read off the side of the text it was put on. -/
structure Joining (τ α : Type) where
  digest : τ → α
  pair : α → α → τ
  IsDigest : α → Prop
  isDigest_digest : ∀ text, IsDigest (digest text)
  left_of_pair : ∀ {a b c d : α}, IsDigest a → IsDigest c → pair a b = pair c d → a = c
  right_of_pair : ∀ {a b c d : α}, IsDigest b → IsDigest d → pair a b = pair c d → b = d

namespace Joining

variable {τ α : Type} (J : Joining τ α)

def parent (left right : α) : α := J.digest (J.pair left right)

/-- The texts that are hashed a number of steps upwards. -/
def texts : ℕ → List α → List τ
  | 0, _ => []
  | steps + 1, nodes => level J.pair nodes ++ texts steps (level J.parent nodes)

/-- The texts that are hashed along a path. -/
def followTexts (node : α) : List α → ℕ → List τ
  | [], _ => []
  | sibling :: path, index =>
      let text := if index % 2 = 0 then J.pair node sibling else J.pair sibling node
      text :: followTexts (J.digest text) path (index / 2)

variable {J}

theorem level_parent (nodes : List α) :
    level J.parent nodes = (level J.pair nodes).map J.digest :=
  level_map J.digest J.pair nodes

theorem isDigest_of_mem_level {nodes : List α} {node : α} (h : node ∈ level J.parent nodes) :
    J.IsDigest node := by
  rw [level_parent] at h
  obtain ⟨text, _, rfl⟩ := List.mem_map.mp h
  exact J.isDigest_digest text

theorem follow_cons (node sibling : α) (path : List α) (index : ℕ) :
    follow J.parent node (sibling :: path) index =
      follow J.parent
        (J.digest (if index % 2 = 0 then J.pair node sibling else J.pair sibling node)) path
        (index / 2) := by
  rw [follow, apply_ite J.digest]
  rfl

theorem texts_above {steps more : ℕ} {nodes : List α} {text : τ}
    (h : text ∈ J.texts more (above J.parent steps nodes)) :
    text ∈ J.texts (steps + more) nodes := by
  induction steps generalizing nodes with
  | zero => simpa [above] using h
  | succ steps ih =>
      rw [above_succ] at h
      rw [Nat.add_right_comm, texts]
      exact List.mem_append_right _ (ih h)

theorem followTexts_append (node : α) (first second : List α) (index : ℕ) :
    J.followTexts node (first ++ second) index =
      J.followTexts node first index ++
        J.followTexts (follow J.parent node first index) second (index / 2 ^ first.length) := by
  induction first generalizing node index with
  | nil => simp [followTexts, follow]
  | cons sibling first ih =>
      rw [List.cons_append, followTexts, followTexts, ih, follow_cons, List.cons_append,
        Nat.div_div_eq_div_mul, List.length_cons, pow_succ']

/-- The texts of the pairs of a level determine the level. -/
theorem level_pair_injective {nodes nodes' : List α} (hlength : nodes.length = nodes'.length)
    (hdigests : ∀ node ∈ nodes, J.IsDigest node) (hdigests' : ∀ node ∈ nodes', J.IsDigest node)
    (h : level J.pair nodes = level J.pair nodes') : nodes = nodes' := by
  fun_induction level J.pair nodes generalizing nodes' with
  | case1 => exact (List.eq_nil_of_length_eq_zero hlength.symm).symm
  | case2 left =>
      obtain ⟨left', rfl⟩ := List.length_eq_one_iff.mp hlength.symm
      have hpair := (List.cons.inj h).1
      rw [J.left_of_pair (hdigests left List.mem_cons_self) (hdigests' left' List.mem_cons_self)
        hpair]
  | case3 left right rest ih =>
      match nodes', hlength with
      | left' :: right' :: rest', hlength =>
          obtain ⟨hpair, hrest⟩ := List.cons.inj h
          simp only [List.forall_mem_cons] at hdigests hdigests'
          obtain ⟨hleft, hright, hdigests⟩ := hdigests
          obtain ⟨hleft', hright', hdigests'⟩ := hdigests'
          rw [J.left_of_pair hleft hleft' hpair, J.right_of_pair hright hright' hpair,
            ih (by simpa using hlength) hdigests hdigests' hrest]

/-- Short of a collision, what stands above two levels of one length tells them apart. -/
theorem above_injective {steps : ℕ} {nodes nodes' : List α}
    (hlength : nodes.length = nodes'.length) (hdigests : ∀ node ∈ nodes, J.IsDigest node)
    (hdigests' : ∀ node ∈ nodes', J.IsDigest node)
    (hinj : Set.InjOn J.digest {text | text ∈ J.texts steps nodes ∨ text ∈ J.texts steps nodes'})
    (h : above J.parent steps nodes = above J.parent steps nodes') : nodes = nodes' := by
  induction steps generalizing nodes nodes' with
  | zero => exact h
  | succ steps ih =>
      rw [above_succ, above_succ] at h
      have hlater : ∀ text, text ∈ J.texts steps (level J.parent nodes) ∨
          text ∈ J.texts steps (level J.parent nodes') →
          text ∈ J.texts (steps + 1) nodes ∨ text ∈ J.texts (steps + 1) nodes' :=
        fun _ htext => htext.imp (List.mem_append_right _) (List.mem_append_right _)
      have hlevels := ih (by rw [level_length, level_length, hlength])
        (fun _ => isDigest_of_mem_level) (fun _ => isDigest_of_mem_level) (hinj.mono hlater) h
      rw [level_parent, level_parent] at hlevels
      have hfirst : ∀ text, text ∈ level J.pair nodes ∨ text ∈ level J.pair nodes' →
          text ∈ J.texts (steps + 1) nodes ∨ text ∈ J.texts (steps + 1) nodes' :=
        fun _ htext => htext.imp (List.mem_append_left _) (List.mem_append_left _)
      exact level_pair_injective hlength hdigests hdigests'
        (map_injOn (hinj.mono hfirst) hlevels)

/-- A path of at least one step leads to the digest of a pair. -/
theorem follow_eq_digest (node : α) {path : List α} (hpath : path ≠ []) (index : ℕ) :
    ∃ a b, J.pair a b ∈ J.followTexts node path index ∧
      follow J.parent node path index = J.digest (J.pair a b) := by
  induction path generalizing node index with
  | nil => exact absurd rfl hpath
  | cons sibling path ih =>
      rw [follow_cons, followTexts]
      by_cases hlast : path = []
      · subst hlast
        by_cases heven : index % 2 = 0
        · exact ⟨node, sibling, by simp [heven], by simp [heven, follow]⟩
        · exact ⟨sibling, node, by simp [heven], by simp [heven, follow]⟩
      · obtain ⟨a, b, hmem, heq⟩ := ih (J.digest
          (if index % 2 = 0 then J.pair node sibling else J.pair sibling node)) hlast (index / 2)
        exact ⟨a, b, List.mem_cons_of_mem _ hmem, heq⟩

/-- The node a pair was made of on the side an index tells is the node the index tells. -/
theorem child_of_pair {nodes : List α} {node sibling : α} {i index : ℕ}
    (hdigests : ∀ node ∈ nodes, J.IsDigest node) (hnode : J.IsDigest node)
    (h : (level J.pair nodes)[i]? =
      some (if index % 2 = 0 then J.pair node sibling else J.pair sibling node)) :
    node ∈ nodes ∧ (i = index / 2 → index < nodes.length → nodes[index]? = some node) := by
  rw [level_getElem?] at h
  obtain ⟨left, hleft, hpair⟩ := Option.map_eq_some_iff.mp h
  have hleftMem : left ∈ nodes := List.mem_of_getElem? hleft
  by_cases heven : index % 2 = 0
  · rw [if_pos heven] at hpair
    obtain rfl := J.left_of_pair (hdigests left hleftMem) hnode hpair
    refine ⟨hleftMem, fun hi _ => ?_⟩
    rwa [show index = 2 * i by omega]
  · rw [if_neg heven] at hpair
    cases hright : nodes[2 * i + 1]? with
    | none =>
        rw [hright, Option.getD_none] at hpair
        obtain rfl := J.right_of_pair (hdigests left hleftMem) hnode hpair
        refine ⟨hleftMem, fun hi hindex => ?_⟩
        have hlast := List.getElem?_eq_none_iff.mp hright
        omega
    | some right =>
        rw [hright, Option.getD_some] at hpair
        have hrightMem : right ∈ nodes := List.mem_of_getElem? hright
        obtain rfl := J.right_of_pair (hdigests right hrightMem) hnode hpair
        refine ⟨hrightMem, fun hi _ => ?_⟩
        rwa [show index = 2 * i + 1 by omega]

/-- Short of a collision, a path of the right length that leads to the top starts at a node of the
level, and at the one the index tells if the level reaches that far. -/
theorem start_of_follow {nodes : List α} {node : α} {path : List α} {index : ℕ}
    (hdigests : ∀ node ∈ nodes, J.IsDigest node) (hnode : J.IsDigest node)
    (hinj : Set.InjOn J.digest {text | text ∈ J.texts path.length nodes ∨
      text ∈ J.followTexts node path index})
    (h : above J.parent path.length nodes = [follow J.parent node path index]) :
    node ∈ nodes ∧ (index < nodes.length → nodes[index]? = some node) := by
  induction path generalizing nodes node index with
  | nil =>
      have hnodes : nodes = [node] := h
      subst hnodes
      refine ⟨List.mem_singleton_self node, fun hindex => ?_⟩
      obtain rfl : index = 0 := by simpa using hindex
      rfl
  | cons sibling path ih =>
      rw [List.length_cons, above_succ, follow_cons] at h
      generalize htext : (if index % 2 = 0 then J.pair node sibling else J.pair sibling node) = text
        at h
      have htexts : ∀ t, t ∈ J.texts path.length (level J.parent nodes) ∨
          t ∈ J.followTexts (J.digest text) path (index / 2) →
          t ∈ J.texts (path.length + 1) nodes ∨ t ∈ J.followTexts node (sibling :: path) index := by
        intro t ht
        rw [texts, followTexts, htext]
        exact ht.imp (List.mem_append_right _) (List.mem_cons_of_mem _)
      have hfirst : text ∈ J.followTexts node (sibling :: path) index := by
        rw [followTexts, htext]
        exact List.mem_cons_self
      obtain ⟨hmem, hplace⟩ := ih (fun _ => isDigest_of_mem_level) (J.isDigest_digest text)
        (hinj.mono htexts) h
      -- a parent with the digest of `text` was made of `text`
      have hmade : ∀ i : ℕ, (level J.parent nodes)[i]? = some (J.digest text) →
          (level J.pair nodes)[i]? = some text := by
        intro i hi
        rw [level_parent, List.getElem?_map] at hi
        obtain ⟨text', htext', heq⟩ := Option.map_eq_some_iff.mp hi
        have hused : text' ∈ J.texts (path.length + 1) nodes :=
          List.mem_append_left _ (List.mem_of_getElem? htext')
        rw [htext', hinj (.inl hused) (.inr hfirst) heq]
      obtain ⟨i, hi⟩ := List.mem_iff_getElem?.mp hmem
      have hchild := hmade i hi
      rw [← htext] at hchild
      refine ⟨(child_of_pair hdigests hnode hchild).1, fun hindex => ?_⟩
      have hparent := hmade (index / 2) (hplace (by rw [level_length]; omega))
      rw [← htext] at hparent
      exact (child_of_pair hdigests hnode hparent).2 rfl hindex

/-- The texts a level above the first was made of are hashed on the way to the top. -/
theorem exists_text_of_mem_above (more : ℕ) {nodes : List α} {node : α} {steps : ℕ}
    (h : node ∈ above J.parent (steps + 1) nodes) :
    ∃ a b, J.pair a b ∈ J.texts (steps + 1 + more) nodes ∧ J.digest (J.pair a b) = node := by
  rw [show above J.parent (steps + 1) nodes = level J.parent (above J.parent steps nodes) from
    Function.iterate_succ_apply' _ _ _, level_parent] at h
  obtain ⟨text, htext, rfl⟩ := List.mem_map.mp h
  obtain ⟨i, hi⟩ := List.mem_iff_getElem?.mp htext
  rw [level_getElem?] at hi
  obtain ⟨left, _, rfl⟩ := Option.map_eq_some_iff.mp hi
  refine ⟨_, _, ?_, rfl⟩
  rw [Nat.add_assoc, Nat.add_comm 1 more]
  exact texts_above (List.mem_append_left _ htext)

section Leaves

variable {leaves : List τ} {leaf : τ} {path : List α} {index : ℕ}

/-- The texts a tree over the digests of the leaves and a path from one leaf hash. -/
def Hashed (J : Joining τ α) (leaves : List τ) (leaf : τ) (path : List α) (index : ℕ) : Set τ :=
  {text | text ∈ leaves ∨ text = leaf ∨
    text ∈ J.texts (depth (leaves.map J.digest)) (leaves.map J.digest) ∨
    text ∈ J.followTexts (J.digest leaf) path index}

/-- A path that is too short would start at a parent. -/
theorem depth_le_of_follow (hleaf : ∀ a b, leaf ≠ J.pair a b)
    (hinj : Set.InjOn J.digest (Hashed J leaves leaf path index))
    (h : above J.parent (depth (leaves.map J.digest)) (leaves.map J.digest) =
      [follow J.parent (J.digest leaf) path index]) :
    depth (leaves.map J.digest) ≤ path.length := by
  by_contra hshort
  unfold Hashed at hinj
  generalize leaves.map J.digest = nodes at *
  obtain ⟨steps, hsteps⟩ : ∃ steps, depth nodes = steps + 1 + path.length :=
    ⟨depth nodes - path.length - 1, by omega⟩
  have hdigests : ∀ node ∈ above J.parent (steps + 1) nodes, J.IsDigest node := by
    intro node hnode
    obtain ⟨a, b, _, rfl⟩ := exists_text_of_mem_above 0 hnode
    exact J.isDigest_digest _
  have hbelow : above J.parent path.length (above J.parent (steps + 1) nodes) =
      [follow J.parent (J.digest leaf) path index] := by
    rw [above_above, Nat.add_comm, ← hsteps, h]
  have hstart : J.digest leaf ∈ above J.parent (steps + 1) nodes := by
    refine (start_of_follow hdigests (J.isDigest_digest leaf) (hinj.mono ?_) hbelow).1
    rintro text (hupper | hpath)
    · exact .inr (.inr (.inl (hsteps ▸ texts_above hupper)))
    · exact .inr (.inr (.inr hpath))
  obtain ⟨a, b, hused, heq⟩ := exists_text_of_mem_above path.length hstart
  rw [← hsteps] at hused
  exact hleaf a b (hinj (.inr (.inl rfl)) (.inr (.inr (.inl hused))) heq.symm)

/-- A path that is too long would lead through a leaf that is a parent. -/
theorem length_le_of_follow (hleaves : ∀ text ∈ leaves, ∀ a b, text ≠ J.pair a b)
    (hinj : Set.InjOn J.digest (Hashed J leaves leaf path index))
    (h : above J.parent (depth (leaves.map J.digest)) (leaves.map J.digest) =
      [follow J.parent (J.digest leaf) path index]) :
    path.length ≤ depth (leaves.map J.digest) := by
  by_contra hlong
  obtain ⟨first, last, rfl, hlast⟩ : ∃ first last, path = first ++ last ∧
      last.length = depth (leaves.map J.digest) := by
    refine ⟨path.take (path.length - depth (leaves.map J.digest)),
      path.drop (path.length - depth (leaves.map J.digest)),
      (List.take_append_drop _ path).symm, ?_⟩
    rw [List.length_drop]
    omega
  have hfirst : first ≠ [] := by
    rintro rfl
    rw [List.nil_append] at hlong
    omega
  unfold Hashed at hinj
  rw [followTexts_append] at hinj
  obtain ⟨a, b, hused, heq⟩ := follow_eq_digest (J := J) (J.digest leaf) hfirst index
  rw [follow_append, heq, ← hlast] at h
  have hdigests : ∀ node ∈ leaves.map J.digest, J.IsDigest node := by
    intro node hnode
    obtain ⟨text, _, rfl⟩ := List.mem_map.mp hnode
    exact J.isDigest_digest text
  have hstart : J.digest (J.pair a b) ∈ leaves.map J.digest := by
    refine (start_of_follow hdigests (J.isDigest_digest _) (hinj.mono ?_) h).1
    rintro text (hupper | hpath)
    · exact .inr (.inr (.inl (hlast ▸ hupper)))
    · rw [← heq] at hpath
      exact .inr (.inr (.inr (List.mem_append_right _ hpath)))
  obtain ⟨text, htext, hsame⟩ := List.mem_map.mp hstart
  exact hleaves text htext a b
    (hinj (.inl htext) (.inr (.inr (.inr (List.mem_append_left _ hused)))) hsame)

/-- Short of a collision, a path of any length and of any siblings from the digest of a text that is
no pair leads to the top of a tree over such digests only from the place it claims. -/
theorem getElem?_of_follow (hleaves : ∀ text ∈ leaves, ∀ a b, text ≠ J.pair a b)
    (hleaf : ∀ a b, leaf ≠ J.pair a b)
    (hinj : Set.InjOn J.digest (Hashed J leaves leaf path index)) (hindex : index < leaves.length)
    (h : above J.parent (depth (leaves.map J.digest)) (leaves.map J.digest) =
      [follow J.parent (J.digest leaf) path index]) :
    (leaves.map J.digest)[index]? = some (J.digest leaf) := by
  have hlength : path.length = depth (leaves.map J.digest) :=
    Nat.le_antisymm (length_le_of_follow hleaves hinj h) (depth_le_of_follow hleaf hinj h)
  have hdigests : ∀ node ∈ leaves.map J.digest, J.IsDigest node := by
    intro node hnode
    obtain ⟨text, _, rfl⟩ := List.mem_map.mp hnode
    exact J.isDigest_digest text
  rw [← hlength] at h
  refine (start_of_follow hdigests (J.isDigest_digest leaf) (hinj.mono ?_) h).2 ?_
  · rintro text (hupper | hpath)
    · exact .inr (.inr (.inl (hlength ▸ hupper)))
    · exact .inr (.inr (.inr hpath))
  · rwa [List.length_map]

end Leaves

end Joining

end PoleProtocol.Framework.HashTree
