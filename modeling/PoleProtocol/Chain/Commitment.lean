import PoleProtocol.Framework.HashTree
import PoleProtocol.Framework.Text
import PoleProtocol.Chain.Merkle

/-!
# What a commitment determines

As long as no two of the texts that were hashed collide, a root and a leaf count determine the
leaves, and the JSON text of a record determines its recipient.
-/

namespace PoleProtocol.Chain

open Framework

/-! ## Hexadecimal and UTF-8 text -/

theorem hexDigit_injective : ∀ m < 16, ∀ n < 16, hexDigit m = hexDigit n → m = n := by decide

theorem hexByte_toList (n : ℕ) : (hexByte n).toList = [hexDigit (n / 16), hexDigit (n % 16)] :=
  String.toList_ofList

theorem hexEncode_toList (bytes : Bytes) :
    (hexEncode bytes).toList = bytes.flatMap fun b =>
      [hexDigit (b.toNat / 16), hexDigit (b.toNat % 16)] := by
  rw [hexEncode, String.toList_join, List.flatMap_map]
  exact congrArg (List.flatMap · bytes) (funext fun b => hexByte_toList b.toNat)

theorem hexEncode_injective : Function.Injective hexEncode := by
  intro bytes bytes' h
  have hchars := congrArg String.toList h
  rw [hexEncode_toList, hexEncode_toList] at hchars
  clear h
  induction bytes generalizing bytes' with
  | nil =>
      cases bytes' with
      | nil => rfl
      | cons b bytes' => cases hchars
  | cons b bytes ih =>
      cases bytes' with
      | nil => cases hchars
      | cons b' bytes' =>
          simp only [List.flatMap_cons, List.cons_append, List.nil_append, List.cons.injEq] at hchars
          obtain ⟨hhigh, hlow, hrest⟩ := hchars
          have hb := b.toNat_lt
          have hb' := b'.toNat_lt
          have hdiv := hexDigit_injective _ (by omega) _ (by omega) hhigh
          have hmod := hexDigit_injective _ (by omega) _ (by omega) hlow
          have hbyte : b = b' := UInt8.toNat_inj.mp (by omega)
          rw [hbyte, ih hrest]

theorem utf8_injective {text text' : String} (h : text.toUTF8.toList = text'.toUTF8.toList) :
    text = text' := by
  rw [byteArray_toList, byteArray_toList] at h
  exact String.toByteArray_inj.mp (ByteArray.ext (Array.toList_inj.mp h))

/-! ## JSON text -/

/-- The characters of an escape sequence. -/
def escapeChars (c : Char) : List Char :=
  if c.toNat = 8 then ['\\', 'b']
  else if c.toNat = 9 then ['\\', 't']
  else if c.toNat = 10 then ['\\', 'n']
  else if c.toNat = 12 then ['\\', 'f']
  else if c.toNat = 13 then ['\\', 'r']
  else if c.toNat = 34 then ['\\', '"']
  else if c.toNat = 92 then ['\\', '\\']
  else if c.toNat = 8232 then ['\\', 'u', '2', '0', '2', '8']
  else if c.toNat = 8233 then ['\\', 'u', '2', '0', '2', '9']
  else if c.toNat < 32 ∨ c.toNat = 38 ∨ c.toNat = 60 ∨ c.toNat = 62 then
    ['\\', 'u', '0', '0', hexDigit (c.toNat / 16), hexDigit (c.toNat % 16)]
  else [c]

theorem jsonEscape_toList (c : Char) : (jsonEscape c).toList = escapeChars c := by
  unfold jsonEscape escapeChars
  generalize c.toNat = n
  split
  case h_10 h8 h9 h10 h12 h13 h34 h92 h8232 h8233 =>
      rw [if_neg h8, if_neg h9, if_neg h10, if_neg h12, if_neg h13, if_neg h34, if_neg h92,
        if_neg h8232, if_neg h8233]
      split
      · rw [String.toList_append, hexByte_toList]
        exact congrArg (· ++ _) String.toList_ofList
      · exact String.toList_singleton c
  all_goals exact String.toList_ofList

/-- The characters that are not written as themselves. -/
def escaped : List Char :=
  (List.range 32 ++ [34, 38, 60, 62, 92, 8232, 8233]).map Char.ofNat

theorem quote_mem_escaped : '"' ∈ escaped := List.mem_map.mpr ⟨34, by decide, rfl⟩

theorem backslash_mem_escaped : '\\' ∈ escaped := List.mem_map.mpr ⟨92, by decide, rfl⟩

/-- No escape sequence begins another one. -/
theorem escapes_prefix_free {c d : Char} (hc : c ∈ escaped) (hd : d ∈ escaped)
    (h : escapeChars c <+: escapeChars d) : c = d := by
  have hall : (escaped.all fun c => escaped.all fun d =>
      decide (escapeChars c <+: escapeChars d → c = d)) = true := by decide +kernel
  have hrow := List.all_eq_true.mp hall c hc
  exact of_decide_eq_true (List.all_eq_true.mp hrow d hd) h

theorem escapes_backslash {c : Char} (hc : c ∈ escaped) :
    (escapeChars c).head? = some '\\' := by
  have hall : (escaped.all fun c => (escapeChars c).head? = some '\\') = true := by decide
  exact of_decide_eq_true (List.all_eq_true.mp hall c hc)

theorem escapeChars_of_plain {c : Char} (h : c ∉ escaped) : escapeChars c = [c] := by
  have hlisted : ∀ n, n < 32 ∨ n ∈ [34, 38, 60, 62, 92, 8232, 8233] → c.toNat ≠ n := by
    rintro n hn rfl
    refine h (List.mem_map.mpr ⟨c.toNat, ?_, Char.ofNat_toNat c⟩)
    exact List.mem_append.mpr (hn.imp List.mem_range.mpr id)
  have hlow : ¬ c.toNat < 32 := fun hlow => hlisted _ (.inl hlow) rfl
  unfold escapeChars
  simp [hlisted, hlow]

/-- A character is known from its escape sequence, whatever follows. -/
theorem escapeChars_cancel {c d : Char} {rest rest' : List Char}
    (h : escapeChars c ++ rest = escapeChars d ++ rest') : c = d ∧ rest = rest' := by
  have hchar : c = d := by
    by_cases hc : c ∈ escaped
    · by_cases hd : d ∈ escaped
      · rcases List.append_eq_append_iff.mp h with ⟨more, hmore, _⟩ | ⟨more, hmore, _⟩
        · exact escapes_prefix_free hc hd ⟨more, hmore.symm⟩
        · exact (escapes_prefix_free hd hc ⟨more, hmore.symm⟩).symm
      · -- an unescaped character is no backslash
        have hhead := congrArg List.head? h
        rw [escapeChars_of_plain hd, List.head?_append, escapes_backslash hc] at hhead
        simp only [Option.some_or, List.cons_append, List.head?_cons, Option.some.injEq] at hhead
        rw [← hhead] at hd
        exact absurd backslash_mem_escaped hd
    · by_cases hd : d ∈ escaped
      · have hhead := congrArg List.head? h
        rw [escapeChars_of_plain hc, List.head?_append (l := escapeChars d),
          escapes_backslash hd] at hhead
        simp only [Option.some_or, List.cons_append, List.head?_cons, Option.some.injEq] at hhead
        rw [hhead] at hc
        exact absurd backslash_mem_escaped hc
      · rw [escapeChars_of_plain hc, escapeChars_of_plain hd] at h
        exact (List.cons.inj h).1
  subst hchar
  exact ⟨rfl, List.append_cancel_left h⟩

theorem escapeChars_ne_quote (c : Char) (rest rest' : List Char) :
    escapeChars c ++ rest ≠ '"' :: rest' := by
  intro h
  have hhead := congrArg List.head? h
  by_cases hc : c ∈ escaped
  · rw [List.head?_append, escapes_backslash hc] at hhead
    simp at hhead
  · rw [escapeChars_of_plain hc] at hhead
    simp only [List.cons_append, List.head?_cons, Option.some.injEq] at hhead
    rw [hhead] at hc
    exact hc quote_mem_escaped

/-- A quoted text is known from its escaped form, whatever follows the closing quote. -/
theorem escapes_cancel {text text' rest rest' : List Char}
    (h : text.flatMap escapeChars ++ '"' :: rest = text'.flatMap escapeChars ++ '"' :: rest') :
    text = text' := by
  induction text generalizing text' with
  | nil =>
      cases text' with
      | nil => rfl
      | cons d text' =>
          rw [List.flatMap_cons, List.append_assoc] at h
          exact absurd h.symm (escapeChars_ne_quote d _ _)
  | cons c text ih =>
      cases text' with
      | nil =>
          rw [List.flatMap_cons, List.append_assoc] at h
          exact absurd h (escapeChars_ne_quote c _ _)
      | cons d text' =>
          rw [List.flatMap_cons, List.flatMap_cons, List.append_assoc, List.append_assoc] at h
          obtain ⟨rfl, hrest⟩ := escapeChars_cancel h
          rw [ih hrest]

theorem jsonString_toList (text : String) :
    (jsonString text).toList = '"' :: (text.toList.flatMap escapeChars ++ ['"']) := by
  have hescapes : (fun c => (jsonEscape c).toList) = escapeChars := funext jsonEscape_toList
  rw [jsonString, String.toList_append, String.toList_append, String.toList_join, List.flatMap_map,
    hescapes]
  exact congrArg₂ (fun front back => front ++ _ ++ back) String.toList_ofList String.toList_ofList

/-- What the text of a reward record starts with, up to its recipient. -/
def rewardFront (epochId : ℕ) : String :=
  "\x7b" ++ ((jsonNat "epoch_id" epochId).map (· ++ ",")).getD "" ++ "\"recipient\":\""

theorem intercalate_cons (separator text : String) (texts : List String) :
    ∃ more, separator.intercalate (text :: texts) = text ++ more := by
  cases texts with
  | nil => exact ⟨"", by rw [String.intercalate_singleton, String.append_empty]⟩
  | cons next texts =>
      exact ⟨separator ++ separator.intercalate (next :: texts), by
        rw [String.intercalate_cons_cons, String.append_assoc]⟩

theorem jsonReward_toList {r : RewardRecord} (h : r.recipient ≠ "") : ∃ rest,
    (JsonRecord.json r).toList = (rewardFront r.epochId).toList ++
      (r.recipient.toList.flatMap escapeChars ++ '"' :: rest) := by
  have hmember : jsonText "recipient" r.recipient =
      some (jsonMember "recipient" (jsonString r.recipient)) := if_neg h
  obtain ⟨others, hothers⟩ : ∃ others, JsonRecord.json r = jsonObject (jsonNat "epoch_id" r.epochId ::
      some (jsonMember "recipient" (jsonString r.recipient)) :: others) := ⟨_, by rw [← hmember]; rfl⟩
  have hobject : ∃ more, JsonRecord.json r = "\x7b" ++
      ((jsonNat "epoch_id" r.epochId).map (· ++ ",")).getD "" ++
        (jsonMember "recipient" (jsonString r.recipient) ++ more) := by
    obtain ⟨more, hmore⟩ := intercalate_cons "," (jsonMember "recipient" (jsonString r.recipient))
      others.reduceOption
    refine ⟨more ++ "\x7d", ?_⟩
    rw [hothers, jsonObject]
    cases jsonNat "epoch_id" r.epochId with
    | none =>
        rw [List.reduceOption_cons_of_none, List.reduceOption_cons_of_some, hmore]
        simp only [Option.map_none, Option.getD_none, String.append_empty, String.append_assoc]
    | some front =>
        rw [List.reduceOption_cons_of_some, List.reduceOption_cons_of_some,
          String.intercalate_cons_cons, hmore]
        simp only [Option.map_some, Option.getD_some, String.append_assoc]
  obtain ⟨more, hmore⟩ := hobject
  refine ⟨more.toList, ?_⟩
  rw [hmore, rewardFront, jsonMember]
  simp only [String.toList_append, jsonString_toList, List.append_assoc, List.cons_append,
    List.nil_append]
  rfl

theorem jsonNat_toList {name text : String} {n : ℕ} (h : jsonNat name n = some text) :
    text.toList = '"' :: (name.toList ++ '"' :: ':' :: (toString n).toList) := by
  unfold jsonNat at h
  split at h
  · cases h
  · cases h
    simp [jsonMember]

/-- The text opens with a quote and goes on with another letter than `recipient`. -/
def NamesAmount (text : String) : Prop :=
  ∃ initial more, initial ≠ 'r' ∧ text.toList = '"' :: initial :: more

theorem namesAmount_jsonNat {name text : String} {n : ℕ} (initial : Char) (more : List Char)
    (hname : name.toList = initial :: more) (hinitial : initial ≠ 'r')
    (h : some text = jsonNat name n) : NamesAmount text := by
  refine ⟨initial, more ++ '"' :: ':' :: (toString n).toList, hinitial, ?_⟩
  rw [jsonNat_toList h.symm, hname]
  rfl

theorem namesAmount_of_mem {r : RewardRecord} {text : String}
    (h : text ∈ [jsonNat "player_reward" r.playerReward, jsonNat "collect_reward" r.collectReward,
      jsonNat "store_reward" r.storeReward, jsonNat "verify_reward" r.verifyReward,
      jsonNat "propose_reward" r.proposeReward, jsonNat "slash_debit" r.slashDebit,
      jsonNat "net_reward" r.netReward].reduceOption) : NamesAmount text := by
  rw [List.reduceOption_mem_iff] at h
  simp only [List.mem_cons, List.not_mem_nil, or_false] at h
  rcases h with h | h | h | h | h | h | h
  · exact namesAmount_jsonNat 'p' _ String.toList_ofList (by decide) h
  · exact namesAmount_jsonNat 'c' _ String.toList_ofList (by decide) h
  · exact namesAmount_jsonNat 's' _ String.toList_ofList (by decide) h
  · exact namesAmount_jsonNat 'v' _ String.toList_ofList (by decide) h
  · exact namesAmount_jsonNat 'p' _ String.toList_ofList (by decide) h
  · exact namesAmount_jsonNat 's' _ String.toList_ofList (by decide) h
  · exact namesAmount_jsonNat 'n' _ String.toList_ofList (by decide) h

theorem amounts_ne_recipient {texts : List String} (h : ∀ text ∈ texts, NamesAmount text)
    (rest : List Char) :
    (",".intercalate texts ++ "\x7d").toList ≠ '"' :: 'r' :: rest := by
  cases texts with
  | nil =>
      rw [String.intercalate_nil, String.empty_append]
      intro heq
      cases String.toList_ofList.symm.trans heq
  | cons text texts =>
      obtain ⟨initial, more, hinitial, htext⟩ := h text List.mem_cons_self
      obtain ⟨others, hothers⟩ := intercalate_cons "," text texts
      rw [hothers, String.toList_append, String.toList_append, htext]
      intro heq
      exact hinitial (List.cons.inj (List.cons.inj heq).2).1

/-- A record without a recipient shows the name of an amount, or nothing, in its place. -/
theorem jsonReward_unnamed {r : RewardRecord} (h : r.recipient = "") (rest : List Char) :
    (JsonRecord.json r).toList ≠ (rewardFront r.epochId).toList ++ rest := by
  obtain ⟨texts, hamounts, hmembers⟩ : ∃ texts : List String, (∀ text ∈ texts, NamesAmount text) ∧
      JsonRecord.json r =
        "\x7b" ++ ",".intercalate ((jsonNat "epoch_id" r.epochId).toList ++ texts) ++ "\x7d" := by
    refine ⟨_, fun text => namesAmount_of_mem (r := r), ?_⟩
    change jsonObject (_ :: jsonText "recipient" r.recipient :: _) = _
    rw [show jsonText "recipient" r.recipient = none from if_pos h, jsonObject]
    cases jsonNat "epoch_id" r.epochId with
    | none => rfl
    | some front => rfl
  have hrecipient : ∀ chars : List Char, ("\"recipient\":\"").toList ++ chars =
      '"' :: 'r' :: ("ecipient\":\"".toList ++ chars) := by
    intro chars
    simp
  rw [hmembers, rewardFront]
  cases jsonNat "epoch_id" r.epochId with
  | none =>
      simp only [Option.toList_none, List.nil_append, Option.map_none, Option.getD_none,
        String.append_empty, String.append_assoc, String.toList_append, List.append_assoc,
        List.append_cancel_left_eq, ne_eq]
      rw [hrecipient, ← String.toList_append]
      exact amounts_ne_recipient hamounts _
  | some front =>
      cases texts with
      | nil =>
          simp only [Option.toList_some, List.append_nil, String.intercalate_singleton,
            Option.map_some, Option.getD_some, String.append_assoc, String.toList_append,
            List.append_assoc, List.append_cancel_left_eq, ne_eq]
          simp
      | cons text texts =>
          simp only [Option.toList_some, List.singleton_append, String.intercalate_cons_cons,
            Option.map_some, Option.getD_some, String.append_assoc, String.toList_append,
            List.append_assoc, List.append_cancel_left_eq, ne_eq]
          rw [hrecipient, ← String.toList_append]
          exact amounts_ne_recipient hamounts _

theorem jsonReward_recipient {r r' : RewardRecord} (hepoch : r.epochId = r'.epochId)
    (hr : r.recipient ≠ "") (h : JsonRecord.json r = JsonRecord.json r') :
    r.recipient = r'.recipient := by
  obtain ⟨rest, hrest⟩ := jsonReward_toList hr
  by_cases hr' : r'.recipient = ""
  · rw [h, hepoch] at hrest
    exact absurd hrest (jsonReward_unnamed hr' _)
  · obtain ⟨rest', hrest'⟩ := jsonReward_toList hr'
    rw [h, hrest', hepoch] at hrest
    exact (String.toList_inj.mp (escapes_cancel (List.append_cancel_left hrest))).symm

/-! ## Trees -/

section Tree

variable (sha256 : Bytes → Bytes)

/-- The texts that are hashed to get the parents of a level. -/
def levelTexts : List Bytes → List Bytes
  | [] => []
  | [left] => [1 :: (left ++ left)]
  | left :: right :: rest => (1 :: (left ++ right)) :: levelTexts rest

/-- The texts that are hashed on the way to the root. -/
def climbTexts : ℕ → List Bytes → List Bytes
  | 0, _ => []
  | fuel + 1, level =>
      if 1 < level.length then levelTexts level ++ climbTexts fuel (merkleLevel sha256 level) else []

/-- The texts that are hashed to commit to the records. -/
def hashedTexts {α : Type} [JsonRecord α] (records : List α) : List Bytes :=
  records.map (fun record => 0 :: (JsonRecord.json record).toUTF8.toList) ++
    climbTexts sha256 records.length (records.map (merkleLeafFromRecord sha256))

variable {sha256}

/-- Two digests of one width after a byte of one. -/
def joining (sha256 : Bytes → Bytes) {width : ℕ} (hwidth : ∀ text, (sha256 text).length = width) :
    HashTree.Joining Bytes Bytes where
  digest := sha256
  pair left right := 1 :: (left ++ right)
  IsDigest digest := digest.length = width
  isDigest_digest := hwidth
  left_of_pair ha hc heq := (List.append_inj (List.cons.inj heq).2 (ha.trans hc.symm)).1
  right_of_pair hb hd heq := (List.append_inj' (List.cons.inj heq).2 (hb.trans hd.symm)).2

theorem merkleLevel_eq_level (nodes : List Bytes) :
    merkleLevel sha256 nodes = HashTree.level (merkleParent sha256) nodes := by
  fun_induction merkleLevel sha256 nodes with
  | case1 => rfl
  | case2 left => rfl
  | case3 left right rest ih => rw [ih, HashTree.level]

theorem levelTexts_eq_level (nodes : List Bytes) :
    levelTexts nodes = HashTree.level (fun left right => 1 :: (left ++ right)) nodes := by
  fun_induction levelTexts nodes with
  | case1 => rfl
  | case2 left => rfl
  | case3 left right rest ih => rw [ih, HashTree.level]

/-- Climbing reaches the top. -/
theorem above_merkleClimb {fuel : ℕ} {nodes : List Bytes} (hpos : 0 < nodes.length)
    (hfuel : nodes.length ≤ fuel + 1) :
    HashTree.above (merkleParent sha256) (HashTree.depth nodes) nodes =
      [merkleClimb sha256 fuel nodes] := by
  have hone : ∀ nodes : List Bytes, nodes.length = 1 →
      HashTree.above (merkleParent sha256) (HashTree.depth nodes) nodes = [nodes.headD []] := by
    intro nodes h
    obtain ⟨node, rfl⟩ := List.length_eq_one_iff.mp h
    rfl
  induction fuel generalizing nodes with
  | zero => exact hone nodes (by omega)
  | succ fuel ih =>
      rw [merkleClimb]
      by_cases hmany : 1 < nodes.length
      · rw [if_pos hmany, HashTree.depth_level (merkleParent sha256) hmany,
          HashTree.above_succ, merkleLevel_eq_level]
        refine ih ?_ ?_ <;> rw [HashTree.level_length] <;> omega
      · rw [if_neg hmany]
        exact hone nodes (by omega)

section Joined

variable {width : ℕ} (hwidth : ∀ text, (sha256 text).length = width)

theorem climbTexts_eq_texts {fuel : ℕ} {nodes : List Bytes} (hfuel : nodes.length ≤ fuel + 1) :
    climbTexts sha256 fuel nodes = (joining sha256 hwidth).texts (HashTree.depth nodes) nodes := by
  induction fuel generalizing nodes with
  | zero => rw [HashTree.depth_of_length_le hfuel]; rfl
  | succ fuel ih =>
      rw [climbTexts]
      by_cases hmany : 1 < nodes.length
      · rw [if_pos hmany, HashTree.depth_level (joining sha256 hwidth).parent hmany,
          HashTree.Joining.texts, merkleLevel_eq_level, levelTexts_eq_level, ih]
        · rfl
        · rw [HashTree.level_length]
          omega
      · rw [if_neg hmany, HashTree.depth_of_length_le (Nat.not_lt.mp hmany)]
        rfl

end Joined

/-- Without a collision on the way, equally long levels with one root are equal. -/
theorem merkleClimb_injective {width : ℕ} (hwidth : ∀ text, (sha256 text).length = width)
    {fuel : ℕ} {level level' : List Bytes} (hfuel : level.length ≤ fuel + 1)
    (hlength : level.length = level'.length) (hlevel : ∀ digest ∈ level, digest.length = width)
    (hlevel' : ∀ digest ∈ level', digest.length = width)
    (hinj : Set.InjOn sha256 {text | text ∈ climbTexts sha256 fuel level ∨
      text ∈ climbTexts sha256 fuel level'})
    (h : merkleClimb sha256 fuel level = merkleClimb sha256 fuel level') : level = level' := by
  rcases Nat.eq_zero_or_pos level.length with hempty | hpos
  · rw [List.eq_nil_of_length_eq_zero hempty,
      List.eq_nil_of_length_eq_zero (hlength.symm.trans hempty)]
  · have hfuel' : level'.length ≤ fuel + 1 := hlength ▸ hfuel
    have hdepth : HashTree.depth level' = HashTree.depth level := by
      rw [HashTree.depth, HashTree.depth, hlength]
    have htop : HashTree.above (merkleParent sha256) (HashTree.depth level) level = _ :=
      above_merkleClimb hpos hfuel
    have htop' : HashTree.above (merkleParent sha256) (HashTree.depth level') level' = _ :=
      above_merkleClimb (hlength ▸ hpos) hfuel'
    rw [climbTexts_eq_texts hwidth hfuel, climbTexts_eq_texts hwidth hfuel', hdepth] at hinj
    rw [← h, hdepth] at htop'
    exact HashTree.Joining.above_injective (J := joining sha256 hwidth) hlength hlevel hlevel' hinj
      (htop.trans htop'.symm)

/-- Without a collision, a root and a leaf count determine the texts of the records. -/
theorem commitment_injective {α : Type} [JsonRecord α] {width : ℕ} {records records' : List α}
    (hwidth : ∀ text, (sha256 text).length = width) (hfits : records.length < 2 ^ 32)
    (hfits' : records'.length < 2 ^ 32)
    (hinj : Set.InjOn sha256 {text | text ∈ hashedTexts sha256 records ∨
      text ∈ hashedTexts sha256 records'})
    (h : merkleRootHexForRecords sha256 records = merkleRootHexForRecords sha256 records') :
    records.map JsonRecord.json = records'.map JsonRecord.json := by
  have hcount : ∀ list : List α, list.length < 2 ^ 32 →
      (merkleRootHexForRecords sha256 list).leafCount = list.length := by
    intro list hlist
    unfold merkleRootHexForRecords
    split
    · next hempty => rw [hempty]; rfl
    · exact Nat.mod_eq_of_lt hlist
  have hlength : records.length = records'.length := by
    rw [← hcount records hfits, ← hcount records' hfits', h]
  by_cases hempty : records = []
  · rw [hempty, List.eq_nil_of_length_eq_zero (hlength.symm.trans (by rw [hempty]; rfl))]
  · have hempty' : records' ≠ [] := by
      rintro rfl
      exact hempty (List.eq_nil_of_length_eq_zero hlength)
    have hleaf : ∀ list : List α, list.map (merkleLeafFromRecord sha256) =
        (list.map fun record => 0 :: (JsonRecord.json record).toUTF8.toList).map sha256 := by
      intro list
      rw [List.map_map]
      rfl
    have hdigests : ∀ list : List α, ∀ digest ∈ list.map (merkleLeafFromRecord sha256),
        digest.length = width := by
      intro list digest hmem
      obtain ⟨record, _, rfl⟩ := List.mem_map.mp hmem
      exact hwidth _
    have hroots := congrArg MerkleCommitment.root h
    unfold merkleRootHexForRecords at hroots
    rw [if_neg hempty, if_neg hempty'] at hroots
    have hroot := hexEncode_injective hroots
    rw [merkleRoot, merkleRoot, if_neg (by simpa using hempty), if_neg (by simpa using hempty'),
      List.length_map, List.length_map, ← hlength] at hroot
    have hleaves : records.map (merkleLeafFromRecord sha256) =
        records'.map (merkleLeafFromRecord sha256) := by
      refine merkleClimb_injective hwidth ?_ ?_ (hdigests records) (hdigests records')
        (hinj.mono fun text htext => ?_) hroot
      · rw [List.length_map]
        omega
      · rw [List.length_map, List.length_map, hlength]
      · refine htext.imp (List.mem_append_right _) fun hmem => List.mem_append_right _ ?_
        rwa [← hlength]
    rw [hleaf, hleaf] at hleaves
    have htexts := HashTree.map_injOn (hinj.mono fun text htext => htext.imp (List.mem_append_left _)
      (List.mem_append_left _)) hleaves
    have hjson := congrArg (List.map fun text : Bytes => text.tail) htexts
    rw [List.map_map, List.map_map] at hjson
    change records.map (fun record => (JsonRecord.json record).toUTF8.toList) =
      records'.map (fun record => (JsonRecord.json record).toUTF8.toList) at hjson
    have hcompose : ∀ list : List α, list.map (fun record => (JsonRecord.json record).toUTF8.toList) =
        (list.map JsonRecord.json).map fun text => text.toUTF8.toList := by
      intro list
      rw [List.map_map]
      rfl
    rw [hcompose, hcompose] at hjson
    exact List.map_injective_iff.mpr (fun _ _ => utf8_injective) hjson

end Tree

end PoleProtocol.Chain
