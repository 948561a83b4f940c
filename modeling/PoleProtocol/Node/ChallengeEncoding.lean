import PoleProtocol.Chain.Unmarshal
import PoleProtocol.Node.Config
import PoleProtocol.Node.MessageEncoding

/-!
# Challenges on the wire

A challenge is written with its evidence embedded, hashes as hexadecimal text, and every number
narrowed to the width of its field. The bond is wider than its field: of a bond that does not fit,
the chain reads the low word.
-/

namespace PoleProtocol.Node

open Framework Framework.Protobuf Ledger

/-! ## Writing -/

def challengeKindToProto : ChallengeKind → Int32
  | .badBatch => 1
  | .omission => 2
  | .badAggregate => 3
  | .badReward => 4
  | .badStorage => 5

def challengeStateToProto : ChallengeState → Int32
  | .open => 1
  | .responded => 1
  | .succeeded => 2
  | .rejected => 3
  | .expired => 3

/-- The hexadecimal text of a hash; empty when there is none. -/
def hexOrEmpty (hash : Option Hash32) : String := (hash.map hex32).getD ""

def encodeEvidenceInner (ev : ChallengeEvidenceRef) : Bytes :=
  ([encodeString 1 (hexOrEmpty ev.batchRoot),
    encodeString 2 (hexOrEmpty ev.aggregateRoot),
    encodeString 3 (hexOrEmpty ev.rewardRoot),
    encodeString 4 (ev.payloadCid.getD "")] ++
    (ev.merkleProof.map fun proofHash => encodeString 5 (hex32 proofHash)) ++
    [encodeUint32 6 0]).flatten

def encodeChallengeInner (challenge : Challenge) (challengerBech32 : String) : Bytes :=
  [encodeString 1 (hex32 challenge.challengeId),
    encodeInt32 2 (challengeKindToProto challenge.kind),
    encodeUint64 3 (UInt64.ofNat challenge.epochId),
    encodeString 4 (hexOrEmpty challenge.targetNode),
    encodeString 5 challengerBech32,
    -- the low word of the bond
    encodeUint64 6 (UInt64.ofNat challenge.bond),
    encodeInt64 7 (UInt64.ofNat challenge.openedAtHeight).toInt64,
    encodeInt64 8 (UInt64.ofNat challenge.deadlineHeight).toInt64,
    encodeInt32 9 (challengeStateToProto challenge.state),
    encodeBytes 10 (encodeEvidenceInner challenge.evidence),
    encodeUint64 11 0,
    encodeUint64 12 0,
    encodeString 13 "",
    encodeString 14 ""].flatten

def encodeMsgOpenChallenge (challengerBech32 : String) (challenge : Challenge) : AnyMessage where
  typeUrl := "/pole.chain.pole.v1.MsgOpenChallenge"
  value :=
    [encodeString 1 challengerBech32,
      encodeBytes 2 (encodeChallengeInner challenge challengerBech32)].flatten

/-! ## What it says -/

def chainKind : ChallengeKind → Chain.ChallengeKind
  | .badBatch => .badBatch
  | .omission => .omission
  | .badAggregate => .badAggregate
  | .badReward => .badReward
  | .badStorage => .badStorage

/-- The chain has three states for the node's five. -/
def chainState : ChallengeState → Chain.ChallengeState
  | .open | .responded => .open
  | .succeeded => .resolved
  | .rejected | .expired => .rejected

def ChallengeEvidenceRef.meaning (ev : ChallengeEvidenceRef) : Chain.ChallengeEvidenceRef where
  batchRootHex := hexOrEmpty ev.batchRoot
  aggregateRootHex := hexOrEmpty ev.aggregateRoot
  rewardRootHex := hexOrEmpty ev.rewardRoot
  payloadCid := ev.payloadCid.getD ""
  merkleProofHex := ev.merkleProof.map hex32

/-- The message that opens the challenge, with the given bond. -/
def openedChallenge (challengerBech32 : String) (challenge : Challenge) (bondAmount : UInt64) :
    Chain.MsgOpenChallenge where
  challenger := challengerBech32
  challenge := some
    { challengeIdHex := hex32 challenge.challengeId
      kind := chainKind challenge.kind
      epochId := challenge.epochId
      targetAddress := hexOrEmpty challenge.targetNode
      challenger := challengerBech32
      bondAmount
      openedAtHeight := challenge.openedAtHeight
      deadlineHeight := challenge.deadlineHeight
      state := chainState challenge.state
      evidence := some (ChallengeEvidenceRef.meaning challenge.evidence) }

/-- The numbers of the challenge other than its bond are within their types, its heights are
heights of the chain, and so is the length of its message. -/
structure WithinWire (challengerBech32 : String) (challenge : Challenge) : Prop where
  epoch : challenge.epochId < 2 ^ 64
  opened : challenge.openedAtHeight < 2 ^ 63
  deadline : challenge.deadlineHeight < 2 ^ 63
  fits : (encodeMsgOpenChallenge challengerBech32 challenge).Fits

/-! ## Evidence -/

def evidenceFields (ev : ChallengeEvidenceRef) : List WireField :=
  [.ofText 1 (hexOrEmpty ev.batchRoot),
    .ofText 2 (hexOrEmpty ev.aggregateRoot),
    .ofText 3 (hexOrEmpty ev.rewardRoot),
    .ofText 4 (ev.payloadCid.getD "")] ++
    (ev.merkleProof.map fun proofHash => .ofText 5 (hex32 proofHash)) ++
    [.ofNumber 6 0]

theorem listed_evidenceFields (ev : ChallengeEvidenceRef) :
    ∀ field ∈ evidenceFields ev, field.Listed := by
  refine List.forall_mem_append.mpr ⟨List.forall_mem_append.mpr ⟨?_, fun field hmem => ?_⟩, ?_⟩
  · simp [listed_ofText]
  · obtain ⟨proofHash, -, rfl⟩ := List.mem_map.mp hmem
    exact listed_ofText _ (by norm_num) (by norm_num)
  · simp [listed_ofNumber]

theorem valuesOf_evidenceFields (ev : ChallengeEvidenceRef) (number : ℕ) :
    valuesOf (evidenceFields ev) number =
      valuesOf [.ofText 1 (hexOrEmpty ev.batchRoot), .ofText 2 (hexOrEmpty ev.aggregateRoot),
        .ofText 3 (hexOrEmpty ev.rewardRoot), .ofText 4 (ev.payloadCid.getD "")] number ++
      (if number = 5 then
        ev.merkleProof.map fun proofHash => .content (hex32 proofHash).toUTF8.toList
      else []) ++ valuesOf [.ofNumber 6 0] number := by
  rw [evidenceFields, valuesOf_append, valuesOf_append]
  congr 2
  split
  · next heq =>
      rw [heq]
      exact valuesOf_map ev.merkleProof _
  · next hne => exact valuesOf_eq_nil (by simp [WireField.ofText, Ne.symm hne])

theorem unmarshal_evidenceFields (ev : ChallengeEvidenceRef) :
    Chain.ChallengeEvidenceRef.unmarshal (evidenceFields ev) =
      some (ChallengeEvidenceRef.meaning ev) := by
  have hbatch : readString (evidenceFields ev) 1 = some (hexOrEmpty ev.batchRoot) :=
    readString_of_values (valuesOf_evidenceFields ev 1)
  have haggregate : readString (evidenceFields ev) 2 = some (hexOrEmpty ev.aggregateRoot) :=
    readString_of_values (valuesOf_evidenceFields ev 2)
  have hreward : readString (evidenceFields ev) 3 = some (hexOrEmpty ev.rewardRoot) :=
    readString_of_values (valuesOf_evidenceFields ev 3)
  have hcid : readString (evidenceFields ev) 4 = some (ev.payloadCid.getD "") :=
    readString_of_values (valuesOf_evidenceFields ev 4)
  have hproof : readTexts (evidenceFields ev) 5 = some (ev.merkleProof.map hex32) := by
    refine readTexts_of_values ((valuesOf_evidenceFields ev 5).trans ?_)
    rw [if_pos rfl, List.map_map]
    exact List.append_nil _
  have happ : Chain.readUint32 (evidenceFields ev) 6 = some 0 := by
    rw [Chain.readUint32, readNumber_of_values (valuesOf_evidenceFields ev 6)]
    rfl
  rw [Chain.ChallengeEvidenceRef.unmarshal, hbatch, haggregate, hreward, hcid, hproof, happ]
  rfl

theorem encodeEvidenceInner_eq {ev : ChallengeEvidenceRef}
    (hlength : (encodeEvidenceInner ev).length < 2 ^ 64) :
    encodeEvidenceInner ev = encodeFields (evidenceFields ev) := by
  have htext : ∀ (number : UInt32) (text : String), number.toNat < 2 ^ 29 →
      encodeString number text ∈ [encodeString 1 (hexOrEmpty ev.batchRoot),
        encodeString 2 (hexOrEmpty ev.aggregateRoot), encodeString 3 (hexOrEmpty ev.rewardRoot),
        encodeString 4 (ev.payloadCid.getD "")] ++
        (ev.merkleProof.map fun proofHash => encodeString 5 (hex32 proofHash)) ++
        [encodeUint32 6 0] →
      encodeString number text = WireField.encode (.ofText number.toNat text) := by
    intro number text hnumber hmem
    exact encodeBytes_eq hnumber (embedded_length_lt number hlength hmem)
  have hproof : ∀ proofHash ∈ ev.merkleProof, encodeString 5 (hex32 proofHash) =
      WireField.encode (.ofText 5 (hex32 proofHash)) := by
    intro proofHash hmem
    refine htext 5 _ (by decide) (List.mem_append_left _ (List.mem_append_right _ ?_))
    exact List.mem_map_of_mem (f := fun proofHash => encodeString 5 (hex32 proofHash)) hmem
  rw [encodeEvidenceInner, htext 1 _ (by decide) (by simp), htext 2 _ (by decide) (by simp),
    htext 3 _ (by decide) (by simp), htext 4 _ (by decide) (by simp), List.map_congr_left hproof,
    encodeUint32_eq (by decide), encodeFields, evidenceFields, List.flatMap_def, List.map_append,
    List.map_append, List.map_map]
  rfl

/-! ## The challenge -/

section Encoding

variable (challengerBech32 : String) (challenge : Challenge)

def challengeFields : List WireField :=
  [.ofText 1 (hex32 challenge.challengeId),
    .ofNumber 2 (challengeKindToProto challenge.kind).toInt64.toUInt64.toNat,
    .ofNumber 3 (UInt64.ofNat challenge.epochId).toNat,
    .ofText 4 (hexOrEmpty challenge.targetNode),
    .ofText 5 challengerBech32,
    .ofNumber 6 (UInt64.ofNat challenge.bond).toNat,
    .ofNumber 7 (UInt64.ofNat challenge.openedAtHeight).toInt64.toUInt64.toNat,
    .ofNumber 8 (UInt64.ofNat challenge.deadlineHeight).toInt64.toUInt64.toNat,
    .ofNumber 9 (challengeStateToProto challenge.state).toInt64.toUInt64.toNat,
    .ofMessage 10 (evidenceFields challenge.evidence),
    .ofNumber 11 0,
    .ofNumber 12 0,
    .ofText 13 "",
    .ofText 14 ""]

def openFields : List WireField :=
  [.ofText 1 challengerBech32, .ofMessage 2 (challengeFields challengerBech32 challenge)]

theorem listed_challengeFields :
    ∀ field ∈ challengeFields challengerBech32 challenge, field.Listed := by
  simp only [challengeFields, List.forall_mem_cons]
  refine ⟨listed_ofText _ ?_ ?_, listed_word _ ?_ ?_, listed_word _ ?_ ?_, listed_ofText _ ?_ ?_,
    listed_ofText _ ?_ ?_, listed_word _ ?_ ?_, listed_word _ ?_ ?_, listed_word _ ?_ ?_,
    listed_word _ ?_ ?_, listed_ofMessage _ ?_ ?_, listed_ofNumber ?_ ?_ ?_,
    listed_ofNumber ?_ ?_ ?_, listed_ofText _ ?_ ?_, listed_ofText _ ?_ ?_, ?_⟩ <;> simp

theorem listed_openFields : ∀ field ∈ openFields challengerBech32 challenge, field.Listed := by
  simp [openFields, listed_ofText, listed_ofMessage]

variable {challengerBech32 challenge}

theorem encodeChallengeInner_eq
    (hlength : (encodeChallengeInner challenge challengerBech32).length < 2 ^ 64) :
    encodeChallengeInner challenge challengerBech32 =
      encodeFields (challengeFields challengerBech32 challenge) := by
  have hid : (hex32 challenge.challengeId).toUTF8.toList.length < 2 ^ 64 :=
    embedded_length_lt 1 hlength (by simp [encodeString])
  have htarget : (hexOrEmpty challenge.targetNode).toUTF8.toList.length < 2 ^ 64 :=
    embedded_length_lt 4 hlength (by simp [encodeString])
  have hchallenger : challengerBech32.toUTF8.toList.length < 2 ^ 64 :=
    embedded_length_lt 5 hlength (by simp [encodeString])
  have hevidence : (encodeEvidenceInner challenge.evidence).length < 2 ^ 64 :=
    embedded_length_lt 10 hlength (by simp)
  have hempty : "".toUTF8.toList.length < 2 ^ 64 :=
    embedded_length_lt 13 hlength (by simp [encodeString])
  simp only [encodeChallengeInner, encodeString]
  rw [encodeBytes_eq (by decide) hid, encodeBytes_eq (by decide) htarget,
    encodeBytes_eq (by decide) hchallenger, encodeBytes_eq (by decide) hevidence,
    @encodeBytes_eq 13 (by decide) _ hempty,
    @encodeBytes_eq 14 (by decide) _ hempty, encodeEvidenceInner_eq hevidence]
  simp (disch := decide) only [encodeUint64_eq, encodeInt32_eq, encodeInt64_eq]
  rfl

theorem encodeMsgOpenChallenge_eq
    (hfits : (encodeMsgOpenChallenge challengerBech32 challenge).Fits) :
    (encodeMsgOpenChallenge challengerBech32 challenge).value =
      encodeFields (openFields challengerBech32 challenge) := by
  have hchallenger : challengerBech32.toUTF8.toList.length < 2 ^ 64 :=
    embedded_length_lt 1 hfits (by simp [encodeString])
  have hchallenge : (encodeChallengeInner challenge challengerBech32).length < 2 ^ 64 :=
    embedded_length_lt 2 hfits (by simp)
  rw [encodeMsgOpenChallenge]
  dsimp only
  rw [encodeString, encodeBytes_eq (by decide) hchallenger, encodeBytes_eq (by decide) hchallenge,
    encodeChallengeInner_eq hchallenge]
  rfl

theorem ofNumber_challengeKind (kind : ChallengeKind) :
    Chain.ChallengeKind.ofNumber
      (BitVec.ofNat 32 (challengeKindToProto kind).toInt64.toUInt64.toNat).toInt =
      chainKind kind := by
  cases kind <;> rfl

theorem ofNumber_challengeState (state : ChallengeState) :
    Chain.ChallengeState.ofNumber
      (BitVec.ofNat 32 (challengeStateToProto state).toInt64.toUInt64.toNat).toInt =
      chainState state := by
  cases state <;> rfl

/-- A height below 2 ^ 63 keeps its value as a signed number. -/
theorem toInt64_height {height : ℕ} (h : height < 2 ^ 63) :
    toInt64 (UInt64.ofNat height).toInt64.toUInt64.toNat = height := by
  have hword : (UInt64.ofNat height).toInt64.toUInt64.toNat = height := by
    change (UInt64.ofNat height).toNat = height
    rw [UInt64.toNat_ofNat', Nat.mod_eq_of_lt (by omega)]
  rw [hword, toInt64_of_lt h]

theorem unmarshal_challengeFields (h : WithinWire challengerBech32 challenge)
    (hparse : parseFields (encodeFields (evidenceFields challenge.evidence)) =
      some (evidenceFields challenge.evidence)) :
    Chain.Challenge.unmarshal (challengeFields challengerBech32 challenge) =
      (openedChallenge challengerBech32 challenge (UInt64.ofNat challenge.bond)).challenge := by
  have hid : readString (challengeFields challengerBech32 challenge) 1 =
      some (hex32 challenge.challengeId) := readString_of_values rfl
  have htarget : readString (challengeFields challengerBech32 challenge) 4 =
      some (hexOrEmpty challenge.targetNode) := readString_of_values rfl
  have hchallenger : readString (challengeFields challengerBech32 challenge) 5 =
      some challengerBech32 := readString_of_values rfl
  have hsummary : readString (challengeFields challengerBech32 challenge) 13 = some "" :=
    readString_of_values rfl
  have hcons : readString (challengeFields challengerBech32 challenge) 14 = some "" :=
    readString_of_values rfl
  have hepoch : Chain.readUint64 (challengeFields challengerBech32 challenge) 3 =
      some challenge.epochId := by
    refine readNumber_of_values ?_
    change [WireValue.varint (UInt64.ofNat challenge.epochId).toNat] = _
    rw [UInt64.toNat_ofNat', Nat.mod_eq_of_lt h.epoch]
  have hopened : Chain.readInt64 (challengeFields challengerBech32 challenge) 7 =
      some (challenge.openedAtHeight : ℤ) := by
    rw [← toInt64_height h.opened]
    rfl
  have hdeadline : Chain.readInt64 (challengeFields challengerBech32 challenge) 8 =
      some (challenge.deadlineHeight : ℤ) := by
    rw [← toInt64_height h.deadline]
    rfl
  have hevidence : readMessage Chain.ChallengeEvidenceRef.unmarshal
      (challengeFields challengerBech32 challenge) 10 =
      some (some (ChallengeEvidenceRef.meaning challenge.evidence)) :=
    readMessage_of_values hparse rfl (unmarshal_evidenceFields _)
  have hbond : UInt64.ofNat (UInt64.ofNat challenge.bond).toNat = UInt64.ofNat challenge.bond :=
    UInt64.ofNat_toNat
  rw [Chain.Challenge.unmarshal, hid, htarget, hchallenger, hsummary, hcons, hepoch, hopened,
    hdeadline, hevidence]
  simp only [openedChallenge]
  rw [← ofNumber_challengeKind, ← ofNumber_challengeState, ← hbond]
  rfl

/-- The chain reads the challenge with the low word of its bond. -/
theorem unmarshal_openChallenge (h : WithinWire challengerBech32 challenge) :
    Chain.MsgOpenChallenge.unmarshal (encodeMsgOpenChallenge challengerBech32 challenge).value =
      some (openedChallenge challengerBech32 challenge (UInt64.ofNat challenge.bond)) := by
  have hvalue := encodeMsgOpenChallenge_eq h.fits
  have hlength := h.fits.length_lt hvalue
  have hinner : (encodeFields (challengeFields challengerBech32 challenge)).length < 2 ^ 64 := by
    refine lt_trans (content_length_lt 2 ?_) hlength
    simp [openFields, WireField.ofMessage]
  have hevidence : (encodeFields (evidenceFields challenge.evidence)).length < 2 ^ 64 := by
    refine lt_trans (content_length_lt 10 ?_) hinner
    simp [challengeFields, WireField.ofMessage]
  have hchallenger : readString (openFields challengerBech32 challenge) 1 =
      some challengerBech32 := readString_of_values rfl
  have hchallenge : readMessage Chain.Challenge.unmarshal
      (openFields challengerBech32 challenge) 2 = some
        (openedChallenge challengerBech32 challenge (UInt64.ofNat challenge.bond)).challenge :=
    readMessage_of_values (parseFields_of_length (listed_challengeFields _ _) hinner) rfl
      (unmarshal_challengeFields h (parseFields_of_length (listed_evidenceFields _) hevidence))
  rw [Chain.MsgOpenChallenge.unmarshal, hvalue,
    parseFields_of_length (listed_openFields _ _) hlength]
  simp only [Option.bind_eq_bind, Option.bind_some, hchallenger, hchallenge]
  rfl

end Encoding

/-! ## The bond -/

/-- The chain reads the challenge as it is, with its bond. -/
def Survives (challengerBech32 : String) (challenge : Challenge) : Prop :=
  ∃ bondAmount : UInt64, bondAmount.toNat = challenge.bond ∧
    Chain.MsgOpenChallenge.unmarshal (encodeMsgOpenChallenge challengerBech32 challenge).value =
      some (openedChallenge challengerBech32 challenge bondAmount)

theorem survives_iff {challengerBech32 : String} {challenge : Challenge}
    (h : WithinWire challengerBech32 challenge) :
    Survives challengerBech32 challenge ↔ challenge.bond < 2 ^ 64 := by
  constructor
  · rintro ⟨bondAmount, hbond, -⟩
    rw [← hbond]
    exact bondAmount.toNat_lt
  · intro hbond
    refine ⟨UInt64.ofNat challenge.bond, ?_, unmarshal_openChallenge h⟩
    rw [UInt64.toNat_ofNat', Nat.mod_eq_of_lt hbond]

/-- Two challenges reach the chain as they are, and not alike unless their bonds are equal, exactly
if both bonds are words. -/
theorem challenges_survive_iff {challenger challenger' : String} {challenge challenge' : Challenge}
    (h : WithinWire challenger challenge) (h' : WithinWire challenger' challenge') :
    (Survives challenger challenge ∧ Survives challenger' challenge' ∧
      (challenge.bond ≠ challenge'.bond →
        (encodeMsgOpenChallenge challenger challenge).value ≠
          (encodeMsgOpenChallenge challenger' challenge').value)) ↔
      challenge.bond < 2 ^ 64 ∧ challenge'.bond < 2 ^ 64 := by
  rw [survives_iff h, survives_iff h', ← and_assoc]
  refine and_iff_left_of_imp fun ⟨hbond, hbond'⟩ hne heq => hne ?_
  have hread := (unmarshal_openChallenge h).symm.trans
    ((congrArg _ heq).trans (unmarshal_openChallenge h'))
  have hwords : UInt64.ofNat challenge.bond = UInt64.ofNat challenge'.bond := by
    have hopened := Option.some.inj hread
    simp only [openedChallenge, Chain.MsgOpenChallenge.mk.injEq, Option.some.injEq,
      Chain.Challenge.mk.injEq] at hopened
    exact hopened.2.2.2.2.2.2.1
  have hnat := congrArg UInt64.toNat hwords
  rwa [UInt64.toNat_ofNat', UInt64.toNat_ofNat', Nat.mod_eq_of_lt hbond,
    Nat.mod_eq_of_lt hbond'] at hnat

/-- A challenge of a batch with two steps of proof and the given bond. -/
def batchChallenge (bond : ℕ) : Challenge where
  challengeId := 5
  kind := .badBatch
  epochId := 300
  targetNode := some 7
  challenger := 9
  bond
  openedAtHeight := 1000
  deadlineHeight := 2 ^ 63 - 1
  state := .responded
  evidence := { batchRoot := some 11, payloadCid := some "cid", merkleProof := [1, 2] }

theorem challenges_survive_two :
    Survives "pole1c" (batchChallenge 1000) ∧ Survives "pole1d" (batchChallenge (2 ^ 64 - 1)) := by
  have hfirst : WithinWire "pole1c" (batchChallenge 1000) := by
    refine ⟨by decide, by decide, by decide, ?_⟩
    unfold AnyMessage.Fits
    decide +kernel
  have hsecond : WithinWire "pole1d" (batchChallenge (2 ^ 64 - 1)) := by
    refine ⟨by decide, by decide, by decide, ?_⟩
    unfold AnyMessage.Fits
    decide +kernel
  have hboth := (challenges_survive_iff hfirst hsecond).mpr ⟨by decide, by decide⟩
  exact ⟨hboth.1, hboth.2.1⟩

/-- A bond of 2 ^ 64 reaches the chain as no bond. -/
theorem bond_lost_on_the_wire :
    (batchChallenge (2 ^ 64)).bond < 2 ^ 128 ∧
      (batchChallenge (2 ^ 64)).bond ≠ (batchChallenge 0).bond ∧
      (encodeMsgOpenChallenge "pole1c" (batchChallenge (2 ^ 64))).value =
        (encodeMsgOpenChallenge "pole1c" (batchChallenge 0)).value := by
  refine ⟨by decide, by decide, ?_⟩
  have hword : UInt64.ofNat (2 ^ 64) = UInt64.ofNat 0 := by decide
  simp only [encodeMsgOpenChallenge, encodeChallengeInner, batchChallenge, hword]

end PoleProtocol.Node
