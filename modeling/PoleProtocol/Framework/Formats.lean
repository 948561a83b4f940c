import PoleProtocol.Framework.Layouts

/-!
# Message formats

A format says which fields a message is written as and how they are read, and carries the proof
that a message is read as it was written. Scalar fields that hold their default are left out;
formats embed one another.
-/

namespace PoleProtocol.Framework.Protobuf

/-! ## Values of a field -/

/-- A field with all its values. -/
def fieldsOf (number : ℕ) (values : List WireValue) : List WireField :=
  values.map fun value => ⟨number, value⟩

/-- A number that is zero is left out. -/
def numberValues (n : ℕ) : List WireValue := if n = 0 then [] else [.varint n]

def bytesValues (bytes : List UInt8) : List WireValue :=
  if bytes = [] then [] else [.content bytes]

def textValues (text : String) : List WireValue := bytesValues text.toUTF8.toList

/-- The last bytes of the field; a field that is absent is empty. -/
def readBytes (fields : List WireField) (number : ℕ) : Option (List UInt8) :=
  (readContents fields number).map fun contents => contents.getLast?.getD []

/-- The value is a word or a content. -/
def WireValue.Listed (value : WireValue) : Prop := value.Fits ∨ ∃ bytes, value = .content bytes

theorem WireValue.listed_content (bytes : List UInt8) : (WireValue.content bytes).Listed :=
  Or.inr ⟨bytes, rfl⟩

def ListedValues (values : List WireValue) : Prop := ∀ value ∈ values, value.Listed

@[simp] theorem listed_numberValues (value : UInt64) :
    ListedValues (numberValues value.toNat) := by
  intro v hv
  unfold numberValues at hv
  split at hv
  · cases hv
  · rw [List.mem_singleton.mp hv]
    exact Or.inl value.toNat_lt

@[simp] theorem listed_bytesValues (bytes : List UInt8) : ListedValues (bytesValues bytes) := by
  intro v hv
  unfold bytesValues at hv
  split at hv
  · cases hv
  · rw [List.mem_singleton.mp hv]
    exact WireValue.listed_content bytes

@[simp] theorem listed_textValues (text : String) : ListedValues (textValues text) :=
  listed_bytesValues _

@[simp] theorem valuesOf_fieldsOf (number wanted : ℕ) (values : List WireValue) :
    valuesOf (fieldsOf number values) wanted = if number = wanted then values else [] := by
  by_cases h : number = wanted
  · rw [if_pos h, ← h]
    exact (valuesOf_map values id).trans (List.map_id values)
  · rw [if_neg h]
    refine valuesOf_eq_nil fun field hfield => ?_
    obtain ⟨value, _, rfl⟩ := List.mem_map.mp hfield
    exact h

/-- A message is written field by field. -/
def written (parts : List (ℕ × List WireValue)) : List WireField :=
  parts.flatMap fun part => fieldsOf part.1 part.2

@[simp] theorem valuesOf_written_nil (wanted : ℕ) : valuesOf (written []) wanted = [] := rfl

@[simp] theorem valuesOf_written_cons (part : ℕ × List WireValue)
    (parts : List (ℕ × List WireValue)) (wanted : ℕ) :
    valuesOf (written (part :: parts)) wanted =
      (if part.1 = wanted then part.2 else []) ++ valuesOf (written parts) wanted := by
  rw [written, List.flatMap_cons, valuesOf_append, valuesOf_fieldsOf]
  rfl

theorem listed_written {parts : List (ℕ × List WireValue)}
    (h : ∀ part ∈ parts, (0 < part.1 ∧ part.1 < 2 ^ 29) ∧ ListedValues part.2) :
    ∀ field ∈ written parts, field.Listed := by
  intro field hfield
  obtain ⟨part, hpart, hmem⟩ := List.mem_flatMap.mp hfield
  obtain ⟨value, hvalue, rfl⟩ := List.mem_map.mp hmem
  obtain ⟨⟨hpos, hlt⟩, hvalues⟩ := h part hpart
  exact ⟨hpos, hlt, hvalues value hvalue⟩

section Reading

variable {fields : List WireField} {number : ℕ}

theorem readNumber_present {n : ℕ} (h : valuesOf fields number = numberValues n) :
    readNumber fields number = some n := by
  unfold numberValues at h
  split at h
  · next hzero =>
      rw [readNumber, h, hzero]
      rfl
  · exact readNumber_of_values h

theorem readBytes_present {bytes : List UInt8} (h : valuesOf fields number = bytesValues bytes) :
    readBytes fields number = some bytes := by
  unfold bytesValues at h
  split at h
  · next hempty =>
      rw [readBytes, readContents, h, hempty]
      rfl
  · rw [readBytes, readContents, h]
    rfl

theorem readString_present {text : String} (h : valuesOf fields number = textValues text) :
    readString fields number = some text := by
  unfold textValues bytesValues at h
  split at h
  · next hempty =>
      have htext : text = "" := by
        have hread := readText_utf8 text
        rw [hempty] at hread
        exact (Option.some.inj hread).symm
      rw [readString, readTexts, readContents, h, htext]
      rfl
  · exact readString_of_values h

/-- The content of a field is as short as the message. -/
theorem length_content_lt (h : Readable fields) {bytes : List UInt8}
    (hmem : .content bytes ∈ valuesOf fields number) : bytes.length < 2 ^ 64 := by
  obtain ⟨⟨found, v⟩, hfield, hvalue⟩ := List.mem_map.mp hmem
  change v = _ at hvalue
  rw [hvalue] at hfield
  exact lt_trans (content_length_lt found (List.mem_filter.mp hfield).1) h.length_lt

theorem length_bytes_lt (h : Readable fields) {bytes : List UInt8}
    (hvalues : valuesOf fields number = bytesValues bytes) : bytes.length < 2 ^ 64 := by
  by_cases hempty : bytes = []
  · rw [hempty]
    exact Nat.two_pow_pos 64
  · refine @length_content_lt _ number h _ ?_
    rw [hvalues, bytesValues, if_neg hempty]
    exact List.mem_singleton_self _

end Reading

/-! ## Formats -/

structure Format (α : Type) where
  fields : α → List WireField
  read : List WireField → Option α
  listed : ∀ a, ∀ field ∈ fields a, field.Listed
  read_fields : ∀ a, Readable (fields a) → read (fields a) = some a

namespace Format

variable {α : Type}

def encode (format : Format α) (a : α) : List UInt8 := encodeFields (format.fields a)

def decode (format : Format α) (bytes : List UInt8) : Option α :=
  (parseFields bytes).bind format.read

/-- The encoding of a message, as the value of a field. -/
def value (format : Format α) (a : α) : WireValue := .content (format.encode a)

@[simp] theorem listed_values (format : Format α) (messages : List α) :
    ListedValues (messages.map format.value) := by
  intro v hv
  obtain ⟨message, _, rfl⟩ := List.mem_map.mp hv
  exact WireValue.listed_content _

variable {format : Format α} {a b : α}

theorem readable (h : (format.encode a).length < 2 ^ 64) : Readable (format.fields a) :=
  ⟨format.listed a, h⟩

theorem decode_encode (h : (format.encode a).length < 2 ^ 64) :
    format.decode (format.encode a) = some a := by
  rw [decode, encode, (readable h).parse, Option.bind_some, format.read_fields a (readable h)]

/-- Two messages of one encoding are equal. -/
theorem encode_inj (h : (format.encode a).length < 2 ^ 64)
    (heq : format.encode a = format.encode b) : a = b := by
  have hread : some a = some b := by
    rw [← decode_encode h, heq, decode_encode (heq ▸ h)]
  exact Option.some.inj hread

section Embedded

variable {fields : List WireField} {number : ℕ}

theorem readMessages (h : Readable fields) {messages : List α}
    (hvalues : valuesOf fields number = messages.map format.value) :
    readMessages format.read fields number = some messages := by
  have hreadable : ∀ message ∈ messages, Readable (format.fields message) := by
    intro message hmessage
    refine readable (@length_content_lt _ number h _ ?_)
    rw [hvalues]
    exact List.mem_map.mpr ⟨message, hmessage, rfl⟩
  have hread := @readMessages_of_values _ _ _ _ format.fields _ id _
    (fun message hmessage => (hreadable message hmessage).parse) hvalues
    (fun message hmessage => format.read_fields message (hreadable message hmessage))
  rwa [List.map_id] at hread

theorem readMessage (h : Readable fields) {message : Option α}
    (hvalues : valuesOf fields number = message.toList.map format.value) :
    readMessage format.read fields number = some message := by
  cases message with
  | none =>
      have hcontents : readContents fields number = some [] := by
        rw [readContents, hvalues]
        rfl
      rw [Protobuf.readMessage, hcontents]
      rfl
  | some message =>
      have hreadable : Readable (format.fields message) := by
        refine readable (@length_content_lt _ number h _ ?_)
        rw [hvalues]
        exact List.mem_singleton_self _
      exact readMessage_of_values hreadable.parse hvalues
        (format.read_fields message hreadable)

/-- A message that is embedded as bytes. -/
theorem decode_of_bytes (h : Readable fields)
    (hvalues : valuesOf fields number = bytesValues (format.encode a)) :
    format.decode (format.encode a) = some a := decode_encode (length_bytes_lt h hvalues)

end Embedded

end Format

end PoleProtocol.Framework.Protobuf
