import PoleProtocol.Framework.Protobuf

/-!
# Messages written field by field

A writer appends one part for each field of a message. When every part is the encoding of its
field, the whole is the encoding of the message, and a reader finds the fields again, those of the
messages it embeds included. Lengths are words, so all of this is said of messages whose length is
one.
-/

namespace PoleProtocol.Framework.Protobuf

/-! ## Writing -/

/-- The part is the encoding of the field. -/
structure Part (part : List UInt8) (field : WireField) : Prop where
  encodes : part.length < 2 ^ 64 → part = field.encode
  listed : field.Listed

/-- The bytes are the encoding of the fields. -/
structure Layout (bytes : List UInt8) (fields : List WireField) : Prop where
  encodes : bytes.length < 2 ^ 64 → bytes = encodeFields fields
  listed : ∀ field ∈ fields, field.Listed

theorem Layout.nil : Layout [] [] := ⟨fun _ => rfl, by simp⟩

theorem Layout.append {front back : List UInt8} {fields later : List WireField}
    (hfront : Layout front fields) (hback : Layout back later) :
    Layout (front ++ back) (fields ++ later) := by
  refine ⟨fun hlength => ?_, List.forall_mem_append.mpr ⟨hfront.listed, hback.listed⟩⟩
  rw [List.length_append] at hlength
  have hfields : front = encodeFields fields := hfront.encodes (by omega)
  have hlater : back = encodeFields later := hback.encodes (by omega)
  rw [encodeFields_append, ← hfields, ← hlater]

theorem Part.layout {part : List UInt8} {field : WireField} (h : Part part field) :
    Layout part [field] := by
  refine ⟨fun hlength => ?_, by simpa using h.listed⟩
  rw [h.encodes hlength, encodeFields_cons]
  exact (List.append_nil _).symm

/-- One part for each field. -/
theorem layout_flatten {parts : List (List UInt8)} {fields : List WireField}
    (h : List.Forall₂ Part parts fields) : Layout parts.flatten fields := by
  induction h with
  | nil => exact Layout.nil
  | cons hpart _ ih =>
      rw [List.flatten_cons]
      exact hpart.layout.append ih

/-! ## Reading -/

/-- A reader finds the fields in their encoding. -/
structure Readable (fields : List WireField) : Prop where
  listed : ∀ field ∈ fields, field.Listed
  length_lt : (encodeFields fields).length < 2 ^ 64

theorem Readable.parse {fields : List WireField} (h : Readable fields) :
    parseFields (encodeFields fields) = some fields := parseFields_of_length h.listed h.length_lt

theorem Layout.readable {bytes : List UInt8} {fields : List WireField} (h : Layout bytes fields)
    (hlength : bytes.length < 2 ^ 64) : Readable fields := by
  refine ⟨h.listed, ?_⟩
  rw [← h.encodes hlength]
  exact hlength

theorem Layout.parse {bytes : List UInt8} {fields : List WireField} (h : Layout bytes fields)
    (hlength : bytes.length < 2 ^ 64) : parseFields bytes = some fields := by
  rw [h.encodes hlength]
  exact (h.readable hlength).parse

/-- The fields of a message that is embedded. -/
theorem Readable.inner {fields inner : List WireField} (number : ℕ) (h : Readable fields)
    (hmem : .ofMessage number inner ∈ fields) (hlisted : ∀ field ∈ inner, field.Listed) :
    Readable inner := ⟨hlisted, lt_trans (content_length_lt number hmem) h.length_lt⟩

section Messages

variable {α : Type} {decode : List WireField → Option α} {a : α}
  {fields inner : List WireField} {number : ℕ}

/-- A message that is embedded once is read as a whole. -/
theorem Readable.readMessage (h : Readable inner)
    (hvalues : valuesOf fields number = [.content (encodeFields inner)])
    (hdecode : decode inner = some a) :
    readMessage decode fields number = some (some a) :=
  readMessage_of_values h.parse hvalues hdecode

end Messages

end PoleProtocol.Framework.Protobuf
