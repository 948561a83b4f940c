import PoleProtocol.Framework.Checks
import PoleProtocol.Framework.Text

/-!
# Protocol buffers

The wire format of the third version of the language. A message is a sequence of fields, each a
number with a wire type and a content. Its reader takes the last value of a field, joins the parts
of an embedded message, lists those of a repeated one, and skips the numbers it does not know.
Groups are refused.
-/

namespace PoleProtocol.Framework.Protobuf

/-! ## Numbers of variable length -/

/-- Seven bits a byte, the lowest first; every byte but the last has its high bit set. -/
def varint (n : ℕ) : List UInt8 :=
  if n < 128 then [UInt8.ofNat n] else UInt8.ofNat (n % 128 + 128) :: varint (n / 128)

/-- The number at the front, of at most so many bytes. -/
def readDigits : ℕ → List UInt8 → Option (ℕ × List UInt8)
  | 0, _ => none
  | _ + 1, [] => none
  | room + 1, byte :: rest =>
      if byte.toNat < 128 then some (byte.toNat, rest)
      else (readDigits room rest).map fun (high, left) => (byte.toNat % 128 + 128 * high, left)

/-- A number has at most ten bytes; what they hold beyond 64 bits is dropped. -/
def readVarint (bytes : List UInt8) : Option (ℕ × List UInt8) :=
  (readDigits 10 bytes).map fun (n, rest) => (n % 2 ^ 64, rest)

theorem varint_of_lt {n : ℕ} (h : n < 128) : varint n = [UInt8.ofNat n] := by
  rw [varint, if_pos h]

theorem varint_of_le {n : ℕ} (h : 128 ≤ n) :
    varint n = UInt8.ofNat (n % 128 + 128) :: varint (n / 128) := by
  rw [varint, if_neg (Nat.not_lt.mpr h)]

theorem varint_ne_nil (n : ℕ) : varint n ≠ [] := by
  rw [varint]
  split <;> simp

theorem readDigits_varint (rest : List UInt8) {room n : ℕ} (h : n < 128 ^ (room + 1)) :
    readDigits (room + 1) (varint n ++ rest) = some (n, rest) := by
  induction room generalizing n with
  | zero =>
      have hsmall : n < 128 := by simpa using h
      rw [varint_of_lt hsmall, List.singleton_append, readDigits, UInt8.toNat_ofNat',
        Nat.mod_eq_of_lt (by omega), if_pos hsmall]
  | succ room ih =>
      by_cases hsmall : n < 128
      · rw [varint_of_lt hsmall, List.singleton_append, readDigits, UInt8.toNat_ofNat',
          Nat.mod_eq_of_lt (by omega), if_pos hsmall]
      · have hdiv : n / 128 < 128 ^ (room + 1) := by
          rw [Nat.div_lt_iff_lt_mul (by norm_num), ← Nat.pow_succ]
          exact h
        have hbyte : (UInt8.ofNat (n % 128 + 128)).toNat = n % 128 + 128 := by
          rw [UInt8.toNat_ofNat', Nat.mod_eq_of_lt (by omega)]
        have hdigit : (n % 128 + 128) % 128 + 128 * (n / 128) = n := by omega
        rw [varint_of_le (by omega), List.cons_append, readDigits, hbyte, if_neg (by omega),
          ih hdiv, Option.map_some]
        dsimp only
        rw [hdigit]

theorem readVarint_varint (rest : List UInt8) {n : ℕ} (h : n < 2 ^ 64) :
    readVarint (varint n ++ rest) = some (n, rest) := by
  have hdigits : n < 128 ^ (9 + 1) := lt_trans h (by norm_num)
  rw [readVarint, readDigits_varint rest hdigits, Option.map_some]
  dsimp only
  rw [Nat.mod_eq_of_lt h]

/-- What is read is at least one byte, and as many digits as there are bytes. -/
theorem readDigits_spec {room n : ℕ} {bytes rest : List UInt8}
    (h : readDigits room bytes = some (n, rest)) :
    ∃ used, used ≠ [] ∧ bytes = used ++ rest ∧ n < 128 ^ used.length := by
  induction room generalizing bytes n with
  | zero => cases h
  | succ room ih =>
      cases bytes with
      | nil => cases h
      | cons byte later =>
          rw [readDigits] at h
          split at h
          · next hsmall =>
              cases h
              exact ⟨[byte], by simp, rfl, by simpa using hsmall⟩
          · obtain ⟨⟨high, left⟩, hread, heq⟩ := Option.map_eq_some_iff.mp h
            cases heq
            obtain ⟨used, -, hused, hhigh⟩ := ih hread
            refine ⟨byte :: used, by simp, by rw [hused, List.cons_append], ?_⟩
            rw [List.length_cons, Nat.pow_succ]
            omega

theorem readVarint_spec {n : ℕ} {bytes rest : List UInt8} (h : readVarint bytes = some (n, rest)) :
    ∃ used, used ≠ [] ∧ bytes = used ++ rest ∧ n < 128 ^ used.length := by
  obtain ⟨⟨digits, left⟩, hread, heq⟩ := Option.map_eq_some_iff.mp h
  cases heq
  obtain ⟨used, hne, hused, hlt⟩ := readDigits_spec hread
  exact ⟨used, hne, hused, lt_of_le_of_lt (Nat.mod_le _ _) hlt⟩

theorem length_varint_le {n k : ℕ} (h : n < 128 ^ (k + 1)) : (varint n).length ≤ k + 1 := by
  induction k generalizing n with
  | zero =>
      rw [varint_of_lt (by simpa using h)]
      rfl
  | succ k ih =>
      by_cases hsmall : n < 128
      · rw [varint_of_lt hsmall, List.length_singleton]
        omega
      · have hdiv : n / 128 < 128 ^ (k + 1) := by
          rw [Nat.div_lt_iff_lt_mul (by norm_num), ← Nat.pow_succ]
          exact h
        rw [varint_of_le (by omega), List.length_cons]
        exact Nat.succ_le_succ (ih hdiv)

/-- No encoding of a number is shorter. -/
theorem varint_shortest {n : ℕ} {bytes : List UInt8} (h : readVarint bytes = some (n, [])) :
    (varint n).length ≤ bytes.length := by
  obtain ⟨used, hne, hused, hlt⟩ := readVarint_spec h
  rw [List.append_nil] at hused
  obtain ⟨k, hk⟩ := Nat.exists_eq_succ_of_ne_zero (mt List.length_eq_zero_iff.mp hne)
  rw [hk] at hlt
  rw [hused, hk]
  exact length_varint_le hlt

/-! ## Fields -/

inductive WireValue where
  | varint (n : ℕ)
  | fixed64 (bytes : List UInt8)
  | content (bytes : List UInt8)
  | fixed32 (bytes : List UInt8)
  deriving DecidableEq

structure WireField where
  number : ℕ
  value : WireValue
  deriving DecidableEq

def WireValue.wireType : WireValue → ℕ
  | .varint _ => 0
  | .fixed64 _ => 1
  | .content _ => 2
  | .fixed32 _ => 5

def WireValue.encode : WireValue → List UInt8
  | .varint n => Protobuf.varint n
  | .fixed64 bytes => bytes
  | .content bytes => Protobuf.varint bytes.length ++ bytes
  | .fixed32 bytes => bytes

def WireField.encode (field : WireField) : List UInt8 :=
  varint (8 * field.number + field.value.wireType) ++ field.value.encode

def encodeFields (fields : List WireField) : List UInt8 := fields.flatMap WireField.encode

def WireField.ofNumber (number n : ℕ) : WireField := ⟨number, .varint n⟩

def WireField.ofText (number : ℕ) (text : String) : WireField :=
  ⟨number, .content text.toUTF8.toList⟩

def WireField.ofMessage (number : ℕ) (fields : List WireField) : WireField :=
  ⟨number, .content (encodeFields fields)⟩

/-- So many bytes from the front. -/
def readExactly (count : ℕ) (bytes : List UInt8) : Option (List UInt8 × List UInt8) :=
  if count ≤ bytes.length then some (bytes.splitAt count) else none

def readValue (wireType : ℕ) (bytes : List UInt8) : Option (WireValue × List UInt8) :=
  match wireType with
  | 0 => (readVarint bytes).map fun (n, rest) => (.varint n, rest)
  | 1 => (readExactly 8 bytes).map fun (fixed, rest) => (.fixed64 fixed, rest)
  | 2 => (readVarint bytes).bind fun (length, rest) =>
      (readExactly length rest).map fun (content, rest) => (.content content, rest)
  | 5 => (readExactly 4 bytes).map fun (fixed, rest) => (.fixed32 fixed, rest)
  | _ => none

def readField (bytes : List UInt8) : Option (WireField × List UInt8) :=
  (readVarint bytes).bind fun (tag, rest) =>
    if tag / 8 = 0 then none
    else (readValue (tag % 8) rest).map fun (value, rest) => (⟨tag / 8, value⟩, rest)

theorem readExactly_shorter {count : ℕ} {bytes front rest : List UInt8}
    (h : readExactly count bytes = some (front, rest)) : rest.length ≤ bytes.length := by
  unfold readExactly at h
  split at h
  · rw [List.splitAt_eq] at h
    cases h
    rw [List.length_drop]
    omega
  · cases h

theorem readVarint_shorter {n : ℕ} {bytes rest : List UInt8}
    (h : readVarint bytes = some (n, rest)) : rest.length < bytes.length := by
  obtain ⟨used, hne, hused, -⟩ := readVarint_spec h
  rw [hused, List.length_append]
  have hpos := List.length_pos_iff.mpr hne
  omega

theorem readValue_shorter {wireType : ℕ} {value : WireValue} {bytes rest : List UInt8}
    (h : readValue wireType bytes = some (value, rest)) : rest.length ≤ bytes.length := by
  unfold readValue at h
  split at h
  · obtain ⟨⟨n, left⟩, hread, heq⟩ := Option.map_eq_some_iff.mp h
    cases heq
    exact (readVarint_shorter hread).le
  · obtain ⟨⟨fixed, left⟩, hread, heq⟩ := Option.map_eq_some_iff.mp h
    cases heq
    exact readExactly_shorter hread
  · obtain ⟨⟨length, later⟩, hlength, hrest⟩ := Option.bind_eq_some_iff.mp h
    obtain ⟨⟨content, left⟩, hread, heq⟩ := Option.map_eq_some_iff.mp hrest
    cases heq
    exact (readExactly_shorter hread).trans (readVarint_shorter hlength).le
  · obtain ⟨⟨fixed, left⟩, hread, heq⟩ := Option.map_eq_some_iff.mp h
    cases heq
    exact readExactly_shorter hread
  · cases h

theorem readField_shorter {field : WireField} {bytes rest : List UInt8}
    (h : readField bytes = some (field, rest)) : rest.length < bytes.length := by
  obtain ⟨⟨tag, later⟩, htag, hrest⟩ := Option.bind_eq_some_iff.mp h
  dsimp only at hrest
  split at hrest
  · cases hrest
  · obtain ⟨⟨value, left⟩, hread, heq⟩ := Option.map_eq_some_iff.mp hrest
    cases heq
    exact lt_of_le_of_lt (readValue_shorter hread) (readVarint_shorter htag)

/-- The fields of a message. -/
def parseFields (bytes : List UInt8) : Option (List WireField) :=
  if bytes = [] then some []
  else
    match _ : readField bytes with
    | none => none
    | some (field, rest) => (parseFields rest).map (field :: ·)
termination_by bytes.length
decreasing_by exact readField_shorter (by assumption)

def WireValue.Fits : WireValue → Prop
  | .varint n => n < 2 ^ 64
  | .fixed64 bytes => bytes.length = 8
  | .content bytes => bytes.length < 2 ^ 64
  | .fixed32 bytes => bytes.length = 4

/-- The field is one that the format can hold. -/
structure WireField.Fits (field : WireField) : Prop where
  number_pos : 0 < field.number
  number_lt : field.number < 2 ^ 29
  value : field.value.Fits

theorem readExactly_append (front rest : List UInt8) :
    readExactly front.length (front ++ rest) = some (front, rest) := by
  rw [readExactly, if_pos (by rw [List.length_append]; omega), List.splitAt_eq, List.take_left,
    List.drop_left]

theorem readValue_encode {value : WireValue} (hfits : value.Fits) (rest : List UInt8) :
    readValue value.wireType (value.encode ++ rest) = some (value, rest) := by
  cases value with
  | varint n =>
      change (readVarint (varint n ++ rest)).map _ = _
      rw [readVarint_varint rest hfits]
      rfl
  | fixed64 bytes =>
      have hlength : bytes.length = 8 := hfits
      change (readExactly 8 (bytes ++ rest)).map _ = _
      rw [← hlength, readExactly_append]
      rfl
  | content bytes =>
      change (readVarint ((varint bytes.length ++ bytes) ++ rest)).bind _ = _
      rw [List.append_assoc, readVarint_varint _ hfits, Option.bind_some]
      dsimp only
      rw [readExactly_append]
      rfl
  | fixed32 bytes =>
      have hlength : bytes.length = 4 := hfits
      change (readExactly 4 (bytes ++ rest)).map _ = _
      rw [← hlength, readExactly_append]
      rfl

theorem readField_encode {field : WireField} (hfits : field.Fits) (rest : List UInt8) :
    readField (field.encode ++ rest) = some (field, rest) := by
  have htype : field.value.wireType < 8 := by
    cases field.value <;> simp [WireValue.wireType]
  have hpos := hfits.number_pos
  have hlt := hfits.number_lt
  have hnumber : (8 * field.number + field.value.wireType) / 8 = field.number := by omega
  have hwire : (8 * field.number + field.value.wireType) % 8 = field.value.wireType := by omega
  rw [readField, WireField.encode, List.append_assoc, readVarint_varint _ (by omega),
    Option.bind_some]
  dsimp only
  rw [hnumber, hwire, if_neg (by omega), readValue_encode hfits.value, Option.map_some]

theorem encodeFields_cons (field : WireField) (fields : List WireField) :
    encodeFields (field :: fields) = field.encode ++ encodeFields fields := List.flatMap_cons ..

theorem encodeFields_append (fields later : List WireField) :
    encodeFields (fields ++ later) = encodeFields fields ++ encodeFields later :=
  List.flatMap_append

theorem WireField.encode_ne_nil (field : WireField) : field.encode ≠ [] := by
  intro h
  exact varint_ne_nil _ (List.append_eq_nil_iff.mp h).1

/-- A message is read back as the fields it was written from. -/
theorem parseFields_encodeFields {fields : List WireField} (hfits : ∀ field ∈ fields, field.Fits) :
    parseFields (encodeFields fields) = some fields := by
  induction fields with
  | nil =>
      rw [parseFields]
      rfl
  | cons field fields ih =>
      obtain ⟨hfield, hrest⟩ := List.forall_mem_cons.mp hfits
      have hread := readField_encode hfield (encodeFields fields)
      have hne : field.encode ++ encodeFields fields ≠ [] := fun h =>
        field.encode_ne_nil (List.append_eq_nil_iff.mp h).1
      rw [encodeFields_cons, parseFields, if_neg hne]
      split
      · next hnone =>
          rw [hread] at hnone
          cases hnone
      · next first left hsome =>
          rw [hread] at hsome
          cases hsome
          rw [ih hrest]
          rfl

/-- The content of a field is shorter than the message. -/
theorem content_length_lt (number : ℕ) {fields : List WireField} {bytes : List UInt8}
    (hmem : ⟨number, .content bytes⟩ ∈ fields) : bytes.length < (encodeFields fields).length := by
  obtain ⟨before, later, rfl⟩ := List.append_of_mem hmem
  have hcontent : bytes.length < (WireField.encode ⟨number, .content bytes⟩).length := by
    have hpos := List.length_pos_iff.mpr (varint_ne_nil (8 * number + 2))
    change _ < (varint (8 * number + 2) ++ (varint bytes.length ++ bytes)).length
    rw [List.length_append, List.length_append]
    omega
  rw [encodeFields_append, encodeFields_cons, List.length_append, List.length_append]
  omega

/-- A field as a message may list it: its number is one of the format, and a number it holds is a
word. -/
def WireField.Listed (field : WireField) : Prop :=
  0 < field.number ∧ field.number < 2 ^ 29 ∧
    (field.value.Fits ∨ ∃ bytes, field.value = .content bytes)

theorem listed_ofNumber {number n : ℕ} (hpos : 0 < number) (hlt : number < 2 ^ 29)
    (hn : n < 2 ^ 64) : (WireField.ofNumber number n).Listed := ⟨hpos, hlt, Or.inl hn⟩

theorem listed_ofText {number : ℕ} (text : String) (hpos : 0 < number) (hlt : number < 2 ^ 29) :
    (WireField.ofText number text).Listed := ⟨hpos, hlt, Or.inr ⟨_, rfl⟩⟩

theorem listed_ofMessage {number : ℕ} (fields : List WireField) (hpos : 0 < number)
    (hlt : number < 2 ^ 29) : (WireField.ofMessage number fields).Listed :=
  ⟨hpos, hlt, Or.inr ⟨_, rfl⟩⟩

/-- In a message whose length is a word, the lengths of all contents are. -/
theorem fits_of_length {fields : List WireField} (hlisted : ∀ field ∈ fields, field.Listed)
    (hlength : (encodeFields fields).length < 2 ^ 64) : ∀ field ∈ fields, field.Fits := by
  intro field hmem
  obtain ⟨hpos, hlt, hvalue⟩ := hlisted field hmem
  refine ⟨hpos, hlt, ?_⟩
  rcases hvalue with hfits | ⟨bytes, hbytes⟩
  · exact hfits
  · have hshorter : bytes.length < (encodeFields fields).length := by
      refine content_length_lt field.number ?_
      rw [← hbytes]
      exact hmem
    rw [hbytes]
    exact lt_trans hshorter hlength

theorem parseFields_of_length {fields : List WireField} (hlisted : ∀ field ∈ fields, field.Listed)
    (hlength : (encodeFields fields).length < 2 ^ 64) :
    parseFields (encodeFields fields) = some fields :=
  parseFields_encodeFields (fits_of_length hlisted hlength)

/-! ## Values -/

def WireValue.number? : WireValue → Option ℕ
  | .varint n => some n
  | _ => none

def WireValue.content? : WireValue → Option (List UInt8)
  | .content bytes => some bytes
  | _ => none

/-- What the message says about a number, in its order. -/
def valuesOf (fields : List WireField) (number : ℕ) : List WireValue :=
  (fields.filter fun field => field.number = number).map (·.value)

/-- The last number of the field; a field that is absent is zero. -/
def readNumber (fields : List WireField) (number : ℕ) : Option ℕ :=
  ((valuesOf fields number).mapM WireValue.number?).map fun ns => ns.getLast?.getD 0

def readContents (fields : List WireField) (number : ℕ) : Option (List (List UInt8)) :=
  (valuesOf fields number).mapM WireValue.content?

def readText (bytes : List UInt8) : Option String := String.fromUTF8? bytes.toByteArray

/-- The texts of a repeated field. -/
def readTexts (fields : List WireField) (number : ℕ) : Option (List String) :=
  (readContents fields number).bind fun contents => contents.mapM readText

/-- The last text of the field; a field that is absent is empty. -/
def readString (fields : List WireField) (number : ℕ) : Option String :=
  (readTexts fields number).map fun texts => texts.getLast?.getD ""

section Messages

variable {α : Type} (decode : List WireField → Option α)

/-- The messages of a repeated field. -/
def readMessages (fields : List WireField) (number : ℕ) : Option (List α) :=
  (readContents fields number).bind fun contents =>
    contents.mapM fun content => (parseFields content).bind decode

/-- An embedded message: its parts are one sequence of fields. -/
def readMessage (fields : List WireField) (number : ℕ) : Option (Option α) :=
  (readContents fields number).bind fun contents =>
    if contents = [] then some none
    else ((contents.mapM parseFields).bind fun parts => decode parts.flatten).map some

end Messages

section Reading

variable {fields later : List WireField} {number : ℕ}

theorem valuesOf_append :
    valuesOf (fields ++ later) number = valuesOf fields number ++ valuesOf later number := by
  rw [valuesOf, List.filter_append, List.map_append]
  rfl

theorem valuesOf_eq_nil (h : ∀ field ∈ fields, field.number ≠ number) :
    valuesOf fields number = [] := by
  rw [valuesOf, List.filter_eq_nil_iff.mpr (by simpa using h), List.map_nil]

/-- A repeated field. -/
theorem valuesOf_map {α : Type} (xs : List α) (value : α → WireValue) :
    valuesOf (xs.map fun x => ⟨number, value x⟩) number = xs.map value := by
  rw [valuesOf, List.filter_eq_self.mpr (by simp), List.map_map]
  rfl

theorem readNumber_of_values {n : ℕ} (h : valuesOf fields number = [.varint n]) :
    readNumber fields number = some n := by
  rw [readNumber, h]
  rfl

theorem readText_utf8 (text : String) : readText text.toUTF8.toList = some text := by
  have hbytes : text.toUTF8.toList.toByteArray = text.toByteArray := by
    rw [byteArray_toList]
    refine ByteArray.ext ?_
    rw [List.data_toByteArray, Array.toArray_toList, String.toUTF8_eq_toByteArray]
  rw [readText, hbytes, String.fromUTF8?, dif_pos text.isValidUTF8]
  rfl

theorem readContents_of_values {contents : List (List UInt8)}
    (h : valuesOf fields number = contents.map .content) :
    readContents fields number = some contents := by
  rw [readContents, h]
  exact mapM_written fun _ _ => rfl

theorem readTexts_of_values {texts : List String}
    (h : valuesOf fields number = texts.map fun text => .content text.toUTF8.toList) :
    readTexts fields number = some texts := by
  have hcontents : readContents fields number = some (texts.map (·.toUTF8.toList)) :=
    readContents_of_values (by rw [h, List.map_map]; rfl)
  rw [readTexts, hcontents, Option.bind_some]
  exact mapM_written fun text _ => readText_utf8 text

theorem readString_of_values {text : String}
    (h : valuesOf fields number = [.content text.toUTF8.toList]) :
    readString fields number = some text := by
  have hvalues : valuesOf fields number =
      [text].map fun text => .content text.toUTF8.toList := h
  have htexts := readTexts_of_values hvalues
  rw [readString, htexts]
  rfl

/-- An embedded message that was written in one part. -/
theorem readMessage_of_values {α : Type} {decode : List WireField → Option α}
    {inner : List WireField} {a : α} (hparse : parseFields (encodeFields inner) = some inner)
    (h : valuesOf fields number = [.content (encodeFields inner)])
    (hdecode : decode inner = some a) :
    readMessage decode fields number = some (some a) := by
  have hvalues : valuesOf fields number = [encodeFields inner].map .content := h
  have hcontents := readContents_of_values hvalues
  have hparts : ([inner].map encodeFields).mapM parseFields = some [inner] := by
    refine mapM_written fun fields hfields => ?_
    rw [List.mem_singleton.mp hfields]
    exact hparse
  rw [List.map_singleton] at hparts
  rw [readMessage, hcontents, Option.bind_some, if_neg (List.cons_ne_nil _ _), hparts,
    Option.bind_some, List.flatten_singleton, hdecode, Option.map_some]

theorem readMessages_of_values {α β : Type} (write : α → List WireField)
    {decode : List WireField → Option β} {meaning : α → β} {messages : List α}
    (hparse : ∀ message ∈ messages,
      parseFields (encodeFields (write message)) = some (write message))
    (h : valuesOf fields number =
      messages.map fun message => .content (encodeFields (write message)))
    (hdecode : ∀ message ∈ messages, decode (write message) = some (meaning message)) :
    readMessages decode fields number = some (messages.map meaning) := by
  have hcontents : readContents fields number =
      some (messages.map fun message => encodeFields (write message)) :=
    readContents_of_values (by rw [h, List.map_map]; rfl)
  rw [readMessages, hcontents, Option.bind_some]
  refine mapM_written_meaning fun message hmessage => ?_
  rw [hparse message hmessage, Option.bind_some, hdecode message hmessage]

end Reading

end PoleProtocol.Framework.Protobuf
