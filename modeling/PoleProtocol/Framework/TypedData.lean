import Mathlib.Data.Set.Function
import Mathlib.Data.List.Basic

/-!
# Typed data under a hash

A record is hashed with the name of its type in front of its members: members of a fixed size stand
as they are, texts and records as their digests. Short of a collision among the texts hashed, the
digest of a record determines the record, whatever its depth, as long as a name says which kinds of
members it has.
-/

namespace PoleProtocol.Framework

/-- A hash whose digests are written as words of one width. -/
structure WordHash (α : Type) where
  hash : List UInt8 → α
  bytes : α → List UInt8
  width : ℕ
  length_bytes : ∀ a, (bytes a).length = width
  bytes_injective : Function.Injective bytes

/-- A word, a text, or a record under the name of its type. -/
inductive TypedValue (α : Type) where
  | word (value : α)
  | text (value : List UInt8)
  | record (name : List UInt8) (fields : List (TypedValue α))

inductive TypedKind where
  | word
  | text
  | record (name : List UInt8)
  deriving DecidableEq

namespace TypedValue

variable {α : Type}

/-! ## What a name says -/

section Conforms

variable (schema : List UInt8 → List TypedKind)

mutual

/-- The value is of the kind, and so are the members of every record in it. -/
def Conforms : TypedKind → TypedValue α → Prop
  | .word, .word _ => True
  | .text, .text _ => True
  | .record name, .record name' fields => name' = name ∧ ConformsAll (schema name') fields
  | .word, .text _ => False
  | .word, .record _ _ => False
  | .text, .word _ => False
  | .text, .record _ _ => False
  | .record _, .word _ => False
  | .record _, .text _ => False

def ConformsAll : List TypedKind → List (TypedValue α) → Prop
  | [], [] => True
  | kind :: kinds, field :: fields => Conforms kind field ∧ ConformsAll kinds fields
  | [], _ :: _ => False
  | _ :: _, [] => False

end

end Conforms

/-! ## Digests -/

section Digests

variable (H : WordHash α)

mutual

/-- The word that stands for a value. -/
def encode : TypedValue α → α
  | .word value => value
  | .text value => H.hash value
  | .record name fields => H.hash (H.bytes (H.hash name) ++ encodeAll fields)

def encodeAll : List (TypedValue α) → List UInt8
  | [] => []
  | field :: fields => H.bytes (encode field) ++ encodeAll fields

end

mutual

/-- Everything that is hashed for a value. -/
def texts : TypedValue α → List (List UInt8)
  | .word _ => []
  | .text value => [value]
  | .record name fields =>
      name :: (H.bytes (H.hash name) ++ encodeAll H fields) :: textsAll fields

def textsAll : List (TypedValue α) → List (List UInt8)
  | [] => []
  | field :: fields => texts field ++ textsAll fields

end

/-! ## Words in a row -/

variable {H}

theorem bytes_append_inj {a a' : α} {rest rest' : List UInt8}
    (h : H.bytes a ++ rest = H.bytes a' ++ rest') : a = a' ∧ rest = rest' := by
  have hlength : (H.bytes a).length = (H.bytes a').length := by
    rw [H.length_bytes, H.length_bytes]
  obtain ⟨hbytes, hrest⟩ := List.append_inj h hlength
  exact ⟨H.bytes_injective hbytes, hrest⟩

/-! ## The digest determines the value -/

variable {schema schema' : List UInt8 → List TypedKind}

/-- No two different texts of the two sets have one digest. -/
def CollisionFree (H : WordHash α) (texts texts' : List (List UInt8)) : Prop :=
  ∀ text ∈ texts, ∀ text' ∈ texts', H.hash text = H.hash text' → text = text'

theorem CollisionFree.mono {texts texts' more more' : List (List UInt8)}
    (h : CollisionFree H more more') (hsub : texts ⊆ more) (hsub' : texts' ⊆ more') :
    CollisionFree H texts texts' :=
  fun text htext text' htext' => h text (hsub htext) text' (hsub' htext')

/-- Records with one digest have one name and one row of members. -/
theorem row_inj {name name' : List UInt8} {fields fields' : List (TypedValue α)}
    (hfree : CollisionFree H (texts H (.record name fields)) (texts H (.record name' fields')))
    (hsame : encode H (.record name fields) = encode H (.record name' fields')) :
    name = name' ∧ encodeAll H fields = encodeAll H fields' := by
  have hrow : H.bytes (H.hash name) ++ encodeAll H fields =
      H.bytes (H.hash name') ++ encodeAll H fields' :=
    hfree _ (by simp [texts]) _ (by simp [texts]) (by simpa [encode] using hsame)
  obtain ⟨hnames, hfields⟩ := bytes_append_inj hrow
  have hname : name = name' := hfree name (by simp [texts]) name' (by simp [texts]) hnames
  exact ⟨hname, hfields⟩

mutual

/-- Values of one kind with one digest are equal, short of a collision. -/
theorem encode_inj {kind : TypedKind} : ∀ {value value' : TypedValue α},
    CollisionFree H (texts H value) (texts H value') → Conforms schema kind value →
    Conforms schema kind value' → encode H value = encode H value' → value = value'
  | .word value, .word value', _, _, _, hsame => by
      simpa [encode] using hsame
  | .text value, .text value', hfree, _, _, hsame => by
      have htext : value = value' := hfree value (by simp [texts]) value' (by simp [texts])
        (by simpa [encode] using hsame)
      rw [htext]
  | .record name fields, .record name' fields', hfree, hconforms, hconforms', hsame => by
      cases kind with
      | word => exact absurd hconforms (by simp [Conforms])
      | text => exact absurd hconforms (by simp [Conforms])
      | record expected =>
          simp only [Conforms] at hconforms hconforms'
          obtain ⟨rfl, hfields⟩ := hconforms
          obtain ⟨rfl, hfields'⟩ := hconforms'
          have hrow : encodeAll H fields = encodeAll H fields' := (row_inj hfree hsame).2
          have hsubset : ∀ fields : List (TypedValue α),
              textsAll H fields ⊆ texts H (.record name' fields) := by
            intro fields text htext
            simp only [texts, List.mem_cons]
            exact .inr (.inr htext)
          rw [encodeAll_inj (hfree.mono (hsubset fields) (hsubset fields')) hfields hfields' hrow]
  | .word _, .text _, _, hconforms, hconforms', _ => by
      cases kind <;> simp [Conforms] at hconforms hconforms'
  | .word _, .record _ _, _, hconforms, hconforms', _ => by
      cases kind <;> simp [Conforms] at hconforms hconforms'
  | .text _, .word _, _, hconforms, hconforms', _ => by
      cases kind <;> simp [Conforms] at hconforms hconforms'
  | .text _, .record _ _, _, hconforms, hconforms', _ => by
      cases kind <;> simp [Conforms] at hconforms hconforms'
  | .record _ _, .word _, _, hconforms, hconforms', _ => by
      cases kind <;> simp [Conforms] at hconforms hconforms'
  | .record _ _, .text _, _, hconforms, hconforms', _ => by
      cases kind <;> simp [Conforms] at hconforms hconforms'

theorem encodeAll_inj : ∀ {kinds : List TypedKind} {fields fields' : List (TypedValue α)},
    CollisionFree H (textsAll H fields) (textsAll H fields') → ConformsAll schema kinds fields →
    ConformsAll schema kinds fields' → encodeAll H fields = encodeAll H fields' → fields = fields'
  | [], [], [], _, _, _, _ => rfl
  | [], [], _ :: _, _, _, hconforms', _ => by simp [ConformsAll] at hconforms'
  | [], _ :: _, _, _, hconforms, _, _ => by simp [ConformsAll] at hconforms
  | _ :: _, [], _, _, hconforms, _, _ => by simp [ConformsAll] at hconforms
  | _ :: _, _ :: _, [], _, _, hconforms', _ => by simp [ConformsAll] at hconforms'
  | kind :: kinds, field :: fields, field' :: fields', hfree, hconforms, hconforms', hsame => by
      simp only [ConformsAll] at hconforms hconforms'
      simp only [encodeAll] at hsame
      obtain ⟨hfield, hfields⟩ := bytes_append_inj hsame
      have hfirst : ∀ (field : TypedValue α) (fields : List (TypedValue α)),
          texts H field ⊆ textsAll H (field :: fields) := by
        intro field fields
        simp [textsAll]
      have hrest : ∀ (field : TypedValue α) (fields : List (TypedValue α)),
          textsAll H fields ⊆ textsAll H (field :: fields) := by
        intro field fields
        simp [textsAll]
      rw [encode_inj (hfree.mono (hfirst field fields) (hfirst field' fields')) hconforms.1
          hconforms'.1 hfield,
        encodeAll_inj (hfree.mono (hrest field fields) (hrest field' fields')) hconforms.2
          hconforms'.2 hfields]

end

/-- Records with one digest have one name, and are equal if the name says what their members are. -/
theorem record_inj {name name' : List UInt8} {fields fields' : List (TypedValue α)}
    (hfree : CollisionFree H (texts H (.record name fields)) (texts H (.record name' fields')))
    (hfields : ConformsAll schema (schema name) fields)
    (hfields' : ConformsAll schema (schema name') fields')
    (hsame : encode H (.record name fields) = encode H (.record name' fields')) :
    name = name' ∧ fields = fields' := by
  obtain ⟨rfl, _⟩ := row_inj hfree hsame
  have hequal : TypedValue.record name fields = .record name fields' :=
    @encode_inj _ _ schema (.record name) _ _ hfree (by simp [Conforms, hfields])
      (by simp [Conforms, hfields']) hsame
  simpa using hequal

end Digests

end TypedValue

end PoleProtocol.Framework
