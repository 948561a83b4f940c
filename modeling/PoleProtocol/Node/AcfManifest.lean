import PoleProtocol.Framework.Lexing

/-!
# Two readers of a Steam manifest

A manifest has one quoted key on a line, with or without a quoted value, between lines of braces.
The binary proof keeps what the last line beginning with the quoted key says; the game directory
takes the first line whose key is the name in any letter case and which has a value, and halves its
doubled backslashes. On repeated keys, other letter cases, blank values and backslashes the readers
part.
-/

namespace PoleProtocol.Node

open Framework

/-! ## The reader of the binary proof -/

def extractAcfValue (line : String) : Option String :=
  ((splitText (· == '"') line).filter fun part => decide (trim part ≠ ""))[1]?

structure AcfFields where
  name : Option String := none
  installDir : Option String := none
  buildId : Option String := none
  deriving DecidableEq

def readAcfLine (fields : AcfFields) (line : String) : AcfFields :=
  let trimmed := trim line
  if beginsWith trimmed "\"name\"" then { fields with name := extractAcfValue trimmed }
  else if beginsWith trimmed "\"installdir\"" then
    { fields with installDir := extractAcfValue trimmed }
  else if beginsWith trimmed "\"buildid\"" then { fields with buildId := extractAcfValue trimmed }
  else fields

def readAcfFields (content : String) : AcfFields := (textLines content).foldl readAcfLine {}

/-- A manifest found at a path of type `P`. -/
structure SteamManifestInfo (P : Type) where
  appId : ℕ
  name : Option String
  installDir : Option String
  buildId : Option String
  manifestPath : P
  deriving DecidableEq

/-- The manifest at a path; a file that cannot be read as text has none. -/
def parseSteamManifestFile {P : Type} (readToString : P → Option String) (manifestPath : P)
    (appId : ℕ) : Option (SteamManifestInfo P) :=
  (readToString manifestPath).map fun content =>
    let fields := readAcfFields content
    { appId, name := fields.name, installDir := fields.installDir, buildId := fields.buildId,
      manifestPath }

/-! ## The reader of the game directory -/

/-- The quoted parts, given whether a quote is open and what was read since. -/
def quotedFrom : (inQuote : Bool) → (current : List Char) → List Char → List String
  | _, _, [] => []
  | true, current, '"' :: chars => String.ofList current :: quotedFrom false [] chars
  | true, current, ch :: chars => quotedFrom true (current ++ [ch]) chars
  | false, current, '"' :: chars => quotedFrom true current chars
  | false, current, _ :: chars => quotedFrom false current chars

def quotedTokens (line : String) : List String := quotedFrom false [] line.toList

/-- Doubled backslashes become single ones. -/
def halveBackslashes : List Char → List Char
  | '\\' :: '\\' :: chars => '\\' :: halveBackslashes chars
  | ch :: chars => ch :: halveBackslashes chars
  | [] => []

/-- The value on a line whose key is the field in any letter case. -/
def fieldOfLine (field line : String) : Option String :=
  match quotedTokens line with
  | key :: value :: _ =>
      if eqIgnoreAsciiCase key field then some (String.ofList (halveBackslashes value.toList))
      else none
  | _ => none

def parseManifestStringField (content field : String) : Option String :=
  (textLines content).findSome? (fieldOfLine field)

/-! ## Lines of a manifest -/

/-- White space inside a line. -/
structure Spacing where
  chars : List Char
  blank : ∀ c ∈ chars, isWhitespace c = true

/-- What stands between two quotes. -/
structure Quoted where
  chars : List Char
  unquoted : '"' ∉ chars

inductive ManifestLine where
  | blank (space : Spacing)
  | brace (before : Spacing) (opening : Bool) (after : Spacing)
  | keyOnly (before : Spacing) (key : Quoted) (after : Spacing)
  | pair (before : Spacing) (key : Quoted) (between : Spacing) (value : Quoted) (after : Spacing)

def Quoted.written (quoted : Quoted) : List Char := '"' :: quoted.chars ++ ['"']

namespace ManifestLine

def chars : ManifestLine → List Char
  | .blank space => space.chars
  | .brace before opening after =>
      before.chars ++ [if opening then '\x7b' else '\x7d'] ++ after.chars
  | .keyOnly before key after => before.chars ++ key.written ++ after.chars
  | .pair before key between value after =>
      before.chars ++ (key.written ++ between.chars ++ value.written) ++ after.chars

def text (line : ManifestLine) : String := String.ofList line.chars

def key? : ManifestLine → Option (List Char)
  | .blank _ => none
  | .brace _ _ _ => none
  | .keyOnly _ key _ => some key.chars
  | .pair _ key _ _ _ => some key.chars

def value? : ManifestLine → Option (List Char)
  | .pair _ _ _ value _ => some value.chars
  | _ => none

end ManifestLine

theorem Spacing.unquoted (space : Spacing) : '"' ∉ space.chars := by
  intro hmem
  have hblank := space.blank '"' hmem
  revert hblank
  decide

/-! ## What the game directory reads -/

theorem quotedFrom_skip {skipped rest : List Char} (h : '"' ∉ skipped) :
    quotedFrom false [] (skipped ++ rest) = quotedFrom false [] rest := by
  induction skipped with
  | nil => rfl
  | cons c skipped ih =>
      rw [List.mem_cons, not_or] at h
      rw [List.cons_append, quotedFrom, ih h.2]
      intro heq
      exact h.1 heq.symm

theorem quotedFrom_quoted {quoted rest : List Char} (current : List Char) (h : '"' ∉ quoted) :
    quotedFrom true current (quoted ++ '"' :: rest) =
      String.ofList (current ++ quoted) :: quotedFrom false [] rest := by
  induction quoted generalizing current with
  | nil => rw [List.nil_append, quotedFrom, List.append_nil]
  | cons c quoted ih =>
      rw [List.mem_cons, not_or] at h
      rw [List.cons_append, quotedFrom, ih _ h.2, List.append_assoc, List.singleton_append]
      intro heq
      exact h.1 heq.symm

theorem quotedFrom_written (quoted : Quoted) (rest : List Char) :
    quotedFrom false [] (quoted.written ++ rest) =
      String.ofList quoted.chars :: quotedFrom false [] rest := by
  change quotedFrom true [] (quoted.chars ++ ['"'] ++ rest) = _
  rw [List.append_assoc, List.singleton_append, quotedFrom_quoted [] quoted.unquoted,
    List.nil_append]

/-- The quoted parts of a line are its key and its value. -/
theorem quotedTokens_text (line : ManifestLine) :
    quotedTokens line.text = (line.key?.toList ++ line.value?.toList).map String.ofList := by
  rw [quotedTokens, ManifestLine.text, String.toList_ofList]
  have hend (after : Spacing) : quotedFrom false [] after.chars = [] := by
    have hskip := @quotedFrom_skip after.chars [] after.unquoted
    rwa [List.append_nil, quotedFrom] at hskip
  cases line with
  | blank space => rw [ManifestLine.chars, hend]; rfl
  | brace before opening after =>
      have hbrace : '"' ∉ [if opening then '\x7b' else '\x7d'] := by cases opening <;> decide
      rw [ManifestLine.chars, List.append_assoc, quotedFrom_skip before.unquoted,
        quotedFrom_skip hbrace, hend]
      rfl
  | keyOnly before key after =>
      rw [ManifestLine.chars, List.append_assoc, quotedFrom_skip before.unquoted,
        quotedFrom_written, hend]
      rfl
  | pair before key between value after =>
      rw [ManifestLine.chars, List.append_assoc, quotedFrom_skip before.unquoted,
        List.append_assoc, List.append_assoc, quotedFrom_written,
        quotedFrom_skip between.unquoted, quotedFrom_written, hend]
      rfl

/-- The key under which a manifest names its directory. -/
def installDirKey : List Char := "installdir".toList

/-- The value behind the key in any letter case. -/
def ManifestLine.anyCaseValue? (line : ManifestLine) : Option (List Char) :=
  if line.key?.map lowercase = some (lowercase installDirKey) then line.value? else none

theorem eqIgnoreAsciiCase_installDir (key : List Char) :
    eqIgnoreAsciiCase (String.ofList key) "installdir" = true ↔
      lowercase key = lowercase installDirKey := by
  unfold eqIgnoreAsciiCase
  rw [String.toList_ofList, beq_iff_eq]
  rfl

theorem fieldOfLine_text (line : ManifestLine) :
    fieldOfLine "installdir" line.text =
      line.anyCaseValue?.map fun value => String.ofList (halveBackslashes value) := by
  unfold fieldOfLine ManifestLine.anyCaseValue?
  rw [quotedTokens_text]
  cases line with
  | blank space => rfl
  | brace before opening after => rfl
  | keyOnly before key after =>
      change none = Option.map _ (if _ then none else none)
      rw [ite_self]
      rfl
  | pair before key between value after =>
      change (if eqIgnoreAsciiCase (String.ofList key.chars) "installdir" = true then
          some (String.ofList (halveBackslashes (String.ofList value.chars).toList)) else none) =
        Option.map _ (if some (lowercase key.chars) = some (lowercase installDirKey) then
          some value.chars else none)
      have hkey := eqIgnoreAsciiCase_installDir key.chars
      rw [String.toList_ofList]
      by_cases hsame : lowercase key.chars = lowercase installDirKey
      · rw [if_pos (hkey.mpr hsame), if_pos (congrArg some hsame)]
        rfl
      · rw [if_neg (mt hkey.mp hsame), if_neg (mt Option.some.inj hsame)]
        rfl

/-- The game directory reads the first of those values. -/
theorem parseManifestStringField_eq {content : String} {lines : List ManifestLine}
    (h : textLines content = lines.map ManifestLine.text) :
    parseManifestStringField content "installdir" =
      (lines.filterMap (·.anyCaseValue?)).head?.map fun value =>
        String.ofList (halveBackslashes value) := by
  rw [parseManifestStringField, h, List.findSome?_map, List.head?_filterMap]
  clear h
  induction lines with
  | nil => rfl
  | cons line lines ih =>
      rw [List.findSome?_cons, List.findSome?_cons, Function.comp_apply, fieldOfLine_text, ih]
      cases line.anyCaseValue? with
      | none => rfl
      | some value => rfl

/-! ## What the binary proof reads -/

namespace ManifestLine

/-- The line without the white space around it. -/
def core : ManifestLine → List Char
  | .blank _ => []
  | .brace _ opening _ => [if opening then '\x7b' else '\x7d']
  | .keyOnly _ key _ => key.written
  | .pair _ key between value _ => key.written ++ between.chars ++ value.written

/-- The value, unless it is blank. -/
def visibleValue (line : ManifestLine) : Option String :=
  (line.value?.filter fun value => decide (trimChars value ≠ [])).map String.ofList

end ManifestLine

theorem Quoted.getLast?_written (quoted : Quoted) (front : List Char) :
    (front ++ quoted.written).getLast? = some '"' := by
  have hwritten : front ++ quoted.written = (front ++ '"' :: quoted.chars) ++ ['"'] := by
    rw [Quoted.written, List.append_assoc]
  rw [hwritten, List.getLast?_concat]

theorem trim_text (line : ManifestLine) : trim line.text = String.ofList line.core := by
  rw [trim, ManifestLine.text, String.toList_ofList]
  congr 1
  have hquote : isWhitespace '"' = false := by decide
  cases line with
  | blank space => exact trimChars_eq_nil_iff.mpr space.blank
  | brace before opening after =>
      have hbrace : isWhitespace (if opening then '\x7b' else '\x7d') = false := by
        cases opening <;> decide
      exact trimChars_between before.blank after.blank rfl hbrace rfl hbrace
  | keyOnly before key after =>
      exact trimChars_between before.blank after.blank rfl hquote (key.getLast?_written []) hquote
  | pair before key between value after =>
      exact trimChars_between before.blank after.blank rfl hquote (value.getLast?_written _) hquote

/-- A line begins with a quoted word exactly when the word is its key. -/
theorem core_begins_iff {word : List Char} (hword : '"' ∉ word) (line : ManifestLine) :
    ('"' :: (word ++ ['"'])).isPrefixOf line.core = true ↔ line.key? = some word := by
  have hkey (key : Quoted) (rest : List Char) :
      ('"' :: (word ++ ['"'])).isPrefixOf (key.written ++ rest) = true ↔
        some key.chars = some word := by
    have hclosed := @isPrefixOf_closed '"' word key.chars rest hword key.unquoted
    have hshape : key.written ++ rest = '"' :: (key.chars ++ '"' :: rest) := by
      rw [Quoted.written, List.cons_append, List.cons_append, List.append_assoc]
      rfl
    rw [hshape, List.isPrefixOf_cons_cons, beq_self_eq_true, Bool.true_and, hclosed,
      Option.some.injEq, eq_comm]
  cases line with
  | blank space => simp [ManifestLine.core, ManifestLine.key?]
  | brace before opening after =>
      cases opening <;> simp [ManifestLine.core, ManifestLine.key?]
  | keyOnly before key after =>
      have hshape := hkey key []
      rwa [List.append_nil] at hshape
  | pair before key between value after =>
      rw [ManifestLine.core, List.append_assoc]
      exact hkey key _

/-! ### Values -/

theorem trim_eq_empty_iff (chars : List Char) :
    trim (String.ofList chars) = "" ↔ trimChars chars = [] := by
  rw [trim, String.toList_ofList, String.ofList_eq_empty_iff]

/-- The visible parts of a text that is split at its quotes. -/
theorem visible_parts {parts : List (List Char)} (hne : parts ≠ [])
    (hparts : ∀ part ∈ parts, '"' ∉ part) :
    ((splitText (· == '"') (String.ofList (['"'].intercalate parts))).filter fun part =>
        decide (trim part ≠ "")) =
      (parts.filter fun part => decide (trimChars part ≠ [])).map String.ofList := by
  have hvisible : (fun part => decide (trim part ≠ "")) ∘ String.ofList =
      fun part => decide (trimChars part ≠ []) := by
    funext part
    simp only [Function.comp_apply, ne_eq, trim_eq_empty_iff]
  rw [splitText_intercalate hne hparts, List.filter_map, hvisible]

theorem Spacing.trimChars_eq (space : Spacing) : trimChars space.chars = [] :=
  trimChars_eq_nil_iff.mpr space.blank

/-- Behind a visible key the reader takes the value unless it is blank. -/
theorem extractAcfValue_core {line : ManifestLine} {word : List Char}
    (hkey : line.key? = some word) (hvisible : trimChars word ≠ []) :
    extractAcfValue (String.ofList line.core) = line.visibleValue := by
  unfold extractAcfValue
  have hnothing : trimChars [] = [] := rfl
  cases line with
  | blank space => cases hkey
  | brace before opening after => cases hkey
  | keyOnly before key after =>
      cases hkey
      have hparts : ∀ part ∈ [[], key.chars, []], '"' ∉ part := by simp [key.unquoted]
      have hline : (ManifestLine.keyOnly before key after).core =
          ['"'].intercalate [[], key.chars, []] := by
        simp [ManifestLine.core, Quoted.written]
      rw [hline, visible_parts (List.cons_ne_nil _ _) hparts]
      simp [hnothing, hvisible, ManifestLine.visibleValue, ManifestLine.value?]
  | pair before key between value after =>
      cases hkey
      have hparts : ∀ part ∈ [[], key.chars, between.chars, value.chars, []], '"' ∉ part := by
        simp [key.unquoted, between.unquoted, value.unquoted]
      have hline : (ManifestLine.pair before key between value after).core =
          ['"'].intercalate [[], key.chars, between.chars, value.chars, []] := by
        simp [ManifestLine.core, Quoted.written]
      rw [hline, visible_parts (List.cons_ne_nil _ _) hparts]
      by_cases hvalue : trimChars value.chars = []
      · simp [hnothing, hvisible, hvalue, between.trimChars_eq, ManifestLine.visibleValue,
          ManifestLine.value?]
      · simp [hnothing, hvisible, hvalue, between.trimChars_eq, ManifestLine.visibleValue,
          ManifestLine.value?]

/-! ### The lines in order -/

theorem beginsWith_core {word : String} {inside : List Char}
    (hword : word.toList = '"' :: (inside ++ ['"'])) (hinside : '"' ∉ inside)
    (line : ManifestLine) :
    beginsWith (String.ofList line.core) word = true ↔ line.key? = some inside := by
  rw [beginsWith, String.toList_ofList, hword]
  exact core_begins_iff hinside line

/-- A line keyed by the name of the directory sets what was read, any other line keeps it. -/
theorem readAcfLine_installDir (fields : AcfFields) (line : ManifestLine) :
    (readAcfLine fields line.text).installDir =
      if line.key? = some installDirKey then line.visibleValue else fields.installDir := by
  have hname := @beginsWith_core "\"name\"" "name".toList (by decide) (by decide) line
  have hdir := @beginsWith_core "\"installdir\"" installDirKey (by decide) (by decide) line
  have hapart : "name".toList ≠ installDirKey := by decide
  have hvisible : trimChars installDirKey ≠ [] := by decide
  simp only [readAcfLine, trim_text]
  by_cases hkeyed : line.key? = some installDirKey
  · have hother : ¬ line.key? = some "name".toList := by
      rw [hkeyed, Option.some.injEq]
      exact hapart.symm
    rw [if_neg (mt hname.mp hother), if_pos (hdir.mpr hkeyed), if_pos hkeyed]
    exact extractAcfValue_core hkeyed hvisible
  · rw [if_neg (mt hdir.mp hkeyed), if_neg hkeyed]
    split
    · rfl
    · split <;> rfl

/-- The last line keyed by the name of the directory. -/
def lastKeyed (lines : List ManifestLine) : Option ManifestLine :=
  (lines.filter fun line => decide (line.key? = some installDirKey)).getLast?

/-- The binary proof reads the last such line. -/
theorem readAcfFields_installDir {content : String} {lines : List ManifestLine}
    (h : textLines content = lines.map ManifestLine.text) :
    (readAcfFields content).installDir = (lastKeyed lines).bind (·.visibleValue) := by
  rw [readAcfFields, h, lastKeyed]
  clear h
  induction lines using List.reverseRecOn with
  | nil => rfl
  | append_singleton lines line ih =>
      rw [List.map_append, List.foldl_append, List.filter_append, List.map_cons, List.map_nil,
        List.foldl_cons, List.foldl_nil, readAcfLine_installDir, ih]
      by_cases hkeyed : line.key? = some installDirKey
      · rw [if_pos hkeyed, List.filter_cons_of_pos (by simp [hkeyed]), List.filter_nil,
          List.getLast?_concat, Option.bind_some]
      · rw [if_neg hkeyed, List.filter_cons_of_neg (by simp [hkeyed]), List.filter_nil,
          List.append_nil]

/-! ## The two readers -/

/-- What the readers agree on: a value behind the key in any letter case is the first of those, and
behind the key as it is written the last line has it as its value, backslashes halved and not
blank. -/
def ValuesAgree (lines : List ManifestLine) : Prop :=
  ∀ value, (lines.filterMap (·.anyCaseValue?)).head? = some value →
    ∃ line, lastKeyed lines = some line ∧ line.value? = some (halveBackslashes value) ∧
      trimChars (halveBackslashes value) ≠ []

theorem ManifestLine.visibleValue_eq_some {line : ManifestLine} {value : List Char} :
    line.visibleValue = some (String.ofList value) ↔
      line.value? = some value ∧ trimChars value ≠ [] := by
  unfold ManifestLine.visibleValue
  cases line.value? with
  | none => simp
  | some v =>
      by_cases hv : trimChars v = []
      · simp [Option.filter, hv]
        rintro rfl
        exact hv
      · simp [Option.filter, hv, String.ofList_inj]
        rintro rfl
        exact hv

/-- The last line with the key has no visible value where no line with the key has one. -/
theorem visibleValue_of_no_value {lines : List ManifestLine}
    (h : (lines.filterMap (·.anyCaseValue?)).head? = none) :
    (lastKeyed lines).bind (·.visibleValue) = none := by
  cases hlast : lastKeyed lines with
  | none => rfl
  | some line =>
      obtain ⟨hmem, hkeyed⟩ := List.mem_filter.mp (List.mem_of_getLast? hlast)
      have hkey : line.key? = some installDirKey := of_decide_eq_true hkeyed
      have hnone := List.filterMap_eq_nil_iff.mp (List.head?_eq_none_iff.mp h) line hmem
      rw [ManifestLine.anyCaseValue?, hkey, Option.map_some, if_pos rfl] at hnone
      rw [Option.bind_some, ManifestLine.visibleValue, hnone]
      rfl

/-- On a manifest of such lines the readers agree exactly where the values do. -/
theorem readers_agree_iff {P : Type} {readToString : P → Option String} {manifestPath : P}
    {content : String} {lines : List ManifestLine}
    (hread : readToString manifestPath = some content)
    (hlines : textLines content = lines.map ManifestLine.text) (appId : ℕ) :
    (parseSteamManifestFile readToString manifestPath appId).bind (·.installDir) =
        parseManifestStringField content "installdir" ↔
      ValuesAgree lines := by
  rw [parseSteamManifestFile, hread, Option.map_some, Option.bind_some]
  change (readAcfFields content).installDir = _ ↔ _
  rw [readAcfFields_installDir hlines, parseManifestStringField_eq hlines]
  unfold ValuesAgree
  cases hfirst : (lines.filterMap (·.anyCaseValue?)).head? with
  | none =>
      rw [visibleValue_of_no_value hfirst]
      simp
  | some first =>
      rw [Option.map_some]
      constructor
      · intro hsame value hvalue
        cases hvalue
        obtain ⟨line, hline, hvisible⟩ := Option.bind_eq_some_iff.mp hsame
        exact ⟨line, hline, ManifestLine.visibleValue_eq_some.mp hvisible⟩
      · intro hagree
        obtain ⟨line, hline, hvalue⟩ := hagree first rfl
        have hvisible := ManifestLine.visibleValue_eq_some.mpr hvalue
        exact Option.bind_eq_some_iff.mpr ⟨line, hline, hvisible⟩

namespace AcfSample

def tab : Spacing := ⟨['\t'], by simp [isWhitespace]⟩

def flush : Spacing := ⟨[], by simp⟩

/-- A line that gives the directory. -/
def directory (value : Quoted) : ManifestLine :=
  .pair tab ⟨installDirKey, by decide⟩ tab value flush

/-- A section with one directory, and another one inside a nested section. -/
def nested (outer inner : Quoted) : List ManifestLine :=
  [.keyOnly flush ⟨"AppState".toList, by decide⟩ flush, .brace flush true flush, directory outer,
    .keyOnly tab ⟨"UserConfig".toList, by decide⟩ flush, .brace tab true flush, directory inner,
    .brace tab false flush, .brace flush false flush]

def game : Quoted := ⟨"game".toList, by decide⟩

def beta : Quoted := ⟨"beta".toList, by decide⟩

def sameText : String :=
  "\"AppState\"\n\x7b\n\t\"installdir\"\t\"game\"\n\t\"UserConfig\"\n\t\x7b\n" ++
    "\t\"installdir\"\t\"game\"\n\t\x7d\n\x7d\n"

def otherText : String :=
  "\"AppState\"\n\x7b\n\t\"installdir\"\t\"game\"\n\t\"UserConfig\"\n\t\x7b\n" ++
    "\t\"installdir\"\t\"beta\"\n\t\x7d\n\x7d\n"

theorem same_lines : textLines sameText = (nested game game).map ManifestLine.text := by
  decide +kernel

theorem other_lines : textLines otherText = (nested game beta).map ManifestLine.text := by
  decide +kernel

end AcfSample

open AcfSample in
/-- The theorem at a manifest that repeats its directory in a nested section. -/
theorem readers_agree_on_a_repeated_directory :
    (parseSteamManifestFile (fun _ : Unit => some sameText) () 730).bind (·.installDir) =
        parseManifestStringField sameText "installdir" ↔
      ValuesAgree (nested game game) :=
  readers_agree_iff rfl same_lines 730

open AcfSample in
/-- A nested section with another directory: one reader gives that one, the other reader the outer
one. -/
theorem readers_differ_on_a_nested_directory :
    textLines otherText = (nested game beta).map ManifestLine.text ∧
      (parseSteamManifestFile (fun _ : Unit => some otherText) () 730).bind (·.installDir) =
        some "beta" ∧
      parseManifestStringField otherText "installdir" = some "game" := by
  refine ⟨other_lines, ?_, ?_⟩
  · change (readAcfFields otherText).installDir = _
    rw [readAcfFields_installDir other_lines]
    decide
  · rw [parseManifestStringField_eq other_lines]
    decide

/-- They differ on another letter case, on a blank value and on a doubled backslash as well. -/
theorem readers_differ_on_single_lines :
    ((readAcfFields "\"InstallDir\" \"game\"").installDir = none ∧
        parseManifestStringField "\"InstallDir\" \"game\"" "installdir" = some "game") ∧
      ((readAcfFields "\"installdir\" \"\"").installDir = none ∧
        parseManifestStringField "\"installdir\" \"\"" "installdir" = some "") ∧
      ((readAcfFields "\"installdir\" \"a\\\\b\"").installDir = some "a\\\\b" ∧
        parseManifestStringField "\"installdir\" \"a\\\\b\"" "installdir" = some "a\\b") := by
  decide +kernel

end PoleProtocol.Node
