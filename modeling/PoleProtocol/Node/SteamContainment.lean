import PoleProtocol.Framework.Search
import PoleProtocol.Node.AcfManifest

/-!
# Manifests and the executables they are claimed for

The folders above an executable are searched for a Steam library, and in it for a manifest whose
install directory the executable is in. The test also accepts a manifest whose install directory is,
ignoring case, the text of any part of the executable's path. A manifest can so claim an executable
outside its directory; the search returns such a manifest exactly when no manifest before it
contains the executable.
-/

namespace PoleProtocol.Node

open Framework

/-! ## Paths -/

/-- A part of a path, as the platform divides it. -/
inductive PathPart where
  | drive (text : String)
  | root
  | current
  | parent
  | normal (name : String)
  deriving DecidableEq

abbrev PathParts := List PathPart

/-- How a platform reads a text as a path, and a path with a text joined to it; `rootText` is how it
writes the root. -/
structure PathStyle where
  rootText : String
  parts : String → PathParts
  join : PathParts → String → PathParts

def PathStyle.partText (style : PathStyle) : PathPart → String
  | .drive text => text
  | .root => style.rootText
  | .current => "."
  | .parent => ".."
  | .normal name => name

/-- The path without its last part; a root or a drive has none above it. -/
def parentOf (path : PathParts) : Option PathParts :=
  match path.getLast? with
  | some (.normal _) => some path.dropLast
  | some .current => some path.dropLast
  | some .parent => some path.dropLast
  | _ => none

def fileName (path : PathParts) : Option String :=
  match path.getLast? with
  | some (.normal name) => some name
  | _ => none

/-! ## The search -/

/-- What the search reads of the file system; a listing has the names that are texts, in the order
in which the platform lists them. -/
structure SteamFiles where
  isFile : PathParts → Bool
  readToString : PathParts → Option String
  readDir : PathParts → Option (List String)

def isExeWithinSteamInstalldir (style : PathStyle) (exePath steamappsDir : PathParts)
    (installDir : String) : Bool :=
  let commonGameDir := style.join (steamappsDir ++ [.normal "common"]) installDir
  if commonGameDir.isPrefixOf exePath then true
  else exePath.any fun part => eqIgnoreAsciiCase (style.partText part) installDir

/-- The text without any number of the pattern at its front. -/
def trimStartMatches (pattern chars : List Char) : List Char :=
  if pattern ≠ [] ∧ pattern.isPrefixOf chars = true then
    trimStartMatches pattern (chars.drop pattern.length)
  else chars
termination_by chars.length
decreasing_by
  next h =>
    have hle := (List.isPrefixOf_iff_prefix.mp h.2).length_le
    have hpos := List.length_pos_of_ne_nil h.1
    rw [List.length_drop]
    omega

def trimEndMatches (pattern chars : List Char) : List Char :=
  (trimStartMatches pattern.reverse chars.reverse).reverse

/-- The number in the name of a manifest. -/
def manifestAppId (name : String) : Option ℕ :=
  if beginsWith name "appmanifest_" ∧ ".acf".toList.isSuffixOf name.toList then
    parseUnsigned 32 (String.ofList (trimEndMatches ".acf".toList
      (trimStartMatches "appmanifest_".toList name.toList)))
  else none

section Search

variable (style : PathStyle) (files : SteamFiles) (exePath : PathParts)
  (expectedAppId : Option ℕ)

/-- The manifest, if it names a directory that the test finds the executable in. -/
def claimedBy (dir : PathParts) (info : SteamManifestInfo PathParts) :
    Option (SteamManifestInfo PathParts) :=
  match info.installDir with
  | some installDir =>
      if isExeWithinSteamInstalldir style exePath dir installDir then some info else none
  | none => none

def searchSteamapps (dir : PathParts) : Option (SteamManifestInfo PathParts) :=
  match expectedAppId with
  | some targetId =>
      let manifestFile := dir ++ [.normal ("appmanifest_" ++ toString targetId ++ ".acf")]
      if files.isFile manifestFile then
        (parseSteamManifestFile files.readToString manifestFile targetId).bind
          (claimedBy style exePath dir)
      else none
  | none =>
      match files.readDir dir with
      | none => none
      | some names => names.findSome? fun name =>
          (manifestAppId name).bind fun appId =>
            (parseSteamManifestFile files.readToString (dir ++ [.normal name]) appId).bind
              (claimedBy style exePath dir)

/-- The search from a folder upwards, over the given number of folders. -/
def searchUp : ℕ → Option PathParts → Option (SteamManifestInfo PathParts)
  | 0, _ => none
  | _ + 1, none => none
  | levels + 1, some dir =>
      let found :=
        if fileName dir = some "steamapps" then
          searchSteamapps style files exePath expectedAppId dir
        else none
      match found with
      | some info => some info
      | none => searchUp levels (parentOf dir)

def findSteamAppmanifest : Option (SteamManifestInfo PathParts) :=
  searchUp style files exePath expectedAppId 6 (parentOf exePath)

end Search

/-! ## The manifests in the order of the search -/

section Manifests

variable (style : PathStyle) (files : SteamFiles) (exePath : PathParts)
  (expectedAppId : Option ℕ)

/-- The manifests that are read in a library. -/
def manifestsIn (dir : PathParts) : List (SteamManifestInfo PathParts) :=
  match expectedAppId with
  | some targetId =>
      let manifestFile := dir ++ [.normal ("appmanifest_" ++ toString targetId ++ ".acf")]
      if files.isFile manifestFile then
        (parseSteamManifestFile files.readToString manifestFile targetId).toList
      else []
  | none =>
      ((files.readDir dir).getD []).filterMap fun name =>
        (manifestAppId name).bind fun appId =>
          parseSteamManifestFile files.readToString (dir ++ [.normal name]) appId

/-- The manifests that are read in the libraries above a folder. -/
def manifestsUp : ℕ → Option PathParts → List (SteamManifestInfo PathParts)
  | 0, _ => []
  | _ + 1, none => []
  | levels + 1, some dir =>
      (if fileName dir = some "steamapps" then manifestsIn files expectedAppId dir else []) ++
        manifestsUp levels (parentOf dir)

/-- The manifests that are read above an executable. -/
def manifestsAbove : List (SteamManifestInfo PathParts) :=
  manifestsUp files expectedAppId 6 (parentOf exePath)

/-- The library that a manifest is in. -/
def libraryOf (info : SteamManifestInfo PathParts) : PathParts := info.manifestPath.dropLast

/-- The test accepts the manifest for the executable. -/
def accepts (info : SteamManifestInfo PathParts) : Bool :=
  info.installDir.any (isExeWithinSteamInstalldir style exePath (libraryOf info))

theorem parseSteamManifestFile_path {manifestPath : PathParts} {appId : ℕ}
    {info : SteamManifestInfo PathParts}
    (h : parseSteamManifestFile files.readToString manifestPath appId = some info) :
    info.manifestPath = manifestPath := by
  obtain ⟨content, -, rfl⟩ := Option.map_eq_some_iff.mp h
  rfl

theorem claimedBy_eq {dir : PathParts} {info : SteamManifestInfo PathParts}
    (hlibrary : libraryOf info = dir) :
    claimedBy style exePath dir info = (some info).filter (accepts style exePath) := by
  have haccepts : accepts style exePath info =
      info.installDir.any (isExeWithinSteamInstalldir style exePath dir) := by
    rw [accepts, hlibrary]
  simp only [claimedBy, Option.filter, haccepts]
  cases info.installDir with
  | none => rfl
  | some installDir => rfl

/-- A manifest of the library is claimed by it if the test accepts it. -/
theorem parse_claimedBy (dir : PathParts) (name : String) (appId : ℕ) :
    (parseSteamManifestFile files.readToString (dir ++ [.normal name]) appId).bind
        (claimedBy style exePath dir) =
      (parseSteamManifestFile files.readToString (dir ++ [.normal name]) appId).filter
        (accepts style exePath) := by
  cases hparse : parseSteamManifestFile files.readToString (dir ++ [.normal name]) appId with
  | none => rfl
  | some info =>
      have hlibrary : libraryOf info = dir := by
        rw [libraryOf, parseSteamManifestFile_path files hparse, List.dropLast_concat]
      rw [Option.bind_some, claimedBy_eq style exePath hlibrary]

theorem searchSteamapps_eq (dir : PathParts) :
    searchSteamapps style files exePath expectedAppId dir =
      (manifestsIn files expectedAppId dir).find? (accepts style exePath) := by
  cases expectedAppId with
  | some targetId =>
      simp only [searchSteamapps, manifestsIn, parse_claimedBy]
      split
      · cases parseSteamManifestFile files.readToString _ targetId with
        | none => rfl
        | some info =>
            cases hp : accepts style exePath info with
            | false => simp [Option.filter, hp]
            | true => simp [Option.filter, hp]
      · rfl
  | none =>
      simp only [searchSteamapps, manifestsIn, parse_claimedBy]
      cases files.readDir dir with
      | none => rfl
      | some names =>
          rw [Option.getD_some, ← findSome_filter_eq]
          change names.findSome? _ = names.findSome? _
          congr 1
          funext name
          cases manifestAppId name with
          | none => rfl
          | some appId => rfl

theorem searchUp_eq (levels : ℕ) (dir : Option PathParts) :
    searchUp style files exePath expectedAppId levels dir =
      (manifestsUp files expectedAppId levels dir).find? (accepts style exePath) := by
  induction levels generalizing dir with
  | zero => rfl
  | succ levels ih =>
      cases dir with
      | none => rfl
      | some dir =>
          have hfound : (if fileName dir = some "steamapps" then
                searchSteamapps style files exePath expectedAppId dir else none) =
              (if fileName dir = some "steamapps" then
                manifestsIn files expectedAppId dir else []).find? (accepts style exePath) := by
            split
            · exact searchSteamapps_eq style files exePath expectedAppId dir
            · rfl
          simp only [searchUp, manifestsUp]
          rw [hfound, List.find?_append, ih]
          cases (if fileName dir = some "steamapps" then
            manifestsIn files expectedAppId dir else []).find? (accepts style exePath) with
          | none => rfl
          | some info => rfl

/-- The search returns the first manifest above the executable that the test accepts. -/
theorem findSteamAppmanifest_eq :
    findSteamAppmanifest style files exePath expectedAppId =
      (manifestsAbove files exePath expectedAppId).find? (accepts style exePath) :=
  searchUp_eq style files exePath expectedAppId 6 (parentOf exePath)

end Manifests

/-! ## Containment -/

/-- How the names of two folders are compared. -/
inductive NameComparison where
  | exact
  | ignoringCase
  deriving DecidableEq

def NameComparison.same (comparison : NameComparison) : PathPart → PathPart → Bool
  | .normal a, .normal b =>
      match comparison with
      | .exact => a = b
      | .ignoringCase => eqIgnoreAsciiCase a b
  | a, b => a = b

/-- The path leads strictly below the folder. -/
def strictlyBelow (comparison : NameComparison) : PathParts → PathParts → Bool
  | [], _ => false
  | _ :: _, [] => true
  | a :: path, b :: folder => comparison.same a b && strictlyBelow comparison path folder

/-- The folder `common/<installDir>` of a library; a root or a current folder in the text adds
nothing to the folders before it. -/
def installFolder (style : PathStyle) (library : PathParts) (installDir : String) : PathParts :=
  library ++ .normal "common" ::
    (style.parts installDir).filter fun part => part ≠ .root ∧ part ≠ .current

section Containment

variable (comparison : NameComparison) (style : PathStyle) (files : SteamFiles)
  (exePath : PathParts) (expectedAppId : Option ℕ)

/-- The executable lies under the directory that the manifest installs to. -/
def Contains (info : SteamManifestInfo PathParts) : Prop :=
  ∃ installDir, info.installDir = some installDir ∧
    strictlyBelow comparison exePath (installFolder style (libraryOf info) installDir) = true

/-- The directory is, ignoring case, the text of a part of the path, or the path begins with what
the platform makes of it, and yet the executable does not lie under it. -/
def Coincides (info : SteamManifestInfo PathParts) : Prop :=
  (∃ installDir, info.installDir = some installDir ∧
    ((∃ part ∈ exePath, eqIgnoreAsciiCase (style.partText part) installDir = true) ∨
      style.join (libraryOf info ++ [.normal "common"]) installDir <+: exePath)) ∧
    ¬ Contains comparison style exePath info

theorem accepts_iff (info : SteamManifestInfo PathParts) :
    accepts style exePath info = true ↔
      ∃ installDir, info.installDir = some installDir ∧
        ((∃ part ∈ exePath, eqIgnoreAsciiCase (style.partText part) installDir = true) ∨
          style.join (libraryOf info ++ [.normal "common"]) installDir <+: exePath) := by
  unfold accepts
  cases info.installDir with
  | none => simp
  | some installDir =>
      simp only [Option.any_some, Option.some.injEq, exists_eq_left', isExeWithinSteamInstalldir]
      rw [← List.isPrefixOf_iff_prefix]
      split
      · next hbegins => simp [hbegins]
      · next hbegins => simp [hbegins, List.any_eq_true]

/-- The manifest that is found contains the executable exactly when every manifest that only
coincides with its path comes after one that is accepted and contains it. -/
theorem found_manifest_contains_iff :
    (∀ info, findSteamAppmanifest style files exePath expectedAppId = some info →
        Contains comparison style exePath info) ↔
      ∀ before info after, manifestsAbove files exePath expectedAppId = before ++ info :: after →
        Coincides comparison style exePath info →
        ∃ genuine ∈ before, accepts style exePath genuine = true ∧
          Contains comparison style exePath genuine := by
  rw [findSteamAppmanifest_eq, find_has_iff]
  constructor
  · intro h before info after hmanifests hcoincides
    exact h before info after hmanifests
      ((accepts_iff style exePath info).mpr hcoincides.1) hcoincides.2
  · intro h before info after hmanifests haccepts houtside
    exact h before info after hmanifests
      ⟨(accepts_iff style exePath info).mp haccepts, houtside⟩

end Containment

/-! ## Paths with slashes -/

def partOfSegment (segment : String) : PathPart :=
  if segment = ".." then .parent else .normal segment

/-- What a text adds to a path: empty parts and current folders add nothing. -/
def addedParts (text : String) : PathParts :=
  ((splitText (· == '/') text).filter fun segment => segment ≠ "" ∧ segment ≠ ".").map partOfSegment

def unixParts (text : String) : PathParts :=
  if beginsWith text "/" then .root :: addedParts text
  else if (splitText (· == '/') text).head? = some "." then .current :: addedParts text
  else addedParts text

/-- A text that begins at the root replaces the path it is joined to. -/
def unixJoin (base : PathParts) (text : String) : PathParts :=
  if beginsWith text "/" then unixParts text else base ++ addedParts text

def unixStyle : PathStyle := { rootText := "/", parts := unixParts, join := unixJoin }

theorem filter_addedParts (text : String) :
    (addedParts text).filter (fun part => part ≠ .root ∧ part ≠ .current) = addedParts text := by
  rw [List.filter_eq_self]
  intro part hpart
  obtain ⟨segment, -, rfl⟩ := List.mem_map.mp hpart
  unfold partOfSegment
  split <;> simp

theorem installFolder_unix (library : PathParts) (installDir : String) :
    installFolder unixStyle library installDir =
      library ++ .normal "common" :: addedParts installDir := by
  have hadded := filter_addedParts installDir
  change library ++ .normal "common" :: (unixParts installDir).filter _ = _
  unfold unixParts
  split
  · rw [List.filter_cons_of_neg (by simp), hadded]
  · split
    · rw [List.filter_cons_of_neg (by simp), hadded]
    · rw [hadded]

/-- Names compared exactly, a path leads below a folder when the folder begins it. -/
theorem strictlyBelow_exact {path folder : PathParts} :
    strictlyBelow .exact path folder = true ↔ ∃ rest, rest ≠ [] ∧ path = folder ++ rest := by
  have hsame (a b : PathPart) : NameComparison.exact.same a b = true ↔ a = b := by
    cases a <;> cases b <;> simp [NameComparison.same]
  induction path generalizing folder with
  | nil =>
      constructor
      · intro h
        cases h
      · rintro ⟨rest, hne, h⟩
        exact absurd (List.append_eq_nil_iff.mp h.symm).2 hne
  | cons a path ih =>
      cases folder with
      | nil => exact ⟨fun _ => ⟨a :: path, List.cons_ne_nil _ _, rfl⟩, fun _ => rfl⟩
      | cons b folder =>
          rw [strictlyBelow, Bool.and_eq_true, hsame]
          constructor
          · rintro ⟨rfl, hbelow⟩
            obtain ⟨rest, hne, rfl⟩ := ih.mp hbelow
            exact ⟨rest, hne, rfl⟩
          · rintro ⟨rest, hne, h⟩
            obtain ⟨rfl, hpath⟩ := List.cons.inj h
            exact ⟨rfl, ih.mpr ⟨rest, hne, hpath⟩⟩

/-- With slashes, a manifest with a relative directory that contains the executable is accepted
without any look at single names. -/
theorem accepts_of_contains {exePath : PathParts} {info : SteamManifestInfo PathParts}
    {installDir : String} (hdir : info.installDir = some installDir)
    (hrelative : beginsWith installDir "/" = false)
    (h : Contains .exact unixStyle exePath info) : accepts unixStyle exePath info = true := by
  obtain ⟨installDir', hdir', hbelow⟩ := h
  rw [hdir, Option.some.injEq] at hdir'
  subst hdir'
  obtain ⟨rest, -, hpath⟩ := strictlyBelow_exact.mp hbelow
  refine (accepts_iff unixStyle exePath info).mpr ⟨installDir, hdir, Or.inr ?_⟩
  change unixJoin _ installDir <+: exePath
  rw [unixJoin, hrelative, if_neg Bool.false_ne_true, hpath, installFolder_unix,
    List.append_assoc]
  exact List.prefix_append _ _

/-! ## A directory named like a folder above -/

namespace SteamSample

def library : PathParts := [.root, .normal "games", .normal "steamapps"]

/-- An executable of another game. -/
def otherExe : PathParts := library ++ [.normal "common", .normal "Other", .normal "other.exe"]

/-- A manifest whose directory is named like the folder of all games. -/
def manifestText : String :=
  "\"AppState\"\n\x7b\n\t\"name\"\t\"Game\"\n\t\"installdir\"\t\"common\"\n\x7d\n"

def files : SteamFiles where
  isFile path := path = library ++ [.normal "appmanifest_730.acf"]
  readToString path :=
    if path = library ++ [.normal "appmanifest_730.acf"] then some manifestText else none
  readDir path := if path = library then some ["appmanifest_730.acf"] else none

def info : SteamManifestInfo PathParts :=
  { appId := 730, name := some "Game", installDir := some "common", buildId := none,
    manifestPath := library ++ [.normal "appmanifest_730.acf"] }

end SteamSample

open SteamSample in
/-- The manifest claims the executable of the other game, asked for by its number or not, and the
executable does not lie under its directory however names are compared. -/
theorem folder_name_claims_other_executable :
    findSteamAppmanifest unixStyle files otherExe (some 730) = some info ∧
      findSteamAppmanifest unixStyle files otherExe none = some info ∧
      ∀ comparison, ¬ Contains comparison unixStyle otherExe info := by
  refine ⟨by decide +kernel, by decide +kernel, ?_⟩
  rintro comparison ⟨installDir, hdir, hbelow⟩
  cases hdir
  revert hbelow
  cases comparison <;> decide +kernel

end PoleProtocol.Node
