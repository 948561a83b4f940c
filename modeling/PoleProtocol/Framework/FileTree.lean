import PoleProtocol.Framework.Text

/-!
# Files

A path has a drive, a root and components, any of which may be missing. A tree of files gives the
content of each path that names a file; links are not followed, so two paths that differ name two
files.
-/

namespace PoleProtocol.Framework

structure FilePath where
  drive : Option Char
  rooted : Bool
  components : List String
  deriving DecidableEq

namespace FilePath

def isSeparator (c : Char) : Bool := c == '/' || c == '\\'

def ofRest (drive : Option Char) (rest : List Char) : FilePath where
  drive
  rooted :=
    match rest with
    | c :: _ => isSeparator c
    | [] => false
  components := ((rest.splitOnP isSeparator).map String.ofList).filter fun component =>
    component ≠ "" && component ≠ "."

/-- The path that a text names. -/
def ofText (text : String) : FilePath :=
  match text.toList with
  | letter :: ':' :: rest =>
      if letter.isAlpha then ofRest (some letter.toUpper) rest else ofRest none text.toList
  | chars => ofRest none chars

def isAbsolute (path : FilePath) : Bool := path.drive.isSome && path.rooted

/-- The second path as seen from the first. -/
def join (base path : FilePath) : FilePath :=
  if path.drive.isSome then path
  else if path.rooted then { path with drive := base.drive }
  else { base with components := base.components ++ path.components }

/-- A file in a directory. -/
def child (directory : FilePath) (name : String) : FilePath :=
  { directory with components := directory.components ++ [name] }

def parent (path : FilePath) : Option FilePath :=
  if path.components = [] then none
  else some { path with components := path.components.dropLast }

def fileName (path : FilePath) : Option String :=
  path.components.getLast?.filter (· ≠ "..")

/-- The name and something appended to it. -/
def withSuffix (path : FilePath) (suffix : String) : FilePath :=
  { path with
    components :=
      path.components.dropLast ++ (path.components.getLast?.map (· ++ suffix)).toList }

@[simp] theorem withSuffix_child (directory : FilePath) (name suffix : String) :
    (directory.child name).withSuffix suffix = directory.child (name ++ suffix) := by
  simp [withSuffix, child]

@[simp] theorem length_components_child (directory : FilePath) (name : String) :
    (directory.child name).components.length = directory.components.length + 1 := by
  simp [child]

theorem child_injective {directory directory' : FilePath} {name name' : String}
    (h : directory.child name = directory'.child name') :
    directory = directory' ∧ name = name' := by
  obtain ⟨drive, rooted, components⟩ := directory
  obtain ⟨drive', rooted', components'⟩ := directory'
  simp only [child, FilePath.mk.injEq] at h
  obtain ⟨hdrive, hrooted, hcomponents⟩ := h
  obtain ⟨hinit, hlast⟩ := List.append_inj' hcomponents rfl
  refine ⟨?_, List.singleton_inj.mp hlast⟩
  rw [hdrive, hrooted, hinit]

theorem child_ne_of_name {directory directory' : FilePath} {name name' : String}
    (h : name ≠ name') : directory.child name ≠ directory'.child name' :=
  fun hsame => h (child_injective hsame).2

/-- A file two levels down is not one level down. -/
theorem child_child_ne (directory : FilePath) (inner name name' : String) :
    (directory.child inner).child name ≠ directory.child name' := by
  intro hsame
  have hdirectory := congrArg (fun path => path.components.length) (child_injective hsame).1
  simp only [child, List.length_append, List.length_singleton] at hdirectory
  omega

/-- The path lies below the directory. -/
def Below (directory path : FilePath) : Prop :=
  path.drive = directory.drive ∧ path.rooted = directory.rooted ∧
    directory.components <+: path.components ∧
    directory.components.length < path.components.length

instance (directory path : FilePath) : Decidable (directory.Below path) :=
  inferInstanceAs (Decidable (_ ∧ _ ∧ _ ∧ _))

theorem below_child (directory : FilePath) (name : String) :
    directory.Below (directory.child name) := by
  refine ⟨rfl, rfl, List.prefix_append _ _, ?_⟩
  rw [length_components_child]
  exact Nat.lt_succ_self _

end FilePath

/-- The files there are. -/
abbrev FileTree (α : Type*) := FilePath → Option α

namespace FileTree

variable {α : Type*}

def empty : FileTree α := fun _ => none

def write (files : FileTree α) (path : FilePath) (content : α) : FileTree α :=
  fun other => if other = path then some content else files other

def remove (files : FileTree α) (path : FilePath) : FileTree α :=
  fun other => if other = path then none else files other

/-- Remove a directory with all that lies below it. -/
def removeDirAll (files : FileTree α) (directory : FilePath) : FileTree α :=
  fun other => if directory.Below other then none else files other

@[simp] theorem write_same (files : FileTree α) (path : FilePath) (content : α) :
    files.write path content path = some content := if_pos rfl

theorem write_of_ne (files : FileTree α) {path other : FilePath} (content : α)
    (h : other ≠ path) : files.write path content other = files other := if_neg h

@[simp] theorem remove_same (files : FileTree α) (path : FilePath) :
    files.remove path path = none := if_pos rfl

theorem remove_of_ne (files : FileTree α) {path other : FilePath} (h : other ≠ path) :
    files.remove path other = files other := if_neg h

theorem removeDirAll_of_not_below (files : FileTree α) {directory other : FilePath}
    (h : ¬ directory.Below other) : files.removeDirAll directory other = files other := if_neg h

end FileTree

end PoleProtocol.Framework
