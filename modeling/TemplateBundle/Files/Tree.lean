import TemplateBundle.Files.Error
import TemplateBundle.Outcome
import TemplateBundle.Path.Basic

/-! A tree of files: what there is to read, and where relative paths start. Paths are followed step
by step as an operating system does, so a path through a file or through nothing leads nowhere, even
if it comes back. -/
namespace TemplateBundle

/-- A place in a tree: the names that lead to it from the root. -/
abbrev Location := List String

inductive FileEntry where
  | file (bytes : List UInt8)
  | directory
  deriving DecidableEq, Repr, Inhabited

/-- A tree of files. The root is always a directory. -/
structure FileTree where
  entries : List (Location × FileEntry)
  workingDirectory : Location
  deriving Inhabited

namespace FileTree

def get? (tree : FileTree) (location : Location) : Option FileEntry :=
  if location.isEmpty then some .directory else tree.entries.lookup location

/-- Puts an entry at a place, instead of what was there. -/
def set (tree : FileTree) (location : Location) (entry : FileEntry) : FileTree :=
  { tree with entries := (location, entry) :: tree.entries.filter fun e => e.1 ≠ location }

def erase (tree : FileTree) (location : Location) : FileTree :=
  { tree with entries := tree.entries.filter fun e => e.1 ≠ location }

/-- How many bytes a name may have. -/
def maxNameBytes : Nat := 255

/-- How many bytes a path may have. -/
def maxPathBytes : Nat := 4095

/-- Follows the steps of a path. Each step but the last must lead to something. -/
def descend (tree : FileTree) : Location → List (List Char) → Except IoError Location
  | location, [] => .ok location
  | location, piece :: rest =>
    match tree.get? location with
    | none => .error .notFound
    | some (.file _) => .error .notADirectory
    | some .directory =>
      if piece = ['.'] then tree.descend location rest
      else if piece = ['.', '.'] then tree.descend location.dropLast rest
      else
        let name := String.ofList piece
        if maxNameBytes < name.utf8ByteSize then .error .nameTooLong
        else tree.descend (location ++ [name]) rest

/-- The steps of a path; a slash at its end asks for a directory. -/
def stepsOf (p : Path) : List (List Char) :=
  let steps := p.pieces.filter fun piece => !piece.isEmpty
  if p.text.toList.getLast? == some '/' then steps ++ [['.']] else steps

def startOf (tree : FileTree) (p : Path) : Location :=
  if p.isAbsolute then [] else tree.workingDirectory

/-- Refuses what is no path at all. -/
def checkPath (p : Path) : Except IoError Unit :=
  if p.text.toList.contains (Char.ofNat 0) then .error .invalidPath
  else if p.text.isEmpty then .error .notFound
  else if maxPathBytes < p.text.utf8ByteSize then .error .nameTooLong
  else .ok ()

def find (tree : FileTree) (p : Path) : Except IoError (Location × FileEntry) := do
  checkPath p
  let location ← tree.descend (tree.startOf p) (stepsOf p)
  match tree.get? location with
  | some entry => .ok (location, entry)
  | none => .error .notFound

def pathExists (tree : FileTree) (p : Path) : Bool := (tree.find p).toOption.isSome

def isFile (tree : FileTree) (p : Path) : Bool :=
  match tree.find p with
  | .ok (_, .file _) => true
  | _ => false

def isDirectory (tree : FileTree) (p : Path) : Bool :=
  match tree.find p with
  | .ok (_, .directory) => true
  | _ => false

def read (tree : FileTree) (p : Path) : Except IoError (List UInt8) := do
  match ← tree.find p with
  | (_, .file bytes) => .ok bytes
  | (_, .directory) => .error .isADirectory

def readText (tree : FileTree) (p : Path) : Except IoError String := do
  let bytes ← tree.read p
  match Text.decode bytes with
  | .ok text => .ok text
  | .error _ => .error .notText

def texts (tree : FileTree) : List String :=
  tree.entries.filterMap fun (_, entry) =>
    match entry with
    | .file bytes => (Text.decode bytes).toOption
    | .directory => none

theorem mem_entries (tree : FileTree) {location : Location} {bytes : List UInt8}
    (h : tree.get? location = some (.file bytes)) : (location, .file bytes) ∈ tree.entries := by
  unfold get? at h
  split at h
  · cases h
  · obtain ⟨before, after, hEntries, _⟩ := List.lookup_eq_some_iff.mp h
    simp [hEntries]

/-- Whatever is found stands in the tree. -/
theorem get?_of_find (tree : FileTree) {p : Path} {location : Location} {entry : FileEntry}
    (h : tree.find p = .ok (location, entry)) : tree.get? location = some entry := by
  obtain ⟨_, _, h⟩ := Outcome.bind_eq_ok.mp h
  obtain ⟨place, _, h⟩ := Outcome.bind_eq_ok.mp h
  split at h
  · next hEntry => cases h; exact hEntry
  · cases h

/-- Whatever text is read is the text of a file. -/
theorem mem_texts (tree : FileTree) {p : Path} {text : String} (h : tree.readText p = .ok text) :
    text ∈ tree.texts := by
  obtain ⟨bytes, hRead, hDecode⟩ := Outcome.bind_eq_ok.mp h
  obtain ⟨⟨location, entry⟩, hFind, hEntry⟩ := Outcome.bind_eq_ok.mp hRead
  cases entry with
  | directory => cases hEntry
  | file content =>
      cases hEntry
      refine List.mem_filterMap.mpr ⟨_, tree.mem_entries (tree.get?_of_find hFind), ?_⟩
      cases hText : Text.decode bytes with
      | error fault => rw [hText] at hDecode; cases hDecode
      | ok decoded =>
          rw [hText] at hDecode
          cases hDecode
          simp [hText, Except.toOption]

/-- The names directly below a place, each with what stands there. -/
def childrenOf (tree : FileTree) (location : Location) : List (String × FileEntry) :=
  tree.entries.filterMap fun (place, entry) =>
    match place.getLast? with
    | some name => if place.dropLast = location then some (name, entry) else none
    | none => none

/-- What is in a directory, in no particular order. -/
def list (tree : FileTree) (p : Path) : Except IoError (List (String × FileEntry)) := do
  match ← tree.find p with
  | (location, .directory) => .ok (tree.childrenOf location)
  | (_, .file _) => .error .notADirectory

/-- The files that are new or other than in an earlier tree. -/
def changesSince (tree earlier : FileTree) : List (Location × List UInt8) :=
  tree.entries.filterMap fun (location, entry) =>
    match entry with
    | .file bytes => if earlier.get? location = some entry then none else some (location, bytes)
    | .directory => none

end FileTree
end TemplateBundle
