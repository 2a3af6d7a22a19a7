import TemplateBundle.Bits
import TemplateBundle.Build.Target
import TemplateBundle.Toml.Reader

/-! Build manifests: the targets of a project, and the options that they share. -/
namespace TemplateBundle

open Json (Document Fault)

namespace Toml

mutual
/-- A value of a manifest as options are read from. A moment is an object of which no option knows
the member, and an unsound number one that is out of range. -/
def Item.document : Item → Document
  | .string s => .string (some s)
  | .integer i => .number (some (.int i))
  | .float x => .number (some (.float x))
  | .unsound => .number none
  | .bool b => .bool b
  | .moment text => .object [(some "moment", .string (some text))] none
  | .array _ items => .array (itemDocuments items) none
  | .table _ entries => .object (entryDocuments entries) none

def itemDocuments : List Item → List Document
  | [] => []
  | item :: rest => item.document :: itemDocuments rest

def entryDocuments : List (String × Item) → List (Option String × Document)
  | [] => []
  | (key, item) :: rest => (some key, item.document) :: entryDocuments rest
end

mutual
/-- Whether every number in a value is sound, and integers fit in so many bits. -/
def Item.fits (width : Nat) : Item → Bool
  | .integer i => Bits.fits width i
  | .unsound => false
  | .array _ items => itemsFit width items
  | .table _ entries => entriesFit width entries
  | _ => true

def itemsFit (width : Nat) : List Item → Bool
  | [] => true
  | item :: rest => item.fits width && itemsFit width rest

def entriesFit (width : Nat) : List (String × Item) → Bool
  | [] => true
  | (_, item) :: rest => item.fits width && entriesFit width rest
end

/-- An array without what is beyond its first `count` elements; all else as it is. -/
def Item.first (count : Nat) : Item → Item
  | .array headed items => .array headed (items.take count)
  | item => item

end Toml

structure BuildManifest where
  /-- What holds for every target that does not say otherwise -/
  options : BuildOptions := {}
  targets : List BuildTarget := []
  deriving DecidableEq, Repr, Inhabited

namespace BuildManifest

/-- The name of a manifest that is not named otherwise. -/
def defaultName : String := "Bundlebars.toml"

/-- The options that the targets share as far as they are read: elements of arrays that stand for no
option are passed over. -/
def sharedOptions (item : Toml.Item) : Toml.Item :=
  let engineOptions := Toml.Item.first CompilerOptions.fields.length
  match item.first BuildOptions.fields.length with
  | .array headed items => .array headed (items.map engineOptions)
  | .table origin entries => .table origin (entries.map fun (key, item) =>
      (key, if key = "compiler_options" then engineOptions item else item))
  | item => item

/-- Reads a target: its patterns, its directory, and options beside them. -/
def readTarget : Toml.Item → Except Fault BuildTarget
  | .table origin entries => do
    let item := Toml.Item.table origin entries
    match entries.lookup "src", entries.lookup "dest" with
    | some src, some dest =>
      if !item.fits 64 then .error .mismatch
      else
        let patterns ← src.document.toList Document.toText
        let dest ← dest.document.toText
        return ⟨patterns, ⟨dest⟩, ← BuildOptions.ofDocument item.document⟩
    | _, _ => .error .mismatch
  | _ => .error .mismatch

def readTargets : Toml.Item → Except Fault (List BuildTarget)
  | .array _ items => items.mapM readTarget
  | _ => .error .mismatch

/-- Reads the text of a manifest; nothing if it is malformed. -/
def parse? (text : String) : Option BuildManifest := do
  let entries := (← Toml.parse? text).entries.map fun (key, item) =>
    (key, if key = "options" then sharedOptions item else item)
  if !Toml.entriesFit 128 entries then none
  else
    let options ← (entries.lookup "options").elim (some {}) fun item =>
      (BuildOptions.ofDocument item.document).toOption
    let targets ← (entries.lookup "targets").elim (some []) fun item =>
      (readTargets item).toOption
    return { options, targets }

def load (tree : FileTree) (path : Path) : Except Failure BuildManifest :=
  match tree.readText path with
  | .error e =>
    .error ⟨["Failed to read build manifest: " ++ path.text], .io e⟩
  | .ok text =>
    match parse? text with
    | some manifest => .ok manifest
    | none =>
      .error ⟨["Failed to parse build manifest: " ++ path.text], .format "the text is no manifest"⟩

end BuildManifest
end TemplateBundle
