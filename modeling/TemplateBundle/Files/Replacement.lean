import TemplateBundle.Files.Write

/-! Writing files step by step, with what may go wrong on the way. The bytes go to a temporary file
beside the place of the path, which is moved there once it is complete. If a step fails before, the
temporary file is dropped. If the move fails, the failure holds it until it is handled. -/
namespace TemplateBundle

/-- What comes from outside while a file is written. -/
structure Circumstances where
  /-- The names that are tried for the temporary file -/
  names : List String
  /-- Why a directory is not made, at the first attempt or once those above it are there -/
  directory? : Bool → Path → Option IoError := fun _ _ => none
  temporary? : Option IoError := none
  /-- After how many bytes the writing breaks off, and why -/
  content? : Option (Nat × IoError) := none
  sync? : Option IoError := none
  move? : Option IoError := none

/-- What has become of a write. -/
structure Replacement where
  tree : FileTree
  outcome : Except WriteError Unit
  /-- The temporary file that the failure holds -/
  held? : Option Location := none

namespace Replacement

/-- The files once the result is handled. -/
def handled (r : Replacement) : FileTree :=
  match r.held? with
  | some temporary => r.tree.erase temporary
  | none => r.tree

end Replacement

namespace FileTree

/-- A step that is not taken if it is refused from outside. -/
def barring {α : Type} (refused? : Option IoError) (step : Except IoError α) : Except IoError α :=
  match refused? with
  | some e => .error e
  | none => step

/-- Makes a directory with all that are missing above it, as far as none is refused. `fuel` bounds
the steps upwards. -/
def makeDirectoriesBarring (refused? : Bool → Path → Option IoError) :
    Nat → FileTree → Path → FileTree × Except IoError Unit
  | 0, tree, _ => (tree, .ok ())
  | fuel + 1, tree, p =>
    if p.text.isEmpty then (tree, .ok ())
    else
      match barring (refused? true p) (tree.makeDirectory p) with
      | .ok tree => (tree, .ok ())
      | .error e =>
        if e ≠ .notFound then (tree, if tree.isDirectory p then .ok () else .error e)
        else
          match p.parent? with
          | none => (tree, .error e)
          | some parent =>
            match makeDirectoriesBarring refused? fuel tree parent with
            | (tree, .error e) => (tree, .error e)
            | (tree, .ok ()) =>
              match barring (refused? false p) (tree.makeDirectory p) with
              | .ok tree => (tree, .ok ())
              | .error e => (tree, if tree.isDirectory p then .ok () else .error e)

/-- The first place in a directory that is free under one of the names. -/
def freePlace (tree : FileTree) (directory : Path) : List String → Except IoError Location
  | [] => .error (.broken "too many temporary files exist")
  | name :: names => do
    match ← tree.find directory with
    | (_, .file _) => .error .notADirectory
    | (folder, .directory) =>
      match tree.get? (folder ++ [name]) with
      | some _ => tree.freePlace directory names
      | none => .ok (folder ++ [name])

/-- Moves what is at a place to that of a path, instead of a file that was there. -/
def move (tree : FileTree) (source : Location) (p : Path) : Except IoError FileTree := do
  let location ← tree.placeOf p .busy .busy
  if p.text.toList.getLast? == some '/' then .error .notADirectory
  else
    match tree.get? location, tree.get? source with
    | some .directory, _ => .error .isADirectory
    | _, none => .error .notFound
    | _, some entry => .ok ((tree.erase source).set location entry)

/-- Writes a file under the circumstances. -/
def replace (c : Circumstances) (tree : FileTree) (p : Path) (bytes : List UInt8) : Replacement :=
  let directory := directoryFor p
  match makeDirectoriesBarring c.directory? (directory.text.length + 1) tree directory with
  | (tree, .error e) => ⟨tree, .error (.directory directory e), none⟩
  | (tree, .ok ()) =>
    match barring c.temporary? (tree.freePlace directory c.names) with
    | .error e => ⟨tree, .error (.temporary directory e), none⟩
    | .ok temporary =>
      match c.content? with
      | some (count, e) =>
        let broken := tree.set temporary (.file (bytes.take count))
        ⟨broken.erase temporary, .error (.content p e), none⟩
      | none =>
        let complete := tree.set temporary (.file bytes)
        match c.sync? with
        | some e => ⟨complete.erase temporary, .error (.sync e), none⟩
        | none =>
          match barring c.move? (complete.move temporary p) with
          | .error e => ⟨complete, .error (.move p e), some temporary⟩
          | .ok moved => ⟨moved, .ok (), none⟩

end FileTree

/-- A file to be written, and the circumstances under which it is. -/
structure Writing where
  circumstances : Circumstances
  path : Path
  bytes : List UInt8

namespace FileTree

/-- The files once all writings were tried one after another and each result was handled. -/
def afterWritings (tree : FileTree) : List Writing → FileTree
  | [] => tree
  | w :: rest => (tree.replace w.circumstances w.path w.bytes).handled.afterWritings rest

/-- The writings that succeed among all that are tried one after another. -/
def succeeded (tree : FileTree) : List Writing → List Writing
  | [] => []
  | w :: rest =>
    let r := tree.replace w.circumstances w.path w.bytes
    match r.outcome with
    | .ok () => w :: r.handled.succeeded rest
    | .error _ => r.handled.succeeded rest

end FileTree
end TemplateBundle
