import TemplateBundle.Files.Tree

/-! Writing files. A file is written beside its place and then moved there, so that nobody sees half
of it; directories that are missing on the way are made. What was made stays made if a later step
fails. -/
namespace TemplateBundle

/-- The step at which a write fails. -/
inductive WriteError where
  | directory (directory : Path) (e : IoError)
  /-- No file is made in the directory -/
  | temporary (directory : Path) (e : IoError)
  | content (path : Path) (e : IoError)
  | sync (e : IoError)
  | move (path : Path) (e : IoError)
  deriving DecidableEq, Repr

namespace FileTree

/-- The place that the last step of a path names, in a directory that is there. -/
def placeOf (tree : FileTree) (p : Path) (atDot atRoot : IoError) : Except IoError Location := do
  checkPath p
  match (p.pieces.filter fun piece => !piece.isEmpty).reverse with
  | [] => .error atRoot
  | last :: rest => do
    let parent ← tree.descend (tree.startOf p) (rest.reverse ++ [['.']])
    if last = ['.'] ∨ last = ['.', '.'] then .error atDot
    else
      let name := String.ofList last
      if maxNameBytes < name.utf8ByteSize then .error .nameTooLong else .ok (parent ++ [name])

def makeDirectory (tree : FileTree) (p : Path) : Except IoError FileTree := do
  let location ← tree.placeOf p .alreadyExists .alreadyExists
  match tree.get? location with
  | some _ => .error .alreadyExists
  | none => .ok (tree.set location .directory)

/-- Makes a directory with all that are missing above it. `fuel` bounds the steps upwards; the
length of the path suffices. -/
def makeDirectories : Nat → FileTree → Path → FileTree × Except IoError Unit
  | 0, tree, _ => (tree, .ok ())
  | fuel + 1, tree, p =>
    if p.text.isEmpty then (tree, .ok ())
    else
      match tree.makeDirectory p with
      | .ok tree => (tree, .ok ())
      | .error e =>
        if e ≠ .notFound then (tree, if tree.isDirectory p then .ok () else .error e)
        else
          match p.parent? with
          | none => (tree, .error e)
          | some parent =>
            match makeDirectories fuel tree parent with
            | (tree, .error e) => (tree, .error e)
            | (tree, .ok ()) =>
              match tree.makeDirectory p with
              | .ok tree => (tree, .ok ())
              | .error e => (tree, if tree.isDirectory p then .ok () else .error e)

def place (tree : FileTree) (p : Path) (bytes : List UInt8) : Except IoError FileTree := do
  let location ← tree.placeOf p .busy .busy
  if p.text.toList.getLast? == some '/' then .error .notADirectory
  else
    match tree.get? location with
    | some .directory => .error .isADirectory
    | _ => .ok (tree.set location (.file bytes))

def directoryFor (p : Path) : Path :=
  match p.parent? with
  | some parent => if parent.text.isEmpty then ⟨"."⟩ else parent
  | none => ⟨"."⟩

/-- Writes a file, or leaves what was there. -/
def write (tree : FileTree) (p : Path) (bytes : List UInt8) : FileTree × Except WriteError Unit :=
  let directory := directoryFor p
  match makeDirectories (directory.text.length + 1) tree directory with
  | (tree, .error e) => (tree, .error (.directory directory e))
  | (tree, .ok ()) =>
    match tree.place p bytes with
    | .ok tree => (tree, .ok ())
    | .error e => (tree, .error (.move p e))

def remove (tree : FileTree) (p : Path) : FileTree :=
  match tree.find p with
  | .ok (location, .file _) => tree.erase location
  | _ => tree

end FileTree
end TemplateBundle
