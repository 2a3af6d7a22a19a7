import TemplateBundle.Text.Char

/-! Paths of files. A path is a text; its components are what stands between the slashes, without
the empty ones and without the dots that change nothing. Two texts may name the same path. -/
namespace TemplateBundle

/-- A path, as it is written. -/
structure Path where
  text : String
  deriving DecidableEq, Repr, Inhabited

inductive Component where
  | root
  /-- The dot that a relative path may begin with -/
  | here
  | up
  | name (s : String)
  deriving DecidableEq, Repr, Inhabited

/-- The order of components: root, dot, two dots, then names by their characters. -/
def Component.before : Component → Component → Bool
  | .root, .root => false
  | .root, _ => true
  | _, .root => false
  | .here, .here => false
  | .here, _ => true
  | _, .here => false
  | .up, .up => false
  | .up, _ => true
  | _, .up => false
  | .name a, .name b => a < b

/-- The order of paths: by their components, a path before those that continue it. -/
def componentsBefore : List Component → List Component → Bool
  | _, [] => false
  | [], _ :: _ => true
  | a :: as, b :: bs => if a = b then componentsBefore as bs else a.before b

namespace Path

/-- The component that a piece between slashes stands for; `first` says that nothing comes before
it. -/
def component? (first : Bool) (piece : List Char) : Option Component :=
  match piece with
  | [] => none
  | ['.'] => if first then some .here else none
  | ['.', '.'] => some .up
  | _ => some (.name (String.ofList piece))

def pieces (p : Path) : List (List Char) := Text.splitOn '/' p.text.toList

def isAbsolute (p : Path) : Bool := p.text.toList.head? == some '/'

/-- The components of the pieces that follow the first. -/
def laterComponents (pieces : List (List Char)) : List Component :=
  pieces.filterMap (component? false)

def components (p : Path) : List Component :=
  match p.pieces with
  | [] => []
  | first :: rest =>
    (if p.isAbsolute then [.root] else (component? true first).toList) ++ laterComponents rest

def same (p q : Path) : Bool := p.components == q.components

/-- Whether `p` comes before `q`. -/
def before (p q : Path) : Bool := componentsBefore p.components q.components

def joinPieces (pieces : List (List Char)) : Path :=
  ⟨String.ofList (List.intercalate ['/'] pieces)⟩

/-- Drops pieces from the end of a reversed list of pieces until one is a component; the first
piece of the path may be a dot. -/
def dropSilent : List (List Char) → List (List Char)
  | [] => []
  | [first] => [first]
  | piece :: rest =>
    match component? false piece with
    | some _ => piece :: rest
    | none => dropSilent rest

/-- The pieces up to the one that the last component stands in, in reverse order. -/
def toLast (p : Path) : List (List Char) := dropSilent p.pieces.reverse

/-- The path without its last component; nothing for a root and for an empty path. -/
def parent? (p : Path) : Option Path :=
  match p.toLast with
  | [] => none
  | [first] =>
    match component? true first with
    | some _ => some ⟨""⟩
    | none => none
  | _ :: rest =>
    match dropSilent rest with
    | [[]] => if p.isAbsolute then some ⟨"/"⟩ else some ⟨""⟩
    | rest => some (joinPieces rest.reverse)

/-- The last component, if it is a name. -/
def fileName? (p : Path) : Option String :=
  match p.toLast with
  | [] => none
  | [first] =>
    match component? true first with
    | some (.name s) => some s
    | _ => none
  | last :: _ =>
    match component? false last with
    | some (.name s) => some s
    | _ => none

/-- Splits a file name at its last dot; a dot at the front does not count. -/
def splitName (name : List Char) : List Char × Option (List Char) :=
  match (Text.splitOn '.' name).reverse with
  | [] => (name, none)
  | [_] => (name, none)
  | last :: rest =>
    match List.intercalate ['.'] rest.reverse with
    | [] => (name, none)
    | stem => (stem, some last)

/-- The file name without its last extension. -/
def stem? (p : Path) : Option String :=
  p.fileName?.map fun name => String.ofList (splitName name.toList).1

/-- The last extension of the file name, without the dot. -/
def extension? (p : Path) : Option String :=
  p.fileName?.bind fun name => (splitName name.toList).2.map String.ofList

/-- The path `q` as seen from the directory `p`; an absolute path stays as it is. -/
def join (p : Path) (q : String) : Path :=
  if (⟨q⟩ : Path).isAbsolute then ⟨q⟩
  else if p.text.isEmpty || p.text.toList.getLast? == some '/' then ⟨p.text ++ q⟩
  else ⟨p.text ++ "/" ++ q⟩

/-- The path with another extension in the place of the last, or without file name unchanged. The last
extension is cut off before the other is put in its place: if this leaves two dots of the name, they
are the directory above, which has no extension. -/
def withExtension (p : Path) (extension : String) : Path :=
  match p.fileName? with
  | none => p
  | some name =>
    let (stem, last?) := splitName name.toList
    let above := p.toLast.drop 1
    if stem = ['.'] && last?.isSome && p.pieces.getLast? == some name.toList then
      joinPieces ((['.', '.'] :: above).reverse)
    else joinPieces (((stem ++ ['.'] ++ extension.toList) :: above).reverse)

end Path
end TemplateBundle
