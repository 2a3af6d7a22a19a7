import TemplateBundle.Files.Tree

/-! Patterns for paths. A pattern is matched step by step: a step without wildcards is followed as a
path is, any other is compared with the names in the directory, and `**` stands for any number of
directories. -/
namespace TemplateBundle
namespace Glob

/-- A part of the pattern of a name. -/
inductive Token where
  | char (c : Char)
  | anyChar
  /-- Any characters, or none -/
  | anyRun
  /-- A character of one of the ranges, or of none if `negated` -/
  | oneOf (negated : Bool) (ranges : List (Char × Char))
  deriving DecidableEq, Repr

inductive Step where
  | directories
  | name (tokens : List Token)
  deriving DecidableEq, Repr

/-- The ranges in brackets; a single character is a range of its own. -/
def ranges : List Char → List (Char × Char)
  | a :: '-' :: b :: rest => (a, b) :: ranges rest
  | a :: rest => (a, a) :: ranges rest
  | [] => []

/-- What stands in brackets, of which the opening one is taken already: at least one character, and
the rest up to the next closing bracket. -/
def bracket? (s : List Char) : Option (Token × List Char) :=
  let (negated, s) := match s with
    | '!' :: rest => (true, rest)
    | s => (false, s)
  match s with
  | [] => none
  | first :: rest =>
    match rest.dropWhile (· != ']') with
    | [] => none
    | _ :: behind => some (.oneOf negated (ranges (first :: rest.takeWhile (· != ']'))), behind)

/-- Reads the pattern of a name. `fuel` bounds the count of tokens; the length of the text
suffices. -/
def tokens? : Nat → List Char → Option (List Token)
  | _, [] => some []
  | 0, _ => none
  | _, '*' :: '*' :: _ => none
  | fuel + 1, '*' :: rest => (tokens? fuel rest).map (Token.anyRun :: ·)
  | fuel + 1, '?' :: rest => (tokens? fuel rest).map (Token.anyChar :: ·)
  | fuel + 1, '[' :: rest =>
    match bracket? rest with
    | none => none
    | some (token, behind) => (tokens? fuel behind).map (token :: ·)
  | fuel + 1, c :: rest => (tokens? fuel rest).map (Token.char c :: ·)

def step? (piece : List Char) : Option Step :=
  if piece = ['*', '*'] then some .directories
  else (tokens? piece.length piece).map Step.name

def Token.admits (token : Token) (c : Char) : Bool :=
  match token with
  | .char d => c == d
  | .anyChar => true
  | .anyRun => true
  | .oneOf negated rs => (rs.any fun r => r.1 ≤ c && c ≤ r.2) != negated

def fits : List Token → List Char → Bool
  | [], [] => true
  | [], _ :: _ => false
  | .anyRun :: rest, [] => fits rest []
  | .anyRun :: rest, c :: cs => fits rest (c :: cs) || fits (.anyRun :: rest) cs
  | _ :: _, [] => false
  | token :: rest, c :: cs => token.admits c && fits rest cs
termination_by tokens name => (tokens.length, name.length)

/-- The name that a pattern without wildcards stands for. -/
def literal? : List Token → Option (List Char)
  | [] => some []
  | .char c :: rest => (literal? rest).map (c :: ·)
  | _ :: _ => none

/-- A path below another; what is below the dot is written without it. -/
def below (directory : Path) (name : String) : Path :=
  if directory.same ⟨"."⟩ then ⟨name⟩ else directory.join name

/-- The names that lead around in a directory, as far as a pattern that begins with a dot means
them. -/
def dots (tokens : List Token) : List String :=
  if tokens.head? = some (.char '.') then
    [".", ".."].filter fun name => fits tokens name.toList
  else []

/-- Whether the dots lead on from here, or a name leads anywhere. -/
def leads (tree : FileTree) (from_ next : Path) (name : List Char) : Bool :=
  if name = ['.'] ∨ name = ['.', '.'] then tree.isDirectory from_ else tree.pathExists next

def namesIn (tree : FileTree) (directory : Path) : List String :=
  match tree.list directory with
  | .ok entries => entries.map Prod.fst
  | .error _ => []

/-- The paths that the steps lead to from a path. `fuel` bounds the steps taken. -/
def expand (tree : FileTree) : Nat → List Step → Path → List Path
  | 0, _, _ => []
  | _ + 1, [], path => [path]
  | fuel + 1, .name tokens :: rest, path =>
    match literal? tokens with
    | some name =>
      let next := if path.same ⟨"."⟩ then ⟨String.ofList name⟩ else path.join (String.ofList name)
      if leads tree path next name then expand tree fuel rest next else []
    | none =>
      ((namesIn tree path).filter fun name => fits tokens name.toList).flatMap
          (fun name => expand tree fuel rest (below path name)) ++
        (if tree.isDirectory path then
          (dots tokens).flatMap fun name => expand tree fuel rest (path.join name)
        else [])
  | fuel + 1, .directories :: rest, path =>
    (namesIn tree path).flatMap fun name =>
      let child := below path name
      (match rest with
        | [] => if tree.isDirectory child then [child] else []
        | .directories :: _ => []
        | .name tokens :: behind =>
          if fits tokens name.toList then expand tree fuel behind child else []) ++
        (if tree.isDirectory child then expand tree fuel (.directories :: rest) child else [])

/-- Several `**` in a row are as good as one. -/
def collapse : List Step → List Step
  | .directories :: .directories :: rest => collapse (.directories :: rest)
  | step :: rest => step :: collapse rest
  | [] => []

/-- The pieces of a pattern; a slash at its end begins no piece. -/
def piecesOf (text : List Char) : List (List Char) :=
  match (Text.splitOn '/' text).reverse with
  | [] :: rest => rest.reverse
  | all => all.reverse

/-- The steps of a pattern, or nothing if it is malformed. -/
def steps? (text : List Char) : Option (List Step) := (piecesOf text).mapM step?

/-- The files that a pattern matches, or nothing if it is malformed. -/
def files? (tree : FileTree) (pattern : Path) : Option (List Path) :=
  let text := pattern.text.toList
  let (start, rest) : Path × List Char :=
    if pattern.isAbsolute then (⟨"/"⟩, text.drop 1) else (⟨"."⟩, text)
  (steps? rest).map fun steps =>
    if text.getLast? == some '/' then []
    else
      let steps := collapse steps
      (expand tree ((tree.entries.length + 2) * (steps.length + 1)) steps start).filter
        fun path => tree.isFile path

end Glob
end TemplateBundle
