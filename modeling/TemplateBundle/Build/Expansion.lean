import TemplateBundle.Build.Target

/-! Expanding the patterns of a target whatever matches them: what is found is sorted first, and then
those that are equal to the path before them are dropped. -/
namespace TemplateBundle

/-- What a pattern leads to: paths, or what is wrong with it. Instead of a path there may be a
complaint, where a directory cannot be read. -/
abbrev Matcher := Path → Except String (List (Except String Path))

/-- The patterns of the file tree, of which every directory can be read. -/
def Glob.matcher (tree : FileTree) : Matcher := fun pattern =>
  match Glob.files? tree pattern with
  | none => .error "the pattern is malformed"
  | some files => .ok (files.map .ok)

/-- Drops paths that are equal to the last one that is kept. -/
def dropRepeatedAfter (last : Path) : List Path → List Path
  | [] => []
  | p :: rest => if last.same p then dropRepeatedAfter last rest else p :: dropRepeatedAfter p rest

def dropRepeated : List Path → List Path
  | [] => []
  | p :: rest => p :: dropRepeatedAfter p rest

namespace BuildTarget

/-- The files among the entries of a pattern, unless one is a complaint. -/
def filesAmong (tree : FileTree) (pattern : String) :
    List (Except String Path) → Except Failure (List Path)
  | [] => .ok []
  | .error e :: _ => .error ⟨["Failed to expand pattern: " ++ pattern], .text e⟩
  | .ok p :: rest => do
    let files ← filesAmong tree pattern rest
    .ok (if tree.isFile p then p :: files else files)

def matchingBy (glob : Matcher) (tree : FileTree) (base : Path) :
    List String → Except Failure (List Path)
  | [] => .ok []
  | pattern :: rest =>
    match glob (base.join pattern) with
    | .error e => .error ⟨["Invalid glob pattern: " ++ pattern], .format e⟩
    | .ok entries => do
      let files ← filesAmong tree pattern entries
      let more ← matchingBy glob tree base rest
      .ok (files ++ more)

/-- The templates of a target, sorted and without repetitions. -/
def expandBy (glob : Matcher) (target : BuildTarget) (tree : FileTree) (base : Path) :
    Except Failure (List Path) := do
  let files ← matchingBy glob tree base target.patterns
  .ok (dropRepeated (files.mergeSort fun p q => !q.before p))

end BuildTarget
end TemplateBundle
