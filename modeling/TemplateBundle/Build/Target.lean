import TemplateBundle.Build.Options
import TemplateBundle.Files.Glob
import TemplateBundle.Report

/-! A build target: which templates it takes and where their results go. -/
namespace TemplateBundle

structure BuildTarget where
  patterns : List String
  dest : Path
  options : BuildOptions
  deriving DecidableEq, Repr, Inhabited

namespace BuildTarget

/-- Puts a path into a sorted list, unless it is there already. -/
def insertPath (p : Path) : List Path → List Path
  | [] => [p]
  | q :: rest =>
    if q.before p then q :: insertPath p rest
    else if q.same p then q :: rest
    else p :: q :: rest

def matching (tree : FileTree) (base : Path) : List String → Except Failure (List Path)
  | [] => .ok []
  | pattern :: rest =>
    match Glob.files? tree (base.join pattern) with
    | none => .error ⟨["Invalid glob pattern: " ++ pattern], .format "the pattern is malformed"⟩
    | some files => do
      let more ← matching tree base rest
      .ok (files ++ more)

/-- The templates of a target, each once and in the order of their paths. -/
def expandSources (target : BuildTarget) (tree : FileTree) (base : Path) :
    Except Failure (List Path) := do
  let files ← matching tree base target.patterns
  .ok (files.foldl (fun sorted p => insertPath p sorted) [])

def outputPath (target : BuildTarget) (base source : Path) (ext : String) : Path :=
  (base.join target.dest.text).join (source.templateName ++ ext)

end BuildTarget
end TemplateBundle
