import TemplateBundle.Bundler.Basic
import TemplateBundle.Files.Write
import TemplateBundle.Report

/-! A session: the files that are worked on, what is still to be read from standard input, and what
has been printed so far. -/
namespace TemplateBundle

structure Session where
  tree : FileTree
  input : List UInt8 := []
  output : String := ""
  errors : String := ""
  warnings : List Warning := []
  deriving Inhabited

namespace Session

/-- Work that may fail. What it has done and printed until then stays. -/
abbrev Work : Type → Type := ExceptT Failure (StateM Session)

def print (text : String) : Work Unit := modify fun s => { s with output := s.output ++ text }

/-- Reports a failure, after which work goes on. -/
def report (f : Failure) : Work Unit :=
  modify fun s => { s with errors := s.errors ++ (Report.ofFailure f).display }

def warn (w : Warning) : Work Unit := modify fun s => { s with warnings := s.warnings ++ [w] }

/-- Why a result is not in its file. -/
def writeFailure : WriteError → Failure
  | .directory p e => ⟨["Failed to create directory: " ++ p.text], .io e⟩
  | .temporary p e => ⟨["Failed to create temp file in: " ++ p.text], .io e⟩
  | .content p e => ⟨["Failed to write temp file for: " ++ p.text], .io e⟩
  | .sync e => ⟨["Failed to sync file to disk"], .io e⟩
  | .move p e => ⟨["Failed to move temp file to: " ++ p.text], .io e⟩

def writeResult (dest : Path) (text : String) : Work Unit := do
  let s ← get
  let (tree, outcome) := s.tree.write dest (Text.encode text)
  set { s with tree }
  match outcome with
  | .error e => throw (writeFailure e)
  | .ok () => print ("Writing result to " ++ dest.text ++ "...OK\n")

/-- Lets a bundler work on the files. Its failure is a result; its warnings are passed on. -/
def bundle {σ α : Type} (bundler : Bundler σ) (work : FileTree → Bundler.Work σ α) :
    Work (Bundler σ × Except BundleError α) := do
  let s ← get
  let (outcome, after) := (work s.tree).run.run bundler
  set { s with warnings := s.warnings ++ after.warnings.drop bundler.warnings.length }
  return (after, outcome)

end Session
end TemplateBundle
