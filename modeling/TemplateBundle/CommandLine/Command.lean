import TemplateBundle.Path.Basic
import TemplateBundle.Bundler.Wrapper

/-! The commands of the command line. -/
namespace TemplateBundle

/-- What commands that take templates have in common. -/
structure SourceArguments where
  /-- The templates; a dash stands for standard input -/
  sources : List String
  partialsDir? : Option Path := none
  partialsExt? : Option String := none
  helpersDir? : Option Path := none
  optionsFile? : Option Path := none
  /-- The directory of the results; without it they are printed -/
  out? : Option Path := none
  deriving DecidableEq, Repr

inductive Command where
  | compile (arguments : SourceArguments) (data? : Option Path)
  | precompile (arguments : SourceArguments) (wrapper? : Option Wrapper)
  | build (manifest? : Option Path)
  deriving DecidableEq, Repr

structure CommandLine where
  command : Command
  verbose : Bool
  quiet : Bool
  deriving DecidableEq, Repr

namespace CommandLine

/-- What is logged if a command line says anything about it; of two wishes the louder counts. -/
def logFilter? (line : CommandLine) : Option String :=
  if line.verbose then some "bundlebars=debug"
  else if line.quiet then some "error"
  else none

/-- What is logged if nobody says anything about it. -/
def defaultLogFilter : String := "bundlebars=warn"

def logFilter (line : CommandLine) : String := line.logFilter?.getD defaultLogFilter

end CommandLine
end TemplateBundle
