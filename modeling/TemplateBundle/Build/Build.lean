import TemplateBundle.Build.Manifest
import TemplateBundle.Session

/-! Builds: every template of every target of a manifest is rendered or precompiled and its result
written. A template that fails is reported and the others go on; a result that cannot be written
ends the build. -/
namespace TemplateBundle

structure BuildSummary where
  written : Nat := 0
  failed : Nat := 0
  deriving DecidableEq, Repr, Inhabited

namespace BuildTarget

/-- The wrapper of a target whose paths are seen from `base`. -/
def wrapperAt (base : Path) (text : String) : Wrapper :=
  match Wrapper.parse text with
  | .builtin wrapper => .builtin wrapper
  | .file path => .file (base.join path.text)

def bundleTemplate (options : BuildOptions) (base source : Path) (tree : FileTree) :
    Bundler.Work Unit String :=
  if options.isPrecompile then
    Bundler.precompile tree (.file source) (options.wrapper.map (wrapperAt base))
  else Bundler.compile tree (.file source) ((options.dataPath? tree source base).map .file)

/-- Builds the templates of a target one after another with one bundler. -/
def buildTemplates (target : BuildTarget) (options : BuildOptions) (base : Path) :
    List Path → Bundler Unit → BuildSummary → Session.Work BuildSummary
  | [], _, summary => return summary
  | source :: rest, bundler, summary => do
    let (bundler, outcome) ← Session.bundle bundler (bundleTemplate options base source)
    match outcome with
    | .ok text =>
      Session.writeResult (target.outputPath base source options.outputExt) text
      let summary := { summary with written := summary.written + 1 }
      buildTemplates target options base rest bundler summary
    | .error e =>
      Session.report ⟨["Failed to build '" ++ source.text ++ "'"], .bundle e⟩
      buildTemplates target options base rest bundler { summary with failed := summary.failed + 1 }

/-- Builds a target; `number` is its place in the manifest, counted from one. -/
def build (target : BuildTarget) (options : BuildOptions) (base : Path) (number : Nat)
    (summary : BuildSummary) : Session.Work BuildSummary := do
  match target.expandSources (← get).tree base with
  | .error f => throw (f.within ("Failed to expand sources of target " ++ toString number))
  | .ok [] =>
    Session.warn (.noTemplates number target.patterns)
    return summary
  | .ok sources =>
    target.buildTemplates options base sources (Bundler.new (options.bundlerConfig base)) summary

end BuildTarget

namespace BuildManifest

/-- Builds targets in order; `number` is the place of the first. -/
def buildTargets (defaults : BuildOptions) (base : Path) :
    List BuildTarget → Nat → BuildSummary → Session.Work BuildSummary
  | [], _, summary => return summary
  | target :: rest, number, summary => do
    let summary ← target.build (target.options.mergedWith defaults) base number summary
    buildTargets defaults base rest (number + 1) summary

/-- Runs the build of the manifest at a path, or of the one in the working directory. -/
def run (path? : Option Path) : Session.Work BuildSummary := do
  let path := path?.getD ⟨defaultName⟩
  let manifest ← load (← get).tree path
  if manifest.targets.isEmpty then Session.warn (.noTargets path)
  buildTargets manifest.options path.templateDir manifest.targets 1 {}

end BuildManifest
end TemplateBundle
