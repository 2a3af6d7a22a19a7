import TemplateBundle.Build.Build
import TemplateBundle.CommandLine.Command

/-! Carrying out commands. Every template of a command line has a bundler of its own, so that none
depends on another; those that fail are reported when all are done. -/
namespace TemplateBundle

namespace SourceArguments

/-- The setup of the bundlers. Partials are looked up only if it is said where. -/
def config (arguments : SourceArguments) (options : CompilerOptions) : BundlerConfig :=
  let config : BundlerConfig :=
    { noPartials := arguments.partialsDir?.isNone, compilerOptions := options }
  let config := arguments.partialsDir?.elim config config.withPartialsDir
  let config := arguments.partialsExt?.elim config config.withPartialsExt
  arguments.helpersDir?.elim config config.withHelpersDir

/-- Reads the compiler options, if there is a file of them. -/
def loadConfig (arguments : SourceArguments) (tree : FileTree) : Except BundleError BundlerConfig :=
  match arguments.optionsFile? with
  | none => .ok (arguments.config {})
  | some path => (CompilerOptions.load tree path).map arguments.config

/-- Where a template comes from; standard input is read to its end. -/
def template (source : String) : Session.Work TemplateSource := do
  if source = stdinSource then
    let s ← get
    set { s with input := [] }
    return .stream [s.input] none
  else return .file ⟨source⟩

def deliver (arguments : SourceArguments) (source text : String) : Session.Work Unit :=
  match arguments.out? with
  | none => Session.print text
  | some out => Session.writeResult (outputPath source out) text

def runSource (arguments : SourceArguments) (config : BundlerConfig) (verb : String)
    (work : FileTree → TemplateSource → Bundler.Work Unit String) (source : String) :
    Session.Work Unit := do
  let template ← template source
  match ← Session.bundle (Bundler.new config) fun tree => work tree template with
  | (_, .error e) => throw ⟨["Failed to " ++ verb ++ " '" ++ source ++ "'"], .bundle e⟩
  | (_, .ok text) => arguments.deliver source text

/-- Takes templates through their bundlers, one after another, and collects the failures. -/
def runSources (arguments : SourceArguments) (config : BundlerConfig) (verb : String)
    (work : FileTree → TemplateSource → Bundler.Work Unit String) :
    List String → Session.Work (List Failure)
  | [] => return []
  | source :: rest => do
    let failures ← try
        arguments.runSource config verb work source
        pure []
      catch f => pure [f]
    return failures ++ (← arguments.runSources config verb work rest)

def run (arguments : SourceArguments) (verb : String)
    (work : FileTree → TemplateSource → Bundler.Work Unit String) : Session.Work Unit := do
  match arguments.loadConfig (← get).tree with
  | .error e => throw ⟨[], .bundle e⟩
  | .ok config =>
    let failures ← arguments.runSources config verb work arguments.sources
    failures.forM Session.report
    if !failures.isEmpty then
      throw ⟨[], .text (toString failures.length ++ " of " ++ toString arguments.sources.length ++
        " template(s) failed")⟩

end SourceArguments

def runBuild (manifest? : Option Path) : Session.Work Unit := do
  let summary ← BuildManifest.run manifest?
  if 0 < summary.failed then
    throw ⟨[], .text (toString summary.failed ++ " template(s) failed, " ++
      toString summary.written ++ " file(s) written")⟩
  else Session.print ("✓ Built " ++ toString summary.written ++ " file(s)\n")

def Command.run : Command → Session.Work Unit
  | .compile arguments data? =>
    arguments.run "compile" fun tree source => Bundler.compile tree source (data?.map .file)
  | .precompile arguments wrapper? =>
    arguments.run "precompile" fun tree source => Bundler.precompile tree source wrapper?
  | .build manifest? => runBuild manifest?

/-- Carries out a command line and reports its failure; the result is the exit status. -/
def CommandLine.execute (line : CommandLine) (s : Session) : Nat × Session :=
  match line.command.run.run.run s with
  | (.ok (), s) => (0, s)
  | (.error f, s) => (1, { s with errors := s.errors ++ (Report.ofFailure f).display })

end TemplateBundle
