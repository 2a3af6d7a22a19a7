import TemplateBundle.Proofs.Build.Templates
import TemplateBundle.Proofs.Bundler.Independence
import TemplateBundle.Proofs.Bundler.Lookups
import TemplateBundle.Proofs.CommandLine.Sources
import TemplateBundle.Proofs.Files.Writing

/-! A target of a build beside a command that is told the same. Main statement: if no path that one of
them looks up is too long to be a path, the target writes just what the command prints, as long as it
can be written. -/
namespace TemplateBundle

open Bundler (Abreast Gathers Respells SameSetup SameWrapper)
open Outcome (Together)
open SourceArguments (bundled templateFrom)

/-- What a target is told by its options and a command by its arguments. -/
structure Settings where
  partialsDir : String
  partialsExt : String
  helpersDir : Path
  optionsFile : Path
  data : String

namespace Settings

variable {settings : Settings} {options : BuildOptions} {tree : FileTree} {source : Path}

/-- The arguments of a command for one template. -/
def arguments (settings : Settings) (source : Path) : SourceArguments where
  sources := [source.text]
  partialsDir? := some ⟨settings.partialsDir⟩
  partialsExt? := some settings.partialsExt
  helpersDir? := some settings.helpersDir
  optionsFile? := some settings.optionsFile

/-- The command that does to a template what a target with the options does. -/
def command (settings : Settings) (options : BuildOptions) (source : Path) : Command :=
  if options.isPrecompile then
    .precompile (settings.arguments source) (options.wrapper.map Wrapper.parse)
  else .compile (settings.arguments source) (some ⟨settings.data⟩)

/-- The options of a target say the same: where the partials, the helpers and the data are, and what
the file of compiler options says. -/
structure SaidBy (settings : Settings) (options : BuildOptions) (tree : FileTree) : Prop where
  partials : options.partials = some (partialPattern settings.partialsDir settings.partialsExt)
  dir_ne_empty : settings.partialsDir ≠ ""
  dir_relative : (⟨settings.partialsDir⟩ : Path).isAbsolute = false
  ext_no_dot : '.' ∉ settings.partialsExt.toList
  ext_no_slash : '/' ∉ settings.partialsExt.toList
  discovers : options.noPartials.getD false = false
  helpers : options.helpers = some settings.helpersDir
  helpers_ne_empty : settings.helpersDir.text ≠ ""
  compilerOptions : ∃ o, options.compilerOptions = some o ∧
    CompilerOptions.load tree settings.optionsFile = .ok o
  data : options.isPrecompile = false → options.data = some (.path settings.data) ∧
    tree.isFile ⟨settings.data⟩ = true ∧ ¬ namePlaceholder.toList <:+: settings.data.toList
  wrapper : options.isPrecompile = true → options.wrapper ≠ some ""

/-- The setups of the two spell the same. -/
theorem SaidBy.respells (h : settings.SaidBy options tree) {o : CompilerOptions}
    (hOptions : options.compilerOptions = some o) (source : Path) :
    Respells ((settings.arguments source).config o) (options.bundlerConfig ⟨"."⟩) source source := by
  let start : BundlerConfig :=
    { noPartials := options.noPartials.getD false, compilerOptions := options.compilerOptions.getD {} }
  obtain ⟨parent, hRelative, hMoves, hPartials⟩ :=
    exists_withPartials start h.dir_ne_empty h.dir_relative h.ext_no_dot h.ext_no_slash
  have hConfig : options.bundlerConfig ⟨"."⟩ =
      { start with
        partialsDir? := some parent
        partialsExt? := some (dottedExt settings.partialsExt)
        helpersDir? := some settings.helpersDir.here } := by
    rw [BuildOptions.bundlerConfig, h.partials, h.helpers]
    dsimp only
    rw [hPartials]
    rfl
  rw [hConfig]
  constructor
  · exact .refl source
  · change options.compilerOptions.getD {} = o
    rw [hOptions, Option.getD_some]
  · exact h.discovers
  · rfl
  · rintro dir ⟨⟩
    exact h.helpers_ne_empty
  · exact hRelative.trans h.dir_relative.symm
  · exact hMoves
  · rfl

/-- The file of data that a target looks for is the one of the command. -/
theorem SaidBy.dataCandidate?_eq (h : settings.SaidBy options tree)
    (hRenders : options.isPrecompile = false) (source : Path) :
    options.dataCandidate? tree source ⟨"."⟩ = some (⟨settings.data⟩ : Path).here := by
  obtain ⟨hData, hFile, hPlain⟩ := h.data hRenders
  obtain ⟨place, bytes, hFind⟩ := FileTree.exists_find_of_isFile hFile
  have hRespelled := Path.respelled_here (FileTree.short_of_find hFind).1
  have hFill : fillPlaceholder settings.data source.templateName = settings.data := by
    rw [fillPlaceholder, Text.replaceAll_of_not_infix _ hPlain, String.ofList_toList]
  rw [BuildOptions.dataCandidate?, hData]
  dsimp only
  rw [hFill]
  change some (if tree.isDirectory (⟨settings.data⟩ : Path).here then _ else _) = _
  rw [FileTree.isDirectory_of_isFile hRespelled hFile, if_neg (by decide)]
  rfl

/-- It is there, unless its path is too long when it is seen from the working directory. -/
theorem SaidBy.dataPath?_eq (h : settings.SaidBy options tree)
    (hRenders : options.isPrecompile = false) (source : Path)
    (hShort : (⟨settings.data⟩ : Path).here.Short) :
    options.dataPath? tree source ⟨"."⟩ = some (⟨settings.data⟩ : Path).here := by
  obtain ⟨place, bytes, hFind⟩ := FileTree.exists_find_of_isFile (h.data hRenders).2.1
  have hKnown := FileTree.short_of_find hFind
  have hExists : tree.pathExists (⟨settings.data⟩ : Path).here = true := by
    rw [FileTree.pathExists,
      tree.find_respelled (Path.respelled_here hKnown.1) hKnown.2 hShort, hFind]
    rfl
  rw [BuildOptions.dataPath?, h.dataCandidate?_eq hRenders, Option.map_some, hExists,
    Bool.true_or, if_pos rfl]

end Settings

/-- What a target looks up for a template. Data is looked for in its own file first. -/
def BuildOptions.LooksUp (options : BuildOptions) (tree : FileTree) (base source p : Path) : Prop :=
  if options.isPrecompile then
    Bundler.LooksUp tree (options.bundlerConfig base) source none
      (options.wrapper.map (BuildTarget.wrapperAt base)) p
  else
    Bundler.LooksUp tree (options.bundlerConfig base) source
      (options.dataCandidate? tree source base) none p

/-- What a command looks up for a template. -/
def Command.LooksUp (command : Command) (tree : FileTree) (source p : Path) : Prop :=
  match command with
  | .compile arguments data? =>
    ∃ config, arguments.loadConfig tree = .ok config ∧
      Bundler.LooksUp tree config source data? none p
  | .precompile arguments wrapper? =>
    ∃ config, arguments.loadConfig tree = .ok config ∧
      Bundler.LooksUp tree config source none wrapper? p
  | .build _ => False

namespace Settings

variable {settings : Settings} {options : BuildOptions} {tree : FileTree} {source : Path}

/-- Nothing is looked up under a path that is too long, neither by a target nor by the command. -/
def Reads (settings : Settings) (options : BuildOptions) (tree : FileTree) (source : Path) : Prop :=
  ∀ p, options.LooksUp tree ⟨"."⟩ source p ∨ (settings.command options source).LooksUp tree source p →
    p.Short

theorem loadConfig_arguments (settings : Settings) (source : Path) {o : CompilerOptions}
    (hLoad : CompilerOptions.load tree settings.optionsFile = .ok o) :
    (settings.arguments source).loadConfig tree = .ok ((settings.arguments source).config o) := by
  rw [SourceArguments.loadConfig, arguments]
  dsimp only
  rw [hLoad]
  rfl

theorem SaidBy.sameSetup (h : settings.SaidBy options tree) {o : CompilerOptions}
    (hOptions : options.compilerOptions = some o)
    (hLoad : CompilerOptions.load tree settings.optionsFile = .ok o)
    (hReads : settings.Reads options tree source) :
    SameSetup tree ((settings.arguments source).config o) source (options.bundlerConfig ⟨"."⟩)
      source := by
  refine (h.respells hOptions source).sameSetup (fun p hp => hReads p (.inr ?_))
    (fun p hp => hReads p (.inl ?_))
  · rw [command]
    split
    · exact ⟨_, settings.loadConfig_arguments source hLoad, .gathers hp⟩
    · exact ⟨_, settings.loadConfig_arguments source hLoad, .gathers hp⟩
  · rw [BuildOptions.LooksUp]
    split
    · exact .gathers hp
    · exact .gathers hp

/-- The command prints what a new bundler makes of the template, or fails with it. -/
theorem execute_command (settings : Settings) {line : CommandLine} {o : CompilerOptions}
    (hCommand : line.command = settings.command options source)
    (hLoad : CompilerOptions.load tree settings.optionsFile = .ok o)
    (hFile : source.text ≠ stdinSource) (input : List UInt8) :
    ∃ task, (settings.command options source).task? = some task ∧
      let commanded := line.execute { tree, input }
      match ((task.work tree (.file source)).on
        (.new ((settings.arguments source).config o))).1 with
      | .ok text => commanded.1 = 0 ∧ commanded.2.output = text
      | .error _ => commanded.1 = 1 := by
  obtain ⟨task, hTask, hArguments⟩ : ∃ task, (settings.command options source).task? = some task ∧
      task.arguments = settings.arguments source := by
    rw [command]
    split
    · exact ⟨_, rfl, rfl⟩
    · exact ⟨_, rfl, rfl⟩
  have hConfig := settings.loadConfig_arguments source hLoad
  rw [← hArguments] at hConfig
  have hSame : (settings.command options source).withSources [source.text] =
      settings.command options source := by
    rw [command]
    split
    · rfl
    · rfl
  have hLine : line.withSources [source.text] = line := by
    rw [CommandLine.withSources, hCommand, hSame, ← hCommand]
  have hTemplate : templateFrom input source.text = .file source := if_neg hFile
  have hAlone := @CommandLine.execute_alone line task _ { tree, input } (hCommand ▸ hTask)
    (hArguments ▸ rfl) hConfig source.text
  dsimp only at hAlone
  rw [hLine, hArguments, bundled, hTemplate] at hAlone
  refine ⟨task, hTask, ?_⟩
  dsimp only
  generalize ((task.work tree (.file source)).on _).1 = result at hAlone ⊢
  cases result with
  | ok text => exact hAlone
  | error e => exact hAlone.1

/-- A wrapper of a target is the wrapper of the command, seen from the working directory. -/
theorem sameWrapper_at {text : String} (hText : text ≠ "")
    (hShort : ∀ file, Wrapper.parse text = .file file →
      ∀ p, Gathers tree { compilerOptions := .unescaped } file p → p.Short)
    (hOther : ∀ file, BuildTarget.wrapperAt ⟨"."⟩ text = .file file →
      ∀ p, Gathers tree { compilerOptions := .unescaped } file p → p.Short) :
    SameWrapper tree (Wrapper.parse text) (BuildTarget.wrapperAt ⟨"."⟩ text) := by
  rw [BuildTarget.wrapperAt] at hOther ⊢
  cases hParse : Wrapper.parse text with
  | builtin wrapper => exact .builtin wrapper
  | file file =>
      obtain rfl : file = ⟨text⟩ := by
        rw [Wrapper.parse] at hParse
        split at hParse
        · cases hParse
        · cases hParse
          rfl
      rw [hParse] at hOther
      have hRespells : Respells { compilerOptions := .unescaped } { compilerOptions := .unescaped }
          ⟨text⟩ (⟨text⟩ : Path).here := Bundler.respells_here _ hText rfl
      exact .file (hRespells.sameSetup (hShort _ hParse) (hOther _ rfl))

/-- New bundlers of the command and of the target make the same of the template, or both fail. -/
theorem SaidBy.together (h : settings.SaidBy options tree) {o : CompilerOptions}
    (hOptions : options.compilerOptions = some o)
    (hLoad : CompilerOptions.load tree settings.optionsFile = .ok o)
    (hReads : settings.Reads options tree source) {task : Task}
    (hTask : (settings.command options source).task? = some task) :
    Together (· = ·)
      ((task.work tree (.file source)).on (.new ((settings.arguments source).config o))).1
      ((BuildTarget.bundleTemplate options ⟨"."⟩ source tree).on
        (.new (options.bundlerConfig ⟨"."⟩))).1 := by
  have hSetup := h.sameSetup hOptions hLoad hReads
  rw [command] at hTask
  unfold Reads command BuildOptions.LooksUp at hReads
  rw [BuildTarget.bundleTemplate]
  cases hJob : options.isPrecompile with
  | true =>
      rw [hJob, if_pos rfl] at hTask
      cases hTask
      simp only [hJob, if_true] at hReads
      rw [if_pos rfl]
      refine hSetup.precompile ?_
      cases hText : options.wrapper with
      | none => exact .none
      | some text =>
          have hNonempty : text ≠ "" := fun hEmpty => h.wrapper hJob (hText.trans (by rw [hEmpty]))
          refine .some (sameWrapper_at hNonempty (fun file hFile p hp => hReads p (.inr ?_))
            (fun file hFile p hp => hReads p (.inl ?_)))
          · refine ⟨_, settings.loadConfig_arguments source hLoad, .wrapper ?_ hp⟩
            rw [hText, Option.map_some, hFile]
            rfl
          · refine .wrapper ?_ hp
            rw [hText, Option.map_some, hFile]
            rfl
  | false =>
      rw [hJob, if_neg (by decide)] at hTask
      cases hTask
      simp only [hJob, if_false, Bool.false_eq_true] at hReads
      rw [if_neg (by decide)]
      have hHere : (⟨settings.data⟩ : Path).here.Short :=
        hReads _ (.inl (.data (h.dataCandidate?_eq hJob source)))
      rw [h.dataPath?_eq hJob source hHere]
      obtain ⟨place, bytes, hFind⟩ := FileTree.exists_find_of_isFile (h.data hJob).2.1
      have hKnown := FileTree.short_of_find hFind
      exact hSetup.compile
        (Bundler.together_context (Path.respelled_here hKnown.1) hKnown.2 hHere)

end Settings

namespace BuildTarget

variable {target : BuildTarget} {options : BuildOptions} {base source : Path} {session : Session}

/-- A target of one template is the template, taken through a new bundler and delivered. -/
theorem run_build_alone (hOne : target.expandSources session.tree base = .ok [source])
    (number : Nat) (summary : BuildSummary) :
    (target.build options base number summary).run.run session =
      let (outcome, after) := (bundleTemplate options base source session.tree).on
        (.new (options.bundlerConfig base))
      (target.deliver options base source summary outcome).run.run
        { session with warnings := session.warnings ++ after.warnings } := by
  rw [build, Session.run_bind, Session.run_get]
  dsimp only
  rw [hOne]
  dsimp only
  rw [buildTemplates_eq_foldlM, Session.run_bind, List.foldlM_cons, Session.run_bind,
    run_buildTemplate]
  rcases (bundleTemplate options base source session.tree).on (.new (options.bundlerConfig base))
    with ⟨outcome, after⟩
  dsimp only
  have hWarnings : after.warnings.drop (Bundler.new (options.bundlerConfig base)).warnings.length =
      after.warnings := rfl
  rw [hWarnings]
  rcases (target.deliver options base source summary outcome).run.run _ with ⟨f | summary, later⟩
  · rfl
  · rfl

theorem failed_ne_written (summary : BuildSummary) :
    (.ok { summary with failed := summary.failed + 1 } : Except Failure BuildSummary) ≠
      .ok { summary with written := summary.written + 1 } := by
  intro h
  have hWritten := congrArg BuildSummary.written (Except.ok.inj h)
  dsimp only at hWritten
  omega

/-- A text that was made is written just if it can be written, and is then in its file. -/
theorem deliver_ok (target : BuildTarget) (options : BuildOptions) (base source : Path)
    (summary : BuildSummary) (text : String) (session : Session) :
    let dest := target.outputPath base source options.outputExt
    let delivered := (target.deliver options base source summary (.ok text)).run.run session
    let written : Except Failure BuildSummary :=
      .ok { summary with written := summary.written + 1 }
    (delivered.1 = written ↔ (session.tree.write dest (Text.encode text)).2 = .ok ()) ∧
      (delivered.1 = written → delivered.2.tree.read dest = .ok (Text.encode text)) ∧
      delivered.1 ≠ .ok { summary with failed := summary.failed + 1 } := by
  intro dest delivered written
  dsimp only [delivered, written]
  rw [run_deliver_ok]
  dsimp only
  rcases hWrite : session.tree.write dest (Text.encode text) with ⟨tree, e | _⟩
  · refine ⟨iff_of_false ?_ ?_, ?_, ?_⟩
    · rintro ⟨⟩
    · rintro ⟨⟩
    · rintro ⟨⟩
    · rintro ⟨⟩
  · obtain ⟨place, -, hFind⟩ := FileTree.write_eq_ok hWrite
    have hRead : tree.read dest = .ok (Text.encode text) := by
      rw [FileTree.read, hFind]
      rfl
    exact ⟨iff_of_true rfl rfl, fun _ => hRead, (failed_ne_written summary).symm⟩

/-- A page with a partial in a directory of its name, a helper and data; and a page named as a dash. -/
def handout : FileTree :=
  ⟨[(["page.hbs"], .file (Text.encode "A\x7b\x7b> p\x7d\x7d\x7b\x7btag\x7d\x7d\x7b\x7bn\x7d\x7d")),
    (["-"], .file (Text.encode "A\x7b\x7b> p\x7d\x7d\x7b\x7btag\x7d\x7d\x7b\x7bn\x7d\x7d")),
    (["parts"], .directory), (["parts", "p"], .directory),
    (["parts", "p", "p.hbs"], .file (Text.encode "P")),
    (["helpers"], .directory), (["helpers", "tag.rhai"], .file (Text.encode "\"T\"")),
    (["o.json"], .file (Text.encode "\x7b\x7d")),
    (["d.txt"], .file (Text.encode "\x7b\"n\": 1\x7d"))], []⟩

def handoutSettings (data : String) : Settings :=
  ⟨"parts/$0", "hbs", ⟨"helpers"⟩, ⟨"o.json"⟩, data⟩

def handoutOptions (data : String) : BuildOptions where
  partials := some "parts/$0/$0.hbs"
  helpers := some ⟨"helpers"⟩
  data := some (.path data)
  compilerOptions := some {}

theorem load_handout : CompilerOptions.load handout ⟨"o.json"⟩ = .ok {} := by
  have hLoad : (CompilerOptions.load handout ⟨"o.json"⟩).toOption = some {} := by decide +kernel
  exact Outcome.eq_ok_of_toOption hLoad

theorem saidBy_handout {data : String} (hFile : handout.isFile ⟨data⟩ = true)
    (hPlain : ¬ namePlaceholder.toList <:+: data.toList) :
    (handoutSettings data).SaidBy (handoutOptions data) handout where
  partials := rfl
  dir_ne_empty := (by decide : "parts/$0" ≠ "")
  dir_relative := (by decide : (⟨"parts/$0"⟩ : Path).isAbsolute = false)
  ext_no_dot := (by decide : '.' ∉ "hbs".toList)
  ext_no_slash := (by decide : '/' ∉ "hbs".toList)
  discovers := rfl
  helpers := rfl
  helpers_ne_empty := (by decide : "helpers" ≠ "")
  compilerOptions := ⟨{}, rfl, load_handout⟩
  data _ := ⟨rfl, hFile, hPlain⟩
  wrapper h := nomatch h

/-- No path is too long that is looked up for the page. -/
theorem gathers_handout {config : BundlerConfig}
    (hFetch : ((Bundler.storeOf handout config ⟨"page.hbs"⟩).fetch "p").outcome.toOption = some "P")
    (hPartial : (Bundler.partialOf config ⟨"page.hbs"⟩ "p").Short)
    (hHelpers : ∀ dir ∈ config.helpersDir?, dir.Short ∧
      ∃ files, (helperFiles handout dir).toOption = some files ∧ ∀ p ∈ files, p.Short)
    {p : Path} (h : Gathers handout config ⟨"page.hbs"⟩ p) : p.Short := by
  cases h with
  | template => decide
  | helpers hDir => exact (hHelpers p hDir).1
  | helper hDir hFiles hFile =>
      obtain ⟨-, files, hAll, hShort⟩ := hHelpers _ hDir
      rw [hFiles] at hAll
      obtain rfl := Option.some.inj hAll
      exact hShort p hFile
  | @included body name hText hName =>
      have hRead : handout.readText ⟨"page.hbs"⟩ =
          .ok "A\x7b\x7b> p\x7d\x7d\x7b\x7btag\x7d\x7d\x7b\x7bn\x7d\x7d" := by decide +kernel
      obtain rfl := Except.ok.inj (hText.symm.trans hRead)
      have hRoot : Discovery.references
          "A\x7b\x7b> p\x7d\x7d\x7b\x7btag\x7d\x7d\x7b\x7bn\x7d\x7d" = ["p"] := by
        decide +kernel
      have hNone : Discovery.references "P" = [] := by decide +kernel
      have hFetch := Outcome.eq_ok_of_toOption hFetch
      obtain rfl := hName.eq_of_only hRoot fun source hSource =>
        Except.ok.inj (hFetch.symm.trans hSource) ▸ hNone
      exact hPartial

theorem reads_handout :
    (handoutSettings "d.txt").Reads (handoutOptions "d.txt") handout ⟨"page.hbs"⟩ := by
  have hSaid : (handoutSettings "d.txt").SaidBy (handoutOptions "d.txt") handout :=
    saidBy_handout (by decide +kernel) (by decide)
  rintro p (h | ⟨config, hConfig, h⟩)
  · have hLooks : Bundler.LooksUp handout ((handoutOptions "d.txt").bundlerConfig ⟨"."⟩)
        ⟨"page.hbs"⟩ ((handoutOptions "d.txt").dataCandidate? handout ⟨"page.hbs"⟩ ⟨"."⟩) none p := h
    cases hLooks with
    | gathers hGathers =>
        refine gathers_handout (by decide +kernel) (by decide +kernel) ?_ hGathers
        rintro dir ⟨⟩
        exact ⟨by decide, [⟨"./helpers/tag.rhai"⟩], by decide +kernel, by decide⟩
    | data hData =>
        rw [hSaid.dataCandidate?_eq rfl] at hData
        cases hData
        decide +kernel
    | wrapper hNone hPath => cases hNone
  · obtain ⟨o, hOptions, hLoad⟩ := hSaid.compilerOptions
    cases hOptions
    have hArguments := (handoutSettings "d.txt").loadConfig_arguments ⟨"page.hbs"⟩ hLoad
    obtain rfl := Except.ok.inj (hConfig.symm.trans hArguments)
    cases h with
    | gathers hGathers =>
        refine gathers_handout (by decide +kernel) (by decide +kernel) ?_ hGathers
        rintro dir ⟨⟩
        exact ⟨by decide, [⟨"helpers/tag.rhai"⟩], by decide +kernel, by decide⟩
    | data hData =>
        cases hData
        decide
    | wrapper hNone hPath => cases hNone

theorem sources_handout {source : String} (hSource : source ∈ ["page.hbs", "-"]) (dest : Path)
    (options : BuildOptions) :
    (⟨[source], dest, options⟩ : BuildTarget).expandSources handout
      (⟨BuildManifest.defaultName⟩ : Path).templateDir = .ok [⟨source⟩] := by
  have hSources : ∀ source ∈ ["page.hbs", "-"],
      ((⟨[source], ⟨"out"⟩, {}⟩ : BuildTarget).expandSources handout
        (⟨BuildManifest.defaultName⟩ : Path).templateDir).toOption = some [⟨source⟩] := by
    decide +kernel
  exact Outcome.eq_ok_of_toOption (hSources source hSource)

/-- A path of the data that is not too long but is when it is seen from the working directory. -/
structure Far (data : Path) : Prop where
  respelled : Path.Respelled ⟨"d.txt"⟩ data
  ne_empty : data.text ≠ ""
  short : data.Short
  long : ¬ data.here.Short

/-- The path is such a one when it is seen from the working directory often enough. -/
theorem far_iterate {count : Nat}
    (h : "d.txt".utf8ByteSize + 2 * count = FileTree.maxPathBytes) :
    Far (Path.here^[count] ⟨"d.txt"⟩) := by
  have hPath := Path.respelled_iterate_here (p := ⟨"d.txt"⟩) (by decide) count
  have hSize (count : Nat) : (Path.here^[count] ⟨"d.txt"⟩).text.utf8ByteSize =
      "d.txt".utf8ByteSize + 2 * count :=
    Path.utf8ByteSize_iterate_here (by decide) (by decide) count
  refine ⟨hPath.1, hPath.2, ?_, ?_⟩
  · rw [Path.Short, hSize]
    exact h.le
  · rw [Path.Short, ← Function.iterate_succ_apply' Path.here, hSize]
    omega

variable {data : Path}

theorem Far.isFile (h : Far data) : handout.isFile data = true := by
  rw [FileTree.isFile, handout.find_respelled h.respelled (by decide) h.short]
  decide +kernel

theorem Far.saidBy (h : Far data) :
    (handoutSettings data.text).SaidBy (handoutOptions data.text) handout := by
  refine saidBy_handout h.isFile fun ⟨before, after, hSplit⟩ => ?_
  have hDollar : '$' ∈ data.text.toList := by
    rw [← hSplit]
    exact List.mem_append_left _ (List.mem_append_right _ (by decide))
  rw [FileTree.mem_text_respelled (by decide) (by decide) h.respelled] at hDollar
  exact absurd hDollar (by decide)

/-- The target cannot read its data. -/
theorem Far.built (h : Far data) (dest : Path) :
    let options := handoutOptions data.text
    let target : BuildTarget := ⟨["page.hbs"], dest, options⟩
    let base := (⟨BuildManifest.defaultName⟩ : Path).templateDir
    ((target.build options base 1 {}).run.run { tree := handout }).1 = .ok { failed := 1 } := by
  intro options target base
  have hBase : base = ⟨"."⟩ := by decide
  have hPath : options.dataPath? handout ⟨"page.hbs"⟩ base = some data.here := by
    have hCandidate : options.dataCandidate? handout ⟨"page.hbs"⟩ ⟨"."⟩ = some data.here :=
      h.saidBy.dataCandidate?_eq rfl _
    have hHere := h.respelled.trans (Path.respelled_here h.ne_empty)
    rw [hBase, BuildOptions.dataPath?, hCandidate, Option.map_some, hHere.extension?_eq, if_pos]
    rw [Bool.or_eq_true]
    exact .inr (by decide)
  obtain ⟨e, hOther, hFind⟩ := handout.find_of_not_short h.long
  have hRead : handout.readText data.here = .error e := by
    rw [FileTree.readText, FileTree.read, hFind]
    rfl
  have hContext : (if true then Bundling.context? handout
      { source? := some (.file ⟨"page.hbs"⟩), contextSource? := some (.file data.here) }
      else .ok none) = .error (.contextLoad data.here (.io e)) := by
    rw [if_pos rfl, Bundling.context?]
    dsimp only
    rw [ContextSource.load, hRead]
    dsimp only
    rw [if_neg hOther]
    rfl
  obtain ⟨_, hPrepare⟩ := Bundler.exists_on_prepare_error (.inr ⟨_, hContext⟩)
    (Bundler.new (options.bundlerConfig base))
  have hOne := @run_build_alone target options base ⟨"page.hbs"⟩ { tree := handout }
    (sources_handout (.head _) dest options) 1 {}
  have hRenders : options.isPrecompile = false := rfl
  rw [hOne, bundleTemplate, hRenders, if_neg (by decide), hPath, Option.map_some,
    Bundler.on_compile_refused hPrepare]
  dsimp only
  rw [run_deliver_error]

/-- The command reads the data, and does with the page what it does with the data in its shortest
spelling. -/
theorem Far.commanded (h : Far data) :
    let line : CommandLine :=
      ⟨(handoutSettings data.text).command (handoutOptions data.text) ⟨"page.hbs"⟩, false, false⟩
    let commanded := line.execute { tree := handout }
    commanded.1 = 0 ∧ commanded.2.output = "APT1" := by
  intro line commanded
  let config := ((handoutSettings "d.txt").arguments ⟨"page.hbs"⟩).config {}
  have hKnown : ((Bundler.compile handout (.file ⟨"page.hbs"⟩) (some (.file ⟨"d.txt"⟩))).on
      (.new config)).1.toOption = some "APT1" := by decide +kernel
  have hText := ((SameSetup.refl handout config ⟨"page.hbs"⟩).compile
    (Bundler.together_context h.respelled (by decide) h.short)).toOption_eq
  have hMade := Outcome.eq_ok_of_toOption (hText.trans hKnown)
  let task : Task := ⟨(handoutSettings data.text).arguments ⟨"page.hbs"⟩, "compile",
    fun tree source => Bundler.compile tree source (some (.file data))⟩
  have hTask : line.command.task? = some task := rfl
  have hConfig : task.arguments.loadConfig handout = .ok config :=
    (handoutSettings data.text).loadConfig_arguments ⟨"page.hbs"⟩ load_handout
  have hTemplate : templateFrom [] "page.hbs" = .file ⟨"page.hbs"⟩ := by
    rw [templateFrom, if_neg (by decide)]
  rw [← hTemplate] at hMade
  exact CommandLine.execute_alone_ok hTask rfl hConfig hMade

end BuildTarget
end TemplateBundle
