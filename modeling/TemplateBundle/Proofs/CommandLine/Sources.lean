import TemplateBundle.CommandLine.Execution
import TemplateBundle.Proofs.Session

/-! The templates of one command line do not influence each other. Each has a bundler of its own and
nothing is written, so that what comes of a template is what comes of it alone. -/
namespace TemplateBundle

namespace SourceArguments

/-- The template that a source stands for; standard input holds `input`. -/
def templateFrom (input : List UInt8) (source : String) : TemplateSource :=
  if source = stdinSource then .stream [input] none else .file ⟨source⟩

section

variable (config : BundlerConfig) (verb : String)
  (work : FileTree → TemplateSource → Bundler.Work Unit String) (tree : FileTree)
  (input : List UInt8)

/-- What a new bundler makes of a source, and the bundler that it leaves. -/
def bundled (source : String) : Except BundleError String × Bundler Unit :=
  (work tree (templateFrom input source)).on (.new config)

def result? (source : String) : Option String := (bundled config work tree input source).1.toOption

/-- What is said of a source that fails. -/
def failureOf (source : String) (e : BundleError) : Failure :=
  ⟨["Failed to " ++ verb ++ " '" ++ source ++ "'"], .bundle e⟩

def failure? (source : String) : Option Failure :=
  match (bundled config work tree input source).1 with
  | .ok _ => none
  | .error e => some (failureOf verb source e)

/-- Why a source fails; any error will do for one that does not. -/
def causeOf (source : String) : BundleError :=
  match (bundled config work tree input source).1 with
  | .ok _ => .missingTemplate
  | .error e => e

/-- The session behind a list of sources, of which each has been printed or has failed. -/
def printed (sources : List String) (session : Session) : Session :=
  { session with
    input := if stdinSource ∈ sources then [] else session.input
    output := session.output ++ String.join (sources.filterMap (result? config work tree input))
    warnings := session.warnings ++
      sources.flatMap fun source => (bundled config work tree input source).2.warnings }

end

variable {arguments : SourceArguments} {config : BundlerConfig} {verb : String}
  {work : FileTree → TemplateSource → Bundler.Work Unit String}

theorem run_template (source : String) (session : Session) :
    (template source).run.run session = (.ok (templateFrom session.input source),
      { session with input := if source = stdinSource then [] else session.input }) := by
  unfold template templateFrom
  split
  · rfl
  · rfl

/-- One source, taken through a bundler of its own and printed. -/
theorem run_runSource (hPrints : arguments.out? = none) (source : String) (session : Session) :
    (arguments.runSource config verb work source).run.run session =
      (match (bundled config work session.tree session.input source).1 with
        | .ok _ => .ok ()
        | .error e => .error (failureOf verb source e),
       printed config work session.tree session.input [source] session) := by
  have hInput : (if stdinSource ∈ [source] then [] else session.input) =
      if source = stdinSource then [] else session.input := by
    simp only [List.mem_singleton, eq_comm]
  rw [runSource, Session.run_bind, run_template]
  dsimp only
  rw [Session.run_bind, Session.run_bundle]
  dsimp only
  rw [printed, hInput, List.flatMap_singleton, List.filterMap_cons, result?]
  have hBundled : (work session.tree (templateFrom session.input source)).on (.new config) =
      bundled config work session.tree session.input source := rfl
  rw [hBundled]
  rcases bundled config work session.tree session.input source with ⟨e | text, after⟩
  · dsimp only [Except.toOption, List.filterMap_nil]
    rw [String.join_nil, String.append_empty]
    rfl
  · dsimp only [Except.toOption, List.filterMap_nil]
    rw [String.join_cons, String.join_nil, String.append_empty, deliver, hPrints]
    rfl

/-- Standard input is nothing to a source that does not read it. -/
theorem bundled_congr {tree : FileTree} {input other : List UInt8} {source : String}
    (h : source = stdinSource → input = other) :
    bundled config work tree input source = bundled config work tree other source := by
  rw [bundled, bundled, templateFrom, templateFrom]
  split
  · next hStdin => rw [h hStdin]
  · rfl

theorem printed_congr {tree : FileTree} {input other : List UInt8} {sources : List String}
    (h : ∀ source ∈ sources, bundled config work tree input source =
      bundled config work tree other source) (session : Session) :
    printed config work tree input sources session =
      printed config work tree other sources session := by
  have hResults : sources.filterMap (result? config work tree input) =
      sources.filterMap (result? config work tree other) :=
    List.filterMap_congr fun source hSource => by rw [result?, h source hSource, result?]
  have hWarnings : (sources.flatMap fun s => (bundled config work tree input s).2.warnings) =
      sources.flatMap fun s => (bundled config work tree other s).2.warnings :=
    List.flatMap_congr fun source hSource => by rw [h source hSource]
  rw [printed, hResults, hWarnings, printed]

theorem printed_cons (tree : FileTree) (input : List UInt8) (source : String)
    (rest : List String) (session : Session) :
    printed config work tree input rest (printed config work tree input [source] session) =
      printed config work tree input (source :: rest) session := by
  have hOutput : (source :: rest).filterMap (result? config work tree input) =
      [source].filterMap (result? config work tree input) ++
        rest.filterMap (result? config work tree input) :=
    List.filterMap_append (l := [source])
  have hInput : (if stdinSource ∈ rest then [] else
      if stdinSource ∈ [source] then [] else session.input) =
      if stdinSource ∈ source :: rest then [] else session.input := by
    by_cases hRest : stdinSource ∈ rest
    · rw [if_pos hRest, if_pos (.tail _ hRest)]
    · rw [if_neg hRest]
      simp only [List.mem_cons, hRest, or_false, List.not_mem_nil]
  simp only [printed, hInput, hOutput, String.join_append, String.append_assoc,
    List.flatMap_cons, List.flatMap_nil, List.append_nil, List.append_assoc]

/-- The sources are done one after another, each as if it were alone: nothing is written, and only one
of them reads standard input. -/
theorem run_runSources (hPrints : arguments.out? = none) {sources : List String}
    (hOnce : sources.count stdinSource ≤ 1) (session : Session) :
    (arguments.runSources config verb work sources).run.run session =
      (.ok (sources.filterMap (failure? config verb work session.tree session.input)),
        printed config work session.tree session.input sources session) := by
  induction sources generalizing session with
  | nil =>
      simp only [printed, List.filterMap_nil, String.join_nil, String.append_empty,
        List.flatMap_nil, List.append_nil, List.not_mem_nil, if_false]
      rfl
  | cons source rest ih =>
      let between := printed config work session.tree session.input [source] session
      have hFirst : (arguments.runSource config verb work source).run.run session = _ :=
        run_runSource hPrints source session
      have hRest := ih (Nat.le_trans List.count_le_count_cons hOnce) between
      -- what is left of standard input is all of it unless the rest does not read it
      have hSame : ∀ other ∈ rest, bundled config work between.tree between.input other =
          bundled config work session.tree session.input other := by
        intro other hOther
        refine bundled_congr fun hStdin => if_neg ?_
        rw [List.mem_singleton]
        rintro rfl
        rw [List.count_cons_self] at hOnce
        have := List.count_pos_iff.mpr (hStdin ▸ hOther)
        omega
      have hLater : printed config work between.tree between.input rest between =
          printed config work session.tree session.input (source :: rest) session := by
        rw [← printed_cons]
        exact printed_congr hSame _
      have hFailures : rest.filterMap (failure? config verb work between.tree between.input) =
          rest.filterMap (failure? config verb work session.tree session.input) :=
        List.filterMap_congr fun other hOther => by rw [failure?, hSame other hOther, failure?]
      rw [hLater, hFailures] at hRest
      rw [runSources, Session.run_bind, Session.run_tryCatch, Session.run_bind, hFirst,
        List.filterMap_cons]
      cases hMade : (bundled config work session.tree session.input source).1 with
      | error e =>
          dsimp only
          rw [Session.run_pure]
          dsimp only
          rw [Session.run_bind, hRest, failure?, hMade]
          rfl
      | ok text =>
          dsimp only
          rw [Session.run_pure]
          dsimp only
          rw [Session.run_bind, hRest, failure?, hMade]
          rfl

/-- What is said last if sources have failed. -/
def countFailure (failed all : Nat) : Failure :=
  ⟨[], .text (toString failed ++ " of " ++ toString all ++ " template(s) failed")⟩

theorem run_run {session : Session} (hPrints : arguments.out? = none)
    (hOnce : arguments.sources.count stdinSource ≤ 1)
    (hOptions : arguments.loadConfig session.tree = .ok config) :
    (arguments.run verb work).run.run session =
      let failures :=
        arguments.sources.filterMap (failure? config verb work session.tree session.input)
      (if failures = [] then .ok ()
        else .error (countFailure failures.length arguments.sources.length),
       { printed config work session.tree session.input arguments.sources session with
        errors := session.errors ++
          String.join (failures.map fun f => (Report.ofFailure f).display) }) := by
  rw [run, Session.run_bind, Session.run_get]
  dsimp only
  rw [hOptions]
  dsimp only
  rw [Session.run_bind, run_runSources hPrints hOnce]
  dsimp only
  rw [Session.run_bind, Session.run_forM_report]
  dsimp only
  cases arguments.sources.filterMap (failure? config verb work session.tree session.input) with
  | nil => rfl
  | cons f rest => rfl

end SourceArguments

/-- What a command does with the templates that it takes. -/
structure Task where
  arguments : SourceArguments
  verb : String
  work : FileTree → TemplateSource → Bundler.Work Unit String

namespace Command

/-- The task of a command that takes templates. -/
def task? : Command → Option Task
  | .compile arguments data? =>
    some ⟨arguments, "compile", fun tree source => Bundler.compile tree source (data?.map .file)⟩
  | .precompile arguments wrapper? =>
    some ⟨arguments, "precompile", fun tree source => Bundler.precompile tree source wrapper?⟩
  | .build _ => none

/-- The command with other templates. -/
def withSources (sources : List String) : Command → Command
  | .compile arguments data? => .compile { arguments with sources } data?
  | .precompile arguments wrapper? => .precompile { arguments with sources } wrapper?
  | .build manifest? => .build manifest?

variable {command : Command} {task : Task}

theorem run_of_task (h : command.task? = some task) :
    command.run = task.arguments.run task.verb task.work := by
  cases command with
  | compile arguments data? =>
      cases h
      rfl
  | precompile arguments wrapper? =>
      cases h
      rfl
  | build manifest? => cases h

theorem task?_withSources (h : command.task? = some task) (sources : List String) :
    (command.withSources sources).task? =
      some { task with arguments := { task.arguments with sources } } := by
  cases command with
  | compile arguments data? =>
      cases h
      rfl
  | precompile arguments wrapper? =>
      cases h
      rfl
  | build manifest? => cases h

end Command

namespace CommandLine

open SourceArguments

/-- The command line with other templates. -/
def withSources (line : CommandLine) (sources : List String) : CommandLine :=
  { line with command := line.command.withSources sources }

variable {line : CommandLine} {task : Task} {config : BundlerConfig} {session : Session}

theorem execute_task (hTask : line.command.task? = some task)
    (hPrints : task.arguments.out? = none)
    (hOnce : task.arguments.sources.count stdinSource ≤ 1)
    (hOptions : task.arguments.loadConfig session.tree = .ok config) :
    line.execute session =
      let sources := task.arguments.sources
      let failures :=
        sources.filterMap (failure? config task.verb task.work session.tree session.input)
      (if failures = [] then 0 else 1,
       { printed config task.work session.tree session.input sources session with
        errors := session.errors ++
          String.join (failures.map fun f => (Report.ofFailure f).display) ++
          if failures = [] then ""
          else (Report.ofFailure (countFailure failures.length sources.length)).display }) := by
  rw [execute, Command.run_of_task hTask, run_run hPrints hOnce hOptions]
  dsimp only
  by_cases hNone : task.arguments.sources.filterMap
      (failure? config task.verb task.work session.tree session.input) = []
  · simp only [hNone, if_true, String.append_empty]
  · simp only [hNone, if_false]

/-- A source alone: its result is printed, or its failure is reported as one of one. -/
theorem execute_alone (hTask : line.command.task? = some task)
    (hPrints : task.arguments.out? = none)
    (hOptions : task.arguments.loadConfig session.tree = .ok config) (source : String) :
    let alone :=
      (line.withSources [source]).execute { tree := session.tree, input := session.input }
    match (bundled config task.work session.tree session.input source).1 with
    | .ok text => alone.1 = 0 ∧ alone.2.output = text
    | .error e => alone.1 = 1 ∧
        alone.2.errors = (Report.ofFailure (failureOf task.verb source e)).display ++
          (Report.ofFailure (countFailure 1 1)).display := by
  have hOwn : (line.withSources [source]).command.task? = some _ :=
    Command.task?_withSources hTask [source]
  have hExecute : (line.withSources [source]).execute
      { tree := session.tree, input := session.input } = _ :=
    execute_task hOwn hPrints List.count_le_length hOptions
  rw [hExecute]
  dsimp only [printed]
  rw [List.filterMap_cons, List.filterMap_cons, failure?, result?]
  cases (bundled config task.work session.tree session.input source).1 with
  | ok text =>
      refine ⟨rfl, ?_⟩
      simp only [Except.toOption, List.filterMap_nil, String.join_cons, String.join_nil,
        String.append_empty, String.empty_append]
  | error e =>
      refine ⟨rfl, ?_⟩
      simp only [List.filterMap_nil, List.map_cons, List.map_nil, String.join_cons,
        String.join_nil, String.append_empty, String.empty_append, reduceCtorEq, if_false,
        List.length_singleton]

theorem execute_alone_ok {tree : FileTree} {input : List UInt8} {source text : String}
    (hTask : line.command.task? = some task) (hPrints : task.arguments.out? = none)
    (hOptions : task.arguments.loadConfig tree = .ok config)
    (hMade : ((task.work tree (templateFrom input source)).on (.new config)).1 = .ok text) :
    let alone := (line.withSources [source]).execute { tree, input }
    alone.1 = 0 ∧ alone.2.output = text := by
  have hAlone := @execute_alone line task config { tree, input } hTask hPrints hOptions source
  dsimp only at hAlone
  rw [bundled, hMade] at hAlone
  exact hAlone

section Alone

variable (hTask : line.command.task? = some task) (hPrints : task.arguments.out? = none)
  (hOptions : task.arguments.loadConfig session.tree = .ok config) (source : String)

include hTask hPrints hOptions

/-- Those sources fail that fail alone. -/
theorem failure?_eq_alone :
    failure? config task.verb task.work session.tree session.input source =
      if ((line.withSources [source]).execute
        { tree := session.tree, input := session.input }).1 = 1
      then some (failureOf task.verb source
        (causeOf config task.work session.tree session.input source))
      else none := by
  have hAlone := execute_alone hTask hPrints hOptions source
  rw [failure?, causeOf]
  cases hMade : (bundled config task.work session.tree session.input source).1 with
  | ok text =>
      rw [hMade] at hAlone
      rw [hAlone.1, if_neg Nat.zero_ne_one]
  | error e =>
      rw [hMade] at hAlone
      rw [hAlone.1, if_pos rfl]

/-- The others come to what they print alone. -/
theorem result?_eq_alone :
    result? config task.work session.tree session.input source =
      if ((line.withSources [source]).execute
        { tree := session.tree, input := session.input }).1 ≠ 1
      then some ((line.withSources [source]).execute
        { tree := session.tree, input := session.input }).2.output
      else none := by
  have hAlone := execute_alone hTask hPrints hOptions source
  rw [result?]
  cases hMade : (bundled config task.work session.tree session.input source).1 with
  | ok text =>
      rw [hMade] at hAlone
      rw [hAlone.1, hAlone.2, if_pos Nat.zero_ne_one]
      rfl
  | error e =>
      rw [hMade] at hAlone
      rw [hAlone.1, if_neg (not_not_intro rfl)]
      rfl

/-- A source that fails alone is reported, and then counted as one of one. -/
theorem errors_alone
    (hFails : ((line.withSources [source]).execute
      { tree := session.tree, input := session.input }).1 = 1) :
    ((line.withSources [source]).execute
      { tree := session.tree, input := session.input }).2.errors =
      (Report.ofFailure (failureOf task.verb source
        (causeOf config task.work session.tree session.input source))).display ++
        (Report.ofFailure (countFailure 1 1)).display := by
  have hAlone := execute_alone hTask hPrints hOptions source
  rw [causeOf]
  cases hMade : (bundled config task.work session.tree session.input source).1 with
  | ok text =>
      rw [hMade] at hAlone
      exact absurd (hAlone.1.symm.trans hFails) Nat.zero_ne_one
  | error e =>
      rw [hMade] at hAlone
      exact hAlone.2

end Alone

end CommandLine
end TemplateBundle
