import TemplateBundle.Proofs.Bundler.Data
import TemplateBundle.Proofs.Bundler.Gathering
import TemplateBundle.Proofs.Bundler.History

/-! Templates in files and in streams. Of a template only its text, its file and its name depend on
where it comes from. Main statement: if it is set where partials are looked up, a text has the same
outcome from a file as from a stream, whatever the pieces are that the stream comes in. -/
namespace TemplateBundle

/-- Why data that is given is refused. -/
def ContextSource.refusal? : ContextSource → Option BundleError
  | .given .null => none
  | .given (.object _) => none
  | .given other => some (.invalidContext other.kindName)
  | .file _ => none

namespace Bundling

/-- The template under another name, as one of a file or of none. -/
def named (b : Bundling) (file? : Option Path) (name : String) : Bundling := { b with file?, name }

theorem withContext_named (b : Bundling) (file? : Option Path) (name : String)
    (context : Option Context) :
    (b.named file? name).withContext context = (b.withContext context).named file? name := by
  cases context with
  | some context => rfl
  | none =>
      simp only [withContext, withObject, named]
      split
      · rfl
      · rfl

end Bundling

namespace BundlerConfig

/-- It is set where partials are looked up, or that there are none. -/
def SetsPartials (config : BundlerConfig) : Prop :=
  config.noPartials = true ∨ config.partialsDir?.isSome ∧ config.partialsExt?.isSome

end BundlerConfig

namespace Bundler

variable {σ : Type} {tree : FileTree} {bundler : Bundler σ} {b c read : Bundling}
  {file? : Option Path} {name : String}

/-- The outcome, with the template under another name. -/
def renamed (file? : Option Path) (name : String)
    (run : Except BundleError Bundling × Bundler σ) : Except BundleError Bundling × Bundler σ :=
  (run.1.map fun b => b.named file? name, run.2)

theorem on_registerPartials_named (hSets : bundler.config.SetsPartials) (b : Bundling)
    (file? : Option Path) (name : String) :
    (registerPartials tree (b.named file? name)).on bundler =
      renamed file? name ((registerPartials tree b).on bundler) := by
  rcases hSets with hNone | ⟨hDir, hExt⟩
  · have hSkips (b : Bundling) : findsPartials bundler.config b = false := by
      simp [findsPartials, hNone]
    rw [on_registerPartials_skip (hSkips _), on_registerPartials_skip (hSkips _)]
    rfl
  · obtain ⟨dir, hDir⟩ := Option.isSome_iff_exists.mp hDir
    obtain ⟨ext, hExt⟩ := Option.isSome_iff_exists.mp hExt
    have hSame : findsPartials bundler.config (b.named file? name) =
        findsPartials bundler.config b := by
      simp [findsPartials, hDir, hExt]
    have hStore : storeFor tree bundler.config (b.named file? name) =
        storeFor tree bundler.config b := by
      simp [storeFor, hDir, hExt]
    have hSettled : settled bundler.config (b.named file? name) = settled bundler.config b := by
      simp [settled, hDir, hExt]
    cases hFinds : findsPartials bundler.config b with
    | false =>
        rw [on_registerPartials_skip hFinds, on_registerPartials_skip (hSame.trans hFinds)]
        rfl
    | true =>
        rcases Option.eq_none_or_eq_some b.body? with hBody | ⟨body, hBody⟩
        · rw [on_registerPartials_missing hFinds hBody,
            on_registerPartials_missing (hSame.trans hFinds) hBody, hSettled]
          rfl
        · rw [on_registerPartials hFinds hBody,
            on_registerPartials (hSame.trans hFinds) hBody, hStore, hSettled]
          cases (resolve body (storeFor tree bundler.config b)).outcome with
          | error e => rfl
          | ok partials =>
              dsimp only
              cases (bundler.engine.registerPartials partials).2 with
              | error e => rfl
              | ok _ => rfl

/-- The name plays no part in the result. -/
theorem map_result_renamed (file? : Option Path) (name : String)
    (run : Except BundleError Bundling × Bundler σ) :
    (renamed file? name run).map (Except.map Bundling.result) id =
      run.map (Except.map Bundling.result) id := by
  obtain ⟨e | b, after⟩ := run
  · rfl
  · rfl

theorem render_named (tree : FileTree) (engine : Engine) (b : Bundling) (file? : Option Path)
    (name : String) :
    render tree engine (b.named file? name) =
      (render tree engine b).map fun c => c.named file? name := by
  simp only [render, Bundling.named]
  cases b.body? with
  | none => rfl
  | some body =>
      dsimp only
      cases engine.renderText _ body b.context with
      | error e => rfl
      | ok text => rfl

theorem precompileBody_named (config : BundlerConfig) (engine : Engine) (b : Bundling)
    (file? : Option Path) (name : String) :
    precompileBody config engine (b.named file? name) =
      (precompileBody config engine b).map fun c => c.named file? name := by
  rw [precompileBody_eq_bind, precompileBody_eq_bind]
  generalize (if config.noPartials then _ else _) = arts
  cases arts with
  | error e => rfl
  | ok arts =>
      simp only [bind, Except.bind, precompileWith, Bundling.named]
      cases b.body? with
      | none => rfl
      | some body =>
          dsimp only
          cases engine.precompile body with
          | error e => rfl
          | ok artifact => rfl

/-- Nothing is put around a template that came without a wrapper. -/
theorem wrap_of_precompileBody (tree : FileTree) {config : BundlerConfig} {engine : Engine}
    (h : precompileBody config engine b = .ok c) (hWrapper : b.wrapper? = none) :
    wrap tree c = .ok c := by
  obtain ⟨-, body, artifact, -, -, rfl⟩ := precompileBody_eq_ok.mp h
  unfold wrap
  rw [hWrapper]

/-- What is made of a template without a wrapper does not depend on its name. -/
theorem finish_named (call : Call) (bundler : Bundler σ) (hWrapper : b.wrapper? = none)
    (file? : Option Path) (name : String) :
    call.finish bundler (b.named file? name) =
      (call.finish bundler b).map fun c => c.named file? name := by
  obtain ⟨job, tree, template⟩ := call
  cases job with
  | compile => exact render_named tree bundler.engine b file? name
  | precompile =>
      have hNamed := precompileBody_named bundler.config bundler.engine b file? name
      cases hDone : precompileBody bundler.config bundler.engine b with
      | error e => simp only [Call.finish, hNamed, hDone, Except.map, bind, Except.bind]
      | ok d =>
          rw [hDone] at hNamed
          have hPlain := wrap_of_precompileBody tree hDone hWrapper
          have hOther := wrap_of_precompileBody tree hNamed hWrapper
          simp only [Call.finish, hNamed, hDone, Except.map, bind, Except.bind, hPlain, hOther]

/-- Templates that are read to the same but for the name are prepared to the same but for it. -/
theorem on_prepare_named {withData : Bool} (hRead : b.readTemplate tree = .ok read)
    (hOther : c.readTemplate tree = .ok (read.named file? name))
    (hSame : c.contextSource? = b.contextSource?) (bundler : Bundler σ) :
    (prepare tree withData c).on bundler =
      renamed file? name ((prepare tree withData b).on bundler) := by
  have hContext : c.context? tree = b.context? tree := by
    simp only [Bundling.context?, hSame]
  cases hData : if withData then b.context? tree else .ok none with
  | error e =>
      have hDataOther : (if withData then c.context? tree else .ok none) = .error e := by
        rw [hContext, hData]
      rw [on_prepare_refused_data hRead hData, on_prepare_refused_data hOther hDataOther]
      rfl
  | ok context =>
      have hDataOther : (if withData then c.context? tree else .ok none) = .ok context := by
        rw [hContext, hData]
      rw [on_prepare hRead hData, on_prepare hOther hDataOther, Bundling.withContext_named]
      rcases (loadHelpers tree).on _ with ⟨e | _, after⟩
      · rfl
      · rfl

/-- So are they rendered or precompiled, unless the name plays a part in a wrapper or in where their
partials are looked up. -/
theorem on_work_named (job : Job) (hSets : bundler.config.SetsPartials)
    (hRead : b.readTemplate tree = .ok read)
    (hOther : c.readTemplate tree = .ok (read.named file? name))
    (hSame : c.contextSource? = b.contextSource?) (hWrapper : read.wrapper? = none) :
    (Call.work ⟨job, tree, c⟩).on bundler =
      renamed file? name ((Call.work ⟨job, tree, b⟩).on bundler) := by
  -- Whether data is read is up to the job, whatever the template is.
  obtain ⟨withData, hData⟩ : ∃ withData, ∀ d, Call.withData ⟨job, tree, d⟩ = withData :=
    ⟨Call.withData ⟨job, tree, b⟩, fun _ => rfl⟩
  simp only [Call.on_work, hData, on_prepare_named hRead hOther hSame]
  rcases hAlone : (prepare tree withData b).on bundler with ⟨e | prepared, between⟩
  · rfl
  have hConfig : between.config = bundler.config :=
    (on_prepare_relates (R := fun _ _ => True) (fun _ _ _ _ => trivial) (fun _ => trivial)
      (fun _ _ => trivial) hAlone).1
  obtain ⟨_, context, hReadAgain, -, rfl, -⟩ := prepare_eq_ok hAlone
  rw [hRead] at hReadAgain
  cases hReadAgain
  rw [← hConfig] at hSets
  simp only [renamed, Except.map, on_registerPartials_named hSets]
  rcases hRegister : (registerPartials tree (read.withContext context)).on between with
    ⟨e | registered, after⟩
  · rfl
  obtain ⟨partials, rfl, -⟩ := exists_of_registerPartials hRegister
  have hBare : ({ read.withContext context with partials } : Bundling).wrapper? = none := by
    rw [withContext_eq]
    exact hWrapper
  exact Prod.ext (finish_named ⟨job, tree, b⟩ after hBare file? name) rfl

/-- Data that is given is refused, or else it is there; data in a file is not in question. -/
theorem firstRefusal_file {path : Path} {e : BundleError} (hSource : b.source? = some (.file path)) :
    (match b.context? tree with
      | .error f => b.firstRefusal e f
      | .ok _ => e) = (b.contextSource?.bind ContextSource.refusal?).getD e := by
  unfold Bundling.context? Bundling.firstRefusal
  rw [hSource]
  cases b.contextSource? with
  | none => rfl
  | some source =>
      cases source with
      | given value => cases value <;> rfl
      | file data =>
          dsimp only
          cases ContextSource.load tree (.file data) with
          | error f => rfl
          | ok context => rfl

/-- A template that is refused is what counts, unless its data are refused too and count before it. -/
theorem on_work_unread {call : Call} {e : BundleError}
    (hTemplate : call.template.readTemplate call.tree = .error e) (bundler : Bundler σ) :
    call.work.on bundler =
      (.error (match (if call.withData then call.template.context? call.tree else .ok none) with
        | .error f => call.template.firstRefusal e f
        | .ok _ => e), bundler) := by
  rw [Call.on_work, on_prepare_unread hTemplate]
  cases if call.withData then call.template.context? call.tree else .ok none with
  | error f => rfl
  | ok context => rfl

theorem readTemplate_stream {pieces : List (List UInt8)} {fault? : Option String}
    (hSource : b.source? = some (.stream pieces fault?)) :
    b.readTemplate tree = ((TemplateSource.stream pieces fault?).read tree).map fun body =>
      { b with source? := none, body? := some body } := by
  rw [Bundling.readTemplate, hSource]
  dsimp only
  cases (TemplateSource.stream pieces fault?).read tree with
  | error e => rfl
  | ok body => rfl

theorem read_stream_badEncoding {pieces : List (List UInt8)} {fault : Text.DecodingFault}
    (hFault : Text.decode pieces.flatten = .error fault) :
    (TemplateSource.stream pieces none).read tree = .error (.templateStream (.badEncoding fault)) := by
  rw [TemplateSource.read, hFault]

/-- A stream that is refused is what counts, whatever its data are. -/
theorem on_work_stream_refused {call : Call} {pieces : List (List UInt8)} {fault? : Option String}
    {e : BundleError} (hSource : call.template.source? = some (.stream pieces fault?))
    (hRefused : (TemplateSource.stream pieces fault?).read call.tree = .error e)
    (bundler : Bundler σ) : call.work.on bundler = (.error e, bundler) := by
  have hTemplate : call.template.readTemplate call.tree = .error e := by
    rw [readTemplate_stream hSource, hRefused]
    rfl
  have hFirst (f : BundleError) : call.template.firstRefusal e f = e := by
    rw [Bundling.firstRefusal, hSource]
    rfl
  rw [on_work_unread hTemplate]
  simp only [hFirst]
  cases if call.withData then call.template.context? call.tree else .ok none with
  | error f => rfl
  | ok context => rfl

/-- A text that is read from a file has the outcome that it has from a stream, under its name. -/
theorem on_work_file (job : Job) {path : Path} {pieces : List (List UInt8)} {text : String}
    (hSets : bundler.config.SetsPartials) (hFile : tree.read path = .ok pieces.flatten)
    (hText : Text.decode pieces.flatten = .ok text) (context? : Option ContextSource) :
    (Call.work ⟨job, tree, { source? := some (.file path), contextSource? := context? }⟩).on
        bundler =
      renamed (some path) path.templateName
        ((Call.work ⟨job, tree,
          { source? := some (.stream pieces none), contextSource? := context? }⟩).on bundler) := by
  let stream : Bundling := { source? := some (.stream pieces none), contextSource? := context? }
  let read : Bundling := { body? := some text, contextSource? := context? }
  have hStream : stream.readTemplate tree = .ok read := by
    rw [readTemplate_stream rfl, TemplateSource.read, hText]
    rfl
  have hRead : tree.readText path = .ok text := by
    rw [FileTree.readText, hFile]
    simp [bind, Except.bind, hText]
  refine on_work_named job hSets hStream ?_ rfl rfl
  rw [readTemplate_file rfl rfl, hRead]
  rfl

/-- Bytes of a file that are no text are refused, after data that is given and is refused. -/
theorem on_work_file_refused (job : Job) {path : Path} {bytes : List UInt8}
    {fault : Text.DecodingFault} (hFile : tree.read path = .ok bytes)
    (hFault : Text.decode bytes = .error fault) (context? : Option ContextSource)
    (bundler : Bundler σ) :
    (Call.work ⟨job, tree, { source? := some (.file path), contextSource? := context? }⟩).on
        bundler =
      (.error (match job with
        | .compile => (context?.bind ContextSource.refusal?).getD (.templateRead path .notText)
        | .precompile => .templateRead path .notText), bundler) := by
  have hRead : tree.readText path = .error .notText := by
    rw [FileTree.readText, hFile]
    simp [bind, Except.bind, hFault]
  have hTemplate : (Bundling.readTemplate tree
      { source? := some (.file path), contextSource? := context? }) =
        .error (.templateRead path .notText) := by
    rw [readTemplate_file rfl rfl, hRead]
  rw [on_work_unread hTemplate]
  cases job with
  | compile => exact congrArg (Except.error ·, bundler) (firstRefusal_file rfl)
  | precompile => rfl

/-- A text that is read from a file is rendered as it is from a stream. -/
theorem compile_file {path : Path} {pieces : List (List UInt8)} {text : String}
    (hSets : bundler.config.SetsPartials) (hFile : tree.read path = .ok pieces.flatten)
    (hText : Text.decode pieces.flatten = .ok text) (context? : Option ContextSource) :
    (compile tree (.file path) context?).on bundler =
      (compile tree (.stream pieces none) context?).on bundler := by
  have hCall (source : TemplateSource) :
      (compile tree source context?).on bundler =
        ((Call.work ⟨.compile, tree, { source? := some source, contextSource? := context? }⟩).on
          bundler).map (Except.map Bundling.result) id :=
    on_compile_eq_map tree source context? bundler
  rw [hCall, hCall, on_work_file .compile hSets hFile hText, map_result_renamed]

end Bundler
end TemplateBundle
