import TemplateBundle.Bundler.Basic
import TemplateBundle.Proofs.Engine

/-! Work of a bundler, stage by stage: what each stage gives and the bundler it leaves. -/
namespace TemplateBundle

namespace HelperLoader

variable {σ : Type}

/-- What the loader makes of an engine is related to it, whatever file it loads. -/
def Relates (loader : HelperLoader σ) (R : Engine → Engine → Prop) : Prop :=
  ∀ tree path memory (engine : Engine), R engine (loader.load tree path memory engine).1.2

/-- A relation between an engine and one made of it holds after many files if after each. -/
theorem Relates.loadAll {loader : HelperLoader σ} {R : Engine → Engine → Prop}
    (h : loader.Relates R) (hRefl : ∀ engine, R engine engine)
    (hTrans : ∀ {first second third}, R first second → R second third → R first third)
    (tree : FileTree) (paths : List Path) (memory : σ) (engine : Engine) :
    R engine (loader.loadAll tree paths (memory, engine)).1.2 := by
  induction paths generalizing memory engine with
  | nil => exact hRefl engine
  | cons path rest ih =>
      have hFirst := h tree path memory engine
      rw [HelperLoader.loadAll]
      rcases hLoad : loader.load tree path memory engine with ⟨⟨memory', engine'⟩, outcome⟩
      rw [hLoad] at hFirst
      cases outcome with
      | error cause => exact hFirst
      | ok _ => exact hTrans hFirst (ih memory' engine')

/-- The loader changes nothing in an engine but its helpers. -/
def OnlyHelpers (loader : HelperLoader σ) : Prop :=
  ∀ tree path memory (engine : Engine),
    engine.SameTemplates (loader.load tree path memory engine).1.2

theorem script_onlyHelpers : script.OnlyHelpers := by
  intro tree path memory engine
  simp only [script, Engine.registerScript]
  split
  · exact .refl engine
  split
  · exact ⟨rfl, rfl, rfl⟩
  · exact ⟨rfl, rfl, rfl⟩

/-- The loader registers no partials. -/
def KeepsPartials (loader : HelperLoader σ) : Prop :=
  loader.Relates fun engine after => after.partials = engine.partials

theorem script_keepsPartials : script.KeepsPartials :=
  fun tree path memory engine => (script_onlyHelpers tree path memory engine).partials

end HelperLoader

namespace Bundler

variable {σ α β : Type}

/-- What the work gives, and the bundler that it leaves. -/
def Work.on (work : Work σ α) (bundler : Bundler σ) : Except BundleError α × Bundler σ :=
  work.run.run bundler

namespace Work

@[simp] theorem on_pure (a : α) (bundler : Bundler σ) :
    on (pure a) bundler = (.ok a, bundler) := rfl

@[simp] theorem on_throw (e : BundleError) (bundler : Bundler σ) :
    on (throw e : Work σ α) bundler = (.error e, bundler) := rfl

@[simp] theorem on_get (bundler : Bundler σ) : on get bundler = (.ok bundler, bundler) := rfl

@[simp] theorem on_set (next bundler : Bundler σ) : on (set next) bundler = (.ok (), next) := rfl

@[simp] theorem on_modify (f : Bundler σ → Bundler σ) (bundler : Bundler σ) :
    on (modify f) bundler = (.ok (), f bundler) := rfl

@[simp] theorem on_lift (x : Except BundleError α) (bundler : Bundler σ) :
    on (liftM x) bundler = (x, bundler) := by
  cases x <;> rfl

/-- Work goes on with what was given, on the bundler that was left. -/
theorem on_bind (work : Work σ α) (next : α → Work σ β) (bundler : Bundler σ) :
    on (work >>= next) bundler =
      match on work bundler with
      | (.ok a, after) => on (next a) after
      | (.error e, after) => (.error e, after) := by
  simp only [on, ExceptT.run_bind, StateT.run_bind]
  rcases (StateT.run (ExceptT.run work) bundler) with ⟨outcome, after⟩
  cases outcome <;> rfl

theorem on_bind_eq_ok {work : Work σ α} {next : α → Work σ β} {bundler after : Bundler σ} {b : β} :
    on (work >>= next) bundler = (.ok b, after) ↔
      ∃ a between, on work bundler = (.ok a, between) ∧ on (next a) between = (.ok b, after) := by
  rw [on_bind]
  rcases on work bundler with ⟨outcome, between⟩
  cases outcome with
  | error e => simp
  | ok a =>
      constructor
      · exact fun h => ⟨a, between, rfl, h⟩
      · rintro ⟨_, _, hFirst, h⟩
        cases hFirst
        exact h

theorem exists_of_isOk {work : Work σ α} {bundler : Bundler σ} (h : (on work bundler).1.isOk) :
    ∃ a after, on work bundler = (.ok a, after) := by
  rcases hRun : on work bundler with ⟨outcome, after⟩
  rw [hRun] at h
  obtain ⟨a, rfl⟩ := Outcome.isOk_iff.mp h
  exact ⟨a, after, rfl⟩

end Work

theorem on_prepare {tree : FileTree} {withData : Bool} {b read : Bundling}
    {context : Option Context} (hTemplate : b.readTemplate tree = .ok read)
    (hContext : (if withData then b.context? tree else .ok none) = .ok context)
    (bundler : Bundler σ) :
    (prepare tree withData b).on bundler =
      match (loadHelpers tree).on
        { bundler with warnings := bundler.warnings ++ context.elim [] Context.warnings } with
      | (.ok _, after) => (.ok (read.withContext context), after)
      | (.error e, after) => (.error e, after) := by
  unfold prepare
  rw [hTemplate, hContext]
  simp only [Work.on_bind, Work.on_modify, Work.on_pure]
  rcases Work.on (loadHelpers tree) _ with ⟨outcome, after⟩
  cases outcome with
  | ok _ => rfl
  | error _ => rfl

/-- Preparing goes as far as loading the helpers does. -/
theorem on_prepare_loadHelpers {tree : FileTree} {withData : Bool} {b read : Bundling}
    {context : Option Context} (hTemplate : b.readTemplate tree = .ok read)
    (hContext : (if withData then b.context? tree else .ok none) = .ok context)
    {bundler after : Bundler σ} {outcome : Except BundleError Unit}
    (hLoad : (loadHelpers tree).on
      { bundler with warnings := bundler.warnings ++ context.elim [] Context.warnings } =
        (outcome, after)) :
    (prepare tree withData b).on bundler =
      (outcome.map fun _ => read.withContext context, after) := by
  rw [on_prepare hTemplate hContext, hLoad]
  cases outcome with
  | ok _ => rfl
  | error _ => rfl

/-- If the template or its data are refused, nothing else happens. -/
theorem on_prepare_refused (σ : Type) (tree : FileTree) (withData : Bool) (b : Bundling) :
    (∃ e, ∀ bundler : Bundler σ, (prepare tree withData b).on bundler = (.error e, bundler)) ∨
      ∃ read context, b.readTemplate tree = .ok read ∧
        (if withData then b.context? tree else .ok none) = .ok context := by
  unfold prepare
  cases hTemplate : b.readTemplate tree with
  | error e =>
      left
      cases hContext : if withData then b.context? tree else .ok none with
      | error f => exact ⟨_, fun _ => rfl⟩
      | ok context => exact ⟨_, fun _ => rfl⟩
  | ok read =>
      cases hContext : if withData then b.context? tree else .ok none with
      | error f => exact .inl ⟨_, fun _ => rfl⟩
      | ok context => exact .inr ⟨read, context, rfl, rfl⟩

/-- A template that is refused counts, unless its data are refused too and count before it. -/
theorem on_prepare_unread {tree : FileTree} {withData : Bool} {b : Bundling} {e : BundleError}
    (hTemplate : b.readTemplate tree = .error e) (bundler : Bundler σ) :
    (prepare tree withData b).on bundler =
      match (if withData then b.context? tree else .ok none) with
      | .error f => (.error (b.firstRefusal e f), bundler)
      | .ok _ => (.error e, bundler) := by
  unfold prepare
  rw [hTemplate]
  cases if withData then b.context? tree else .ok none with
  | error f => rfl
  | ok context => rfl

/-- Data that are refused count if the template is not. -/
theorem on_prepare_refused_data {tree : FileTree} {withData : Bool} {b read : Bundling}
    {e : BundleError} (hTemplate : b.readTemplate tree = .ok read)
    (hContext : (if withData then b.context? tree else .ok none) = .error e)
    (bundler : Bundler σ) : (prepare tree withData b).on bundler = (.error e, bundler) := by
  unfold prepare
  rw [hTemplate, hContext]
  rfl

/-- What was prepared was read, and then the helpers were loaded. -/
theorem prepare_eq_ok {tree : FileTree} {withData : Bool} {b c : Bundling}
    {bundler after : Bundler σ} (h : (prepare tree withData b).on bundler = (.ok c, after)) :
    ∃ read context, b.readTemplate tree = .ok read ∧
      (if withData then b.context? tree else .ok none) = .ok context ∧
      c = read.withContext context ∧
      (loadHelpers tree).on
        { bundler with warnings := bundler.warnings ++ context.elim [] Context.warnings } =
          (.ok (), after) := by
  rcases on_prepare_refused σ tree withData b with ⟨e, hRefused⟩ | ⟨read, context, hRead⟩
  · rw [hRefused] at h
    cases h
  · rw [on_prepare hRead.1 hRead.2] at h
    refine ⟨read, context, hRead.1, hRead.2, ?_⟩
    split at h
    · next between hLoad =>
      cases h
      exact ⟨rfl, hLoad⟩
    · cases h

/-- Data changes nothing but the data. -/
theorem withContext_eq (b : Bundling) (context : Option Context) :
    b.withContext context = { b with
      contextSource? := context.elim b.contextSource? fun _ => none
      contextFile? := context.elim b.contextFile? Context.file?
      context := context.elim b.withObject.context Context.data } := by
  cases context with
  | some context => rfl
  | none =>
      rw [Bundling.withContext, Bundling.withObject]
      split
      · rfl
      · rfl

theorem withContext_template (b : Bundling) (context : Option Context) :
    (b.withContext context).file? = b.file? ∧ (b.withContext context).body? = b.body? := by
  rw [withContext_eq]
  exact ⟨rfl, rfl⟩

theorem on_loadHelpers_none {tree : FileTree} {bundler : Bundler σ}
    (h : bundler.config.helpersDir? = none) :
    (loadHelpers tree).on bundler = (.ok (), { bundler with helpersLoaded := true }) := by
  obtain ⟨config, engine, loader, memory, helpersLoaded, warnings⟩ := bundler
  cases helpersLoaded with
  | true => simp [loadHelpers, Work.on_bind]
  | false => simp_all [loadHelpers, Work.on_bind]

theorem on_loadHelpers_some {tree : FileTree} {bundler : Bundler σ} {dir : Path}
    (hLoaded : bundler.helpersLoaded = false) (hDir : bundler.config.helpersDir? = some dir) :
    (loadHelpers tree).on bundler =
      match helperFiles tree dir with
      | .error e => (.error e, bundler)
      | .ok files =>
        let ((memory, engine), outcome) :=
          bundler.loader.loadAll tree files (bundler.memory, bundler.engine)
        (outcome, { bundler with memory, engine, helpersLoaded := outcome.toBool }) := by
  unfold loadHelpers
  simp only [Work.on_bind, Work.on_get, hLoaded, Bool.false_eq_true, if_false, hDir, Work.on_lift]
  cases helperFiles tree dir with
  | error e => rfl
  | ok files => simp only [Work.on_set]

/-- Loading helpers changes the engine as the loader does, and leaves the setup and the loader. -/
theorem on_loadHelpers_relates {tree : FileTree} {bundler after : Bundler σ}
    {outcome : Except BundleError Unit} {R : Engine → Engine → Prop}
    (hLoader : bundler.loader.Relates R) (hRefl : ∀ engine, R engine engine)
    (hTrans : ∀ {first second third}, R first second → R second third → R first third)
    (h : (loadHelpers tree).on bundler = (outcome, after)) :
    after.config = bundler.config ∧ after.loader = bundler.loader ∧
      R bundler.engine after.engine := by
  obtain rfl : ((loadHelpers tree).on bundler).2 = after := by rw [h]
  clear h
  unfold loadHelpers
  simp only [Work.on_bind, Work.on_get]
  cases hLoaded : bundler.helpersLoaded with
  | true => exact ⟨rfl, rfl, hRefl _⟩
  | false =>
      cases hDir : bundler.config.helpersDir? with
      | none => exact ⟨rfl, rfl, hRefl _⟩
      | some dir =>
          simp only [Work.on_bind, Bool.false_eq_true, if_false, Work.on_lift]
          cases helperFiles tree dir with
          | error e => exact ⟨rfl, rfl, hRefl _⟩
          | ok files =>
              simp only [Work.on_set]
              exact ⟨trivial, trivial,
                hLoader.loadAll hRefl hTrans tree files bundler.memory bundler.engine⟩

/-- Preparing a template changes the engine as the loader does, and leaves the setup and the
loader. -/
theorem on_prepare_relates {tree : FileTree} {withData : Bool} {b : Bundling}
    {bundler after : Bundler σ} {outcome : Except BundleError Bundling}
    {R : Engine → Engine → Prop} (hLoader : bundler.loader.Relates R)
    (hRefl : ∀ engine, R engine engine)
    (hTrans : ∀ {first second third}, R first second → R second third → R first third)
    (h : (prepare tree withData b).on bundler = (outcome, after)) :
    after.config = bundler.config ∧ after.loader = bundler.loader ∧
      R bundler.engine after.engine := by
  rcases on_prepare_refused σ tree withData b with ⟨e, hRefused⟩ | ⟨read, context, hRead⟩
  · rw [hRefused] at h
    cases h
    exact ⟨rfl, rfl, hRefl _⟩
  · let warned : Bundler σ :=
      { bundler with warnings := bundler.warnings ++ context.elim [] Context.warnings }
    have hWarned : warned.loader.Relates R := hLoader
    rcases hLoad : (loadHelpers tree).on warned with ⟨loaded, last⟩
    have hKept := on_loadHelpers_relates hWarned hRefl hTrans hLoad
    rw [on_prepare_loadHelpers hRead.1 hRead.2 hLoad] at h
    cases h
    exact hKept

theorem config_prepare {tree : FileTree} {withData : Bool} {b : Bundling}
    {bundler after : Bundler σ} {outcome : Except BundleError Bundling}
    (h : (prepare tree withData b).on bundler = (outcome, after)) :
    after.config = bundler.config :=
  (on_prepare_relates (R := fun _ _ => True) (fun _ _ _ _ => trivial) (fun _ => trivial)
    (fun _ _ => trivial) h).1

/-- Loading helpers changes nothing but helpers. -/
theorem on_loadHelpers_frame {tree : FileTree} {bundler after : Bundler σ}
    {outcome : Except BundleError Unit} (hLoader : bundler.loader.OnlyHelpers)
    (h : (loadHelpers tree).on bundler = (outcome, after)) :
    after.config = bundler.config ∧ bundler.engine.SameTemplates after.engine := by
  obtain ⟨hConfig, -, hSame⟩ :=
    on_loadHelpers_relates hLoader Engine.SameTemplates.refl Engine.SameTemplates.trans h
  exact ⟨hConfig, hSame⟩

theorem on_registerPartials_skip {tree : FileTree} {bundler : Bundler σ} {b : Bundling}
    (h : findsPartials bundler.config b = false) :
    (registerPartials tree b).on bundler = (.ok b, bundler) := by
  simp [registerPartials, Work.on_bind, h]

/-- Where the partials of a template are looked up. -/
def storeFor (tree : FileTree) (config : BundlerConfig) (b : Bundling) : PartialStore BundleError :=
  partialStore tree (config.partialsDir?.getD (b.file?.getD ⟨""⟩).templateDir)
    (config.partialsExt?.getD (b.file?.getD ⟨""⟩).templateExt)

/-- The setup once it is known where partials are looked up. -/
def settled (config : BundlerConfig) (b : Bundling) : BundlerConfig :=
  { config with
    partialsDir? := some (config.partialsDir?.getD (b.file?.getD ⟨""⟩).templateDir)
    partialsExt? := some (config.partialsExt?.getD (b.file?.getD ⟨""⟩).templateExt) }

theorem on_registerPartials {tree : FileTree} {bundler : Bundler σ} {b : Bundling} {body : String}
    (hFinds : findsPartials bundler.config b = true) (hBody : b.body? = some body) :
    (registerPartials tree b).on bundler =
      match (resolve body (storeFor tree bundler.config b)).outcome with
      | .error e => (.error e, { bundler with config := settled bundler.config b })
      | .ok partials =>
        let (engine, outcome) := bundler.engine.registerPartials partials
        ((outcome.mapError BundleError.engine).map fun _ => { b with partials },
          { bundler with config := settled bundler.config b, engine }) := by
  unfold registerPartials
  simp only [Work.on_bind, Work.on_get, hFinds, hBody]
  simp only [Work.on_bind, Work.on_set, Bool.not_true, Bool.false_eq_true, if_false, Work.on_lift]
  cases hFound : (resolve body (storeFor tree bundler.config b)).outcome with
  | error e =>
      rw [storeFor] at hFound
      rw [hFound]
      rfl
  | ok partials =>
      rw [storeFor] at hFound
      rw [hFound]
      dsimp only
      cases (bundler.engine.registerPartials partials).2 with
      | error e => rfl
      | ok _ => rfl

theorem on_registerPartials_missing {tree : FileTree} {bundler : Bundler σ} {b : Bundling}
    (hFinds : findsPartials bundler.config b = true) (hBody : b.body? = none) :
    (registerPartials tree b).on bundler =
      (.error .missingTemplate, { bundler with config := settled bundler.config b }) := by
  unfold registerPartials
  simp only [Work.on_bind, Work.on_get, hFinds, hBody]
  simp only [Work.on_bind, Work.on_set, Bool.not_true, Bool.false_eq_true, if_false, Work.on_throw]
  rfl

/-- Registering partials leaves all as it is but for where partials are looked up and which of them
the engine has. -/
theorem registerPartials_leaves (tree : FileTree) (bundler : Bundler σ) (b : Bundling) :
    ((registerPartials tree b).on bundler).2 = bundler ∨
      findsPartials bundler.config b = true ∧ ∃ partials,
        ((registerPartials tree b).on bundler).2 =
          { bundler with
            config := settled bundler.config b
            engine := (bundler.engine.registerPartials partials).1 } := by
  cases hFinds : findsPartials bundler.config b with
  | false =>
      left
      rw [on_registerPartials_skip hFinds]
  | true =>
      refine .inr ⟨rfl, ?_⟩
      cases hBody : b.body? with
      | none =>
          rw [on_registerPartials_missing hFinds hBody]
          exact ⟨[], rfl⟩
      | some body =>
          rw [on_registerPartials hFinds hBody]
          cases (resolve body (storeFor tree bundler.config b)).outcome with
          | error e => exact ⟨[], rfl⟩
          | ok partials => exact ⟨partials, rfl⟩

theorem registerPartials_eq_ok {tree : FileTree} {bundler after : Bundler σ} {b c : Bundling}
    {body : String} (hFinds : findsPartials bundler.config b = true) (hBody : b.body? = some body)
    (h : (registerPartials tree b).on bundler = (.ok c, after)) :
    ∃ partials, (resolve body (storeFor tree bundler.config b)).outcome = .ok partials ∧
      bundler.engine.registerPartials partials = (after.engine, .ok ()) ∧
      c = { b with partials } ∧ after.config = settled bundler.config b := by
  rw [on_registerPartials hFinds hBody] at h
  split at h
  · cases h
  · next partials hFound =>
    refine ⟨partials, hFound, ?_⟩
    rcases hEngine : bundler.engine.registerPartials partials with ⟨engine, outcome⟩
    rw [hEngine] at h
    cases outcome with
    | error e => cases h
    | ok _ =>
        cases h
        exact ⟨rfl, rfl, rfl⟩

theorem on_compileTemplate (tree : FileTree) (bundler : Bundler σ) (b : Bundling) :
    (compileTemplate tree b).on bundler = (render tree bundler.engine b, bundler) := by
  simp [compileTemplate, Work.on_bind]

theorem on_precompileTemplate (bundler : Bundler σ) (b : Bundling) :
    (precompileTemplate b).on bundler =
      (precompileBody bundler.config bundler.engine b, bundler) := by
  simp [precompileTemplate, Work.on_bind]

/-- A partial as it is precompiled. -/
def precompiled (p : Partial) : Partial := ⟨p.name, (Artifact.ofSource p.source).compress⟩

theorem artifacts_eq_ok {engine : Engine} {partials arts : List Partial} :
    artifacts engine partials = .ok arts ↔
      (∀ p ∈ partials, (engine.parse p.source).isOk) ∧ arts = partials.map precompiled := by
  induction partials generalizing arts with
  | nil =>
      have hNone : artifacts engine [] = .ok [] := rfl
      simp [hNone]
  | cons p rest ih =>
      unfold artifacts at ih ⊢
      rw [List.mapM_cons, List.forall_mem_cons, List.map_cons]
      constructor
      · intro h
        obtain ⟨first, hFirst, h⟩ := Outcome.bind_eq_ok.mp h
        obtain ⟨later, hLater, h⟩ := Outcome.bind_eq_ok.mp h
        cases h
        obtain ⟨text, hText, rfl⟩ := Outcome.map_eq_ok.mp hFirst
        obtain ⟨hParse, rfl⟩ := Engine.precompile_eq_ok.mp hText
        obtain ⟨hRest, rfl⟩ := ih.mp hLater
        exact ⟨⟨hParse, hRest⟩, rfl⟩
      · rintro ⟨⟨hParse, hRest⟩, rfl⟩
        rw [Engine.precompile_eq_ok.mpr ⟨hParse, rfl⟩, ih.mpr ⟨hRest, rfl⟩]
        rfl

/-- The template is precompiled, and comes with artifacts of partials. -/
def precompileWith (engine : Engine) (b : Bundling) (arts : List Partial) :
    Except BundleError Bundling :=
  match b.body? with
  | none => .error .missingTemplate
  | some body =>
    match engine.precompile body with
    | .ok artifact => .ok { b with partials := arts, result? := some artifact }
    | .error e => .error (.engine e)

theorem precompileWith_eq_ok {engine : Engine} {b c : Bundling} {arts : List Partial} :
    precompileWith engine b arts = .ok c ↔
      ∃ body artifact, b.body? = some body ∧ engine.precompile body = .ok artifact ∧
        c = { b with partials := arts, result? := some artifact } := by
  unfold precompileWith
  cases b.body? with
  | none => simp
  | some body =>
      cases hArtifact : engine.precompile body with
      | error e => simp [hArtifact]
      | ok artifact => simp [hArtifact, @eq_comm _ c]

theorem precompileBody_eq_bind (config : BundlerConfig) (engine : Engine) (b : Bundling) :
    precompileBody config engine b =
      (if config.noPartials then .ok []
        else (artifacts engine engine.partials).mapError .engine) >>=
        precompileWith engine b := by
  unfold precompileBody
  cases config.noPartials with
  | true => rfl
  | false => rfl

theorem precompileBody_eq_ok {config : BundlerConfig} {engine : Engine} {b c : Bundling} :
    precompileBody config engine b = .ok c ↔
      (config.noPartials = false → ∀ p ∈ engine.partials, (engine.parse p.source).isOk) ∧
        ∃ body artifact, b.body? = some body ∧ engine.precompile body = .ok artifact ∧
          c = { b with
            partials := if config.noPartials then [] else engine.partials.map precompiled
            result? := some artifact } := by
  rw [precompileBody_eq_bind, Outcome.bind_eq_ok]
  cases config.noPartials with
  | true => simp [precompileWith_eq_ok]
  | false => simp [Outcome.mapError_eq_ok, artifacts_eq_ok, precompileWith_eq_ok, and_assoc]

/-- The setup of the bundler that renders a wrapper. -/
def wrapperSetup : BundlerConfig := { compilerOptions := .unescaped }

/-- A wrapper is rendered over the result. -/
theorem wrap_eq (tree : FileTree) {b : Bundling} {wrapper : Wrapper} {artifact : String}
    (hWrapper : b.wrapper? = some wrapper) (hResult : b.result? = some artifact) :
    wrap tree b =
      ((compile tree wrapper.template (some (.given (wrapperData b artifact)))).on
        (new wrapperSetup)).1.map fun text => { b with result? := some text } := by
  unfold wrap Work.on wrapperSetup
  simp only [hWrapper, hResult]
  rcases (compile tree wrapper.template _).run.run _ with ⟨e | text, after⟩
  · rfl
  · rfl

/-- A wrapper changes nothing but the result. -/
theorem wrap_eq_ok {tree : FileTree} {b c : Bundling} (h : wrap tree b = .ok c) :
    (b.wrapper? = none → c = b) ∧ ∃ result, c = { b with result? := result } := by
  unfold wrap at h
  split at h
  · cases h
    exact ⟨fun _ => rfl, _, rfl⟩
  · cases h
  · next wrapper artifact hWrapper hResult =>
    dsimp only at h
    split at h
    · cases h
      exact ⟨fun hNone => (nomatch hWrapper.symm.trans hNone), _, rfl⟩
    · cases h

theorem on_compile_eq_map (tree : FileTree) (source : TemplateSource)
    (context? : Option ContextSource) (bundler : Bundler σ) :
    (compile tree source context?).on bundler =
      let (outcome, after) :=
        (runCompile tree { source? := some source, contextSource? := context? }).on bundler
      (outcome.map Bundling.result, after) := by
  simp only [compile, Work.on_bind]
  rcases (runCompile tree _).on bundler with ⟨outcome, after⟩
  cases outcome with
  | error e => rfl
  | ok b => rfl

theorem on_precompile_eq_map (tree : FileTree) (source : TemplateSource)
    (wrapper? : Option Wrapper) (bundler : Bundler σ) :
    (precompile tree source wrapper?).on bundler =
      let (outcome, after) := (runPrecompile tree { source? := some source, wrapper? }).on bundler
      (outcome.map Bundling.result, after) := by
  simp only [precompile, Work.on_bind]
  rcases (runPrecompile tree _).on bundler with ⟨outcome, after⟩
  cases outcome with
  | error e => rfl
  | ok b => rfl

/-! Warnings. -/

theorem warnings_loadHelpers (tree : FileTree) (bundler : Bundler σ) :
    ((loadHelpers tree).on bundler).2.warnings = bundler.warnings := by
  unfold loadHelpers
  simp only [Work.on_bind, Work.on_get]
  cases bundler.helpersLoaded with
  | true => rfl
  | false =>
      cases bundler.config.helpersDir? with
      | none => rfl
      | some dir =>
          simp only [Work.on_bind, Bool.false_eq_true, if_false, Work.on_lift]
          cases helperFiles tree dir with
          | error e => rfl
          | ok files => rfl

theorem warnings_registerPartials (tree : FileTree) (bundler : Bundler σ) (b : Bundling) :
    ((registerPartials tree b).on bundler).2.warnings = bundler.warnings := by
  rcases registerPartials_leaves tree bundler b with hSame | ⟨-, partials, hMore⟩
  · rw [hSame]
  · rw [hMore]

/-- What a template is warned of depends on the template alone. -/
theorem exists_warnings_compile (σ : Type) (tree : FileTree) (source : TemplateSource)
    (context? : Option ContextSource) :
    ∃ warnings, ∀ bundler : Bundler σ,
      ((compile tree source context?).on bundler).2.warnings = bundler.warnings ++ warnings := by
  let b : Bundling := { source? := some source, contextSource? := context? }
  have hCompile (bundler : Bundler σ) : ((compile tree source context?).on bundler).2.warnings =
      ((prepare tree true b).on bundler).2.warnings := by
    simp only [compile, runCompile, Work.on_bind, b]
    rcases (prepare tree true _).on bundler with ⟨e | c, prepared⟩
    · rfl
    · have hKept := warnings_registerPartials tree prepared c
      dsimp only
      rcases hRun : (registerPartials tree c).on prepared with ⟨e | d, registered⟩
      · rw [hRun] at hKept
        exact hKept
      · rw [hRun] at hKept
        dsimp only
        rw [on_compileTemplate]
        cases render tree registered.engine d with
        | error e => exact hKept
        | ok _ => exact hKept
  rcases on_prepare_refused σ tree true b with ⟨e, hRefused⟩ | ⟨read, context, hRead⟩
  · refine ⟨[], fun bundler => ?_⟩
    rw [hCompile, hRefused, List.append_nil]
  · refine ⟨context.elim [] Context.warnings, fun bundler => ?_⟩
    have hLoaded := warnings_loadHelpers tree
      { bundler with warnings := bundler.warnings ++ context.elim [] Context.warnings }
    rw [hCompile, on_prepare hRead.1 hRead.2]
    rcases hRun : (loadHelpers tree).on _ with ⟨e | _, after⟩
    · rw [hRun] at hLoaded
      exact hLoaded
    · rw [hRun] at hLoaded
      exact hLoaded

/-- Once the partials are registered, what is compiled is what is rendered. -/
theorem on_compile {tree : FileTree} {source : TemplateSource} {context? : Option ContextSource}
    {bundler prepared registered : Bundler σ} {b c : Bundling}
    (hPrepare : (prepare tree true { source? := some source, contextSource? := context? }).on
      bundler = (.ok b, prepared))
    (hRegister : (registerPartials tree b).on prepared = (.ok c, registered)) :
    (compile tree source context?).on bundler =
      ((render tree registered.engine c).map Bundling.result, registered) := by
  simp only [compile, runCompile, Work.on_bind, hPrepare, hRegister, on_compileTemplate]
  cases render tree registered.engine c with
  | ok _ => rfl
  | error _ => rfl

/-- Once the partials are registered, what is precompiled is what the wrapper makes of the
artifacts. -/
theorem on_precompile {tree : FileTree} {source : TemplateSource} {wrapper? : Option Wrapper}
    {bundler prepared registered : Bundler σ} {b c : Bundling}
    (hPrepare : (prepare tree false { source? := some source, wrapper? }).on bundler =
      (.ok b, prepared))
    (hRegister : (registerPartials tree b).on prepared = (.ok c, registered)) :
    (precompile tree source wrapper?).on bundler =
      ((precompileBody registered.config registered.engine c >>= wrap tree).map Bundling.result,
        registered) := by
  simp only [precompile, runPrecompile, Work.on_bind, hPrepare, hRegister, on_precompileTemplate]
  cases precompileBody registered.config registered.engine c with
  | ok precompiled =>
      simp only [Work.on_lift]
      cases hWrap : wrap tree precompiled with
      | ok _ => simp [bind, Except.bind, hWrap, Except.map]
      | error _ => simp [bind, Except.bind, hWrap, Except.map]
  | error _ => rfl

theorem precompile_eq_ok {tree : FileTree} {source : TemplateSource} {wrapper? : Option Wrapper}
    {bundler after : Bundler σ} {text : String}
    (h : (precompile tree source wrapper?).on bundler = (.ok text, after)) :
    ∃ b c prepared,
      (prepare tree false { source? := some source, wrapper? }).on bundler = (.ok b, prepared) ∧
      (registerPartials tree b).on prepared = (.ok c, after) ∧
      (precompileBody after.config after.engine c >>= wrap tree).map Bundling.result =
        .ok text := by
  obtain ⟨last, between, hRun, hText⟩ := Work.on_bind_eq_ok.mp h
  obtain ⟨b, prepared, hPrepare, hRun⟩ := Work.on_bind_eq_ok.mp hRun
  obtain ⟨c, registered, hRegister, hRun⟩ := Work.on_bind_eq_ok.mp hRun
  rw [on_precompile hPrepare hRegister] at h
  cases (Prod.mk.inj h).2
  exact ⟨b, c, prepared, hPrepare, hRegister, (Prod.mk.inj h).1⟩

end Bundler
end TemplateBundle
