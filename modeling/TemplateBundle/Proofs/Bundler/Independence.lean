import TemplateBundle.Proofs.Bundler.Gathering
import TemplateBundle.Proofs.Bundler.History
import TemplateBundle.Proofs.Bundler.Loading

/-! What a template that is compiled later sees of the calls before it. If it is set where partials
are looked up, a bundler differs from a fresh one in nothing but the partials that it knows, and a
template sees none of them that it does not look up itself, unless it includes it without. -/
namespace TemplateBundle

namespace HelperLoader

theorem load_script_congr {tree other : FileTree} {path : Path}
    (h : other.readText path = tree.readText path) :
    script.load other path = script.load tree path := by
  funext memory engine
  simp only [script, Engine.registerScript, h]

end HelperLoader

namespace Bundler

variable {config : BundlerConfig} {layer : Layer} {outcome : Except BundleError Unit}
  {tree other : FileTree} {bundler : Bundler Unit}

/-- The trees have the same files of helpers. -/
def SameHelperFiles (config : BundlerConfig) (tree other : FileTree) : Prop :=
  ∀ dir ∈ config.helpersDir?, helperFiles other dir = helperFiles tree dir ∧
    ∀ files, helperFiles tree dir = .ok files →
      ∀ path ∈ files, other.readText path = tree.readText path

theorem SameHelperFiles.sameLoads (h : SameHelperFiles config tree other) :
    SameLoads .script config tree other := by
  intro dir hDir
  obtain ⟨hFiles, hTexts⟩ := h dir hDir
  exact ⟨hFiles, fun files hList path hPath =>
    HelperLoader.load_script_congr (hTexts files hList path hPath)⟩

/-- What a bundler of this setup that has not loaded its helpers makes of them. -/
def LoadsAs (config : BundlerConfig) (tree : FileTree) (layer : Layer)
    (outcome : Except BundleError Unit) : Prop :=
  ∀ bundler : Bundler Unit, bundler.loader = .script → bundler.config = config →
    bundler.engine.options = config.compilerOptions → bundler.helpersLoaded = false →
    ∃ after, Loads tree bundler layer outcome after

theorem exists_loadsAs (config : BundlerConfig) (tree : FileTree) :
    ∃ layer outcome, LoadsAs config tree layer outcome := by
  obtain ⟨layer, outcome, h⟩ := exists_layer_loadHelpers HelperLoader.script_dependsOnFile tree
    config.helpersDir? config.compilerOptions
  exact ⟨layer, outcome, fun bundler hLoader hConfig => h bundler hLoader (hConfig ▸ rfl)⟩

theorem LoadsAs.congr (h : LoadsAs config tree layer outcome)
    (hSame : SameHelperFiles config tree other) : LoadsAs config other layer outcome := by
  intro bundler hLoader hConfig hOptions hLoaded
  obtain ⟨after, hAfter⟩ := h bundler hLoader hConfig hOptions hLoaded
  have hLoads : SameLoads bundler.loader bundler.config tree other := by
    rw [hLoader, hConfig]
    exact hSame.sameLoads
  have hRun := on_loadHelpers_congr fun _ => hLoads
  exact ⟨after, { hAfter with run := hRun.trans hAfter.run }⟩

/-- What a bundler of this setup knows of helpers once they are loaded. -/
def loadedHelpers (config : BundlerConfig) (layer : Layer) : Layer :=
  (layer.upon (Engine.new config.compilerOptions).known).helpers

/-- What holds of a bundler after any calls: it has its setup, its helpers are as they are to be or
will be once they are loaded, and it knows no templates but its partials. -/
structure Kept (config : BundlerConfig) (layer : Layer) (outcome : Except BundleError Unit)
    (bundler : Bundler Unit) : Prop where
  setup : bundler.config = config
  loader : bundler.loader = .script
  options : bundler.engine.options = config.compilerOptions
  toLoad : (layer.upon bundler.engine.known).helpers = loadedHelpers config layer
  loaded : bundler.helpersLoaded = true →
    outcome = .ok () ∧ bundler.engine.known.helpers = loadedHelpers config layer
  templates : ∀ name, (∀ p ∈ bundler.engine.partials, p.name ≠ name) →
    bundler.engine.templates.lookup name = none
  quiet : config.noPartials = true → bundler.engine.partials = []

theorem Kept.new (config : BundlerConfig) (layer : Layer) (outcome : Except BundleError Unit) :
    Kept config layer outcome (new config) where
  setup := rfl
  loader := rfl
  options := rfl
  toLoad := rfl
  loaded h := nomatch h
  templates _ _ := rfl
  quiet _ := rfl

theorem Kept.on_loadHelpers (h : Kept config layer outcome bundler)
    (hLoads : LoadsAs config tree layer outcome) :
    ∃ after, (loadHelpers tree).on bundler = (outcome, after) ∧ Kept config layer outcome after ∧
      bundler.engine.SameTemplates after.engine ∧
      after.engine.known.helpers = loadedHelpers config layer := by
  cases hLoaded : bundler.helpersLoaded with
  | true =>
      obtain ⟨rfl, hHelpers⟩ := h.loaded hLoaded
      exact ⟨bundler, on_loadHelpers_loaded tree hLoaded, h, .refl _, hHelpers⟩
  | false =>
      obtain ⟨after, hAfter⟩ := hLoads bundler h.loader h.setup h.options hLoaded
      have hOnly : bundler.loader.OnlyHelpers := h.loader ▸ HelperLoader.script_onlyHelpers
      have hSame := (on_loadHelpers_frame hOnly hAfter.run).2
      have hHelpers : after.engine.known.helpers = loadedHelpers config layer := by
        rw [hAfter.covered.known, h.toLoad]
      refine ⟨after, hAfter.run, ?_, hSame, hHelpers⟩
      constructor
      · exact hAfter.config.trans h.setup
      · exact hAfter.loader.trans h.loader
      · exact hAfter.covered.options.trans h.options
      · rw [hAfter.covered.known, Layer.upon_upon_self, h.toLoad]
      · intro hIs
        obtain ⟨_, hOk⟩ := Outcome.isOk_iff.mp (hAfter.loaded.symm.trans hIs)
        exact ⟨hOk, hHelpers⟩
      · intro name hName
        rw [hSame.templates]
        exact h.templates name (hSame.partials ▸ hName)
      · exact fun hQuiet => hSame.partials.trans (h.quiet hQuiet)

/-- Every bundler of which this holds prepares a template with the same result. -/
theorem exists_result_prepare (hLoads : LoadsAs config tree layer outcome) (withData : Bool)
    (b : Bundling) :
    ∃ result, ∀ bundler, Kept config layer outcome bundler →
      ∃ after, (prepare tree withData b).on bundler = (result, after) ∧
        Kept config layer outcome after ∧ bundler.engine.SameTemplates after.engine ∧
        (result.isOk = true → after.engine.known.helpers = loadedHelpers config layer) := by
  rcases on_prepare_refused Unit tree withData b with ⟨e, hRefused⟩ | ⟨read, context, hRead⟩
  · refine ⟨.error e, fun bundler h => ⟨bundler, hRefused bundler, h, .refl _, ?_⟩⟩
    exact fun hOk => nomatch hOk
  · refine ⟨outcome.map fun _ => read.withContext context, fun bundler h => ?_⟩
    let warned : Bundler Unit :=
      { bundler with warnings := bundler.warnings ++ context.elim [] Context.warnings }
    have hWarned : Kept config layer outcome warned :=
      ⟨h.setup, h.loader, h.options, h.toLoad, h.loaded, h.templates, h.quiet⟩
    obtain ⟨after, hRun, hKept, hSame, hHelpers⟩ := hWarned.on_loadHelpers hLoads
    refine ⟨after, ?_, hKept, hSame, fun _ => hHelpers⟩
    exact on_prepare_loadHelpers hRead.1 hRead.2 hRun

/-- It is set where partials are looked up. -/
structure Placed (config : BundlerConfig) : Prop where
  dir : config.partialsDir?.isSome
  ext : config.partialsExt?.isSome

theorem Placed.settled (h : Placed config) (b : Bundling) : settled config b = config := by
  obtain ⟨dir, hDir⟩ := Option.isSome_iff_exists.mp h.dir
  obtain ⟨ext, hExt⟩ := Option.isSome_iff_exists.mp h.ext
  rw [Bundler.settled, hDir, hExt, Option.getD_some, Option.getD_some, ← hDir, ← hExt]

theorem Kept.registered (h : Kept config layer outcome bundler)
    (hSearches : config.noPartials = false) (added : List Partial) :
    Kept config layer outcome
      { bundler with engine := (bundler.engine.registerPartials added).1 } := by
  have hRegistered := Engine.registered_registerPartials bundler.engine added
  have hKnown : (bundler.engine.registerPartials added).1.known.helpers =
      bundler.engine.known.helpers := by
    simp only [Engine.known, Layer.helpers, hRegistered.helpers, hRegistered.scripts]
  constructor
  · exact h.setup
  · exact h.loader
  · exact hRegistered.options.trans h.options
  · rw [Layer.helpers_upon, hKnown, ← Layer.helpers_upon, h.toLoad]
  · exact fun hIs => ⟨(h.loaded hIs).1, hKnown.trans (h.loaded hIs).2⟩
  · intro name hName
    rw [hRegistered.partials, List.forall_mem_append] at hName
    rw [hRegistered.lookup, Engine.templateWith?]
    split
    · next p hFound =>
      have hMem := List.mem_reverse.mp (List.mem_of_find?_eq_some hFound)
      have hSame := List.find?_some hFound
      exact (hName.2 p hMem (of_decide_eq_true hSame)).elim
    · exact h.templates name hName.1
  · exact fun hQuiet => absurd (hSearches.symm.trans hQuiet) Bool.false_ne_true

theorem Kept.on_registerPartials (h : Kept config layer outcome bundler) (hPlaced : Placed config)
    (tree : FileTree) (b : Bundling) :
    Kept config layer outcome ((registerPartials tree b).on bundler).2 := by
  rcases registerPartials_leaves tree bundler b with hSame | ⟨hFinds, partials, hMore⟩
  · rw [hSame]
    exact h
  · have hSettled : settled bundler.config b = bundler.config := by
      rw [h.setup, hPlaced.settled]
    have hSearches : config.noPartials = false := by
      rw [findsPartials, h.setup] at hFinds
      simp_all
    rw [hMore, hSettled]
    exact h.registered hSearches partials

/-- Whatever a call does, this holds after it. -/
theorem Kept.on_work {call : Call} (h : Kept config layer outcome bundler) (hPlaced : Placed config)
    (hLoads : LoadsAs config call.tree layer outcome) :
    Kept config layer outcome (call.work.on bundler).2 := by
  obtain ⟨result, hAll⟩ := exists_result_prepare hLoads call.withData call.template
  obtain ⟨prepared, hPrepare, hKept, -, -⟩ := hAll bundler h
  rw [Call.work_leaves, hPrepare]
  cases result with
  | error e => exact hKept
  | ok b => exact hKept.on_registerPartials hPlaced call.tree b

theorem Kept.after_compile (h : Kept config layer outcome bundler) (hPlaced : Placed config)
    (hLoads : LoadsAs config tree layer outcome) (source : TemplateSource)
    (context? : Option ContextSource) :
    Kept config layer outcome ((compile tree source context?).on bundler).2 := by
  let call : Call := ⟨.compile, tree, { source? := some source, contextSource? := context? }⟩
  have hWork : Kept config layer outcome (call.work.on bundler).2 := h.on_work hPlaced hLoads
  rw [on_compile_eq_map]
  exact hWork

theorem Kept.after (hPlaced : Placed config) {calls : List Call}
    (hLoads : ∀ call ∈ calls, LoadsAs config call.tree layer outcome)
    (h : Kept config layer outcome bundler) : Kept config layer outcome (bundler.after calls) := by
  induction calls generalizing bundler with
  | nil => exact h
  | cons call rest ih =>
      obtain ⟨hFirst, hRest⟩ := List.forall_mem_cons.mp hLoads
      exact ih hRest (h.on_work hPlaced hFirst)

/-- The names that mean the same to a template whoever knows them: those that it looks up, and those
that no partial of the engine has. -/
def OwnName (tree : FileTree) (config : BundlerConfig) (path : Path) (engine : Engine)
    (name : String) : Prop :=
  (∃ text, tree.readText path = .ok text ∧
      Resolution.Reachable text (storeOf tree config path).fetch name) ∨
    ∀ p ∈ engine.partials, p.name ≠ name

/-- Whatever the template in a file is made of includes only such names. -/
def IncludesOwn (tree : FileTree) (config : BundlerConfig) (path : Path) (engine : Engine) : Prop :=
  ∀ source, PartOf tree config path source → ∀ template,
    (Engine.new config.compilerOptions).parse source = .ok template →
      IncludesOnly (OwnName tree config path engine) template

/-- The engines are the same for the template in a file: in the helpers, and in what has a name of
its own. One of them knows nothing but what the template is made of. -/
structure SameFor (tree : FileTree) (config : BundlerConfig) (path : Path)
    (known engine fresh : Engine) : Prop where
  options : engine.options = config.compilerOptions
  freshOptions : fresh.options = config.compilerOptions
  helpers : fresh.SameHelpers engine
  lookup : ∀ name, OwnName tree config path known name →
    engine.templates.lookup name = fresh.templates.lookup name
  partOf : ∀ name template, fresh.templates.lookup name = some template →
    ∃ source, PartOf tree config path source ∧
      (Engine.new config.compilerOptions).parse source = .ok template

variable {path : Path} {known engine fresh : Engine}

theorem SameFor.render_eq (h : SameFor tree config path known engine fresh)
    (hOwn : IncludesOwn tree config path known) {b : Bundling} {body : String}
    (hBody : b.body? = some body) (hRead : tree.readText path = .ok body) :
    render tree engine b = render tree fresh b := by
  have hParse := Engine.parse_eq_new h.freshOptions
  have hOnly (name : String) (template : Template)
      (hKnown : fresh.templates.lookup name = some template) :
      IncludesOnly (OwnName tree config path known) template := by
    obtain ⟨source, hPart, hSource⟩ := h.partOf name template hKnown
    exact hOwn source hPart template hSource
  have hText (template : Template) (hTemplate : fresh.parse body = .ok template) :
      IncludesOnly (OwnName tree config path known) template :=
    hOwn body (.body hRead) template (hParse ▸ hTemplate)
  unfold render
  rw [hBody]
  dsimp only
  rw [Engine.renderText_congr (h.options.trans h.freshOptions.symm) h.helpers h.lookup
    (fun name template _ => hOnly name template) hText]

/-- A bundler beside a fresh one, both ready to look up partials. All that the first one knows
besides are the partials of some engine. -/
structure Beside (config : BundlerConfig) (known : Engine) (bundler fresh : Bundler Unit) :
    Prop where
  setup : bundler.config = config
  freshSetup : fresh.config = config
  options : bundler.engine.options = config.compilerOptions
  freshOptions : fresh.engine.options = config.compilerOptions
  helpers : fresh.engine.SameHelpers bundler.engine
  templates : ∀ name, (∀ p ∈ known.partials, p.name ≠ name) →
    bundler.engine.templates.lookup name = none
  freshTemplates : fresh.engine.templates = []
  quiet : config.noPartials = true → known.partials = []

/-- If partials are not looked up, nothing has been registered either. -/
theorem Beside.sameFor_quiet {fresh : Bundler Unit} (h : Beside config known bundler fresh)
    (hQuiet : config.noPartials = true) :
    SameFor tree config path known bundler.engine fresh.engine where
  options := h.options
  freshOptions := h.freshOptions
  helpers := h.helpers
  lookup name _ := by
    have hNone (p : Partial) (hp : p ∈ known.partials) : p.name ≠ name := by
      rw [h.quiet hQuiet] at hp
      exact (List.not_mem_nil hp).elim
    rw [h.templates name hNone, h.freshTemplates]
    rfl
  partOf name template hKnown := by
    rw [h.freshTemplates] at hKnown
    cases hKnown

/-- Once its partials are registered, a template finds the same on both. -/
theorem Beside.sameFor_registered {fresh : Bundler Unit} (h : Beside config known bundler fresh)
    {body : String} (hRead : tree.readText path = .ok body) {included : List Partial}
    (hFound : (resolve body (storeOf tree config path)).outcome = .ok included)
    (hRegistered : bundler.engine.Registered included engine) {other : Engine}
    (hOther : fresh.engine.Registered included other) :
    SameFor tree config path known engine other where
  options := hRegistered.options.trans h.options
  freshOptions := hOther.options.trans h.freshOptions
  helpers := by
    refine ⟨fun name => ?_, fun name => ?_⟩
    · rw [hRegistered.helpers, hOther.helpers, h.helpers.helpers]
    · rw [hRegistered.scripts, hOther.scripts, h.helpers.scripts]
  lookup name hName := by
    rw [hRegistered.lookup, hOther.lookup]
    refine Engine.templateWith?_eq (h.options.trans h.freshOptions.symm) fun hMissing => ?_
    have hNone : ∀ p ∈ known.partials, p.name ≠ name := by
      rcases hName with ⟨text, hText, hReachable⟩ | hNone
      · obtain rfl := Except.ok.inj (hRead.symm.trans hText)
        obtain ⟨p, hp, hSame⟩ := (Resolution.endsAt_resolve body _).exists_partial hFound hReachable
        exact (hMissing p hp hSame).elim
      · exact hNone
    rw [h.templates name hNone, h.freshTemplates]
    rfl
  partOf name template hKnown := by
    have hStart : fresh.engine.templates.lookup name = none := by
      rw [h.freshTemplates]
      rfl
    rw [hOther.lookup] at hKnown
    obtain ⟨p, hp, hParse⟩ := Engine.exists_of_templateWith? hKnown hStart
    obtain ⟨hReachable, hSource⟩ :=
      (((Resolution.endsAt_resolve body _).of_ok hFound).2.1 p).mp hp
    rw [Engine.parse_eq_new h.freshOptions] at hParse
    exact ⟨p.source, .reached hRead hReachable hSource, hParse⟩

/-- Registering the partials of a template in a file comes to the same on both. -/
theorem Beside.on_registerPartials {fresh : Bundler Unit} (h : Beside config known bundler fresh)
    {body : String} (hRead : tree.readText path = .ok body) {b : Bundling}
    (hBody : b.body? = some body) (hFile : b.file? = some path) :
    (∃ e after other, (registerPartials tree b).on bundler = (.error e, after) ∧
        (registerPartials tree b).on fresh = (.error e, other)) ∨
      ∃ c after other, (registerPartials tree b).on bundler = (.ok c, after) ∧
        (registerPartials tree b).on fresh = (.ok c, other) ∧ c.body? = some body ∧
        SameFor tree config path known after.engine other.engine := by
  cases hQuiet : config.noPartials with
  | true =>
      have hSkips (bundler : Bundler Unit) (hSetup : bundler.config = config) :
          findsPartials bundler.config b = false := by
        simp [findsPartials, hSetup, hQuiet]
      exact .inr ⟨b, bundler, fresh, on_registerPartials_skip (hSkips bundler h.setup),
        on_registerPartials_skip (hSkips fresh h.freshSetup), hBody, h.sameFor_quiet hQuiet⟩
  | false =>
      have hFinds (bundler : Bundler Unit) (hSetup : bundler.config = config) :
          findsPartials bundler.config b = true := by
        rw [hSetup]
        exact findsPartials_file hQuiet hFile
      have hRegister : (registerPartials tree b).on bundler = _ :=
        Bundler.on_registerPartials (hFinds bundler h.setup) hBody
      have hRegisterOther : (registerPartials tree b).on fresh = _ :=
        Bundler.on_registerPartials (hFinds fresh h.freshSetup) hBody
      rw [h.setup, storeFor_file hFile] at hRegister
      rw [h.freshSetup, storeFor_file hFile] at hRegisterOther
      cases hFound : (resolve body (storeOf tree config path)).outcome with
      | error e =>
          rw [hFound] at hRegister hRegisterOther
          exact .inl ⟨e, _, _, hRegister, hRegisterOther⟩
      | ok included =>
          have hSame := Engine.outcome_registerPartials_congr
            (h.freshOptions.trans h.options.symm) included
          rcases hRun : bundler.engine.registerPartials included with ⟨engine, outcome⟩
          rcases hRunOther : fresh.engine.registerPartials included with ⟨other, otherOutcome⟩
          rw [hRun, hRunOther] at hSame
          obtain rfl : otherOutcome = outcome := hSame
          simp only [hFound, hRun] at hRegister
          simp only [hFound, hRunOther] at hRegisterOther
          cases otherOutcome with
          | error e => exact .inl ⟨_, _, _, hRegister, hRegisterOther⟩
          | ok _ =>
              exact .inr ⟨_, _, _, hRegister, hRegisterOther, hBody,
                h.sameFor_registered hRead hFound (Engine.registered_of_registerPartials hRun)
                  (Engine.registered_of_registerPartials hRunOther)⟩

theorem on_compile_refused {source : TemplateSource} {context? : Option ContextSource}
    {bundler prepared : Bundler Unit} {e : BundleError}
    (hPrepare : (prepare tree true { source? := some source, contextSource? := context? }).on
      bundler = (.error e, prepared)) :
    (compile tree source context?).on bundler = (.error e, prepared) := by
  simp only [compile, runCompile, Work.on_bind, hPrepare]

theorem on_compile_broken {source : TemplateSource} {context? : Option ContextSource}
    {bundler prepared after : Bundler Unit} {b : Bundling} {e : BundleError}
    (hPrepare : (prepare tree true { source? := some source, contextSource? := context? }).on
      bundler = (.ok b, prepared))
    (hRegister : (registerPartials tree b).on prepared = (.error e, after)) :
    (compile tree source context?).on bundler = (.error e, after) := by
  simp only [compile, runCompile, Work.on_bind, hPrepare, hRegister]

/-- A template in a file that includes nothing but its own compiles as on a fresh bundler. -/
theorem Kept.compile_eq (h : Kept config layer outcome bundler)
    (hLoads : LoadsAs config tree layer outcome)
    (hOwn : IncludesOwn tree config path bundler.engine) (context? : Option ContextSource) :
    ((compile tree (.file path) context?).on bundler).1 =
      ((compile tree (.file path) context?).on (Bundler.new config)).1 := by
  obtain ⟨result, hAll⟩ := exists_result_prepare hLoads true
    { source? := some (.file path), contextSource? := context? }
  obtain ⟨prepared, hPrepare, hKept, hSame, hHelpers⟩ := hAll bundler h
  obtain ⟨other, hOther, hKeptOther, hSameOther, hHelpersOther⟩ :=
    hAll (Bundler.new config) (.new ..)
  cases result with
  | error e => rw [on_compile_refused hPrepare, on_compile_refused hOther]
  | ok b =>
      obtain ⟨read, context, hRead, -, rfl, -⟩ := prepare_eq_ok hPrepare
      have hPlace := withContext_template read context
      obtain ⟨body, hText, rfl⟩ := exists_of_readTemplate_file rfl rfl hRead
      have hBeside : Beside config bundler.engine prepared other := by
        refine ⟨hKept.setup, hKeptOther.setup, hKept.options, hKeptOther.options, ?_, ?_,
          hSameOther.templates, h.quiet⟩
        · exact Engine.sameHelpers_of_known ((hHelpers rfl).trans (hHelpersOther rfl).symm)
        · exact fun name hName => hKept.templates name (hSame.partials ▸ hName)
      rcases hBeside.on_registerPartials hText hPlace.2 hPlace.1 with
        ⟨e, after, otherAfter, hRegister, hRegisterOther⟩ |
          ⟨c, after, otherAfter, hRegister, hRegisterOther, hBody, hSameFor⟩
      · rw [on_compile_broken hPrepare hRegister, on_compile_broken hOther hRegisterOther]
      · rw [on_compile hPrepare hRegister, on_compile hOther hRegisterOther,
          hSameFor.render_eq hOwn hBody hText]

end Bundler
end TemplateBundle
