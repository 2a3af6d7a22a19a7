import TemplateBundle.Proofs.Bundler.JsonWrapper
import TemplateBundle.Proofs.Resolution.Search

/-! What a fresh bundler gathers for a template in a file: its text and the partials that it
reaches. Every run over the file gathers the same. -/
namespace TemplateBundle.Bundler

variable {tree : FileTree} {config : BundlerConfig} {path : Path} {body : String}
  {included : List Partial} {engine : Engine}

/-- Where the partials of a template in a file are looked up. -/
def storeOf (tree : FileTree) (config : BundlerConfig) (path : Path) : PartialStore BundleError :=
  partialStore tree (config.partialsDir?.getD path.templateDir)
    (config.partialsExt?.getD path.templateExt)

/-- The text of a template in a file, and the texts of the partials that it reaches. -/
inductive PartOf (tree : FileTree) (config : BundlerConfig) (path : Path) : String → Prop where
  | body {text : String} (hRead : tree.readText path = .ok text) : PartOf tree config path text
  | reached {text name source : String} (hRead : tree.readText path = .ok text)
      (hName : Resolution.Reachable text (storeOf tree config path).fetch name)
      (hSource : ((storeOf tree config path).fetch name).outcome = .ok source) :
      PartOf tree config path source

/-- What a fresh bundler knows of a template in a file once its partials are registered. -/
structure Gathered (tree : FileTree) (config : BundlerConfig) (path : Path) (body : String)
    (included : List Partial) (engine : Engine) : Prop where
  read : tree.readText path = .ok body
  found : (resolve body (storeOf tree config path)).outcome = .ok included
  loaded : ∃ loaded, (loadHelpers tree).on (new config) = (.ok (), loaded) ∧
    loaded.engine.registerPartials included = (engine, .ok ())

theorem readTemplate_file {b : Bundling} (hSource : b.source? = some (.file path))
    (hName : b.name = "") :
    b.readTemplate tree = match tree.readText path with
      | .error e => .error (.templateRead path e)
      | .ok text => .ok { b with
          source? := none, body? := some text, file? := some path, name := path.templateName } := by
  simp only [Bundling.readTemplate, hSource, TemplateSource.read]
  cases tree.readText path with
  | error e => rfl
  | ok text =>
      simp [hName, bind, Except.bind]
      rfl

theorem findsPartials_file {b : Bundling} (hDiscovers : config.noPartials = false)
    (hFile : b.file? = some path) : findsPartials config b = true := by
  simp [findsPartials, hDiscovers, hFile]

theorem storeFor_file {b : Bundling} (hFile : b.file? = some path) :
    storeFor tree config b = storeOf tree config path := by
  rw [storeFor, hFile]
  rfl

theorem sameTemplates_of_load {loaded : Bundler Unit}
    (hLoad : (loadHelpers tree).on (new config) = (.ok (), loaded)) :
    loaded.config = config ∧ (Engine.new config.compilerOptions).SameTemplates loaded.engine :=
  on_loadHelpers_frame HelperLoader.script_onlyHelpers hLoad

theorem Gathered.registered (h : Gathered tree config path body included engine) :
    ∃ loaded, (Engine.new config.compilerOptions).SameTemplates loaded ∧
      loaded.Registered included engine := by
  obtain ⟨loaded, hLoad, hRegister⟩ := h.loaded
  exact ⟨loaded.engine, (sameTemplates_of_load hLoad).2,
    Engine.registered_of_registerPartials hRegister⟩

theorem Gathered.options (h : Gathered tree config path body included engine) :
    engine.options = config.compilerOptions := by
  obtain ⟨loaded, hSame, hRegistered⟩ := h.registered
  exact hRegistered.options.trans hSame.options

theorem Gathered.parse (h : Gathered tree config path body included engine) :
    engine.parse = (Engine.new config.compilerOptions).parse :=
  Engine.parse_congr h.options

theorem Gathered.partials (h : Gathered tree config path body included engine) :
    engine.partials = included := by
  obtain ⟨loaded, hSame, hRegistered⟩ := h.registered
  rw [hRegistered.partials, hSame.partials]
  rfl

theorem Gathered.parses (h : Gathered tree config path body included engine) :
    ∀ p ∈ included, (engine.parse p.source).isOk := by
  obtain ⟨loaded, hSame, hRegistered⟩ := h.registered
  rw [Engine.parse_congr hRegistered.options]
  exact hRegistered.parses

theorem Gathered.lookup (h : Gathered tree config path body included engine) (name : String) :
    engine.templates.lookup name =
      (Engine.new config.compilerOptions).templateWith? included name := by
  obtain ⟨loaded, hSame, hRegistered⟩ := h.registered
  rw [hRegistered.lookup name, Engine.templateWith?_congr hSame.options hSame.templates]

theorem Gathered.partOf_iff (h : Gathered tree config path body included engine)
    {source : String} : PartOf tree config path source ↔
      source = body ∨ ∃ p ∈ included, p.source = source := by
  have hFound := ((Resolution.endsAt_resolve body _).of_ok h.found).2.1
  constructor
  · rintro (hRead | ⟨hRead, hName, hSource⟩)
    · rw [h.read] at hRead
      exact .inl (Except.ok.inj hRead).symm
    · rw [h.read] at hRead
      cases hRead
      exact .inr ⟨⟨_, source⟩, (hFound _).mpr ⟨hName, hSource⟩, rfl⟩
  · rintro (rfl | ⟨p, hMem, rfl⟩)
    · exact .body h.read
    · obtain ⟨hName, hSource⟩ := (hFound p).mp hMem
      exact .reached h.read hName hSource

/-- Every template that the engine knows is the template of a text that the file is made of. -/
theorem Gathered.partOf (h : Gathered tree config path body included engine) {name : String}
    {template : Template} (hKnown : engine.templates.lookup name = some template) :
    ∃ source, PartOf tree config path source ∧ engine.parse source = .ok template := by
  rw [h.lookup name] at hKnown
  obtain ⟨p, hMem, hParse⟩ := Engine.exists_of_templateWith? hKnown rfl
  exact ⟨p.source, h.partOf_iff.mpr (.inr ⟨p, hMem, rfl⟩), h.parse ▸ hParse⟩

theorem precompileBody_eq {b : Bundling} (hDiscovers : config.noPartials = false)
    (hBody : b.body? = some body) (hParses : ∀ p ∈ engine.partials, (engine.parse p.source).isOk)
    (hParse : (engine.parse body).isOk) :
    precompileBody config engine b = .ok { b with
      partials := (engine.partials.map artifactEntry).map written
      result? := some (Artifact.ofSource body).compress } := by
  rw [map_written]
  exact precompileBody_eq_ok.mpr
    ⟨fun _ => hParses, body, _, hBody, precompile_eq hParse, by simp [hDiscovers]⟩

theorem isOk_of_precompileBody {b c : Bundling} (hBody : b.body? = some body)
    (h : precompileBody config engine b = .ok c) : (engine.parse body).isOk := by
  obtain ⟨-, _, _, hSame, hArtifact, -⟩ := precompileBody_eq_ok.mp h
  obtain rfl := Option.some.inj (hBody.symm.trans hSame)
  exact (Engine.precompile_eq_ok.mp hArtifact).1

/-- A template as it is read from its file. -/
def fromFile (path : Path) (body : String) (b : Bundling) : Bundling :=
  { b with source? := none, body? := some body, file? := some path, name := path.templateName }

theorem exists_of_readTemplate_file {b read : Bundling} (hSource : b.source? = some (.file path))
    (hName : b.name = "") (h : b.readTemplate tree = .ok read) :
    ∃ body, tree.readText path = .ok body ∧ read = fromFile path body b := by
  rw [readTemplate_file hSource hName] at h
  cases hText : tree.readText path with
  | error e =>
      rw [hText] at h
      cases h
  | ok body =>
      rw [hText] at h
      cases h
      exact ⟨body, rfl, rfl⟩

/-- What was gathered is what every run of a fresh bundler over the file gathers. -/
theorem Gathered.on_stages (h : Gathered tree config path body included engine)
    (hDiscovers : config.noPartials = false) {withData : Bool} {start : Bundling}
    {context : Option Context} (hSource : start.source? = some (.file path))
    (hName : start.name = "")
    (hContext : (if withData then start.context? tree else .ok none) = .ok context)
    (hQuiet : context.elim [] Context.warnings = []) :
    ∃ loaded after, after.engine = engine ∧ after.config.noPartials = false ∧
      (prepare tree withData start).on (new config) =
        (.ok ((fromFile path body start).withContext context), loaded) ∧
      (registerPartials tree ((fromFile path body start).withContext context)).on loaded =
        (.ok { (fromFile path body start).withContext context with partials := included },
          after) := by
  obtain ⟨loaded, hLoad, hEngine⟩ := h.loaded
  have hConfig := (sameTemplates_of_load hLoad).1
  have hRead : start.readTemplate tree = .ok (fromFile path body start) := by
    rw [readTemplate_file hSource hName, h.read]
    rfl
  have hPrepare := on_prepare hRead hContext (new config)
  rw [hQuiet, List.append_nil] at hPrepare
  have hStart : (loadHelpers tree).on { new config with warnings := (new config).warnings } =
      (.ok (), loaded) := hLoad
  rw [hStart] at hPrepare
  let b := (fromFile path body start).withContext context
  have hPlace : b.file? = some path ∧ b.body? = some body :=
    withContext_template (fromFile path body start) context
  have hFinds : findsPartials loaded.config b = true := by
    rw [hConfig]
    exact findsPartials_file hDiscovers hPlace.1
  have hFound : (resolve body (storeFor tree loaded.config b)).outcome = .ok included := by
    rw [storeFor_file hPlace.1, hConfig]
    exact h.found
  refine ⟨loaded, { loaded with config := settled loaded.config b, engine }, rfl, ?_, hPrepare, ?_⟩
  · rw [hConfig]
    exact hDiscovers
  · rw [on_registerPartials hFinds hPlace.2, hFound]
    simp only [hEngine]
    rfl

/-- Rendered in place, a template sees all that was gathered for it. -/
theorem Gathered.on_compile (h : Gathered tree config path body included engine)
    (hDiscovers : config.noPartials = false) (data : Json.Members) :
    ((compile tree (.file path) (some (.given (.object data)))).on (new config)).1 =
      (engine.renderText (fun p => (tree.readText p).toOption) body (.object data)).mapError
        .engine := by
  let start : Bundling :=
    { source? := some (.file path), contextSource? := some (.given (.object data)) }
  have hContext : (if true then start.context? tree else .ok none) =
      .ok (some ⟨.object data, none, []⟩) := rfl
  obtain ⟨loaded, after, rfl, -, hPrepare, hRegister⟩ :=
    h.on_stages hDiscovers rfl rfl hContext rfl
  rw [Bundler.on_compile hPrepare hRegister]
  simp only [render, Bundling.withContext, fromFile]
  cases after.engine.renderText _ body _ with
  | error e => rfl
  | ok text => rfl

theorem Gathered.on_precompile (h : Gathered tree config path body included engine)
    (hDiscovers : config.noPartials = false) (hParse : (engine.parse body).isOk) :
    ∃ after, after.engine = engine ∧
      (precompile tree (.file path) (some (.builtin .json))).on (new config) =
        (.ok (jsonText path.templateName (Artifact.ofSource body).compress
          ((included.map artifactEntry).map written)), after) := by
  let start : Bundling := { source? := some (.file path), wrapper? := some (.builtin .json) }
  have hContext : (if false then start.context? tree else .ok none) = .ok none := rfl
  have hParses := h.parses
  rw [← h.partials] at hParses
  obtain ⟨loaded, after, rfl, hSearches, hPrepare, hRegister⟩ :=
    h.on_stages hDiscovers rfl rfl hContext rfl
  have hWrap (b : Bundling) : (Except.ok b >>= wrap tree) = wrap tree b := rfl
  refine ⟨after, rfl, ?_⟩
  rw [Bundler.on_precompile hPrepare hRegister, precompileBody_eq hSearches rfl hParses hParse,
    h.partials, hWrap, wrap_jsonText rfl rfl]
  have hName : ((fromFile path body start).withContext none).name = path.templateName := rfl
  simp only [Except.map, Bundling.result, Option.getD_some, hName]

/-- The bundle of a template holds the artifacts of all that was gathered for it. -/
theorem gathered_of_precompile {text : String} {after : Bundler Unit}
    (hDiscovers : config.noPartials = false)
    (h : (precompile tree (.file path) (some (.builtin .json))).on (new config) =
      (.ok text, after)) :
    ∃ body included, Gathered tree config path body included after.engine ∧
      (after.engine.parse body).isOk ∧
      text = jsonText path.templateName (Artifact.ofSource body).compress
        ((included.map artifactEntry).map written) := by
  obtain ⟨b, c, prepared, hPrepare, hRegister, hWrap⟩ := precompile_eq_ok h
  obtain ⟨read, context, hRead, hContext, rfl, hLoad⟩ := prepare_eq_ok hPrepare
  obtain rfl : none = context := Except.ok.inj hContext
  obtain ⟨body, hText, rfl⟩ := exists_of_readTemplate_file rfl rfl hRead
  have hStart : (loadHelpers tree).on (new config) = (.ok (), prepared) := hLoad
  have hConfig := (sameTemplates_of_load hStart).1
  have hFinds (b : Bundling) (hFile : b.file? = some path) :
      findsPartials prepared.config b = true := by
    rw [hConfig]
    exact findsPartials_file hDiscovers hFile
  obtain ⟨included, hFound, hEngine, rfl, -⟩ :=
    registerPartials_eq_ok (hFinds _ rfl) rfl hRegister
  rw [hConfig] at hFound
  have hGathered : Gathered tree config path body included after.engine :=
    ⟨hText, hFound, prepared, hStart, hEngine⟩
  obtain ⟨last, hLast, -⟩ := Outcome.map_eq_ok.mp hWrap
  obtain ⟨_, hPrecompiled, -⟩ := Outcome.bind_eq_ok.mp hLast
  have hParse := isOk_of_precompileBody rfl hPrecompiled
  obtain ⟨_, -, hRun⟩ := hGathered.on_precompile hDiscovers hParse
  rw [hRun] at h
  cases h
  exact ⟨body, included, hGathered, hParse, rfl⟩

end TemplateBundle.Bundler
