import TemplateBundle.Proofs.Bundler.Loading
import TemplateBundle.Proofs.Bundler.Stages
import TemplateBundle.Proofs.Resolution.Sources

/-! The files that a template is made from on its way through a bundler. In trees that hold the same
in these, the template fares the same. -/
namespace TemplateBundle

open Json (Value)

namespace Bundler

variable {σ : Type} {tree other : FileTree} {bundler : Bundler σ} {b : Bundling}

/-- The file in which a partial of a template is looked up. -/
def partialFile (config : BundlerConfig) (b : Bundling) (name : String) : Path :=
  partialPath (config.partialsDir?.getD (b.file?.getD ⟨""⟩).templateDir) name
    (config.partialsExt?.getD (b.file?.getD ⟨""⟩).templateExt)

/-- The files that a template is made from: its own, and those of the partials that it includes if
they are looked up. -/
inductive FileOf (tree : FileTree) (config : BundlerConfig) (b : Bundling) : Path → Prop where
  | template {path : Path} (h : b.source? = some (.file path)) : FileOf tree config b path
  | inclusion {body name : String} (hText : b.text tree = .ok body)
      (hFinds : findsPartials config (b.withText body) = true)
      (hName : Resolution.Reachable body (storeFor tree config (b.withText body)).fetch name) :
      FileOf tree config b (partialFile config (b.withText body) name)

/-- A template that names no partial is made from its own file alone. -/
theorem FileOf.source?_eq {config : BundlerConfig} {text : String} {path : Path}
    (h : FileOf tree config b path) (hText : b.text tree = .ok text)
    (hNone : Discovery.references text = []) : b.source? = some (.file path) := by
  cases h with
  | template hSource => exact hSource
  | @inclusion body name hBody hFinds hName =>
      obtain rfl : text = body := Except.ok.inj (hText.symm.trans hBody)
      exact absurd hName (Resolution.not_reachable hNone)

/-- The other tree holds the same in the files that the template is made from. -/
def SameFiles (config : BundlerConfig) (b : Bundling) (tree other : FileTree) : Prop :=
  ∀ path, FileOf tree config b path → other.readText path = tree.readText path

theorem SameFiles.text {config : BundlerConfig} (h : SameFiles config b tree other) :
    b.text other = b.text tree := by
  unfold Bundling.text
  split
  · rfl
  · next source hSource =>
    cases source with
    | file path => rw [TemplateSource.read, TemplateSource.read, h path (.template hSource)]
    | stream pieces fault? =>
        cases fault? with
        | none => rfl
        | some fault => rfl

theorem SameFiles.resolve {config : BundlerConfig} (h : SameFiles config b tree other)
    {body : String} (hText : b.text tree = .ok body)
    (hFinds : findsPartials config (b.withText body) = true) :
    resolve body (storeFor other config (b.withText body)) =
      resolve body (storeFor tree config (b.withText body)) := by
  apply resolve_congr
  intro name hName
  have hRead := h _ (.inclusion hText hFinds hName)
  rw [partialFile] at hRead
  simp only [storeFor, partialStore, hRead]

/-- A template whose text is the same in both trees is prepared in the same way, if its data and the
helpers are the same as well. -/
theorem on_prepare_congr {withData : Bool} (hText : b.text other = b.text tree)
    (hContext : withData = true → b.context? other = b.context? tree)
    (hLoads : bundler.helpersLoaded = false →
      SameLoads bundler.loader bundler.config tree other) :
    (prepare other withData b).on bundler = (prepare tree withData b).on bundler := by
  have hTemplate : b.readTemplate other = b.readTemplate tree := by
    rw [Bundling.readTemplate_eq, Bundling.readTemplate_eq, hText]
  have hData : (if withData then b.context? other else .ok none) =
      if withData then b.context? tree else .ok none := by
    cases withData with
    | true => exact hContext rfl
    | false => rfl
  unfold prepare
  rw [hTemplate, hData]
  cases b.readTemplate tree with
  | error e =>
      cases if withData then b.context? tree else .ok none with
      | error f => rfl
      | ok context => rfl
  | ok read =>
      cases if withData then b.context? tree else .ok none with
      | error f => rfl
      | ok context =>
          let warned : Bundler σ :=
            { bundler with warnings := bundler.warnings ++ context.elim [] Context.warnings }
          have hLoad : (loadHelpers other).on warned = (loadHelpers tree).on warned :=
            on_loadHelpers_congr hLoads
          simp only [Work.on_bind, Work.on_modify, hLoad, warned]

/-- The partials of a template are looked up and registered in the same way. -/
theorem on_registerPartials_congr {body : String} {context : Option Context}
    (hText : b.text tree = .ok body) (hFiles : SameFiles bundler.config b tree other) :
    (registerPartials other ((b.withText body).withContext context)).on bundler =
      (registerPartials tree ((b.withText body).withContext context)).on bundler := by
  cases hFinds : findsPartials bundler.config ((b.withText body).withContext context) with
  | false => rw [on_registerPartials_skip hFinds, on_registerPartials_skip hFinds]
  | true =>
      obtain ⟨hFile, hBody⟩ := withContext_template (b.withText body) context
      have hFindsText : findsPartials bundler.config (b.withText body) = true := by
        rw [findsPartials, hFile] at hFinds
        exact hFinds
      have hResolve := hFiles.resolve hText hFindsText
      rw [on_registerPartials hFinds hBody, on_registerPartials hFinds hBody]
      simp only [storeFor, hFile] at hResolve ⊢
      rw [hResolve]

/-- Without scripts that are read anew an engine renders the same whatever files there are. -/
theorem render_other {engine : Engine} (hMode : engine.options.devMode = false) :
    render other engine b = render tree engine b := by
  have hHelper (fileText fileText' : Path → Option String) :
      engine.helper? fileText = engine.helper? fileText' := by
    funext name
    simp only [Engine.helper?, hMode, Bool.false_eq_true, if_false]
  unfold render
  cases b.body? with
  | none => rfl
  | some body =>
      dsimp only
      rw [Engine.renderText_eq, Engine.renderText_eq]
      simp only [Engine.renderTemplate, Engine.library]
      rw [hHelper]

theorem on_gather_congr {withData : Bool} (hFiles : SameFiles bundler.config b tree other)
    (hContext : withData = true → b.context? other = b.context? tree)
    (hLoads : bundler.helpersLoaded = false →
      SameLoads bundler.loader bundler.config tree other) :
    (gather other withData b).on bundler = (gather tree withData b).on bundler := by
  rw [gather, gather, Work.on_bind, Work.on_bind, on_prepare_congr hFiles.text hContext hLoads]
  rcases hPrepare : (prepare tree withData b).on bundler with ⟨e | read, prepared⟩
  · rfl
  · obtain ⟨template, context, hRead, -, rfl, -⟩ := prepare_eq_ok hPrepare
    rw [Bundling.readTemplate_eq] at hRead
    obtain ⟨body, hText, rfl⟩ := Outcome.map_eq_ok.mp hRead
    exact on_registerPartials_congr hText ((config_prepare hPrepare).symm ▸ hFiles)

theorem options_registerPartials (tree : FileTree) (bundler : Bundler σ) (b : Bundling) :
    ((registerPartials tree b).on bundler).2.engine.options = bundler.engine.options := by
  rcases registerPartials_leaves tree bundler b with hSame | ⟨-, partials, hMore⟩
  · rw [hSame]
  · rw [hMore]
    exact (Engine.registered_registerPartials bundler.engine partials).options

/-- A template that is rendered fares the same if its data is the same as well, and if no scripts
are read anew. -/
theorem on_runCompile_congr (hFiles : SameFiles bundler.config b tree other)
    (hContext : b.context? other = b.context? tree)
    (hLoads : bundler.helpersLoaded = false →
      SameLoads bundler.loader bundler.config tree other)
    (hLoader : bundler.loader.Relates fun engine after => after.options = engine.options)
    (hMode : bundler.engine.options.devMode = false) :
    (runCompile other b).on bundler = (runCompile tree b).on bundler := by
  rw [runCompile_eq, runCompile_eq, Work.on_bind, Work.on_bind,
    on_gather_congr hFiles (fun _ => hContext) hLoads]
  rcases hGather : (gather tree true b).on bundler with ⟨e | c, after⟩
  · rfl
  · obtain ⟨read, prepared, hPrepare, hRegister⟩ := Work.on_bind_eq_ok.mp hGather
    obtain ⟨-, -, hPrepared⟩ := on_prepare_relates hLoader (fun _ => rfl)
      (fun hFirst hSecond => hSecond.trans hFirst) hPrepare
    have hRegistered := options_registerPartials tree prepared read
    rw [hRegister] at hRegistered
    have hOptions : after.engine.options.devMode = false := by
      rw [hRegistered, hPrepared, hMode]
    dsimp only
    rw [on_compileTemplate, on_compileTemplate, render_other hOptions]

theorem wrap_congr (h : ∀ wrapper, b.wrapper? = some wrapper →
      SameFiles wrapperSetup { source? := some wrapper.template } tree other) :
    wrap other b = wrap tree b := by
  cases hWrapper : b.wrapper? with
  | none => rw [wrap, wrap, hWrapper]
  | some wrapper =>
      cases hResult : b.result? with
      | none => rw [wrap, wrap, hWrapper, hResult]
      | some artifact =>
          let run : Bundling :=
            { source? := some wrapper.template
              contextSource? := some (.given (wrapperData b artifact)) }
          have hFiles : SameFiles wrapperSetup run tree other := by
            intro path hPath
            apply h wrapper hWrapper
            cases hPath with
            | template hSource => exact .template hSource
            | inclusion hText hFinds hName => exact .inclusion hText hFinds hName
          have hSame : (runCompile other run).on (new wrapperSetup) =
              (runCompile tree run).on (new wrapperSetup) :=
            on_runCompile_congr hFiles rfl (fun _ _ hDir => nomatch hDir)
              (fun tree path memory engine =>
                (HelperLoader.script_onlyHelpers tree path memory engine).options) rfl
          rw [wrap_eq other hWrapper hResult, wrap_eq tree hWrapper hResult, on_compile_eq_map,
            on_compile_eq_map, hSame]

/-- A template that is precompiled fares the same in trees that hold the same in the files that it
and its wrapper are made from, and in those of the helpers. -/
theorem on_runPrecompile_congr (hFiles : SameFiles bundler.config b tree other)
    (hLoads : bundler.helpersLoaded = false →
      SameLoads bundler.loader bundler.config tree other)
    (hWrapper : ∀ wrapper, b.wrapper? = some wrapper →
      SameFiles wrapperSetup { source? := some wrapper.template } tree other) :
    (runPrecompile other b).on bundler = (runPrecompile tree b).on bundler := by
  have hSame : (gather other false b).on bundler = (gather tree false b).on bundler :=
    on_gather_congr hFiles nofun hLoads
  rw [runPrecompile_eq, runPrecompile_eq, Work.on_bind, Work.on_bind, hSame]
  rcases hGather : (gather tree false b).on bundler with ⟨e | c, after⟩
  · rfl
  · simp only [Work.on_bind, on_precompileTemplate]
    cases hBody : precompileBody after.config after.engine c with
    | error e => rfl
    | ok made =>
        have hMade : made.wrapper? = b.wrapper? := by
          obtain ⟨body, context, partials, -, -, -, rfl⟩ := exists_of_gather hGather
          obtain ⟨-, _, _, -, -, rfl⟩ := precompileBody_eq_ok.mp hBody
          rw [withContext_eq]
          rfl
        simp only [Work.on_lift, wrap_congr (hMade ▸ hWrapper)]

end Bundler
end TemplateBundle
