import Mathlib
import TemplateBundle.Proofs.Bundler.Gathering
import TemplateBundle.Proofs.Bundler.History
import TemplateBundle.Proofs.Resolution.Sources

/-! Setups that come to the same, though they may spell the paths of files in different ways. Main
statement: new bundlers of such setups make the same of a template, or both fail. -/
namespace TemplateBundle

open Outcome (Together)

namespace Engine

variable {fileText : Path → Option String} {engine other : Engine}

/-- The engines know the same. The scripts of one may stand in other files than those of the other,
but the texts of these files are the same. -/
structure SameScripts (fileText : Path → Option String) (engine other : Engine) : Prop where
  rest : other = { engine with scripts := other.scripts }
  scripts : ∀ name,
    (other.scripts.lookup name).map fileText = (engine.scripts.lookup name).map fileText

theorem SameScripts.options (h : SameScripts fileText engine other) :
    other.options = engine.options := by
  rw [h.rest]

theorem SameScripts.library (h : SameScripts fileText engine other) :
    other.library fileText = engine.library fileText := by
  have hHelper : other.helper? fileText = engine.helper? fileText := by
    funext name
    have hScripts := h.scripts name
    rw [helper?, helper?, h.rest]
    dsimp only
    cases engine.options.devMode with
    | false => rfl
    | true =>
        rw [if_pos rfl, if_pos rfl]
        cases hFirst : engine.scripts.lookup name with
        | none =>
            rw [hFirst, Option.map_none, Option.map_eq_none_iff] at hScripts
            rw [hScripts]
        | some path =>
            rw [hFirst, Option.map_some, Option.map_eq_some_iff] at hScripts
            obtain ⟨path', hSecond, hText⟩ := hScripts
            rw [hSecond]
            dsimp only
            rw [hText]
  have hHas : other.hasHelper = engine.hasHelper := by
    rw [h.rest]
    rfl
  rw [Engine.library, Engine.library, hHelper, hHas, h.rest]

theorem SameScripts.renderText (h : SameScripts fileText engine other) (text : String)
    (data : Json.Value) :
    other.renderText fileText text data = engine.renderText fileText text data := by
  rw [renderText_eq, renderText_eq, parse_congr h.options]
  simp only [renderTemplate, h.library]

theorem registerPartials_withScripts (engine : Engine) (scripts : List (String × Path))
    (added : List Partial) :
    ({ engine with scripts } : Engine).registerPartials added =
      ({ (engine.registerPartials added).1 with scripts }, (engine.registerPartials added).2) := by
  induction added generalizing engine with
  | nil => rfl
  | cons p rest ih =>
      have hFirst : ({ engine with scripts } : Engine).registerPartial p =
          (engine.registerPartial p).map fun after => { after with scripts } := by
        have hParse : ({ engine with scripts } : Engine).parse p.source = engine.parse p.source := rfl
        rw [registerPartial, registerPartial, registerTemplate, registerTemplate, hParse]
        cases engine.parse p.source with
        | error e => rfl
        | ok template => rfl
      rw [Engine.registerPartials, Engine.registerPartials, hFirst]
      cases engine.registerPartial p with
      | error e => rfl
      | ok after => exact ih after

theorem SameScripts.registerPartials (h : SameScripts fileText engine other)
    (added : List Partial) :
    (other.registerPartials added).2 = (engine.registerPartials added).2 ∧
      SameScripts fileText (engine.registerPartials added).1 (other.registerPartials added).1 := by
  have hKeeps (engine : Engine) : (engine.registerPartials added).1.scripts = engine.scripts :=
    (registered_registerPartials engine added).scripts
  have hOther := registerPartials_withScripts engine other.scripts added
  rw [← h.rest] at hOther
  refine ⟨by rw [hOther], ?_, fun name => ?_⟩
  · rw [hKeeps other, hOther]
  · rw [hKeeps, hKeeps, h.scripts]

theorem SameScripts.registerScript (h : SameScripts fileText engine other) (name : String)
    {p q : Path} (hText : fileText q = fileText p) :
    (other.registerScript fileText name q).2 = (engine.registerScript fileText name p).2 ∧
      SameScripts fileText (engine.registerScript fileText name p).1
        (other.registerScript fileText name q).1 := by
  have hScripts (n : String) :
      (((name, q) :: other.scripts).lookup n).map fileText =
        (((name, p) :: engine.scripts).lookup n).map fileText := by
    rw [lookup_cons_eq_ite, lookup_cons_eq_ite]
    split
    · rw [Option.map_some, Option.map_some, hText]
    · exact h.scripts n
  rw [Engine.registerScript, Engine.registerScript, hText]
  cases fileText p with
  | none => exact ⟨rfl, h⟩
  | some text =>
      dsimp only
      cases Script.parse? text with
      | none =>
          refine ⟨rfl, ?_, hScripts⟩
          rw [h.rest]
      | some script =>
          refine ⟨rfl, ?_, hScripts⟩
          rw [h.rest]
          rfl

end Engine

/-- The files have the same text, and a helper or a template in one is named as in the other. -/
structure SameFile (tree : FileTree) (p q : Path) : Prop where
  text : tree.readText q = tree.readText p
  name : q.templateName = p.templateName

theorem HelperLoader.together_loadAll {tree : FileTree} {files others : List Path}
    {engine other : Engine} (hFiles : List.Forall₂ (SameFile tree) files others)
    (h : engine.SameScripts (fun p => (tree.readText p).toOption) other) (memory memory' : Unit) :
    let first := script.loadAll tree files (memory, engine)
    let second := script.loadAll tree others (memory', other)
    Together (fun _ _ => True) first.2 second.2 ∧
      first.1.2.SameScripts (fun p => (tree.readText p).toOption) second.1.2 := by
  induction hFiles generalizing engine other with
  | nil => exact ⟨.ok trivial, h⟩
  | @cons p q rest others hFile _ ih =>
      have hText : (tree.readText q).toOption = (tree.readText p).toOption := by rw [hFile.text]
      obtain ⟨hSame, hNext⟩ := h.registerScript p.templateName hText
      rw [HelperLoader.loadAll, HelperLoader.loadAll]
      dsimp only [script]
      rw [hFile.name]
      rcases hFirst : engine.registerScript _ p.templateName p with ⟨after, outcome⟩
      rcases hSecond : other.registerScript _ p.templateName q with ⟨after', outcome'⟩
      rw [hFirst, hSecond] at hSame hNext
      obtain rfl : outcome' = outcome := hSame
      cases outcome' with
      | error e => exact ⟨.error _ _, hNext⟩
      | ok _ => exact ih hNext

namespace Bundler

section Abreast

variable {σ τ α β γ δ : Type}

/-- Both works fail, or both succeed with results and bundlers that are related. -/
def Abreast (R : α → β → Bundler σ → Bundler τ → Prop)
    (first : Except BundleError α × Bundler σ) (second : Except BundleError β × Bundler τ) : Prop :=
  Together (fun a b => R a b first.2 second.2) first.1 second.1

theorem Abreast.bind {R : α → β → Bundler σ → Bundler τ → Prop}
    {S : γ → δ → Bundler σ → Bundler τ → Prop} {work : Work σ α} {work' : Work τ β}
    {next : α → Work σ γ} {next' : β → Work τ δ} {bundler : Bundler σ} {beside : Bundler τ}
    (h : Abreast R (work.on bundler) (work'.on beside))
    (hNext : ∀ a b after after', R a b after after' →
      Abreast S ((next a).on after) ((next' b).on after')) :
    Abreast S ((work >>= next).on bundler) ((work' >>= next').on beside) := by
  rw [Work.on_bind, Work.on_bind]
  rcases hFirst : work.on bundler with ⟨outcome, after⟩
  rcases hSecond : work'.on beside with ⟨outcome', after'⟩
  rw [hFirst, hSecond] at h
  cases h with
  | ok h => exact hNext _ _ after after' h
  | error e e' => exact .error e e'

end Abreast

variable {tree : FileTree} {config other : BundlerConfig} {p q : Path}

/-- A new bundler of the one setup has the same to work with for the one file as a new bundler of the
other setup for the other file. -/
structure SameSetup (tree : FileTree) (config : BundlerConfig) (p : Path) (other : BundlerConfig)
    (q : Path) : Prop where
  template : SameFile tree p q
  options : other.compilerOptions = config.compilerOptions
  discovers : other.noPartials = config.noPartials
  helpers : Option.Rel (fun dir dir' =>
    Together (List.Forall₂ (SameFile tree)) (helperFiles tree dir) (helperFiles tree dir'))
    config.helpersDir? other.helpersDir?
  partials : ∀ body, tree.readText p = .ok body →
    Resolution.SameSources body (storeOf tree config p).fetch (storeOf tree other q).fetch

theorem SameSetup.refl (tree : FileTree) (config : BundlerConfig) (p : Path) :
    SameSetup tree config p config p where
  template := ⟨rfl, rfl⟩
  options := rfl
  discovers := rfl
  helpers := by
    cases config.helpersDir? with
    | none => exact .none
    | some dir =>
        exact .some (Together.refl (fun _ => List.forall₂_same.mpr fun _ _ => ⟨rfl, rfl⟩) _)
  partials _ _ _ _ _ := rfl

/-- The wrappers are the same, or files that new bundlers have the same to work with for. -/
inductive SameWrapper (tree : FileTree) : Wrapper → Wrapper → Prop where
  | builtin (wrapper : BuiltinWrapper) : SameWrapper tree (.builtin wrapper) (.builtin wrapper)
  | file {p q : Path} (h : SameSetup tree { compilerOptions := .unescaped } p
      { compilerOptions := .unescaped } q) : SameWrapper tree (.file p) (.file q)

/-- The bundlers have their setups and know the same. -/
structure Aligned (tree : FileTree) (config other : BundlerConfig) (bundler beside : Bundler Unit) :
    Prop where
  config : bundler.config = config
  other : beside.config = other
  engine : bundler.engine.SameScripts (fun p => (tree.readText p).toOption) beside.engine

/-- The templates, each read from its file, have the same text and the same data. -/
structure SameTemplate (tree : FileTree) (p q : Path) (b c : Bundling) : Prop where
  file : b.file? = some p
  other : c.file? = some q
  read : ∃ body, tree.readText p = .ok body ∧ b.body? = some body
  body : c.body? = b.body?
  name : c.name = b.name
  context : c.context = b.context
  partials : c.partials = b.partials
  result : c.result? = b.result?
  wrapper : Option.Rel (SameWrapper tree) b.wrapper? c.wrapper?

/-- Bundlers that have not loaded their helpers load the same. -/
theorem SameSetup.loadHelpers (h : SameSetup tree config p other q) {bundler beside : Bundler Unit}
    (hAligned : Aligned tree config other bundler beside)
    (hLoader : bundler.loader = .script ∧ beside.loader = .script)
    (hLoaded : bundler.helpersLoaded = false ∧ beside.helpersLoaded = false) :
    Abreast (fun _ _ => Aligned tree config other) ((loadHelpers tree).on bundler)
      ((loadHelpers tree).on beside) := by
  obtain ⟨rfl, rfl, hEngine⟩ := hAligned
  have hHelpers := h.helpers
  cases hFirst : bundler.config.helpersDir? with
  | none =>
      rw [hFirst] at hHelpers
      cases hSecond : beside.config.helpersDir? with
      | none =>
          rw [on_loadHelpers_none hFirst, on_loadHelpers_none hSecond]
          exact .ok ⟨rfl, rfl, hEngine⟩
      | some dir' =>
          rw [hSecond] at hHelpers
          cases hHelpers
  | some dir =>
      rw [hFirst] at hHelpers
      cases hSecond : beside.config.helpersDir? with
      | none =>
          rw [hSecond] at hHelpers
          cases hHelpers
      | some dir' =>
          rw [hSecond] at hHelpers
          obtain ⟨hFiles⟩ := hHelpers
          rw [on_loadHelpers_some hLoaded.1 hFirst, on_loadHelpers_some hLoaded.2 hSecond,
            hLoader.1, hLoader.2]
          generalize helperFiles tree dir = found, helperFiles tree dir' = found' at hFiles ⊢
          cases hFiles with
          | error e e' => exact .error e e'
          | @ok files files' hFiles =>
              obtain ⟨hOutcome, hSame⟩ :=
                HelperLoader.together_loadAll hFiles hEngine bundler.memory beside.memory
              dsimp only at hOutcome hSame ⊢
              generalize HelperLoader.script.loadAll tree files _ = run at hOutcome hSame ⊢
              generalize HelperLoader.script.loadAll tree files' _ = run' at hOutcome hSame ⊢
              obtain ⟨⟨memory, engine⟩, outcome⟩ := run
              obtain ⟨⟨memory', engine'⟩, outcome'⟩ := run'
              cases hOutcome with
              | ok _ => exact .ok ⟨rfl, rfl, hSame⟩
              | error e e' => exact .error e e'

/-- The same data was read, or none. -/
def SameData (context context' : Option Context) : Prop :=
  context'.map Context.data = context.map Context.data

theorem SameData.refl (context : Option Context) : SameData context context := rfl

/-- What becomes of the data of a template that had none. -/
theorem exists_withContext {b : Bundling} (h : b.context = .empty) (context : Option Context) :
    ∃ source? file?, b.withContext context = { b with
      contextSource? := source?
      contextFile? := file?
      context := (context.map Context.data).getD .empty } := by
  cases context with
  | some context => exact ⟨none, context.file?, rfl⟩
  | none =>
      refine ⟨b.contextSource?, b.contextFile?, ?_⟩
      rw [Bundling.withContext, Bundling.withObject, h]
      cases b
      cases h
      rfl

theorem exists_on_prepare_error {withData : Bool} {b : Bundling}
    (h : (∃ e, b.readTemplate tree = .error e) ∨
      ∃ e, (if withData then b.context? tree else .ok none) = .error e) (bundler : Bundler Unit) :
    ∃ e, (prepare tree withData b).on bundler = (.error e, bundler) := by
  rcases on_prepare_refused Unit tree withData b with ⟨e, hRefused⟩ | ⟨read, context, hRead⟩
  · exact ⟨e, hRefused bundler⟩
  · rcases h with ⟨e, hTemplate⟩ | ⟨e, hContext⟩
    · cases hTemplate.symm.trans hRead.1
    · cases hContext.symm.trans hRead.2

theorem SameSetup.aligned_new (h : SameSetup tree config p other q)
    (warnings warnings' : List Warning) :
    Aligned tree config other { new config with warnings }
      { new other with warnings := warnings' } where
  config := rfl
  other := rfl
  engine := by
    change (Engine.new config.compilerOptions).SameScripts _ (Engine.new other.compilerOptions)
    rw [h.options]
    exact ⟨rfl, fun _ => rfl⟩

/-- Templates that are read alike and get the same data. -/
theorem SameSetup.sameTemplate (h : SameSetup tree config p other q)
    {source source' : TemplateSource} {context? context?' : Option ContextSource}
    {wrapper? wrapper?' : Option Wrapper} {body : String} {context context' : Option Context}
    (hWrapper : Option.Rel (SameWrapper tree) wrapper? wrapper?')
    (hText : tree.readText p = .ok body) (hSame : SameData context context') :
    SameTemplate tree p q
      ((fromFile p body { source? := some source, contextSource? := context?, wrapper? }).withContext
        context)
      ((fromFile q body
        { source? := some source', contextSource? := context?', wrapper? := wrapper?' }).withContext
        context') := by
  obtain ⟨_, _, hFirst⟩ := exists_withContext
    (b := fromFile p body { source? := some source, contextSource? := context?, wrapper? })
    rfl context
  obtain ⟨_, _, hSecond⟩ := exists_withContext
    (b := fromFile q body
      { source? := some source', contextSource? := context?', wrapper? := wrapper?' })
    rfl context'
  rw [hFirst, hSecond, hSame]
  exact ⟨rfl, rfl, ⟨body, hText, rfl⟩, rfl, h.template.name, rfl, rfl, rfl, hWrapper⟩

/-- The template, its data and the helpers are read alike. -/
theorem SameSetup.prepare (h : SameSetup tree config p other q) {withData : Bool}
    {context? context?' : Option ContextSource} {wrapper? wrapper?' : Option Wrapper}
    (hContext : withData = true → Together SameData
      (Bundling.context? tree { contextSource? := context? })
      (Bundling.context? tree { contextSource? := context?' }))
    (hWrapper : Option.Rel (SameWrapper tree) wrapper? wrapper?') :
    Abreast (fun b c after after' => SameTemplate tree p q b c ∧
        Aligned tree config other after after')
      ((prepare tree withData
        { source? := some (.file p), contextSource? := context?, wrapper? }).on (new config))
      ((prepare tree withData
        { source? := some (.file q), contextSource? := context?', wrapper? := wrapper?' }).on
        (new other)) := by
  let b : Bundling := { source? := some (.file p), contextSource? := context?, wrapper? }
  let c : Bundling :=
    { source? := some (.file q), contextSource? := context?', wrapper? := wrapper?' }
  have hRead : b.readTemplate tree = _ := readTemplate_file rfl rfl
  have hRead' : c.readTemplate tree = _ := readTemplate_file rfl rfl
  rw [h.template.text] at hRead'
  have hContexts : Together SameData
      (if withData then b.context? tree else .ok none)
      (if withData then c.context? tree else .ok none) := by
    cases withData with
    | false => exact .ok rfl
    | true => exact hContext rfl
  cases hText : tree.readText p with
  | error e =>
      rw [hText] at hRead hRead'
      obtain ⟨_, hFirst⟩ := exists_on_prepare_error (.inl ⟨_, hRead⟩) (new config)
      obtain ⟨_, hSecond⟩ := exists_on_prepare_error (.inl ⟨_, hRead'⟩) (new other)
      rw [hFirst, hSecond]
      exact .error _ _
  | ok body =>
      rw [hText] at hRead hRead'
      generalize hData : (if withData then b.context? tree else .ok none) = data at hContexts
      generalize hData' : (if withData then c.context? tree else .ok none) = data' at hContexts
      cases hContexts with
      | error e e' =>
          obtain ⟨_, hFirst⟩ := exists_on_prepare_error (.inr ⟨_, hData⟩) (new config)
          obtain ⟨_, hSecond⟩ := exists_on_prepare_error (.inr ⟨_, hData'⟩) (new other)
          rw [hFirst, hSecond]
          exact .error _ _
      | @ok context context' hSame =>
          have hLoad := h.loadHelpers
            (h.aligned_new ((new config).warnings ++ context.elim [] Context.warnings)
              ((new other).warnings ++ context'.elim [] Context.warnings)) ⟨rfl, rfl⟩ ⟨rfl, rfl⟩
          rw [on_prepare hRead hData, on_prepare hRead' hData']
          generalize (Bundler.loadHelpers tree).on _ = run at hLoad ⊢
          generalize (Bundler.loadHelpers tree).on _ = run' at hLoad ⊢
          obtain ⟨outcome, after⟩ := run
          obtain ⟨outcome', after'⟩ := run'
          cases hLoad with
          | error e e' => exact .error e e'
          | ok hAligned => exact .ok ⟨h.sameTemplate hWrapper hText hSame, hAligned⟩

theorem SameSetup.registerPartials (h : SameSetup tree config p other q)
    {bundler beside : Bundler Unit} (hAligned : Aligned tree config other bundler beside)
    {b c : Bundling} (hSame : SameTemplate tree p q b c) :
    Abreast (fun b c after after' => SameTemplate tree p q b c ∧
        after'.config.noPartials = after.config.noPartials ∧
        after.engine.SameScripts (fun p => (tree.readText p).toOption) after'.engine)
      ((registerPartials tree b).on bundler) ((registerPartials tree c).on beside) := by
  obtain ⟨rfl, rfl, hEngine⟩ := hAligned
  obtain ⟨body, hText, hBody⟩ := hSame.read
  have hFinds : findsPartials beside.config c = findsPartials bundler.config b := by
    rw [findsPartials, findsPartials, hSame.file, hSame.other, h.discovers]
    rfl
  cases hFirst : findsPartials bundler.config b with
  | false =>
      rw [on_registerPartials_skip hFirst, on_registerPartials_skip (hFinds.trans hFirst)]
      exact .ok ⟨hSame, h.discovers, hEngine⟩
  | true =>
      have hFound := together_resolve (h.partials body hText)
      rw [on_registerPartials hFirst hBody,
        on_registerPartials (hFinds.trans hFirst) (hSame.body.trans hBody),
        storeFor_file hSame.file, storeFor_file hSame.other]
      generalize (resolve body (storeOf tree bundler.config p)).outcome = found at hFound ⊢
      generalize (resolve body (storeOf tree beside.config q)).outcome = found' at hFound ⊢
      cases hFound with
      | error e e' => exact .error e e'
      | @ok partials _ hPartials =>
          subst hPartials
          obtain ⟨hOutcome, hNext⟩ := hEngine.registerPartials partials
          dsimp only
          rw [hOutcome]
          cases (bundler.engine.registerPartials partials).2 with
          | error e => exact .error _ _
          | ok _ =>
              refine .ok ⟨?_, h.discovers, hNext⟩
              exact { hSame with partials := rfl }

/-- The templates have come to the same text. -/
def SameResult (b c : Bundling) : Prop := b.result = c.result

section Finish

variable {engine beside : Engine} {b c : Bundling}
  (hEngine : engine.SameScripts (fun p => (tree.readText p).toOption) beside)
  (hSame : SameTemplate tree p q b c)

include hEngine hSame in
theorem together_render : Together SameResult (render tree engine b) (render tree beside c) := by
  obtain ⟨body, -, hBody⟩ := hSame.read
  rw [render, render, hBody, hSame.body.trans hBody, hSame.context]
  dsimp only
  rw [hEngine.renderText]
  cases engine.renderText _ body b.context with
  | error e => exact .error _ _
  | ok text => exact .ok rfl

include hEngine hSame in
theorem together_precompileBody (hDiscovers : other.noPartials = config.noPartials) :
    Together (SameTemplate tree p q) (precompileBody config engine b)
      (precompileBody other beside c) := by
  have hArtifacts : (artifacts beside beside.partials) = artifacts engine engine.partials := by
    rw [artifacts, artifacts, Engine.precompile_congr beside engine, hEngine.rest]
  rw [precompileBody_eq_bind, precompileBody_eq_bind, hDiscovers, hArtifacts]
  cases (if config.noPartials then Except.ok []
    else (artifacts engine engine.partials).mapError BundleError.engine) with
  | error e => exact .error e e
  | ok arts =>
      obtain ⟨body, hText, hBody⟩ := hSame.read
      have hPrecompile := congrFun (Engine.precompile_congr beside engine) body
      change Together _ (precompileWith engine b arts) (precompileWith beside c arts)
      rw [precompileWith, precompileWith, hBody, hSame.body.trans hBody]
      dsimp only
      rw [hPrecompile]
      cases engine.precompile body with
      | error e => exact .error _ _
      | ok artifact =>
          exact .ok { hSame with
            read := ⟨body, hText, rfl⟩
            body := rfl
            partials := rfl
            result := rfl }

end Finish

/-- New bundlers of setups that come to the same render the same text, or both fail. -/
theorem SameSetup.compile (h : SameSetup tree config p other q)
    {context? context?' : Option ContextSource}
    (hContext : Together SameData
      (Bundling.context? tree { contextSource? := context? })
      (Bundling.context? tree { contextSource? := context?' })) :
    Abreast (fun text text' _ _ => text = text')
      ((compile tree (.file p) context?).on (new config))
      ((compile tree (.file q) context?').on (new other)) := by
  have hRun : Abreast (fun b c _ _ => SameResult b c)
      ((runCompile tree { source? := some (.file p), contextSource? := context? }).on (new config))
      ((runCompile tree { source? := some (.file q), contextSource? := context?' }).on
        (new other)) :=
    (h.prepare (fun _ => hContext) .none).bind fun _ _ _ _ hRead =>
      (h.registerPartials hRead.2 hRead.1).bind fun _ _ _ _ hDone => by
        rw [on_compileTemplate, on_compileTemplate]
        exact together_render hDone.2.2 hDone.1
  exact hRun.bind fun _ _ _ _ hResult => .ok hResult

theorem SameTemplate.wrap {b c : Bundling} (h : SameTemplate tree p q b c) :
    Together SameResult (wrap tree b) (wrap tree c) := by
  have hData (artifact : String) : wrapperData c artifact = wrapperData b artifact := by
    rw [wrapperData, wrapperData, h.partials, h.name]
  have hWrapper := h.wrapper
  rw [Bundler.wrap, Bundler.wrap, h.result]
  generalize b.wrapper? = wrapper?, c.wrapper? = wrapper?' at hWrapper ⊢
  cases hWrapper with
  | none => exact .ok (congrArg (Option.getD · "") h.result.symm)
  | @some wrapper wrapper' hWrapper =>
      cases b.result? with
      | none => exact .error _ _
      | some artifact =>
          dsimp only
          rw [hData]
          have hText : Abreast (fun text text' _ _ => text = text')
              ((Bundler.compile tree wrapper.template
                (some (.given (wrapperData b artifact)))).on (new { compilerOptions := .unescaped }))
              ((Bundler.compile tree wrapper'.template
                (some (.given (wrapperData b artifact)))).on
                  (new { compilerOptions := .unescaped })) := by
            cases hWrapper with
            | builtin wrapper => exact Together.refl (fun _ => rfl) _
            | file hSetup => exact hSetup.compile (Together.refl SameData.refl _)
          unfold Work.on at hText
          generalize (Bundler.compile tree wrapper.template _).run.run _ = run at hText ⊢
          generalize (Bundler.compile tree wrapper'.template _).run.run _ = run' at hText ⊢
          obtain ⟨outcome, after⟩ := run
          obtain ⟨outcome', after'⟩ := run'
          cases hText with
          | error e e' => exact .error e e'
          | ok hSame => exact .ok hSame

/-- New bundlers of setups that come to the same precompile a template to the same, or both fail. -/
theorem SameSetup.precompile (h : SameSetup tree config p other q)
    {wrapper? wrapper?' : Option Wrapper}
    (hWrapper : Option.Rel (SameWrapper tree) wrapper? wrapper?') :
    Abreast (fun text text' _ _ => text = text')
      ((precompile tree (.file p) wrapper?).on (new config))
      ((precompile tree (.file q) wrapper?').on (new other)) := by
  have hRun : Abreast (fun b c _ _ => SameResult b c)
      ((runPrecompile tree { source? := some (.file p), wrapper? }).on (new config))
      ((runPrecompile tree { source? := some (.file q), wrapper? := wrapper?' }).on
        (new other)) :=
    (h.prepare (fun hNot => absurd hNot (by decide)) hWrapper).bind fun _ _ _ _ hRead =>
      (h.registerPartials hRead.2 hRead.1).bind fun _ _ _ _ hDone => by
        refine Abreast.bind (R := fun b c _ _ => SameTemplate tree p q b c) ?_ ?_
        · rw [on_precompileTemplate, on_precompileTemplate]
          exact together_precompileBody hDone.2.2 hDone.1 hDone.2.1
        · intro b c after after' hSame
          rw [Work.on_lift, Work.on_lift]
          exact hSame.wrap
  exact hRun.bind fun _ _ _ _ hResult => .ok hResult

end Bundler
end TemplateBundle
