import TemplateBundle.Proofs.Build.Templates
import TemplateBundle.Proofs.Bundler.Independence
import TemplateBundle.Proofs.Bundler.Reload

/-! Templates that are compiled one after another, by calls of a bundler or in a target of a build.
Main statement: where it is set where partials are looked up, a template that includes nothing but
its own comes out as if it were the only one. -/
namespace TemplateBundle

namespace BuildTarget

variable {target : BuildTarget} {options : BuildOptions} {base : Path}

/-- A template leaves its bundler to the next, whether its result could be written or not. -/
theorem bundler_of_buildTemplate {state next : Bundler Unit × BuildSummary} {source : Path}
    {session later : Session}
    (h : (target.buildTemplate options base state source).run.run session = (.ok next, later)) :
    next.1 = ((bundleTemplate options base source session.tree).on state.1).2 := by
  rw [run_buildTemplate] at h
  dsimp only at h
  split at h
  · next summary _ _ =>
    cases h
    rfl
  · cases h

theorem bundleTemplate_eq_compile (hRenders : options.isPrecompile = false) (source : Path)
    (tree : FileTree) : bundleTemplate options base source tree =
      Bundler.compile tree (.file source) ((options.dataPath? tree source base).map .file) := by
  rw [bundleTemplate, hRenders]
  rfl

/-- Bundlers that render a template alike leave the session alike. -/
theorem session_buildTemplate (hRenders : options.isPrecompile = false) {source : Path}
    {session : Session} {bundler other : Bundler Unit} (summary : BuildSummary)
    (h : ((bundleTemplate options base source session.tree).on bundler).1 =
      ((bundleTemplate options base source session.tree).on other).1) :
    ((target.buildTemplate options base (bundler, summary) source).run.run session).2 =
      ((target.buildTemplate options base (other, summary) source).run.run session).2 := by
  obtain ⟨warnings, hWarnings⟩ := Bundler.exists_warnings_compile Unit session.tree
    (.file source) ((options.dataPath? session.tree source base).map .file)
  rw [← bundleTemplate_eq_compile hRenders] at hWarnings
  rw [run_buildTemplate, run_buildTemplate]
  dsimp only
  rw [hWarnings bundler, hWarnings other, h, List.drop_left, List.drop_left]
  split
  · rfl
  · rfl

end BuildTarget

namespace Bundler

open BuildTarget (buildTemplate bundleTemplate)

variable {config : BundlerConfig} {layer : Layer} {outcome : Except BundleError Unit}
  {tree : FileTree}

/-- What is kept after any calls is kept while the templates of a target are built. -/
theorem kept_of_foldlM {target : BuildTarget} {options : BuildOptions} {base : Path}
    (hPlaced : Placed config) (hLoads : LoadsAs config tree layer outcome)
    (hRenders : options.isPrecompile = false) {before : List Path} {summary : BuildSummary}
    {start : Session}
    (hHelpers : ∀ first, first <+: before → ∀ state session,
      (first.foldlM (target.buildTemplate options base) (new config, summary)).run.run start =
        (.ok state, session) → SameHelperFiles config tree session.tree)
    {state : Bundler Unit × BuildSummary} {session : Session}
    (h : (before.foldlM (target.buildTemplate options base) (new config, summary)).run.run start =
      (.ok state, session)) : Kept config layer outcome state.1 := by
  induction before using List.reverseRecOn generalizing state session with
  | nil =>
      cases h
      exact .new ..
  | append_singleton before source ih =>
      rw [List.foldlM_append, Session.run_bind] at h
      rcases hBefore : (before.foldlM (target.buildTemplate options base)
        (new config, summary)).run.run start with ⟨f | middle, between⟩
      · rw [hBefore] at h
        cases h
      · rw [hBefore] at h
        have hPrefix : before <+: before ++ [source] := List.prefix_append ..
        have hMiddle := ih (fun first hFirst => hHelpers first (hFirst.trans hPrefix)) hBefore
        have hTree := hLoads.congr (hHelpers before hPrefix middle between hBefore)
        simp only [List.foldlM_cons, List.foldlM_nil, bind_pure] at h
        rw [BuildTarget.bundler_of_buildTemplate h, BuildTarget.bundleTemplate_eq_compile hRenders]
        exact hMiddle.after_compile hPlaced hTree _ _

/-- Where it is set where partials are looked up, a template compiles as on a fresh bundler after
any calls that found the helpers as they are, if all that it includes is looked up for it or was not
registered by these calls. Under the same conditions a template of a target is built as if its
bundler were fresh: what is written and what is reported are the same. -/
theorem compile_independent :
    (∀ (config : BundlerConfig) (calls : List Call) (tree : FileTree) (path : Path)
        (context? : Option ContextSource),
      Placed config → (∀ call ∈ calls, SameHelperFiles config tree call.tree) →
      IncludesOwn tree config path ((new config).after calls).engine →
        ((compile tree (.file path) context?).on ((new config).after calls)).1 =
          ((compile tree (.file path) context?).on (new config)).1) ∧
    ∀ (target : BuildTarget) (options : BuildOptions) (base : Path) (before : List Path)
        (source : Path) (summary later : BuildSummary) (bundler : Bundler Unit)
        (start session : Session),
      let config := options.bundlerConfig base
      let build := fun sources : List Path =>
        (sources.foldlM (target.buildTemplate options base) (new config, summary)).run.run start
      Placed config → options.isPrecompile = false →
      build before = (.ok (bundler, later), session) →
      (∀ first, first <+: before → ∀ state middle, build first = (.ok state, middle) →
        SameHelperFiles config session.tree middle.tree) →
      IncludesOwn session.tree config source bundler.engine →
        ((target.buildTemplate options base (bundler, later) source).run.run session).2 =
          ((target.buildTemplate options base (new config, later) source).run.run session).2 := by
  refine ⟨fun config calls tree path context? hPlaced hHelpers hOwn => ?_, ?_⟩
  · obtain ⟨layer, outcome, hLoads⟩ := exists_loadsAs config tree
    have hKept : Kept config layer outcome ((new config).after calls) :=
      (Kept.new config layer outcome).after hPlaced fun call hCall =>
        hLoads.congr (hHelpers call hCall)
    exact hKept.compile_eq hLoads hOwn context?
  · intro target options base before source summary later bundler start session config build
      hPlaced hRenders hBuilt hHelpers hOwn
    obtain ⟨layer, outcome, hLoads⟩ := exists_loadsAs config session.tree
    have hKept : Kept config layer outcome bundler :=
      kept_of_foldlM hPlaced hLoads hRenders hHelpers hBuilt
    refine BuildTarget.session_buildTemplate hRenders later ?_
    rw [BuildTarget.bundleTemplate_eq_compile hRenders]
    exact hKept.compile_eq hLoads hOwn _

/-- Two pages with one partial; one of them has a text of its own in case there is none. -/
def fallbackSite : FileTree :=
  ⟨[(["page.hbs"], .file (Text.encode "\x7b\x7b> a\x7d\x7d")),
    (["other.hbs"], .file (Text.encode "\x7b\x7b#> a\x7d\x7dfallback\x7b\x7b/a\x7d\x7d")),
    (["a.hbs"], .file (Text.encode "A"))], []⟩

/-- A partial that comes with a body is not looked up, but is found if an earlier page has
registered it. -/
theorem compile_dependent_fallback :
    let config : BundlerConfig := { partialsDir? := some ⟨"."⟩, partialsExt? := some ".hbs" }
    let page : Call := ⟨.compile, fallbackSite, { source? := some (.file ⟨"page.hbs"⟩) }⟩
    let other : Work Unit String := compile fallbackSite (.file ⟨"other.hbs"⟩) none
    (page.work.on (new config)).1.isOk = true ∧
      (other.on ((new config).after [page])).1.toOption = some "A" ∧
      (other.on (new config)).1.toOption = some "fallback" := by
  decide +kernel

theorem includesOwn_page {tree : FileTree} {config : BundlerConfig} {path : Path}
    (hOptions : config.compilerOptions = {})
    (hRead : tree.readText path = .ok "\x7b\x7b> a\x7d\x7d!")
    (hPartial : ((storeOf tree config path).fetch "a").outcome.toOption =
      some "\x7b\x7bx\x7d\x7d") (engine : Engine) : IncludesOwn tree config path engine := by
  intro source hPart template hTemplate call hCall
  rw [hOptions] at hTemplate
  have hName := literalName_page (partOf_page hRead hPartial hPart) hTemplate call hCall
  rw [Operand.NamesOnly, hName]
  exact .inl ⟨_, hRead, .direct (by decide +kernel)⟩

/-- A page after a text that includes it, and the page in a target after its own partial. -/
theorem compile_independent_site :
    let config : BundlerConfig := { partialsDir? := some ⟨"."⟩, partialsExt? := some ".hbs" }
    let path : Path := ⟨"page.hbs"⟩
    let call : Call :=
      ⟨.compile, site, { source? := some (.ofText "\x7b\x7b> page\x7d\x7d") }⟩
    let options : BuildOptions := { partials := some "*.hbs" }
    let target : BuildTarget := ⟨["*.hbs"], ⟨"out"⟩, options⟩
    let build := fun sources : List Path => (sources.foldlM (target.buildTemplate options ⟨"."⟩)
      (new (options.bundlerConfig ⟨"."⟩), ({} : BuildSummary))).run.run { tree := site }
    (Placed config ∧ (∀ c ∈ [call], SameHelperFiles config site c.tree) ∧
      IncludesOwn site config path ((new config).after [call]).engine ∧
      ((compile site (.file path) none).on ((new config).after [call])).1 =
        ((compile site (.file path) none).on (new config)).1) ∧
    ∃ bundler later session, Placed (options.bundlerConfig ⟨"."⟩) ∧ options.isPrecompile = false ∧
      build [⟨"a.hbs"⟩] = (.ok (bundler, later), session) ∧
      (∀ first, first <+: [⟨"a.hbs"⟩] → ∀ state middle, build first = (.ok state, middle) →
        SameHelperFiles (options.bundlerConfig ⟨"."⟩) session.tree middle.tree) ∧
      IncludesOwn session.tree (options.bundlerConfig ⟨"."⟩) path bundler.engine ∧
      ((target.buildTemplate options ⟨"."⟩ (bundler, later) path).run.run session).2 =
        ((target.buildTemplate options ⟨"."⟩ (new (options.bundlerConfig ⟨"."⟩), later)
          path).run.run session).2 := by
  intro config path call options target build
  have hConfig : options.bundlerConfig ⟨"."⟩ = config := by decide +kernel
  have hPlaced : Placed config := ⟨rfl, rfl⟩
  have hHelpers (tree other : FileTree) : SameHelperFiles config tree other :=
    fun dir hDir => nomatch hDir
  have hOwn : IncludesOwn site config path ((new config).after [call]).engine :=
    includesOwn_page rfl (by decide +kernel) (by decide +kernel) _
  have hBuilt : (build [⟨"a.hbs"⟩]).1.isOk = true := by decide +kernel
  have hRead : (build [⟨"a.hbs"⟩]).2.tree.readText path = .ok "\x7b\x7b> a\x7d\x7d!" := by
    decide +kernel
  have hPartial : ((storeOf (build [⟨"a.hbs"⟩]).2.tree config path).fetch "a").outcome.toOption =
      some "\x7b\x7bx\x7d\x7d" := by decide +kernel
  rcases hRun : build [⟨"a.hbs"⟩] with ⟨f | ⟨bundler, later⟩, session⟩
  · rw [hRun] at hBuilt
    cases hBuilt
  rw [hRun] at hRead hPartial
  have hOwnBuilt := includesOwn_page rfl hRead hPartial bundler.engine
  have hCompiled := compile_independent.1 config [call] site path none hPlaced
    (fun c _ => hHelpers site c.tree) hOwn
  have hSession := compile_independent.2 target options ⟨"."⟩ [⟨"a.hbs"⟩] path {} later bundler
    { tree := site } session (hConfig ▸ hPlaced) rfl hRun
    (fun _ _ _ middle _ => hConfig ▸ hHelpers session.tree middle.tree) (hConfig ▸ hOwnBuilt)
  exact ⟨⟨hPlaced, fun c _ => hHelpers site c.tree, hOwn, hCompiled⟩, bundler, later, session,
    hConfig ▸ hPlaced, rfl, rfl, fun _ _ _ middle _ => hConfig ▸ hHelpers session.tree middle.tree,
    hConfig ▸ hOwnBuilt, hSession⟩

end Bundler
end TemplateBundle
