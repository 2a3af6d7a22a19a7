import TemplateBundle.Proofs.Bundler.Stages

/-! Where data comes from. A template comes to the same with data from a file as with the same data from
elsewhere: the bundler that is left differs in its warnings at most. -/
namespace TemplateBundle

open Json (Value)

namespace Bundling

/-- The template with another origin of its data. -/
def dated (b : Bundling) (contextSource? : Option ContextSource) (contextFile? : Option Path) :
    Bundling := { b with contextSource?, contextFile? }

/-- Of data that a template comes to have, only the origin depends on how it was given. -/
theorem exists_dated {b : Bundling} (h : b.context = .empty) (context : Option Context)
    (source? : Option ContextSource) :
    ∃ left? file?, ({ b with contextSource? := source? } : Bundling).withContext context =
      Bundling.dated { b with context := (context.map Context.data).getD .empty } left? file? := by
  obtain ⟨_, _, _, _, _, _, data, _, _, _, _⟩ := b
  obtain rfl : data = .empty := h
  cases context with
  | some context => exact ⟨_, _, rfl⟩
  | none => exact ⟨_, _, rfl⟩

end Bundling

namespace Bundler

variable {σ α : Type} {tree : FileTree} {bundler : Bundler σ}

/-- The bundler with other warnings. -/
def warned (bundler : Bundler σ) (warnings : List Warning) : Bundler σ := { bundler with warnings }

/-- The runs have the same outcome, and leave the same bundler but for its warnings. -/
def EndAlike (run other : Except BundleError α × Bundler σ) : Prop :=
  other.1 = run.1 ∧ ∃ warnings, other.2 = run.2.warned warnings

theorem on_loadHelpers_warned (tree : FileTree) (bundler : Bundler σ) (warnings : List Warning) :
    (loadHelpers tree).on (bundler.warned warnings) =
      ((loadHelpers tree).on bundler).map id fun after => after.warned warnings := by
  cases hLoaded : bundler.helpersLoaded with
  | true =>
      have hWarned : (bundler.warned warnings).helpersLoaded = true := hLoaded
      simp [loadHelpers, Work.on_bind, hLoaded, hWarned]
  | false =>
      cases hDir : bundler.config.helpersDir? with
      | none =>
          have hWarned : (bundler.warned warnings).config.helpersDir? = none := hDir
          rw [on_loadHelpers_none hDir, on_loadHelpers_none hWarned]
          rfl
      | some dir =>
          have hLoadedToo : (bundler.warned warnings).helpersLoaded = false := hLoaded
          have hDirToo : (bundler.warned warnings).config.helpersDir? = some dir := hDir
          rw [on_loadHelpers_some hLoaded hDir, on_loadHelpers_some hLoadedToo hDirToo]
          cases helperFiles tree dir with
          | error e => rfl
          | ok files => rfl

theorem on_registerPartials_dated (tree : FileTree) (bundler : Bundler σ)
    (warnings : List Warning) (b : Bundling) (source? : Option ContextSource)
    (file? : Option Path) :
    (registerPartials tree (b.dated source? file?)).on (bundler.warned warnings) =
      ((registerPartials tree b).on bundler).map (Except.map fun c => c.dated source? file?)
        fun after => after.warned warnings := by
  let dated := b.dated source? file?
  have hFindsToo : findsPartials (bundler.warned warnings).config dated =
      findsPartials bundler.config b := rfl
  have hBodyToo : dated.body? = b.body? := rfl
  cases hFinds : findsPartials bundler.config b with
  | false =>
      rw [on_registerPartials_skip hFinds, on_registerPartials_skip (hFindsToo.trans hFinds)]
      rfl
  | true =>
      rcases Option.eq_none_or_eq_some b.body? with hBody | ⟨body, hBody⟩
      · rw [on_registerPartials_missing hFinds hBody,
          on_registerPartials_missing (hFindsToo.trans hFinds) (hBodyToo.trans hBody)]
        rfl
      · have hStore : storeFor tree (bundler.warned warnings).config dated =
            storeFor tree bundler.config b := rfl
        have hEngine : (bundler.warned warnings).engine = bundler.engine := rfl
        rw [on_registerPartials hFinds hBody,
          on_registerPartials (hFindsToo.trans hFinds) (hBodyToo.trans hBody), hStore]
        cases (resolve body (storeFor tree bundler.config b)).outcome with
        | error e => rfl
        | ok partials =>
            dsimp only
            rw [hEngine]
            cases (bundler.engine.registerPartials partials).2 with
            | error e => rfl
            | ok _ => rfl

theorem render_dated (tree : FileTree) (engine : Engine) (b : Bundling)
    (source? : Option ContextSource) (file? : Option Path) :
    (render tree engine (b.dated source? file?)).map Bundling.result =
      (render tree engine b).map Bundling.result := by
  simp only [render, Bundling.dated]
  cases b.body? with
  | none => rfl
  | some body =>
      dsimp only
      cases engine.renderText _ body b.context with
      | error e => rfl
      | ok text => rfl

/-- The stages that follow once a template is prepared. -/
def finish (tree : FileTree) (b : Bundling) : Work σ String := do
  let b ← registerPartials tree b
  let b ← compileTemplate tree b
  return b.result

theorem compile_eq_finish (tree : FileTree) (source : TemplateSource)
    (context? : Option ContextSource) :
    (compile tree source context? : Work σ String) =
      prepare tree true { source? := some source, contextSource? := context? } >>= finish tree := by
  simp only [compile, runCompile, bind_assoc]
  rfl

theorem on_finish (tree : FileTree) (bundler : Bundler σ) (b : Bundling) :
    (finish tree b).on bundler =
      match (registerPartials tree b).on bundler with
      | (.ok c, after) => ((render tree after.engine c).map Bundling.result, after)
      | (.error e, after) => (.error e, after) := by
  rw [finish, Work.on_bind]
  rcases (registerPartials tree b).on bundler with ⟨e | c, after⟩
  · rfl
  · dsimp only
    rw [Work.on_bind, on_compileTemplate]
    cases render tree after.engine c with
    | error e => rfl
    | ok d => rfl

/-- What is made of a template does not depend on the origin of its data, nor on earlier warnings. -/
theorem endAlike_finish (tree : FileTree) (bundler : Bundler σ) (warnings : List Warning)
    (b : Bundling) (source? : Option ContextSource) (file? : Option Path) :
    EndAlike ((finish tree b).on bundler)
      ((finish tree (b.dated source? file?)).on (bundler.warned warnings)) := by
  rw [on_finish, on_finish, on_registerPartials_dated]
  rcases (registerPartials tree b).on bundler with ⟨e | c, after⟩
  · exact ⟨rfl, warnings, rfl⟩
  · exact ⟨render_dated tree after.engine c source? file?, warnings, rfl⟩

theorem EndAlike.of_same {first run other : Except BundleError α × Bundler σ}
    (h : EndAlike first run) (hOther : EndAlike first other) : EndAlike run other := by
  obtain ⟨hOutcome, warnings, hAfter⟩ := h
  obtain ⟨hOutcome', warnings', hAfter'⟩ := hOther
  exact ⟨hOutcome'.trans hOutcome.symm, warnings', by rw [hAfter', hAfter]; rfl⟩

/-- A template that can be read is prepared with its data as soon as the helpers are loaded. -/
theorem on_prepare_warned {source : TemplateSource} {body : String}
    (hBody : source.read tree = .ok body) {context? : Option ContextSource}
    {context : Option Context}
    (hContext : Bundling.context? tree { contextSource? := context? } = .ok context)
    (bundler : Bundler σ) :
    ∃ warnings left? file?,
      (prepare tree true { source? := some source, contextSource? := context? }).on bundler =
        ((loadHelpers tree).on bundler).map
          (Except.map fun _ =>
            Bundling.dated { (Bundling.withText { source? := some source } body) with
              context := (context.map Context.data).getD .empty } left? file?)
          fun after => after.warned warnings := by
  let b : Bundling := { source? := some source, contextSource? := context? }
  let read : Bundling := Bundling.withText { source? := some source } body
  have hRead : b.readTemplate tree = .ok { read with contextSource? := context? } := by
    have hText : b.text tree = .ok body := hBody
    rw [Bundling.readTemplate_eq, hText]
    rfl
  have hData : (if true then b.context? tree else .ok none) = .ok context := hContext
  obtain ⟨left?, file?, hDated⟩ := Bundling.exists_dated (b := read) rfl context context?
  let warnings := bundler.warnings ++ context.elim [] Context.warnings
  have hLoad := on_loadHelpers_warned tree bundler warnings
  refine ⟨warnings, left?, file?, ?_⟩
  rcases hRun : (loadHelpers tree).on bundler with ⟨outcome, after⟩
  rw [hRun] at hLoad
  have hPrepare := on_prepare_loadHelpers hRead hData hLoad
  rw [hDated] at hPrepare
  exact hPrepare

/-- A template that is given the same data, wherever they come from, comes to the same. -/
theorem endAlike_compile {context? other? : Option ContextSource} {context other : Option Context}
    (hContext : Bundling.context? tree { contextSource? := context? } = .ok context)
    (hOther : Bundling.context? tree { contextSource? := other? } = .ok other)
    (hData : (other.map Context.data).getD .empty = (context.map Context.data).getD .empty)
    (source : TemplateSource) (bundler : Bundler σ) :
    EndAlike ((compile tree source context?).on bundler)
      ((compile tree source other?).on bundler) := by
  cases hBody : source.read tree with
  | error e =>
      have hRefused {from? : Option ContextSource} {found : Option Context}
          (hFound : Bundling.context? tree { contextSource? := from? } = .ok found) :
          (compile tree source from?).on bundler = (.error e, bundler) := by
        let b : Bundling := { source? := some source, contextSource? := from? }
        have hRead : b.readTemplate tree = .error e := by
          have hText : b.text tree = .error e := hBody
          rw [Bundling.readTemplate_eq, hText]
          rfl
        have hData : (if true then b.context? tree else .ok none) = .ok found := hFound
        rw [compile_eq_finish, Work.on_bind, on_prepare_unread hRead, hData]
      rw [hRefused hContext, hRefused hOther]
      exact ⟨rfl, bundler.warnings, rfl⟩
  | ok body =>
      obtain ⟨warnings, left?, file?, hPrepare⟩ := on_prepare_warned hBody hContext bundler
      obtain ⟨warnings', left?', file?', hPrepare'⟩ := on_prepare_warned hBody hOther bundler
      rw [compile_eq_finish, compile_eq_finish, Work.on_bind, Work.on_bind, hPrepare, hPrepare',
        hData]
      rcases (loadHelpers tree).on bundler with ⟨e | _, after⟩
      · exact ⟨rfl, warnings', rfl⟩
      · exact (endAlike_finish tree after warnings _ left? file?).of_same
          (endAlike_finish tree after warnings' _ left?' file?')

/-- A template whose data are refused comes to nothing. -/
theorem exists_error_compile {context? : Option ContextSource} {e : BundleError}
    (hContext : Bundling.context? tree { contextSource? := context? } = .error e)
    (source : TemplateSource) (bundler : Bundler σ) :
    ∃ f, ((compile tree source context?).on bundler).1 = .error f := by
  let b : Bundling := { source? := some source, contextSource? := context? }
  rcases on_prepare_refused σ tree true b with ⟨f, hRefused⟩ | ⟨read, context, -, hRead⟩
  · refine ⟨f, ?_⟩
    rw [compile_eq_finish, Work.on_bind, hRefused]
  · have hFound : b.context? tree = .ok context := hRead
    cases hContext.symm.trans hFound

end Bundler
end TemplateBundle
