import TemplateBundle.Proofs.Bundler.Work

/-! The stages of a bundler as one: what a template is that went through them. -/
namespace TemplateBundle

namespace TemplateSource

/-- The file that the template is in, unless it arrives as a stream. -/
def file? : TemplateSource → Option Path
  | .file path => some path
  | .stream .. => none

end TemplateSource

namespace Bundling

/-- The text of the template: what its source holds, or else what was read before. -/
def text (tree : FileTree) (b : Bundling) : Except BundleError String :=
  match b.source? with
  | none => b.body?.elim (.error .missingTemplate) .ok
  | some source => source.read tree

/-- The file that the template is still to be read from. -/
def sourceFile? (b : Bundling) : Option Path := b.source?.bind TemplateSource.file?

/-- The template once its text is read. The file that it comes from counts from then on, and names
it if it has no name. -/
def withText (b : Bundling) (body : String) : Bundling :=
  { b with
    source? := none
    body? := some body
    file? := b.sourceFile?.or b.file?
    name := if b.name.isEmpty then b.sourceFile?.elim b.name Path.templateName else b.name }

theorem readTemplate_eq (tree : FileTree) (b : Bundling) :
    b.readTemplate tree = (b.text tree).map b.withText := by
  rw [readTemplate, text]
  cases hSource : b.source? with
  | none =>
      rcases Option.eq_none_or_eq_some b.body? with hBody | ⟨body, hBody⟩
      · simp [hBody, Except.map]
      · simp only [hBody, Option.isSome_some, if_true, Option.elim_some, Except.map, withText,
          sourceFile?, hSource, Option.bind_none, Option.none_or, Option.elim_none, ite_self]
        rw [← hSource, ← hBody]
  | some source =>
      dsimp only
      cases source.read tree with
      | error e => rfl
      | ok body =>
          simp only [bind, Except.bind, Except.map, withText, sourceFile?, hSource]
          cases source with
          | file path => rfl
          | stream pieces fault? => simp [TemplateSource.file?]; rfl

/-- An empty object comes in the place of null whether the text is read or not. -/
theorem context_withText (b : Bundling) (body : String) :
    (b.withText body).withObject.context = b.withObject.context := by
  have hSame : (b.withText body).context = b.context := rfl
  unfold withObject
  rw [hSame]
  split
  · rfl
  · rfl

end Bundling

namespace Bundler

variable {σ : Type} {tree : FileTree} {bundler after : Bundler σ} {b c : Bundling}
  {withData : Bool}

/-- The partials of a template of this text: those that it includes if they are looked up, and
otherwise those that it had. -/
def HasPartials (tree : FileTree) (config : BundlerConfig) (text : String) (had : List Partial)
    (c : Bundling) : Prop :=
  if findsPartials config c then (resolve text (storeFor tree config c)).outcome = .ok c.partials
  else c.partials = had

/-- A template that has its partials registered is the same but for these. -/
theorem exists_of_registerPartials (h : (registerPartials tree b).on bundler = (.ok c, after)) :
    ∃ partials, c = { b with partials } ∧
      ∀ text, b.body? = some text → HasPartials tree bundler.config text b.partials c := by
  cases hFinds : findsPartials bundler.config b with
  | false =>
      rw [on_registerPartials_skip hFinds] at h
      cases h
      exact ⟨b.partials, rfl, fun text _ => by simp [HasPartials, hFinds]⟩
  | true =>
      rcases Option.eq_none_or_eq_some b.body? with hBody | ⟨body, hBody⟩
      · rw [on_registerPartials_missing hFinds hBody] at h
        cases h
      · obtain ⟨partials, hFound, -, rfl, -⟩ := registerPartials_eq_ok hFinds hBody h
        have hFindsToo : findsPartials bundler.config { b with partials } = true := hFinds
        refine ⟨partials, rfl, fun text hText => ?_⟩
        obtain rfl : body = text := Option.some.inj (hBody.symm.trans hText)
        rw [HasPartials, if_pos hFindsToo]
        exact hFound

theorem exists_result_of_render {engine : Engine} (h : render tree engine b = .ok c) :
    ∃ text, c = { b with result? := some text } := by
  unfold render at h
  split at h
  · cases h
  · split at h
    · cases h
      exact ⟨_, rfl⟩
    · cases h

/-- The stages that a template goes through before it is rendered or precompiled. -/
def gather (tree : FileTree) (withData : Bool) (b : Bundling) : Work σ Bundling := do
  registerPartials tree (← prepare tree withData b)

theorem runCompile_eq (tree : FileTree) (b : Bundling) :
    (runCompile tree b : Work σ Bundling) = gather tree true b >>= compileTemplate tree := by
  simp [runCompile, gather]

theorem runPrecompile_eq (tree : FileTree) (b : Bundling) :
    (runPrecompile tree b : Work σ Bundling) =
      gather tree false b >>= fun c => precompileTemplate c >>= fun c => liftM (wrap tree c) := by
  simp [runPrecompile, gather]

/-- A template that was gathered was read, as was its data if it was to be. -/
theorem exists_of_gather (h : (gather tree withData b).on bundler = (.ok c, after)) :
    ∃ body context partials, b.text tree = .ok body ∧
      (if withData then b.context? tree else .ok none) = .ok context ∧
      HasPartials tree bundler.config body b.partials c ∧
      c = { (b.withText body).withContext context with partials } := by
  obtain ⟨read, prepared, hPrepare, hRegister⟩ := Work.on_bind_eq_ok.mp h
  obtain ⟨template, context, hRead, hContext, rfl, -⟩ := prepare_eq_ok hPrepare
  rw [Bundling.readTemplate_eq] at hRead
  obtain ⟨body, hText, rfl⟩ := Outcome.map_eq_ok.mp hRead
  obtain ⟨partials, hPartials, hHas⟩ := exists_of_registerPartials hRegister
  rw [config_prepare hPrepare, withContext_eq] at hHas
  exact ⟨body, context, partials, hText, hContext, hHas body rfl, hPartials⟩

/-- The later stages leave what they do not make themselves. -/
theorem exists_of_runCompile (h : (runCompile tree b).on bundler = (.ok c, after)) :
    ∃ body context partials text, b.text tree = .ok body ∧ b.context? tree = .ok context ∧
      HasPartials tree bundler.config body b.partials c ∧
      c = { (b.withText body).withContext context with partials, result? := some text } := by
  rw [runCompile_eq] at h
  obtain ⟨gathered, between, hGather, hRender⟩ := Work.on_bind_eq_ok.mp h
  obtain ⟨body, context, partials, hText, hContext, hHas, rfl⟩ := exists_of_gather hGather
  rw [on_compileTemplate] at hRender
  obtain ⟨text, rfl⟩ := exists_result_of_render (Prod.mk.inj hRender).1
  exact ⟨body, context, partials, text, hText, hContext, hHas, rfl⟩

theorem exists_of_runPrecompile (h : (runPrecompile tree b).on bundler = (.ok c, after)) :
    ∃ body partials result?, b.text tree = .ok body ∧
      c = { (b.withText body).withContext none with partials, result? } := by
  rw [runPrecompile_eq] at h
  obtain ⟨gathered, between, hGather, h⟩ := Work.on_bind_eq_ok.mp h
  obtain ⟨made, last, hMade, hWrap⟩ := Work.on_bind_eq_ok.mp h
  obtain ⟨body, context, partials, hText, hContext, -, rfl⟩ := exists_of_gather hGather
  obtain rfl : none = context := Except.ok.inj hContext
  rw [on_precompileTemplate] at hMade
  obtain ⟨-, _, _, -, -, rfl⟩ := precompileBody_eq_ok.mp (Prod.mk.inj hMade).1
  rw [Work.on_lift] at hWrap
  obtain ⟨-, result?, rfl⟩ := wrap_eq_ok (Prod.mk.inj hWrap).1
  exact ⟨body, _, result?, hText, rfl⟩

end Bundler
end TemplateBundle
