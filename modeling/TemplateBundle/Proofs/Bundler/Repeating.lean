import TemplateBundle.Proofs.Bundler.History
import TemplateBundle.Proofs.Bundler.Loading

/-! A template that is compiled twice in a row. Whatever the first time has registered lies over
what was known before, and the second time puts the same over it. Main statement: the second time
has the outcome of the first, and leaves every partial with the source that the first has left. -/
namespace TemplateBundle.Bundler

variable {σ : Type} {bundler after : Bundler σ} {tree : FileTree}

/-- Once more, a template that was refused or whose helpers failed fails the same, and one that was
prepared is prepared the same by every bundler with its helpers loaded. -/
theorem on_prepare_again (hLoader : bundler.loader.DependsOnFile) {withData : Bool} {b : Bundling}
    {outcome : Except BundleError Bundling}
    (h : (prepare tree withData b).on bundler = (outcome, after)) :
    (∃ e last, outcome = .error e ∧ (prepare tree withData b).on after = (.error e, last) ∧
        after.engine.SameKnown last.engine) ∨
      ∃ c, outcome = .ok c ∧ after.helpersLoaded = true ∧
        ∀ later : Bundler σ, later.helpersLoaded = true →
          ∃ warnings, (prepare tree withData b).on later = (.ok c, { later with warnings }) := by
  rcases on_prepare_refused σ tree withData b with
    ⟨e, hRefused⟩ | ⟨read, context, hRead, hContext⟩
  · obtain ⟨rfl, rfl⟩ := Prod.mk.inj ((hRefused bundler).symm.trans h)
    exact .inl ⟨e, bundler, rfl, hRefused bundler, .of_eq rfl⟩
  let warned (bundler : Bundler σ) : Bundler σ :=
    { bundler with warnings := bundler.warnings ++ context.elim [] Context.warnings }
  have hQuick (later : Bundler σ) (hLater : later.helpersLoaded = true) :
      (prepare tree withData b).on later = (.ok (read.withContext context), warned later) := by
    have hWarned : (warned later).helpersLoaded = true := hLater
    exact on_prepare_loadHelpers hRead hContext (on_loadHelpers_loaded tree hWarned)
  cases hLoaded : bundler.helpersLoaded with
  | true =>
      obtain ⟨rfl, rfl⟩ := Prod.mk.inj ((hQuick bundler hLoaded).symm.trans h)
      exact .inr ⟨_, rfl, hLoaded, fun later hLater => ⟨_, hQuick later hLater⟩⟩
  | false =>
      obtain ⟨layer, result, hAll⟩ := exists_layer_loadHelpers hLoader tree
        bundler.config.helpersDir? bundler.engine.options
      obtain ⟨first, hFirst⟩ := hAll (warned bundler) rfl rfl rfl hLoaded
      rw [on_prepare_loadHelpers hRead hContext hFirst.run] at h
      cases result with
      | ok _ =>
          obtain ⟨rfl, rfl⟩ := Prod.mk.inj h
          exact .inr ⟨_, rfl, hFirst.loaded, fun later hLater => ⟨_, hQuick later hLater⟩⟩
      | error e =>
          obtain ⟨rfl, rfl⟩ := Prod.mk.inj h
          obtain ⟨last, hLast⟩ := hAll (warned first) hFirst.loader
            (congrArg BundlerConfig.helpersDir? hFirst.config) hFirst.covered.options hFirst.loaded
          refine .inl ⟨e, last, rfl, ?_, hFirst.covered.again hLast.covered⟩
          exact on_prepare_loadHelpers hRead hContext hLast.run

theorem findsPartials_settled {config : BundlerConfig} {b : Bundling}
    (h : findsPartials config b = true) : findsPartials (settled config b) b = true := by
  simp_all [findsPartials, settled]

theorem storeFor_settled (tree : FileTree) (config : BundlerConfig) (b : Bundling) :
    storeFor tree (settled config b) b = storeFor tree config b := rfl

/-- Once more, the partials of a template are found and registered as far as before. -/
theorem on_registerPartials_again {b : Bundling} {outcome : Except BundleError Bundling}
    (h : (registerPartials tree b).on bundler = (outcome, after)) :
    after.helpersLoaded = bundler.helpersLoaded ∧
      ∀ later : Bundler σ, later.config = after.config → later.engine = after.engine →
        ∃ last, (registerPartials tree b).on later = (outcome, last) ∧
          after.engine.SameKnown last.engine := by
  cases hFinds : findsPartials bundler.config b with
  | false =>
      obtain ⟨rfl, rfl⟩ := Prod.mk.inj ((on_registerPartials_skip hFinds).symm.trans h)
      refine ⟨rfl, fun later hConfig hEngine => ⟨later, ?_, .of_eq hEngine⟩⟩
      rw [on_registerPartials_skip (hConfig ▸ hFinds)]
  | true =>
      have hAgain (later : Bundler σ) (hConfig : later.config = settled bundler.config b) :
          findsPartials later.config b = true := hConfig ▸ findsPartials_settled hFinds
      cases hBody : b.body? with
      | none =>
          obtain ⟨rfl, rfl⟩ := Prod.mk.inj ((on_registerPartials_missing hFinds hBody).symm.trans h)
          refine ⟨rfl, fun later hConfig hEngine => ?_⟩
          rw [on_registerPartials_missing (hAgain later hConfig) hBody]
          exact ⟨_, rfl, .of_eq hEngine⟩
      | some body =>
          rw [on_registerPartials hFinds hBody] at h
          have hStore (later : Bundler σ) (hConfig : later.config = settled bundler.config b) :
              storeFor tree later.config b = storeFor tree bundler.config b := by
            rw [hConfig, storeFor_settled]
          cases hFound : (resolve body (storeFor tree bundler.config b)).outcome with
          | error e =>
              rw [hFound] at h
              obtain ⟨rfl, rfl⟩ := Prod.mk.inj h
              refine ⟨rfl, fun later hConfig hEngine => ?_⟩
              rw [on_registerPartials (hAgain later hConfig) hBody, hStore later hConfig, hFound]
              exact ⟨_, rfl, .of_eq hEngine⟩
          | ok partials =>
              obtain ⟨layer, result, hAll⟩ :=
                Engine.exists_layer_registerPartials bundler.engine.options partials
              obtain ⟨hFirst, hResult⟩ := hAll bundler.engine rfl
              rw [hFound] at h
              obtain ⟨rfl, rfl⟩ := Prod.mk.inj h
              refine ⟨rfl, fun later hConfig hEngine => ?_⟩
              dsimp only at hEngine
              rw [← hEngine] at hFirst ⊢
              obtain ⟨hLast, hSame⟩ := hAll later.engine hFirst.options
              rw [on_registerPartials (hAgain later hConfig) hBody, hStore later hConfig, hFound]
              simp only [hSame, hResult]
              exact ⟨_, rfl, hFirst.again hLast⟩

theorem render_congr {engine other : Engine} (h : engine.SameKnown other) (tree : FileTree)
    (b : Bundling) : render tree other b = render tree engine b := by
  unfold render
  simp only [h.renderText]

/-- A template on its way that is compiled once more ends the same. -/
theorem runCompile_again (hLoader : bundler.loader.DependsOnFile) {b : Bundling}
    {outcome : Except BundleError Bundling}
    (h : (runCompile tree b).on bundler = (outcome, after)) :
    ∃ last, (runCompile tree b).on after = (outcome, last) ∧
      after.engine.SameKnown last.engine := by
  have hWork (bundler : Bundler σ) := Call.on_work ⟨.compile, tree, b⟩ bundler
  dsimp only [Call.work, Call.withData, Call.finish] at hWork
  rw [hWork] at h ⊢
  rcases hPrepare : (prepare tree true b).on bundler with ⟨prepareOutcome, prepared⟩
  rw [hPrepare] at h
  rcases on_prepare_again hLoader hPrepare with
    ⟨e, last, rfl, hAgain, hSame⟩ | ⟨c, rfl, hLoaded, hAgain⟩
  · obtain ⟨rfl, rfl⟩ := Prod.mk.inj h
    rw [hAgain]
    exact ⟨last, rfl, hSame⟩
  · dsimp only at h
    rcases hRegister : (registerPartials tree c).on prepared with ⟨registerOutcome, registered⟩
    rw [hRegister] at h
    obtain ⟨hKept, hMore⟩ := on_registerPartials_again hRegister
    obtain ⟨warnings, hPrepared⟩ := hAgain registered (hKept.trans hLoaded)
    obtain ⟨last, hLast, hSame⟩ := hMore { registered with warnings } rfl rfl
    cases registerOutcome with
    | error e =>
        obtain ⟨rfl, rfl⟩ := Prod.mk.inj h
        rw [hPrepared]
        dsimp only
        rw [hLast]
        exact ⟨last, rfl, hSame⟩
    | ok d =>
        obtain ⟨rfl, rfl⟩ := Prod.mk.inj h
        rw [hPrepared]
        dsimp only
        rw [hLast]
        exact ⟨last, congrArg (·, last) (render_congr hSame tree d), hSame⟩

end TemplateBundle.Bundler
