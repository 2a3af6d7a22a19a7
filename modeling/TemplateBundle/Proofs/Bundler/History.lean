import TemplateBundle.Proofs.Bundler.Work

/-! Calls of a bundler, one after another. Each finds the bundler as the earlier ones have left it,
also those that failed. Main statement: the partials of a bundler are those that its calls have
registered, in order, where a call that fails has registered what it had come to; and what is
precompiled are all of them. -/
namespace TemplateBundle

namespace Bundler

variable {σ : Type}

/-- What is to come out of a template. -/
inductive Job where
  | compile
  | precompile
  deriving DecidableEq

/-- A call of a bundler: a template, and the files as they are at that time. -/
structure Call where
  job : Job
  tree : FileTree
  template : Bundling

namespace Call

/-- Data is read only for what is rendered. -/
def withData (call : Call) : Bool :=
  match call.job with
  | .compile => true
  | .precompile => false

def work (call : Call) : Work σ Bundling :=
  match call.job with
  | .compile => runCompile call.tree call.template
  | .precompile => runPrecompile call.tree call.template

/-- What is made of a template once its partials are registered. -/
def finish (call : Call) (bundler : Bundler σ) (b : Bundling) : Except BundleError Bundling :=
  match call.job with
  | .compile => render call.tree bundler.engine b
  | .precompile => precompileBody bundler.config bundler.engine b >>= wrap call.tree

/-- Once its partials are registered, a template changes nothing in a bundler. -/
theorem on_work (call : Call) (bundler : Bundler σ) :
    call.work.on bundler =
      match (prepare call.tree call.withData call.template).on bundler with
      | (.error e, after) => (.error e, after)
      | (.ok b, prepared) =>
        match (registerPartials call.tree b).on prepared with
        | (.error e, after) => (.error e, after)
        | (.ok c, after) => (call.finish after c, after) := by
  obtain ⟨job, tree, template⟩ := call
  cases job with
  | compile =>
      simp only [work, withData, finish, runCompile, Work.on_bind, on_compileTemplate]
      rcases (prepare tree true template).on bundler with ⟨_ | b, prepared⟩
      · rfl
      dsimp only
      rcases (registerPartials tree b).on prepared with ⟨_ | c, after⟩
      · rfl
      · rfl
  | precompile =>
      simp only [work, withData, finish, runPrecompile, Work.on_bind, on_precompileTemplate]
      rcases (prepare tree false template).on bundler with ⟨_ | b, prepared⟩
      · rfl
      dsimp only
      rcases (registerPartials tree b).on prepared with ⟨_ | c, after⟩
      · rfl
      dsimp only
      cases precompileBody after.config after.engine c with
      | error e => rfl
      | ok d => exact Work.on_lift _ _

/-- A call leaves what preparing its template does, and then registering its partials. -/
theorem work_leaves (call : Call) (bundler : Bundler σ) :
    (call.work.on bundler).2 =
      match (prepare call.tree call.withData call.template).on bundler with
      | (.error _, after) => after
      | (.ok b, prepared) => ((registerPartials call.tree b).on prepared).2 := by
  rw [on_work]
  rcases (prepare call.tree call.withData call.template).on bundler with ⟨_ | b, prepared⟩
  · rfl
  dsimp only
  rcases (registerPartials call.tree b).on prepared with ⟨_ | c, after⟩
  · rfl
  · rfl

theorem work_eq_ok {call : Call} {bundler after : Bundler σ} {b : Bundling}
    (h : call.work.on bundler = (.ok b, after)) :
    ∃ c d prepared,
      (prepare call.tree call.withData call.template).on bundler = (.ok c, prepared) ∧
      (registerPartials call.tree c).on prepared = (.ok d, after) ∧
      call.finish after d = .ok b := by
  rw [on_work] at h
  split at h
  · cases h
  · next c prepared hPrepare =>
    split at h
    · cases h
    · next d registered hRegister =>
      obtain ⟨hFinish, rfl⟩ := Prod.mk.inj h
      exact ⟨c, d, prepared, hPrepare, hRegister, hFinish⟩

end Call

/-- The partials that are registered for a template: none if they are not looked up or if one of
them is missing, and else those found before the first that is no template. -/
def registered (tree : FileTree) (bundler : Bundler σ) (b : Bundling) : List Partial :=
  match b.body? with
  | none => []
  | some body =>
    if findsPartials bundler.config b then
      match (resolve body (storeFor tree bundler.config b)).outcome with
      | .error _ => []
      | .ok partials => partials.takeWhile fun p => (bundler.engine.parse p.source).isOk
    else []

theorem on_registerPartials_keeps (tree : FileTree) (bundler : Bundler σ) (b : Bundling) :
    let after := ((registerPartials tree b).on bundler).2
    after.config.noPartials = bundler.config.noPartials ∧ after.loader = bundler.loader ∧
      after.engine.partials = bundler.engine.partials ++ registered tree bundler b := by
  cases hFinds : findsPartials bundler.config b with
  | false =>
      have hNone : registered tree bundler b = [] := by
        rw [registered, hFinds]
        cases b.body? with
        | none => rfl
        | some body => rfl
      rw [on_registerPartials_skip hFinds, hNone]
      exact ⟨rfl, rfl, (List.append_nil _).symm⟩
  | true =>
      cases hBody : b.body? with
      | none =>
          rw [on_registerPartials_missing hFinds hBody, registered, hBody]
          exact ⟨rfl, rfl, (List.append_nil _).symm⟩
      | some body =>
          rw [on_registerPartials hFinds hBody, registered, hBody, hFinds]
          dsimp only
          cases hFound : (resolve body (storeFor tree bundler.config b)).outcome with
          | error e => exact ⟨rfl, rfl, (List.append_nil _).symm⟩
          | ok partials =>
              -- Whether they all are templates decides how far the engine comes, and nothing else.
              exact ⟨rfl, rfl, Engine.partials_registerPartials bundler.engine partials⟩

/-- What preparing a template leaves as it was. -/
theorem on_prepare_keeps {tree : FileTree} {withData : Bool} {b : Bundling}
    {bundler after : Bundler σ} {outcome : Except BundleError Bundling}
    (hLoader : bundler.loader.KeepsPartials)
    (h : (prepare tree withData b).on bundler = (outcome, after)) :
    after.config = bundler.config ∧ after.loader = bundler.loader ∧
      after.engine.partials = bundler.engine.partials :=
  on_prepare_relates hLoader (fun _ => rfl) (fun hFirst hSecond => hSecond.trans hFirst) h

namespace Call

/-- The partials that a call registers; none if its template is refused. -/
def added (call : Call) (bundler : Bundler σ) : List Partial :=
  match (prepare call.tree call.withData call.template).on bundler with
  | (.error _, _) => []
  | (.ok b, prepared) => registered call.tree prepared b

/-- A call adds its partials to those of the bundler, whatever becomes of it. -/
theorem on_work_keeps (call : Call) {bundler : Bundler σ}
    (hLoader : bundler.loader.KeepsPartials) :
    let after := (call.work.on bundler).2
    after.config.noPartials = bundler.config.noPartials ∧ after.loader = bundler.loader ∧
      after.engine.partials = bundler.engine.partials ++ call.added bundler := by
  rw [added, work_leaves]
  rcases hPrepare : (prepare call.tree call.withData call.template).on bundler with
    ⟨e | b, prepared⟩
  · obtain ⟨hConfig, hSame, hPartials⟩ := on_prepare_keeps hLoader hPrepare
    exact ⟨congrArg BundlerConfig.noPartials hConfig, hSame, by simpa using hPartials⟩
  · obtain ⟨hConfig, hSame, hPartials⟩ := on_prepare_keeps hLoader hPrepare
    have hRegister := on_registerPartials_keeps call.tree prepared b
    rwa [hConfig, hSame, hPartials] at hRegister

end Call

/-- The bundler that calls leave. -/
def after (bundler : Bundler σ) : List Call → Bundler σ
  | [] => bundler
  | call :: rest => (call.work.on bundler).2.after rest

/-- The partials that each of some calls registers. -/
def addedBy (bundler : Bundler σ) : List Call → List (List Partial)
  | [] => []
  | call :: rest => call.added bundler :: (call.work.on bundler).2.addedBy rest

theorem after_append (bundler : Bundler σ) (calls more : List Call) :
    bundler.after (calls ++ more) = (bundler.after calls).after more := by
  induction calls generalizing bundler with
  | nil => rfl
  | cons call rest ih => exact ih _

/-- The partials of a bundler are all that calls have added, in order. -/
theorem after_keeps {bundler : Bundler σ} (hLoader : bundler.loader.KeepsPartials)
    (calls : List Call) :
    (bundler.after calls).config.noPartials = bundler.config.noPartials ∧
      (bundler.after calls).engine.partials =
        bundler.engine.partials ++ (bundler.addedBy calls).flatten := by
  induction calls generalizing bundler with
  | nil => exact ⟨rfl, (List.append_nil _).symm⟩
  | cons call rest ih =>
      obtain ⟨hConfig, hSame, hPartials⟩ := call.on_work_keeps hLoader
      rw [← hSame] at hLoader
      obtain ⟨hRestConfig, hRestPartials⟩ := ih hLoader
      refine ⟨hRestConfig.trans hConfig, ?_⟩
      rw [after, addedBy, hRestPartials, hPartials, List.flatten_cons, List.append_assoc]

/-- What is precompiled with success has the artifact of its template, unless a wrapper was put
around it, and the artifacts of all partials that the bundler then has. -/
theorem Call.precompile_eq_ok {call : Call} {bundler later : Bundler σ} {b : Bundling}
    (hJob : call.job = .precompile) (h : call.work.on bundler = (.ok b, later)) :
    ∃ body artifact, b.body? = some body ∧ later.engine.precompile body = .ok artifact ∧
      (b.wrapper? = none → b.result? = some artifact) ∧
      b.partials =
        if later.config.noPartials then [] else later.engine.partials.map precompiled := by
  obtain ⟨c, d, prepared, -, -, hFinish⟩ := work_eq_ok h
  rw [finish, hJob] at hFinish
  obtain ⟨e, hPrecompiled, hWrap⟩ := Outcome.bind_eq_ok.mp hFinish
  obtain ⟨-, body, artifact, hBody, hArtifact, rfl⟩ := precompileBody_eq_ok.mp hPrecompiled
  obtain ⟨hBare, result, rfl⟩ := wrap_eq_ok hWrap
  have hResult (hNone : _ = none) := congrArg Bundling.result? (hBare hNone)
  exact ⟨body, artifact, hBody, hArtifact, hResult, rfl⟩

/-- After any calls, failed or not, the partials of a bundler are those it had and those that the
calls have added, in order. A template that is then precompiled with success comes with the
artifacts of all of them and of those that it adds itself, repetitions included, or with none if
partials are disabled. -/
theorem partials_after (bundler : Bundler σ) (hLoader : bundler.loader.KeepsPartials)
    (calls : List Call) :
    (bundler.after calls).engine.partials =
        bundler.engine.partials ++ (bundler.addedBy calls).flatten ∧
      ∀ call b later, call.job = .precompile →
        call.work.on (bundler.after calls) = (.ok b, later) →
          b.partials = if bundler.config.noPartials then [] else
            (bundler.engine.partials ++ (bundler.addedBy (calls ++ [call])).flatten).map
              precompiled := by
  refine ⟨(after_keeps hLoader calls).2, fun call b later hJob hDone => ?_⟩
  have hLater : bundler.after (calls ++ [call]) = later := by
    rw [after_append, after, hDone, after]
  obtain ⟨hConfig, hPartials⟩ := after_keeps hLoader (calls ++ [call])
  obtain ⟨-, -, -, -, -, hPrecompiled⟩ := Call.precompile_eq_ok hJob hDone
  rw [hPrecompiled, ← hLater, hConfig, hPartials]

/-- Two pages; one of them includes a partial that is no template. -/
def brokenSite : FileTree :=
  ⟨[(["page.hbs"], .file (Text.encode "\x7b\x7b> a\x7d\x7d\x7b\x7b> b\x7d\x7d")),
    (["a.hbs"], .file (Text.encode "\x7b\x7b#if\x7d\x7d")), (["b.hbs"], .file (Text.encode "text")),
    (["other.hbs"], .file (Text.encode "\x7b\x7b> b\x7d\x7d"))], []⟩

/-- A page that fails leaves a partial that comes with the next page. -/
theorem partials_after_broken :
    let bundler := new {}
    let page : Call := ⟨.compile, brokenSite, { source? := some (.file ⟨"page.hbs"⟩) }⟩
    let other : Call := ⟨.precompile, brokenSite, { source? := some (.file ⟨"other.hbs"⟩) }⟩
    bundler.loader.KeepsPartials ∧ (page.work.on bundler).1.isOk = false ∧
      (bundler.after [page]).engine.partials = [⟨"b", "text"⟩] ∧
      ∃ b later, other.work.on (bundler.after [page]) = (.ok b, later) ∧
        b.partials = [⟨"b", "text"⟩, ⟨"b", "text"⟩].map precompiled := by
  intro bundler page other
  have hAdded : bundler.addedBy [page] = [[⟨"b", "text"⟩]] ∧
      bundler.addedBy [page, other] = [[⟨"b", "text"⟩], [⟨"b", "text"⟩]] := by decide +kernel
  have hFails : (page.work.on bundler).1.isOk = false := by decide +kernel
  have hWorks : (other.work.on (bundler.after [page])).1.isOk = true := by decide +kernel
  obtain ⟨b, later, hDone⟩ := Work.exists_of_isOk hWorks
  obtain ⟨hPartials, hPrecompiled⟩ :=
    partials_after bundler HelperLoader.script_keepsPartials [page]
  rw [hAdded.1] at hPartials
  have hBundle := hPrecompiled other b later rfl hDone
  rw [List.singleton_append, hAdded.2] at hBundle
  exact ⟨HelperLoader.script_keepsPartials, hFails, hPartials, b, later, hDone, hBundle⟩

end Bundler
end TemplateBundle
