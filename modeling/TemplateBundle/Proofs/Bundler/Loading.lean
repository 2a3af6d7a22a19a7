import TemplateBundle.Proofs.Bundler.Work
import TemplateBundle.Proofs.Engine.Layers

/-! Loading helpers, for a loader of which all depends on the file: it puts the same layer over
whatever the engine knows, and goes as far. -/
namespace TemplateBundle

namespace HelperLoader

variable {σ : Type}

/-- What the loader registers for a file, and whether it succeeds, depends on nothing else: neither
on what it remembers nor on what the engine knows. -/
def DependsOnFile (loader : HelperLoader σ) : Prop :=
  ∀ tree path options, ∃ layer outcome, ∀ memory (engine : Engine), engine.options = options →
    engine.Covered layer (loader.load tree path memory engine).1.2 ∧
      (loader.load tree path memory engine).2 = outcome

theorem script_dependsOnFile : script.DependsOnFile := by
  intro tree path options
  obtain ⟨layer, outcome, hScript⟩ := Engine.exists_layer_registerScript
    (fun p => (tree.readText p).toOption) path.templateName path
  refine ⟨layer, outcome.mapError .script, fun memory engine _ => ?_⟩
  obtain ⟨hCovered, rfl⟩ := hScript engine
  exact ⟨hCovered, rfl⟩

theorem DependsOnFile.loadAll {loader : HelperLoader σ} (h : loader.DependsOnFile)
    (tree : FileTree) (options : CompilerOptions) (paths : List Path) :
    ∃ layer outcome, ∀ memory (engine : Engine), engine.options = options →
      engine.Covered layer (loader.loadAll tree paths (memory, engine)).1.2 ∧
        (loader.loadAll tree paths (memory, engine)).2 = outcome := by
  induction paths with
  | nil => exact ⟨.empty, .ok (), fun _ engine _ => ⟨.empty engine, rfl⟩⟩
  | cons path rest ih =>
      obtain ⟨first, outcome, hFirst⟩ := h tree path options
      cases outcome with
      | error cause =>
          refine ⟨first, .error (.helperRegistration path.templateName path cause),
            fun memory engine hOptions => ?_⟩
          obtain ⟨hCovered, hOutcome⟩ := hFirst memory engine hOptions
          rw [HelperLoader.loadAll]
          rcases hLoad : loader.load tree path memory engine with ⟨⟨memory', engine'⟩, result⟩
          rw [hLoad] at hCovered hOutcome
          obtain rfl : result = .error cause := hOutcome
          exact ⟨hCovered, rfl⟩
      | ok _ =>
          obtain ⟨layer, last, hRest⟩ := ih
          refine ⟨layer.upon first, last, fun memory engine hOptions => ?_⟩
          obtain ⟨hCovered, hOutcome⟩ := hFirst memory engine hOptions
          rw [HelperLoader.loadAll]
          rcases hLoad : loader.load tree path memory engine with ⟨⟨memory', engine'⟩, result⟩
          rw [hLoad] at hCovered hOutcome
          obtain rfl : result = .ok () := hOutcome
          obtain ⟨hLater, hLast⟩ := hRest memory' engine' (hCovered.options.trans hOptions)
          exact ⟨hCovered.trans hLater, hLast⟩

/-- Files that load the same in another tree do so one after another. -/
theorem loadAll_congr {loader : HelperLoader σ} {tree other : FileTree} {files : List Path}
    (h : ∀ path ∈ files, loader.load other path = loader.load tree path) (start : σ × Engine) :
    loader.loadAll other files start = loader.loadAll tree files start := by
  induction files generalizing start with
  | nil => rfl
  | cons path rest ih =>
      obtain ⟨hFirst, hRest⟩ := List.forall_mem_cons.mp h
      rw [loadAll, loadAll, hFirst]
      rcases loader.load tree path start.1 start.2 with ⟨later, cause | _⟩
      · rfl
      · exact ih hRest later

end HelperLoader
namespace Bundler

variable {σ : Type}

theorem on_loadHelpers_loaded (tree : FileTree) {bundler : Bundler σ}
    (h : bundler.helpersLoaded = true) : (loadHelpers tree).on bundler = (.ok (), bundler) := by
  simp [loadHelpers, Work.on_bind, h]

/-- The trees have the same files of helpers, and the loader makes the same of each. -/
def SameLoads (loader : HelperLoader σ) (config : BundlerConfig) (tree other : FileTree) : Prop :=
  ∀ dir ∈ config.helpersDir?, helperFiles other dir = helperFiles tree dir ∧
    ∀ files, helperFiles tree dir = .ok files →
      ∀ path ∈ files, loader.load other path = loader.load tree path

theorem on_loadHelpers_congr {tree other : FileTree} {bundler : Bundler σ}
    (h : bundler.helpersLoaded = false → SameLoads bundler.loader bundler.config tree other) :
    (loadHelpers other).on bundler = (loadHelpers tree).on bundler := by
  cases hLoaded : bundler.helpersLoaded with
  | true => rw [on_loadHelpers_loaded other hLoaded, on_loadHelpers_loaded tree hLoaded]
  | false =>
      cases hDir : bundler.config.helpersDir? with
      | none => rw [on_loadHelpers_none hDir, on_loadHelpers_none hDir]
      | some dir =>
          obtain ⟨hFiles, hLoads⟩ := h hLoaded dir hDir
          rw [on_loadHelpers_some hLoaded hDir, on_loadHelpers_some hLoaded hDir, hFiles]
          cases hList : helperFiles tree dir with
          | error e => rfl
          | ok files =>
              dsimp only
              rw [HelperLoader.loadAll_congr (hLoads files hList)]

/-- What loading the helpers comes to on a bundler that has not loaded them. -/
structure Loads (tree : FileTree) (bundler : Bundler σ) (layer : Layer)
    (outcome : Except BundleError Unit) (after : Bundler σ) : Prop where
  run : (loadHelpers tree).on bundler = (outcome, after)
  covered : bundler.engine.Covered layer after.engine
  config : after.config = bundler.config
  loader : after.loader = bundler.loader
  loaded : after.helpersLoaded = outcome.isOk

/-- Every bundler of the same setup that has not loaded its helpers loads the same, as far as the
loader goes. -/
theorem exists_layer_loadHelpers {loader : HelperLoader σ} (hLoader : loader.DependsOnFile)
    (tree : FileTree) (helpersDir? : Option Path) (options : CompilerOptions) :
    ∃ layer outcome, ∀ bundler : Bundler σ, bundler.loader = loader →
      bundler.config.helpersDir? = helpersDir? → bundler.engine.options = options →
      bundler.helpersLoaded = false → ∃ after, Loads tree bundler layer outcome after := by
  cases helpersDir? with
  | none =>
      refine ⟨.empty, .ok (), fun bundler _ hDir _ _ => ?_⟩
      exact ⟨_, on_loadHelpers_none hDir, .empty _, rfl, rfl, rfl⟩
  | some dir =>
      cases hFiles : helperFiles tree dir with
      | error e =>
          refine ⟨.empty, .error e, fun bundler _ hDir _ hLoaded => ⟨bundler, ?_⟩⟩
          have hRun : (loadHelpers tree).on bundler = (.error e, bundler) := by
            simp [loadHelpers, Work.on_bind, hLoaded, hDir, hFiles]
          exact ⟨hRun, .empty _, rfl, rfl, hLoaded⟩
      | ok files =>
          obtain ⟨layer, outcome, hAll⟩ := hLoader.loadAll tree options files
          refine ⟨layer, outcome, fun bundler hSame hDir hOptions hLoaded => ?_⟩
          subst hSame
          obtain ⟨hCovered, hOutcome⟩ := hAll bundler.memory bundler.engine hOptions
          rcases hLoad : bundler.loader.loadAll tree files (bundler.memory, bundler.engine) with
            ⟨⟨memory, engine⟩, result⟩
          rw [hLoad] at hCovered hOutcome
          obtain rfl : result = outcome := hOutcome
          have hRun : (loadHelpers tree).on bundler =
              (result, { bundler with memory, engine, helpersLoaded := result.toBool }) := by
            simp [loadHelpers, Work.on_bind, hLoaded, hDir, hFiles, hLoad]
          exact ⟨_, hRun, hCovered, rfl, rfl, rfl⟩

end Bundler
end TemplateBundle
