import TemplateBundle.Proofs.Bundler.Loading
import TemplateBundle.Proofs.Bundler.Lookups
import TemplateBundle.Proofs.Engine.Records
import TemplateBundle.Proofs.Path.Order

/-! Helpers that are loaded again and again. Main statement: until a bundler has loaded its helpers
once, it asks its loader each time for the files of the directory in order, up to the first that
fails; then it asks for nothing any more. Its helpers are those that the loader has registered. -/
namespace TemplateBundle

namespace HelperLoader

variable {σ : Type}

/-- What a loader is asked for: a file, with the files, the memory and the engine of that time. -/
structure Request (σ : Type) where
  tree : FileTree
  path : Path
  memory : σ
  engine : Engine

/-- What the loader makes of a request. -/
def answer (loader : HelperLoader σ) (request : Request σ) : (σ × Engine) × Except Cause Unit :=
  loader.load request.tree request.path request.memory request.engine

/-- The loader, with an account of what it was asked for. -/
def recorded (loader : HelperLoader σ) : HelperLoader (σ × List (Request σ)) where
  load tree path memory engine :=
    let request : Request σ := ⟨tree, path, memory.1, engine⟩
    let ((after, engine), outcome) := loader.answer request
    (((after, memory.2 ++ [request]), engine), outcome)

/-- Requests one after another, each with the memory and the engine that the earlier ones leave. -/
inductive Chain (loader : HelperLoader σ) : σ × Engine → List (Request σ) → σ × Engine → Prop where
  | nil (start : σ × Engine) : Chain loader start [] start
  | cons {request : Request σ} {requests : List (Request σ)} {after : σ × Engine}
      (rest : Chain loader (loader.answer request).1 requests after) :
      Chain loader (request.memory, request.engine) (request :: requests) after

/-- Requests for files in order: for all of them, or up to the first that fails. -/
inductive Round (loader : HelperLoader σ) (files : List Path) :
    List (Request σ) → Except BundleError Unit → Prop where
  | all {requests : List (Request σ)} (hFiles : files = requests.map Request.path)
      (hLoaded : ∀ request ∈ requests, (loader.answer request).2 = .ok ()) :
      Round loader files requests (.ok ())
  | upTo {done : List (Request σ)} {last : Request σ} {rest : List Path} {cause : Cause}
      (hFiles : files = done.map Request.path ++ last.path :: rest)
      (hLoaded : ∀ request ∈ done, (loader.answer request).2 = .ok ())
      (hFailed : (loader.answer last).2 = .error cause) :
      Round loader files (done ++ [last])
        (.error (.helperRegistration last.path.templateName last.path cause))

variable {loader : HelperLoader σ} {tree : FileTree} {files : List Path}
  {requests later : List (Request σ)} {outcome : Except BundleError Unit}
  {start between after : σ × Engine}

theorem Chain.trans (first : Chain loader start requests between)
    (second : Chain loader between later after) : Chain loader start (requests ++ later) after := by
  induction first with
  | nil start => exact second
  | cons rest ih => exact .cons (ih second)

theorem Round.cons {request : Request σ} (hLoaded : (loader.answer request).2 = .ok ())
    (rest : Round loader files requests outcome) :
    Round loader (request.path :: files) (request :: requests) outcome := by
  cases rest with
  | all hFiles hRest =>
      exact .all (by rw [hFiles, List.map_cons]) (List.forall_mem_cons.mpr ⟨hLoaded, hRest⟩)
  | @upTo done last rest cause hFiles hRest hFailed =>
      have hAll : request.path :: files = (request :: done).map Request.path ++ last.path :: rest := by
        rw [hFiles, List.map_cons, List.cons_append]
      exact .upTo hAll (List.forall_mem_cons.mpr ⟨hLoaded, hRest⟩) hFailed

theorem Round.failed {request : Request σ} {cause : Cause}
    (hFailed : (loader.answer request).2 = .error cause) (rest : List Path) :
    Round loader (request.path :: rest) [request]
      (.error (.helperRegistration request.path.templateName request.path cause)) := by
  have hFiles : request.path :: rest =
      ([] : List (Request σ)).map Request.path ++ request.path :: rest := rfl
  exact .upTo hFiles (fun _ h => nomatch h) hFailed

/-- The account changes nothing, and what is added to it is a round over the files. -/
theorem exists_round (loader : HelperLoader σ) (tree : FileTree) (files : List Path)
    (start : σ × Engine) :
    let alone := loader.loadAll tree files start
    ∃ requests,
      (∀ earlier, loader.recorded.loadAll tree files ((start.1, earlier), start.2) =
        (((alone.1.1, earlier ++ requests), alone.1.2), alone.2)) ∧
      Chain loader start requests alone.1 ∧ Round loader files requests alone.2 ∧
      ∀ request ∈ requests, request.tree = tree := by
  dsimp only
  induction files generalizing start with
  | nil =>
      refine ⟨[], fun earlier => ?_, .nil start, .all rfl (fun _ h => nomatch h),
        fun _ h => nomatch h⟩
      rw [List.append_nil]
      rfl
  | cons path rest ih =>
      obtain ⟨memory, engine⟩ := start
      let request : Request σ := ⟨tree, path, memory, engine⟩
      have hRecorded (earlier : List (Request σ)) :
          loader.recorded.load tree path (memory, earlier) engine =
            ((((loader.answer request).1.1, earlier ++ [request]), (loader.answer request).1.2),
              (loader.answer request).2) := rfl
      have hAlone : loader.load tree path memory engine = loader.answer request := rfl
      simp only [HelperLoader.loadAll, hRecorded, hAlone]
      obtain ⟨later, hLater, hChain, hRound, hTree⟩ := ih (loader.answer request).1
      rcases hAnswer : loader.answer request with ⟨next, cause | _⟩
      · have hNone : Chain loader (loader.answer request).1 [] next := by
          rw [hAnswer]
          exact .nil next
        have hFailed : Round loader (request.path :: rest) [request]
            (.error (.helperRegistration path.templateName path cause)) :=
          .failed (by rw [hAnswer]) rest
        exact ⟨[request], fun _ => rfl, .cons hNone, hFailed,
          fun _ h => by rw [List.mem_singleton.mp h]⟩
      · have hRest : Chain loader (loader.answer request).1 later
            (loader.loadAll tree rest next).1 := by
          rw [hAnswer] at hChain ⊢
          exact hChain
        rw [hAnswer] at hLater hRound
        refine ⟨request :: later, fun earlier => ?_, .cons hRest, hRound.cons (by rw [hAnswer]),
          List.forall_mem_cons.mpr ⟨rfl, hTree⟩⟩
        dsimp only
        rw [hLater, List.append_assoc, List.singleton_append]

/-- What the loader makes of an engine is what operations make of it, which may be others for each
request. -/
def Performs (loader : HelperLoader σ) (ops : Request σ → List Engine.Operation) : Prop :=
  ∀ request, (loader.answer request).1.2 = (request.engine.performAll (ops request)).1

/-- The helpers that the operations of a request register with success. -/
def Request.helpers (ops : Request σ → List Engine.Operation) (request : Request σ) : List String :=
  (request.engine.performAll (ops request)).2.filterMap Engine.Operation.helper?

/-- What is done with the engine for a file that is taken as a script. -/
def scriptOperations (request : Request Unit) : List Engine.Operation :=
  [.registerScript (fun p => (request.tree.readText p).toOption) request.path.templateName
    request.path]

theorem script_performs : script.Performs scriptOperations := fun _ => rfl

/-- The helpers after some requests are those before and those that the requests register. -/
theorem Chain.hasHelper (h : Chain loader start requests after)
    {ops : Request σ → List Engine.Operation} (hOps : loader.Performs ops) (name : String) :
    after.2.hasHelper name ↔
      start.2.hasHelper name ∨ ∃ request ∈ requests, name ∈ request.helpers ops := by
  induction h with
  | nil start => simp
  | @cons request requests after rest ih =>
      rw [ih, hOps request, Engine.hasHelper_performAll, List.exists_mem_cons_iff, or_assoc]
      rfl

end HelperLoader

namespace Bundler

open HelperLoader (Request Chain Round)

variable {σ : Type} {dir : Path} {tree : FileTree} {bundler : Bundler σ}

/-- The bundler, with an account of what its loader was asked for. -/
def recorded (bundler : Bundler σ) (earlier : List (Request σ)) :
    Bundler (σ × List (Request σ)) where
  config := bundler.config
  engine := bundler.engine
  loader := bundler.loader.recorded
  memory := (bundler.memory, earlier)
  helpersLoaded := bundler.helpersLoaded
  warnings := bundler.warnings

/-- Loads the helpers again and again, each time with the files as they are then. -/
def loadAgain (bundler : Bundler σ) (trees : List FileTree) : Bundler σ :=
  trees.foldl (fun b tree => ((loadHelpers tree).on b).2) bundler

/-- What the loader is asked for when the helpers are loaded again and again. -/
def requests (bundler : Bundler σ) (trees : List FileTree) : List (Request σ) :=
  ((bundler.recorded []).loadAgain trees).memory.2

/-- What comes of each time that the helpers are loaded. -/
def outcomes (bundler : Bundler σ) : List FileTree → List (Except BundleError Unit)
  | [] => []
  | tree :: trees =>
    let (outcome, after) := (loadHelpers tree).on bundler
    outcome :: after.outcomes trees

/-- The loader is asked for the files of the directory in order, if these can be listed. -/
def Asks (loader : HelperLoader σ) (dir : Path) (tree : FileTree) (requests : List (Request σ))
    (outcome : Except BundleError Unit) : Prop :=
  match tree.list dir with
  | .error e => requests = [] ∧ outcome = .error (.helpersLoad dir e)
  | .ok entries => ∃ files, files.Perm ((fileNames entries).map dir.join) ∧
      (files.Pairwise fun p q => q.before p = false) ∧
      (∀ request ∈ requests, request.tree = tree) ∧ Round loader files requests outcome

theorem exists_helperFiles {entries : List (String × FileEntry)}
    (h : tree.list dir = .ok entries) :
    ∃ files, helperFiles tree dir = .ok files ∧ files.Perm ((fileNames entries).map dir.join) ∧
      files.Pairwise fun p q => q.before p = false :=
  ⟨_, helperFiles_eq h, List.mergeSort_perm _ _, Path.pairwise_mergeSort _⟩

/-- What it comes to that the helpers are loaded once more. -/
structure LoadsOnce (dir : Path) (tree : FileTree) (bundler : Bundler σ)
    (requests : List (Request σ)) (outcome : Except BundleError Unit) (after : Bundler σ) :
    Prop where
  run : (loadHelpers tree).on bundler = (outcome, after)
  recorded : ∀ earlier, (loadHelpers tree).on (bundler.recorded earlier) =
    (outcome, after.recorded (earlier ++ requests))
  chain : Chain bundler.loader (bundler.memory, bundler.engine) requests
    (after.memory, after.engine)
  config : after.config = bundler.config
  loader : after.loader = bundler.loader
  loaded : after.helpersLoaded = true ↔ bundler.helpersLoaded = true ∨ outcome = .ok ()
  idle : bundler.helpersLoaded = true → requests = [] ∧ outcome = .ok () ∧ after = bundler
  asks : bundler.helpersLoaded = false → Asks bundler.loader dir tree requests outcome

theorem loadsOnce_of_loaded (hLoaded : bundler.helpersLoaded = true) :
    LoadsOnce dir tree bundler [] (.ok ()) bundler where
  run := on_loadHelpers_loaded tree hLoaded
  recorded earlier := by
    have hRecorded : (bundler.recorded earlier).helpersLoaded = true := hLoaded
    rw [List.append_nil]
    exact on_loadHelpers_loaded tree hRecorded
  chain := .nil _
  config := rfl
  loader := rfl
  loaded := by simp [hLoaded]
  idle _ := ⟨rfl, rfl, rfl⟩
  asks hNot := Bool.noConfusion (hLoaded.symm.trans hNot)

theorem loadsOnce_of_unlisted {e : IoError} (hLoaded : bundler.helpersLoaded = false)
    (hDir : bundler.config.helpersDir? = some dir) (hList : tree.list dir = .error e) :
    LoadsOnce dir tree bundler [] (.error (.helpersLoad dir e)) bundler := by
  have hFiles : helperFiles tree dir = .error (.helpersLoad dir e) := by rw [helperFiles, hList]
  have hRun := @on_loadHelpers_some _ tree bundler dir hLoaded hDir
  have hRecorded (earlier : List (Request σ)) :=
    @on_loadHelpers_some _ tree (bundler.recorded earlier) dir hLoaded hDir
  simp only [hFiles] at hRun hRecorded
  refine ⟨hRun, fun earlier => ?_, .nil _, rfl, rfl, by simp [hLoaded],
    fun hYet => Bool.noConfusion (hYet.symm.trans hLoaded), fun _ => ?_⟩
  · rw [List.append_nil]
    exact hRecorded earlier
  · rw [Asks, hList]
    exact ⟨rfl, rfl⟩

theorem exists_loadsOnce_of_listed {entries : List (String × FileEntry)}
    (hLoaded : bundler.helpersLoaded = false) (hDir : bundler.config.helpersDir? = some dir)
    (hList : tree.list dir = .ok entries) :
    ∃ requests outcome after, LoadsOnce dir tree bundler requests outcome after := by
  obtain ⟨files, hFiles, hPerm, hSorted⟩ := exists_helperFiles hList
  obtain ⟨requests, hAccount, hChain, hRound, hTree⟩ :=
    HelperLoader.exists_round bundler.loader tree files (bundler.memory, bundler.engine)
  have hRun := @on_loadHelpers_some _ tree bundler dir hLoaded hDir
  have hRecorded (earlier : List (Request σ)) :=
    @on_loadHelpers_some _ tree (bundler.recorded earlier) dir hLoaded hDir
  simp only [hFiles] at hRun hRecorded
  rcases hLoad : bundler.loader.loadAll tree files (bundler.memory, bundler.engine) with
    ⟨⟨memory, engine⟩, outcome⟩
  simp only [hLoad] at hAccount hChain hRound hRun
  let after : Bundler σ := { bundler with memory, engine, helpersLoaded := outcome.toBool }
  refine ⟨requests, outcome, after, hRun, fun earlier => ?_, hChain, rfl, rfl, ?_,
    fun hYet => Bool.noConfusion (hYet.symm.trans hLoaded), fun _ => ?_⟩
  · rw [hRecorded]
    simp only [recorded, hAccount]
    rfl
  · cases outcome with
    | error e => simp [after, hLoaded, Except.toBool]
    | ok _ => simp [after, Except.toBool]
  · rw [Asks, hList]
    exact ⟨files, hPerm, hSorted, hTree, hRound⟩

theorem exists_loadsOnce (bundler : Bundler σ) (hDir : bundler.config.helpersDir? = some dir)
    (tree : FileTree) :
    ∃ requests outcome after, LoadsOnce dir tree bundler requests outcome after := by
  cases hLoaded : bundler.helpersLoaded with
  | true => exact ⟨_, _, _, loadsOnce_of_loaded hLoaded⟩
  | false =>
      cases hList : tree.list dir with
      | error e => exact ⟨_, _, _, loadsOnce_of_unlisted hLoaded hDir hList⟩
      | ok entries => exact exists_loadsOnce_of_listed hLoaded hDir hList

/-- What it comes to that the helpers are loaded again and again. -/
structure LoadsMany (bundler : Bundler σ) (trees : List FileTree) : Prop where
  recorded : ∀ earlier, (bundler.recorded earlier).loadAgain trees =
    (bundler.loadAgain trees).recorded (earlier ++ bundler.requests trees)
  chain : Chain bundler.loader (bundler.memory, bundler.engine) (bundler.requests trees)
    ((bundler.loadAgain trees).memory, (bundler.loadAgain trees).engine)
  config : (bundler.loadAgain trees).config = bundler.config
  loader : (bundler.loadAgain trees).loader = bundler.loader
  loaded : (bundler.loadAgain trees).helpersLoaded = true ↔
    bundler.helpersLoaded = true ∨ .ok () ∈ bundler.outcomes trees

theorem LoadsOnce.requests_eq {requests : List (Request σ)} {outcome : Except BundleError Unit}
    {after : Bundler σ} (h : LoadsOnce dir tree bundler requests outcome after) :
    bundler.requests [tree] = requests := by
  have hRun := h.recorded []
  simp only [Bundler.requests, loadAgain, List.foldl_cons, List.foldl_nil, hRun]
  rfl

theorem LoadsMany.cons {requests : List (Request σ)} {outcome : Except BundleError Unit}
    {after : Bundler σ} {trees : List FileTree}
    (first : LoadsOnce dir tree bundler requests outcome after) (rest : LoadsMany after trees) :
    LoadsMany bundler (tree :: trees) := by
  have hAfter : bundler.loadAgain (tree :: trees) = after.loadAgain trees := by
    simp only [loadAgain, List.foldl_cons, first.run]
  have hRecorded (earlier : List (Request σ)) :
      (bundler.recorded earlier).loadAgain (tree :: trees) =
        (after.loadAgain trees).recorded (earlier ++ (requests ++ after.requests trees)) := by
    rw [← List.append_assoc, ← rest.recorded]
    simp only [loadAgain, List.foldl_cons, first.recorded]
  have hRequests : bundler.requests (tree :: trees) = requests ++ after.requests trees := by
    rw [Bundler.requests, hRecorded]
    rfl
  refine ⟨?_, ?_, ?_, ?_, ?_⟩
  · rw [hRequests, hAfter]
    exact hRecorded
  · have hRest := rest.chain
    rw [first.loader] at hRest
    rw [hRequests, hAfter]
    exact first.chain.trans hRest
  · rw [hAfter, rest.config, first.config]
  · rw [hAfter, rest.loader, first.loader]
  · rw [hAfter, rest.loaded, first.loaded, outcomes, first.run, List.mem_cons, or_assoc,
      @eq_comm _ outcome]

theorem loadsMany (bundler : Bundler σ) (hDir : bundler.config.helpersDir? = some dir)
    (trees : List FileTree) : LoadsMany bundler trees := by
  induction trees generalizing bundler with
  | nil =>
      have hNone : bundler.requests [] = [] := rfl
      refine ⟨fun earlier => ?_, .nil _, rfl, rfl, by simp [outcomes, loadAgain]⟩
      rw [hNone, List.append_nil]
      rfl
  | cons tree trees ih =>
      obtain ⟨requests, outcome, after, hOnce⟩ := exists_loadsOnce bundler hDir tree
      exact .cons hOnce (ih after (by rw [hOnce.config, hDir]))

/-- What is asked for is what was asked for before, and what is asked for last. -/
theorem LoadsMany.requests_concat {before : List FileTree} {requests : List (Request σ)}
    {outcome : Except BundleError Unit} {after : Bundler σ} (many : LoadsMany bundler before)
    (last : LoadsOnce dir tree (bundler.loadAgain before) requests outcome after) :
    bundler.requests (before ++ [tree]) = bundler.requests before ++ requests := by
  have hRun := last.recorded (bundler.requests before)
  have hBefore := many.recorded []
  rw [loadAgain, List.nil_append] at hBefore
  rw [Bundler.requests, loadAgain, List.foldl_append, hBefore, List.foldl_cons, List.foldl_nil, hRun]
  rfl

/-- A bundler that has loaded its helpers any number of times, with other files each time. Once this
has succeeded, it asks its loader for nothing, whatever the files are, and stays as it is. Until then
it asks for the files of the directory in order, up to the first that fails, which is refused; and
for nothing if the directory cannot be listed. What is asked for is all that changes the engine: to
the helpers that it had, which are two if it is new, come those that the loader registers. -/
theorem loadAgain_until_loaded (bundler : Bundler σ)
    (hDir : bundler.config.helpersDir? = some dir) (before : List FileTree) (tree : FileTree) :
    let now := bundler.loadAgain before
    let outcome := ((loadHelpers tree).on now).1
    let after := ((loadHelpers tree).on now).2
    let asked := now.requests [tree]
    let soFar := bundler.requests (before ++ [tree])
    let loaded := bundler.helpersLoaded = true ∨ .ok () ∈ bundler.outcomes before
    (loaded → asked = [] ∧ outcome = .ok () ∧ after = now) ∧
      (¬loaded → Asks bundler.loader dir tree asked outcome) ∧
      soFar = bundler.requests before ++ asked ∧
      Chain bundler.loader (bundler.memory, bundler.engine) soFar (after.memory, after.engine) ∧
      ∀ ops, bundler.loader.Performs ops → ∀ name,
        (after.engine.hasHelper name ↔ bundler.engine.hasHelper name ∨
          ∃ request ∈ soFar, name ∈ request.helpers ops) ∧
        ∀ options, bundler.engine = .new options →
          (bundler.engine.hasHelper name ↔ name = "var" ∨ name = "json") := by
  intro now outcome after asked soFar loaded
  have hMany := loadsMany bundler hDir before
  obtain ⟨requests, result, next, hOnce⟩ :=
    exists_loadsOnce now (by rw [hMany.config, hDir]) tree
  obtain rfl : asked = requests := hOnce.requests_eq
  obtain ⟨rfl, rfl⟩ : outcome = result ∧ after = next := Prod.mk.inj hOnce.run
  have hSoFar : soFar = bundler.requests before ++ asked := hMany.requests_concat hOnce
  have hLast := hOnce.chain
  rw [hMany.loader] at hLast
  have hChain := hSoFar ▸ hMany.chain.trans hLast
  refine ⟨fun hLoaded => hOnce.idle (hMany.loaded.mpr hLoaded), fun hNot => ?_, hSoFar, hChain,
    fun ops hOps name => ⟨hChain.hasHelper hOps name, fun options hNew => ?_⟩⟩
  · have hAsks := hOnce.asks (Bool.eq_false_iff.mpr fun hLoaded => hNot (hMany.loaded.mp hLoaded))
    rw [hMany.loader] at hAsks
    exact hAsks
  · rw [hNew]
    simpa using (Engine.Recorded.new options).helpers name

/-- A directory that is not there, then one with a script that is none, which is mended. -/
theorem loadAgain_until_loaded_mended :
    let bare : FileTree := ⟨[], []⟩
    let site : String → FileTree := fun script =>
      ⟨[(["helpers"], .directory), (["helpers", "more"], .directory),
        (["helpers", "a.rhai"], .file (Text.encode script))], []⟩
    let bundler := new { helpersDir? := some ⟨"helpers"⟩ }
    let now := bundler.loadAgain [bare, site "("]
    let mended := bundler.loadAgain [bare, site "(", site "2"]
    bundler.outcomes [bare, site "(", site "2"] =
        [.error (.helpersLoad ⟨"helpers"⟩ .notFound),
          .error (.helperRegistration "a" ⟨"helpers/a.rhai"⟩ (.script .malformed)), .ok ()] ∧
      (bundler.requests [bare, site "(", site "2"]).map Request.path =
        [⟨"helpers/a.rhai"⟩, ⟨"helpers/a.rhai"⟩] ∧
      Asks .script ⟨"helpers"⟩ (site "2") (now.requests [site "2"])
        ((loadHelpers (site "2")).on now).1 ∧
      (∀ tree, mended.requests [tree] = [] ∧ ((loadHelpers tree).on mended).1 = .ok ()) ∧
      now.engine.hasHelper "a" = false ∧ mended.engine.hasHelper "a" = true ∧
      ∀ name, mended.engine.hasHelper name ↔ (name = "var" ∨ name = "json") ∨
        ∃ request ∈ bundler.requests [bare, site "(", site "2"],
          name ∈ request.helpers HelperLoader.scriptOperations := by
  intro bare site bundler now mended
  have hOutcomes : bundler.outcomes [bare, site "(", site "2"] =
      [.error (.helpersLoad ⟨"helpers"⟩ .notFound),
        .error (.helperRegistration "a" ⟨"helpers/a.rhai"⟩ (.script .malformed)), .ok ()] := by
    decide +kernel
  have hNotYet : ¬(bundler.helpersLoaded = true ∨
      .ok () ∈ bundler.outcomes [bare, site "("]) := by decide +kernel
  obtain ⟨-, hAsks, -, -, hHelpers⟩ :=
    loadAgain_until_loaded bundler rfl [bare, site "("] (site "2")
  refine ⟨hOutcomes, by decide +kernel, hAsks hNotYet, fun tree => ?_, by decide +kernel,
    by decide +kernel, fun name => ?_⟩
  · have hLoaded : .ok () ∈ bundler.outcomes [bare, site "(", site "2"] := by
      rw [hOutcomes]
      exact List.mem_of_mem_getLast? rfl
    obtain ⟨hIdle, -⟩ := loadAgain_until_loaded bundler rfl [bare, site "(", site "2"] tree
    obtain ⟨hNone, hOk, -⟩ := hIdle (.inr hLoaded)
    exact ⟨hNone, hOk⟩
  · obtain ⟨hKnown, hNew⟩ := hHelpers _ HelperLoader.script_performs name
    rw [← hNew {} rfl]
    exact hKnown

end Bundler
end TemplateBundle
