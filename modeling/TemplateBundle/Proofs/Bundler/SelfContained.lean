import TemplateBundle.Proofs.Bundler.History
import TemplateBundle.Proofs.Resolution.Search

/-! What is precompiled names no partial that does not come with it. Main statement: this holds
however long a bundler has worked with success, though files may change from one call to the next;
and of each partial that a template reaches the bundler knows the source that it has in this
call. -/
namespace TemplateBundle.Bundler

variable {σ : Type}

/-- Whether a call comes to look up partials. -/
def Call.looksUp (call : Call) (bundler : Bundler σ) : Bool :=
  match (prepare call.tree call.withData call.template).on bundler with
  | (.error _, _) => false
  | (.ok b, prepared) => findsPartials prepared.config b

/-- The bundlers that come of one through calls that succeed and look up partials. -/
inductive Driven (start : Bundler σ) : Bundler σ → Prop where
  | start : Driven start start
  | call {bundler after : Bundler σ} {call : Call} {b : Bundling} (prior : Driven start bundler)
      (hLooksUp : call.looksUp bundler = true) (last : call.work.on bundler = (.ok b, after)) :
      Driven start after

/-- Every partial that one of them includes is one of them. -/
def Closed (partials : List Partial) : Prop :=
  ∀ p ∈ partials, ∀ name ∈ Discovery.references p.source, ∃ q ∈ partials, q.name = name

theorem Closed.append {partials more : List Partial} (h : Closed partials) (hMore : Closed more) :
    Closed (partials ++ more) := by
  intro p hp name hName
  rcases List.mem_append.mp hp with hOld | hNew
  · obtain ⟨q, hq, hSame⟩ := h p hOld name hName
    exact ⟨q, List.mem_append_left more hq, hSame⟩
  · obtain ⟨q, hq, hSame⟩ := hMore p hNew name hName
    exact ⟨q, List.mem_append_right partials hq, hSame⟩

/-- What a search finds is closed: it goes on as long as anything else is included. -/
theorem closed_of_resolve {ε : Type} {body : String} {store : PartialStore ε}
    {included : List Partial} (h : (resolve body store).outcome = .ok included) :
    Closed included := by
  have hEnds := Resolution.endsAt_resolve body store
  intro p hp name hName
  obtain ⟨hReachable, hSource⟩ := ((hEnds.of_ok h).2.1 p).mp hp
  exact hEnds.exists_partial h (.through hReachable hSource hName)

theorem body_of_readTemplate {tree : FileTree} {b read : Bundling}
    (h : b.readTemplate tree = .ok read) : ∃ body, read.body? = some body := by
  unfold Bundling.readTemplate at h
  split at h
  · split at h
    · next hBody =>
      cases h
      exact Option.isSome_iff_exists.mp hBody
    · cases h
  · next source hSource =>
    obtain ⟨body, -, h⟩ := Outcome.bind_eq_ok.mp h
    cases source with
    | file path =>
        cases h
        exact ⟨body, rfl⟩
    | stream pieces fault? =>
        cases h
        exact ⟨body, rfl⟩

/-- The text of a template stays what was read. -/
theorem body_of_finish {call : Call} {bundler : Bundler σ} {b c : Bundling}
    (h : call.finish bundler b = .ok c) : c.body? = b.body? := by
  unfold Call.finish at h
  split at h
  · unfold render at h
    split at h
    · cases h
    · split at h
      · cases h
        rfl
      · cases h
  · obtain ⟨d, hPrecompiled, hWrap⟩ := Outcome.bind_eq_ok.mp h
    obtain ⟨-, _, _, -, -, rfl⟩ := precompileBody_eq_ok.mp hPrecompiled
    obtain ⟨-, _, rfl⟩ := wrap_eq_ok hWrap
    rfl

/-- What a call that succeeds has found, and what the bundler then knows of it. -/
structure Included (call : Call) (bundler after : Bundler σ) (body : String) (dir : Path)
    (ext : String) (included : List Partial) : Prop where
  partialsDir : after.config.partialsDir? = some dir
  partialsExt : after.config.partialsExt? = some ext
  searches : after.config.noPartials = false
  loader : after.loader = bundler.loader
  found : (resolve body (partialStore call.tree dir ext)).outcome = .ok included
  partials : after.engine.partials = bundler.engine.partials ++ included
  source : ∀ p ∈ included, after.engine.partialSource? p.name = some p.source

/-- The setup then says where partials were looked up. -/
theorem exists_place (config : BundlerConfig) (b : Bundling) :
    ∃ dir ext, (settled config b).partialsDir? = some dir ∧
      (settled config b).partialsExt? = some ext ∧
      ∀ tree, storeFor tree config b = partialStore tree dir ext :=
  ⟨_, _, rfl, rfl, fun _ => rfl⟩

theorem exists_included {call : Call} {bundler after : Bundler σ} {b : Bundling}
    (hLoader : bundler.loader.KeepsPartials) (hLooksUp : call.looksUp bundler = true)
    (hDone : call.work.on bundler = (.ok b, after)) :
    ∃ body dir ext included, b.body? = some body ∧
      Included call bundler after body dir ext included := by
  obtain ⟨c, d, prepared, hPrepare, hRegister, hFinish⟩ := Call.work_eq_ok hDone
  have hFinds : findsPartials prepared.config c = true := by
    rwa [Call.looksUp, hPrepare] at hLooksUp
  obtain ⟨-, hPrepared, hPartials⟩ := on_prepare_keeps hLoader hPrepare
  obtain ⟨read, context, hRead, -, rfl, -⟩ := prepare_eq_ok hPrepare
  obtain ⟨body, hBody⟩ := body_of_readTemplate hRead
  rw [← (withContext_template read context).2] at hBody
  obtain ⟨included, hFound, hEngine, rfl, hConfig⟩ :=
    registerPartials_eq_ok hFinds hBody hRegister
  have hKept := (on_registerPartials_keeps call.tree prepared (read.withContext context)).2.1
  rw [hRegister] at hKept
  have hRegistered := Engine.registered_of_registerPartials hEngine
  have hNames := ((Resolution.endsAt_resolve body _).of_ok hFound).1
  obtain ⟨dir, ext, hDir, hExt, hStore⟩ :=
    exists_place prepared.config (read.withContext context)
  refine ⟨body, dir, ext, included, ?_, ?_⟩
  · rw [body_of_finish hFinish]
    exact hBody
  exact {
    partialsDir := by rw [hConfig, hDir]
    partialsExt := by rw [hConfig, hExt]
    searches := by
      rw [hConfig]
      simp only [findsPartials, Bool.and_eq_true, Bool.not_eq_true'] at hFinds
      exact hFinds.1
    loader := hKept.trans hPrepared
    found := by rw [← hStore, hFound]
    partials := by rw [hRegistered.partials, hPartials]
    source := by
      intro p hp
      rw [hRegistered.source, (Engine.find?_eq_some_of_nodup hNames).mpr ⟨hp, rfl⟩]
      rfl }

/-- One call after another keeps what is registered closed. -/
theorem Driven.closed {start bundler : Bundler σ} (h : Driven start bundler)
    (hLoader : start.loader.KeepsPartials) (hEmpty : start.engine.partials = []) :
    bundler.loader.KeepsPartials ∧ Closed bundler.engine.partials := by
  induction h with
  | start =>
      refine ⟨hLoader, ?_⟩
      rw [hEmpty]
      exact fun p hp => (List.not_mem_nil hp).elim
  | call prior hLooksUp last ih =>
      obtain ⟨hKeeps, hClosed⟩ := ih
      obtain ⟨body, dir, ext, included, -, hIncluded⟩ := exists_included hKeeps hLooksUp last
      rw [hIncluded.loader, hIncluded.partials]
      exact ⟨hKeeps, hClosed.append (closed_of_resolve hIncluded.found)⟩

/-- The artifact of a text lists what the text includes. -/
theorem loads_precompiled {text : String} {partials : List Partial}
    (h : ∀ name ∈ Discovery.references text, ∃ q ∈ partials, q.name = name) :
    ∃ a, Artifact.load (Artifact.ofSource text).compress = .ok a ∧
      ∀ name ∈ a.partials, ∃ q ∈ partials.map precompiled, q.name = name := by
  refine ⟨Artifact.ofSource text, (Artifact.load_ofSource text).1, fun name hName => ?_⟩
  obtain ⟨q, hq, hSame⟩ := h name hName
  exact ⟨precompiled q, List.mem_map_of_mem hq, hSame⟩

/-- A bundler that has no partials to begin with makes nothing but self-contained bundles, as long
as its calls succeed and look up partials. After each call it has, for every partial that the
template reaches, the text of the file of that partial in this call; and whatever is named by the
artifact of a template, or by that of a partial in its bundle, is in its bundle. -/
theorem self_contained {start bundler after : Bundler σ} {call : Call} {b : Bundling}
    (hLoader : start.loader.KeepsPartials) (hEmpty : start.engine.partials = [])
    (hDriven : Driven start bundler) (hLooksUp : call.looksUp bundler = true)
    (hDone : call.work.on bundler = (.ok b, after)) :
    ∃ body dir ext, b.body? = some body ∧ after.config.partialsDir? = some dir ∧
      after.config.partialsExt? = some ext ∧
      (∀ name, Resolution.Reachable body (partialStore call.tree dir ext).fetch name →
        ∃ text, call.tree.readText (partialPath dir name ext) = .ok text ∧
          after.engine.partialSource? name = some text) ∧
      (call.job = .precompile → ∃ artifact, after.engine.precompile body = .ok artifact ∧
        (b.wrapper? = none → b.result? = some artifact) ∧
        ∀ text ∈ artifact :: b.partials.map Partial.source, ∃ a, Artifact.load text = .ok a ∧
          ∀ name ∈ a.partials, ∃ q ∈ b.partials, q.name = name) := by
  obtain ⟨hKeeps, -⟩ := hDriven.closed hLoader hEmpty
  obtain ⟨-, hClosed⟩ := (hDriven.call hLooksUp hDone).closed hLoader hEmpty
  obtain ⟨body, dir, ext, included, hBody, hIncluded⟩ := exists_included hKeeps hLooksUp hDone
  have hEnds := Resolution.endsAt_resolve body (partialStore call.tree dir ext)
  refine ⟨body, dir, ext, hBody, hIncluded.partialsDir, hIncluded.partialsExt, ?_, ?_⟩
  · intro name hName
    obtain ⟨p, hp, rfl⟩ := hEnds.exists_partial hIncluded.found hName
    have hSource := (((hEnds.of_ok hIncluded.found).2.1 p).mp hp).2
    exact ⟨p.source, Outcome.mapError_eq_ok.mp hSource, hIncluded.source p hp⟩
  · intro hJob
    obtain ⟨_, artifact, hSame, hArtifact, hResult, hPartials⟩ := Call.precompile_eq_ok hJob hDone
    obtain rfl := Option.some.inj (hBody.symm.trans hSame)
    rw [hIncluded.searches] at hPartials
    refine ⟨artifact, hArtifact, hResult, fun text hText => ?_⟩
    rw [hPartials] at hText ⊢
    -- What the template includes was found in this call, what a partial includes when it was found.
    rcases List.mem_cons.mp hText with rfl | hText
    · rw [(Engine.precompile_eq_ok.mp hArtifact).2]
      refine loads_precompiled fun name hName => ?_
      obtain ⟨q, hq, hSame⟩ := hEnds.exists_partial hIncluded.found (.direct hName)
      rw [hIncluded.partials]
      exact ⟨q, List.mem_append_right _ hq, hSame⟩
    · obtain ⟨_, hArt, rfl⟩ := List.mem_map.mp hText
      obtain ⟨p, hp, rfl⟩ := List.mem_map.mp hArt
      exact loads_precompiled (hClosed p hp)

/-- A page and the partials that are there at a time. -/
def siteWith (partials : List (String × String)) : FileTree :=
  ⟨(["page.hbs"], .file (Text.encode "\x7b\x7b> a\x7d\x7d")) ::
    partials.map fun p => ([p.1], .file (Text.encode p.2)), []⟩

/-- Between two calls a partial comes to include another one, and the file of the former is gone.
The bundle has both sources of the partial, and all that either of them includes. -/
theorem self_contained_changed :
    let page (job : Job) (partials : List (String × String)) : Call :=
      ⟨job, siteWith partials, { source? := some (.file ⟨"page.hbs"⟩) }⟩
    let earlier := page .compile [("a.hbs", "\x7b\x7b> b\x7d\x7d"), ("b.hbs", "text")]
    let call := page .precompile [("a.hbs", "\x7b\x7b> c\x7d\x7d"), ("c.hbs", "text")]
    let start := new {}
    let bundler := (earlier.work.on start).2
    start.loader.KeepsPartials ∧ start.engine.partials = [] ∧ Driven start bundler ∧
      call.looksUp bundler = true ∧ ∃ b after, call.work.on bundler = (.ok b, after) ∧
        b.partials.map Partial.name = ["b", "a", "c", "a"] ∧
        after.engine.partialSource? "a" = some "\x7b\x7b> c\x7d\x7d" ∧
        ∀ p ∈ b.partials, ∃ a, Artifact.load p.source = .ok a ∧
          ∀ name ∈ a.partials, ∃ q ∈ b.partials, q.name = name := by
  intro page earlier call start bundler
  have hLooksUp : earlier.looksUp start = true ∧ call.looksUp bundler = true := by decide +kernel
  have hFirst : (earlier.work.on start).1.isOk = true := by decide +kernel
  have hDriven : Driven start bundler := by
    change Driven start (earlier.work.on start).2
    obtain ⟨b, after, hDone⟩ := Work.exists_of_isOk hFirst
    rw [hDone]
    exact .call .start hLooksUp.1 hDone
  have hWorks : (call.work.on bundler).1.isOk = true := by decide +kernel
  have hLast : (call.work.on bundler).1.toOption.bind Bundling.body? = some "\x7b\x7b> a\x7d\x7d" ∧
      (call.work.on bundler).1.toOption.map (fun b => b.partials.map Partial.name) =
        some ["b", "a", "c", "a"] ∧
      (call.work.on bundler).2.config.partialsDir? = some ⟨"."⟩ ∧
      (call.work.on bundler).2.config.partialsExt? = some ".hbs" := by decide +kernel
  have hRead : call.tree.readText (partialPath ⟨"."⟩ "a" ".hbs") =
      .ok "\x7b\x7b> c\x7d\x7d" := by decide +kernel
  obtain ⟨b, after, hDone⟩ := Work.exists_of_isOk hWorks
  rw [hDone] at hLast
  obtain ⟨hBody, hNames, hDir, hExt⟩ := hLast
  obtain ⟨body, dir, ext, hSameBody, hSameDir, hSameExt, hSources, hBundle⟩ :=
    self_contained HelperLoader.script_keepsPartials rfl hDriven hLooksUp.2 hDone
  obtain rfl := Option.some.inj (hSameBody.symm.trans hBody)
  obtain rfl := Option.some.inj (hSameDir.symm.trans hDir)
  obtain rfl := Option.some.inj (hSameExt.symm.trans hExt)
  obtain ⟨text, hText, hSource⟩ := hSources "a" (.direct (by decide +kernel))
  obtain rfl := Except.ok.inj (hText.symm.trans hRead)
  obtain ⟨artifact, -, -, hClosed⟩ := hBundle rfl
  exact ⟨HelperLoader.script_keepsPartials, rfl, hDriven, hLooksUp.2, b, after, hDone,
    Option.some.inj hNames, hSource, fun p hp =>
      hClosed p.source (List.mem_cons_of_mem _ (List.mem_map_of_mem hp))⟩

end TemplateBundle.Bundler
