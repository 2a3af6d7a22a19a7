import TemplateBundle.Proofs.Build.Templates
import TemplateBundle.Proofs.Files.Writing

/-! The course of a build that comes to its end: which templates its targets take up, one after
another, and what comes of each. All that a build counts, prints and writes is told by this course. -/
namespace TemplateBundle

namespace BuildTarget

/-- A template that a target takes up: where its result goes, and what comes of it. -/
structure Attempt where
  source : Path
  dest : Path
  outcome : Except BundleError String

namespace Attempt

/-- The text that is written for the template, and where; nothing if it fails. -/
def written? (a : Attempt) : Option (Path × String) :=
  match a.outcome with
  | .ok text => some (a.dest, text)
  | .error _ => none

/-- What is reported of the template; nothing if it is built. -/
def failure? (a : Attempt) : Option Failure :=
  match a.outcome with
  | .ok _ => none
  | .error e => some ⟨["Failed to build '" ++ a.source.text ++ "'"], .bundle e⟩

variable (source dest : Path) (text : String) (e : BundleError) (rest : List Attempt)

@[simp] theorem filterMap_written?_ok :
    (⟨source, dest, .ok text⟩ :: rest : List Attempt).filterMap written? =
      (dest, text) :: rest.filterMap written? := rfl

@[simp] theorem filterMap_written?_error :
    (⟨source, dest, .error e⟩ :: rest : List Attempt).filterMap written? =
      rest.filterMap written? := rfl

@[simp] theorem filterMap_failure?_ok :
    (⟨source, dest, .ok text⟩ :: rest : List Attempt).filterMap failure? =
      rest.filterMap failure? := rfl

@[simp] theorem filterMap_failure?_error :
    (⟨source, dest, .error e⟩ :: rest : List Attempt).filterMap failure? =
      ⟨["Failed to build '" ++ source.text ++ "'"], .bundle e⟩ :: rest.filterMap failure? := rfl

/-- Every attempt is either written or reported. -/
theorem length_written?_add_failure? (attempts : List Attempt) :
    (attempts.filterMap written?).length + (attempts.filterMap failure?).length =
      attempts.length := by
  induction attempts with
  | nil => rfl
  | cons a rest ih =>
      obtain ⟨source, dest, e | text⟩ := a
      · rw [filterMap_written?_error, filterMap_failure?_error, List.length_cons, List.length_cons]
        omega
      · rw [filterMap_written?_ok, filterMap_failure?_ok, List.length_cons, List.length_cons]
        omega

end Attempt

/-- The templates that a target takes up from a bundler, a count and a session on, each of them once:
the bundler works on the template, what comes of it is delivered, and so on with the next. -/
inductive Attempted (target : BuildTarget) (options : BuildOptions) (base : Path) :
    Bundler Unit → BuildSummary → Session → List Attempt → BuildSummary → Session → Prop where
  | done (bundler : Bundler Unit) (summary : BuildSummary) (session : Session) :
      Attempted target options base bundler summary session [] summary session
  | next {bundler after : Bundler Unit} {summary counted last : BuildSummary}
      {session between later finish : Session} {source : Path}
      {outcome : Except BundleError String} {attempts : List Attempt}
      (bundled : (Session.bundle bundler (bundleTemplate options base source)).run.run session =
        (.ok (after, outcome), between))
      (delivered : (target.deliver options base source summary outcome).run.run between =
        (.ok counted, later))
      (rest : Attempted target options base after counted later attempts last finish) :
      Attempted target options base bundler summary session
        (⟨source, target.outputPath base source options.outputExt, outcome⟩ :: attempts) last finish

theorem attempted_of_foldlM {target : BuildTarget} {options : BuildOptions} {base : Path}
    {sources : List Path} {state last : Bundler Unit × BuildSummary} {session finish : Session}
    (h : (sources.foldlM (target.buildTemplate options base) state).run.run session =
      (.ok last, finish)) :
    ∃ attempts, target.Attempted options base state.1 state.2 session attempts last.2 finish ∧
      attempts.map Attempt.source = sources := by
  induction sources generalizing state session with
  | nil =>
      cases h
      exact ⟨[], .done _ _ _, rfl⟩
  | cons source rest ih =>
      rw [List.foldlM_cons, Session.run_bind] at h
      split at h
      · next middle later hFirst =>
        obtain ⟨attempts, hRest, hSources⟩ := ih h
        rw [buildTemplate, Session.run_bind] at hFirst
        rcases hBundled : (Session.bundle state.1 (bundleTemplate options base source)).run.run
          session with ⟨f | ⟨after, outcome⟩, between⟩
        · rw [hBundled] at hFirst
          cases hFirst
        · rw [hBundled] at hFirst
          dsimp only at hFirst
          rw [Session.run_bind] at hFirst
          split at hFirst
          · next hDelivered =>
            cases hFirst
            exact ⟨_, .next hBundled hDelivered hRest, congrArg (source :: ·) hSources⟩
          · cases hFirst
      · cases h

theorem attempted_of_buildTemplates {target : BuildTarget} {options : BuildOptions} {base : Path}
    {sources : List Path} {bundler : Bundler Unit} {summary last : BuildSummary}
    {session finish : Session}
    (h : (target.buildTemplates options base sources bundler summary).run.run session =
      (.ok last, finish)) :
    ∃ attempts, target.Attempted options base bundler summary session attempts last finish ∧
      attempts.map Attempt.source = sources := by
  rw [buildTemplates_eq_foldlM, Session.run_bind] at h
  split at h
  · next hFold =>
    cases h
    exact attempted_of_foldlM hFold
  · cases h

end BuildTarget

namespace BuildManifest

open BuildTarget (Attempt)

/-- A target in the course of a build. -/
structure TargetRun where
  target : BuildTarget
  /-- The session when the target starts -/
  start : Session
  /-- The templates that the target has then -/
  sources : List Path
  attempts : List Attempt

/-- The targets that a build takes up, in order, each on the files that the earlier ones have left. A
target without templates is passed over with a warning. -/
inductive Built (defaults : BuildOptions) (base : Path) : List BuildTarget → Nat → BuildSummary →
    Session → List TargetRun → BuildSummary → Session → Prop where
  | done (number : Nat) (summary : BuildSummary) (session : Session) :
      Built defaults base [] number summary session [] summary session
  | empty {target : BuildTarget} {targets : List BuildTarget} {number : Nat}
      {summary last : BuildSummary} {session finish : Session} {runs : List TargetRun}
      (expanded : target.expandSources session.tree base = .ok [])
      (rest : Built defaults base targets (number + 1) summary
        { session with
          warnings := session.warnings ++ [.noTemplates number target.patterns] } runs last finish) :
      Built defaults base (target :: targets) number summary session
        (⟨target, session, [], []⟩ :: runs) last finish
  | next {target : BuildTarget} {targets : List BuildTarget} {number : Nat} {sources : List Path}
      {summary counted last : BuildSummary} {session later finish : Session}
      {attempts : List Attempt} {runs : List TargetRun}
      (expanded : target.expandSources session.tree base = .ok sources)
      (attempted : target.Attempted (target.options.mergedWith defaults) base
        (Bundler.new ((target.options.mergedWith defaults).bundlerConfig base)) summary session
        attempts counted later)
      (named : attempts.map Attempt.source = sources)
      (rest : Built defaults base targets (number + 1) counted later runs last finish) :
      Built defaults base (target :: targets) number summary session
        (⟨target, session, sources, attempts⟩ :: runs) last finish

variable {defaults : BuildOptions} {base : Path} {targets : List BuildTarget} {number : Nat}
  {summary last : BuildSummary} {session later finish : Session} {runs : List TargetRun}

theorem built_of_buildTargets
    (h : (buildTargets defaults base targets number summary).run.run session = (.ok last, finish)) :
    ∃ runs, Built defaults base targets number summary session runs last finish := by
  induction targets generalizing number summary session with
  | nil =>
      cases h
      exact ⟨[], .done _ _ _⟩
  | cons target targets ih =>
      rw [buildTargets, Session.run_bind] at h
      split at h
      · next counted later hTarget =>
        obtain ⟨runs, hRuns⟩ := ih h
        rw [BuildTarget.build, Session.run_bind, Session.run_get] at hTarget
        dsimp only at hTarget
        split at hTarget
        · cases hTarget
        · next hNone =>
          cases hTarget
          exact ⟨_, .empty hNone hRuns⟩
        · next sources _ hSome =>
          obtain ⟨attempts, hAttempted, hSources⟩ :=
            BuildTarget.attempted_of_buildTemplates hTarget
          exact ⟨_, .next hSome hAttempted hSources hRuns⟩
      · cases h

/-- A build that ends has read a manifest and taken up its targets. -/
theorem built_of_run {path? : Option Path}
    (h : (run path?).run.run session = (.ok last, finish)) :
    ∃ manifest warnings runs, load session.tree (path?.getD ⟨defaultName⟩) = .ok manifest ∧
      Built manifest.options (path?.getD ⟨defaultName⟩).templateDir manifest.targets 1 {}
        { session with warnings } runs last finish := by
  rw [run, Session.run_bind, Session.run_get] at h
  dsimp only at h
  rw [Session.run_bind, Session.run_lift] at h
  cases hLoad : load session.tree (path?.getD ⟨defaultName⟩) with
  | error f =>
      rw [hLoad] at h
      cases h
  | ok manifest =>
      rw [hLoad] at h
      dsimp only at h
      have hBuilt : ∃ warnings, (buildTargets manifest.options
          (path?.getD ⟨defaultName⟩).templateDir manifest.targets 1 {}).run.run
            { session with warnings } = (.ok last, finish) := by
        split at h
        · exact ⟨session.warnings ++ [Warning.noTargets (path?.getD ⟨defaultName⟩)], h⟩
        · exact ⟨session.warnings, h⟩
      obtain ⟨warnings, hTargets⟩ := hBuilt
      obtain ⟨runs, hRuns⟩ := built_of_buildTargets hTargets
      exact ⟨manifest, warnings, runs, rfl, hRuns⟩

theorem Built.map_target (h : Built defaults base targets number summary session runs last finish) :
    runs.map TargetRun.target = targets := by
  induction h with
  | done => rfl
  | empty _ _ ih => rw [List.map_cons, ih]
  | next _ _ _ _ ih => rw [List.map_cons, ih]

/-- Every target takes up the templates that it has when it starts, each once and in order. -/
theorem Built.sources (h : Built defaults base targets number summary session runs last finish) :
    ∀ run ∈ runs, run.target.expandSources run.start.tree base = .ok run.sources ∧
      run.attempts.map Attempt.source = run.sources := by
  induction h with
  | done => exact fun run hRun => (List.not_mem_nil hRun).elim
  | empty hNone _ ih => exact List.forall_mem_cons.mpr ⟨⟨hNone, rfl⟩, ih⟩
  | next hSome _ hSources _ ih => exact List.forall_mem_cons.mpr ⟨⟨hSome, hSources⟩, ih⟩

/-- What a session and a count tell of the attempts since a start. -/
structure Accounts (start : Session) (attempts : List Attempt) (summary : BuildSummary)
    (session : Session) : Prop where
  written : summary.written = (attempts.filterMap Attempt.written?).length
  failed : summary.failed = (attempts.filterMap Attempt.failure?).length
  output : session.output = start.output ++
    String.join ((attempts.filterMap Attempt.written?).map fun w => Session.writingLine w.1)
  errors : session.errors = start.errors ++
    String.join ((attempts.filterMap Attempt.failure?).map fun f => (Report.ofFailure f).display)
  files : start.tree.Holds (attempts.filterMap Attempt.written?) session.tree

namespace Accounts

variable {start : Session} {attempts more : List Attempt}

theorem refl (start : Session) : Accounts start [] {} start where
  written := rfl
  failed := rfl
  output := by simp
  errors := by simp
  files := .refl _

/-- Warnings are not accounted for. -/
theorem warned (h : Accounts start attempts summary session) (warnings : List Warning) :
    Accounts start attempts summary { session with warnings } :=
  ⟨h.written, h.failed, h.output, h.errors, h.files⟩

theorem delivered {target : BuildTarget} {options : BuildOptions} {source : Path}
    {outcome : Except BundleError String} {counted : BuildSummary}
    (h : Accounts start attempts summary session)
    (hDelivered : (target.deliver options base source summary outcome).run.run session =
      (.ok counted, later)) :
    Accounts start
      (attempts ++ [⟨source, target.outputPath base source options.outputExt, outcome⟩])
      counted later := by
  cases outcome with
  | error e =>
      cases (BuildTarget.run_deliver_error ..).symm.trans hDelivered
      constructor
      · simpa using h.written
      · simpa using h.failed
      · simpa using h.output
      · simp [h.errors, String.append_assoc]
      · simpa using h.files
  | ok text =>
      rw [BuildTarget.run_deliver_ok] at hDelivered
      dsimp only at hDelivered
      split at hDelivered
      · next tree hWrite =>
        cases hDelivered
        constructor
        · simpa using h.written
        · simpa using h.failed
        · simp [h.output, String.append_assoc]
        · simpa using h.errors
        · simpa using h.files.next hWrite
      · cases hDelivered

theorem attempted {target : BuildTarget} {options : BuildOptions} {bundler : Bundler Unit}
    (h : Accounts start attempts summary session)
    (hMore : target.Attempted options base bundler summary session more last finish) :
    Accounts start (attempts ++ more) last finish := by
  induction hMore generalizing attempts with
  | done => simpa using h
  | next hBundled hDelivered _ ih =>
      rw [Session.run_bundle] at hBundled
      cases hBundled
      have hNext := ih ((h.warned _).delivered hDelivered)
      rwa [List.append_assoc] at hNext

theorem built (h : Accounts start attempts summary session)
    (hRuns : Built defaults base targets number summary session runs last finish) :
    Accounts start (attempts ++ runs.flatMap TargetRun.attempts) last finish := by
  induction hRuns generalizing attempts with
  | done => simpa using h
  | empty _ _ ih => simpa using ih (h.warned _)
  | next _ hAttempted _ _ ih =>
      have hNext := ih (h.attempted hAttempted)
      rwa [List.append_assoc] at hNext

end Accounts

end BuildManifest
end TemplateBundle
