import Mathlib
import TemplateBundle.Proofs.Build.Attempts
import TemplateBundle.Proofs.Path.Order

/-! What a build has done when it comes to its end. Every template that its targets have was taken up
once, and is either written or reported; and every file that was written has the text of the last
template whose result goes there. -/
namespace TemplateBundle.BuildManifest

open BuildTarget (Attempt)

/-- A build that ends has taken up every template of every target once, those of a target in the order
of their paths. What it counts, prints and reports is what came of them, and no file is new or other
than before but the results of templates that count as written. -/
theorem run_attempts {path? : Option Path} {session later : Session} {summary : BuildSummary}
    (h : (run path?).run.run session = (.ok summary, later)) :
    let path := path?.getD ⟨defaultName⟩
    ∃ manifest warnings runs, load session.tree path = .ok manifest ∧
      Built manifest.options path.templateDir manifest.targets 1 {} { session with warnings } runs
        summary later ∧
      runs.map TargetRun.target = manifest.targets ∧
      (∀ run ∈ runs, run.target.expandSources run.start.tree path.templateDir = .ok run.sources ∧
        (run.sources.Pairwise fun a b => a.before b = true) ∧
        run.attempts.map Attempt.source = run.sources) ∧
      summary.written + summary.failed = (runs.map fun run => run.sources.length).sum ∧
      let attempts := runs.flatMap TargetRun.attempts
      let written := attempts.filterMap Attempt.written?
      let failures := attempts.filterMap Attempt.failure?
      summary.written = written.length ∧ summary.failed = failures.length ∧
      later.output = session.output ++ String.join (written.map fun w => Session.writingLine w.1) ∧
      later.errors = session.errors ++
        String.join (failures.map fun f => (Report.ofFailure f).display) ∧
      ∀ place bytes, later.tree.get? place = some (.file bytes) →
        session.tree.get? place ≠ some (.file bytes) →
          ∃ w ∈ written, later.tree.find w.1 = .ok (place, .file bytes) := by
  intro path
  obtain ⟨manifest, warnings, runs, hLoad, hBuilt⟩ := built_of_run h
  have hSources := hBuilt.sources
  have hAccounts := (Accounts.refl { session with warnings }).built hBuilt
  rw [List.nil_append] at hAccounts
  refine ⟨manifest, warnings, runs, hLoad, hBuilt, hBuilt.map_target, ?_, ?_, hAccounts.written,
    hAccounts.failed, hAccounts.output, hAccounts.errors, ?_⟩
  · intro run hRun
    obtain ⟨hExpand, hNames⟩ := hSources run hRun
    exact ⟨hExpand, BuildTarget.pairwise_expandSources hExpand, hNames⟩
  · have hLengths : (runs.map fun run => run.sources.length) =
        runs.map fun run => run.attempts.length := by
      refine List.map_congr_left fun run hRun => ?_
      rw [← (hSources run hRun).2, List.length_map]
    rw [hAccounts.written, hAccounts.failed, Attempt.length_written?_add_failure?, hLengths,
      List.length_flatMap]
  · exact fun place bytes hFile hChanged => hAccounts.files.exists_of_changed hFile hChanged

/-- A target with a template that is built and one that fails, and a target without templates. -/
def mixed : FileTree :=
  ⟨[(["good.hbs"], .file (Text.encode "G")), (["bad.hbs"], .file (Text.encode "\x7b\x7b#if\x7d\x7d")),
    (["Bundlebars.toml"], .file (Text.encode
      ("[[targets]]\nsrc = [\"good.hbs\", \"bad.hbs\"]\ndest = \"out\"\n" ++
        "[[targets]]\nsrc = [\"none.hbs\"]\ndest = \"out\"\n")))], []⟩

theorem run_attempts_mixed :
    let built := (run none).run.run { tree := mixed }
    built.1.toOption = some { written := 1, failed := 1 } ∧
      ∃ runs : List TargetRun, (runs.map fun run => run.sources.length).sum = 2 ∧
        (∀ run ∈ runs, run.attempts.map Attempt.source = run.sources) ∧
        let written := (runs.flatMap TargetRun.attempts).filterMap Attempt.written?
        written.length = 1 ∧
          built.2.output = String.join (written.map fun w => Session.writingLine w.1) ∧
          ∀ place bytes, built.2.tree.get? place = some (.file bytes) →
            mixed.get? place ≠ some (.file bytes) →
              ∃ w ∈ written, built.2.tree.find w.1 = .ok (place, .file bytes) := by
  intro built
  have hBuilt : built.1.toOption = some { written := 1, failed := 1 } := by decide +kernel
  refine ⟨hBuilt, ?_⟩
  obtain ⟨later, hRun⟩ := Outcome.exists_of_toOption hBuilt
  rw [hRun]
  obtain ⟨_, _, runs, -, -, -, hRuns, hSum, hWritten, -, hOutput, -, hFiles⟩ := run_attempts hRun
  refine ⟨runs, hSum.symm, fun run hMem => (hRuns run hMem).2.2, hWritten.symm, ?_, hFiles⟩
  rw [hOutput, String.empty_append]

/-- A build that ends has written as many files as its results go to places, which are no more than it
counts and just as many if no two results go to the same place. A result is there when the build ends
unless a later one went to its place. -/
theorem run_keeps_latest {path? : Option Path} {session later : Session} {summary : BuildSummary}
    (h : (run path?).run.run session = (.ok summary, later)) :
    let path := path?.getD ⟨defaultName⟩
    ∃ manifest warnings runs, load session.tree path = .ok manifest ∧
      Built manifest.options path.templateDir manifest.targets 1 {} { session with warnings } runs
        summary later ∧
      let written := (runs.flatMap TargetRun.attempts).filterMap Attempt.written?
      let places := written.filterMap fun w => later.tree.placeOf? w.1
      summary.written = written.length ∧ places.length = written.length ∧
      places.toFinset.card ≤ summary.written ∧
      (places.toFinset.card = summary.written ↔ places.Nodup) ∧
      (∀ place bytes, later.tree.get? place = some (.file bytes) →
        session.tree.get? place ≠ some (.file bytes) → place ∈ places) ∧
      ∀ before w after, written = before ++ w :: after →
        ∃ place content, later.tree.find w.1 = .ok (place, .file content) ∧
          ((∀ v ∈ after, later.tree.placeOf? v.1 ≠ some place) → content = Text.encode w.2) := by
  intro path
  obtain ⟨manifest, warnings, runs, hLoad, hBuilt⟩ := built_of_run h
  have hAccounts := (Accounts.refl { session with warnings }).built hBuilt
  rw [List.nil_append] at hAccounts
  have hPlaces := hAccounts.files.length_places
  refine ⟨manifest, warnings, runs, hLoad, hBuilt, hAccounts.written, hPlaces, ?_, ?_, ?_,
    hAccounts.files.latest⟩
  · rw [hAccounts.written, ← hPlaces]
    exact List.toFinset_card_le _
  · rw [hAccounts.written, ← hPlaces]
    exact Multiset.toFinset_card_eq_card_iff_nodup
  · intro place bytes hFile hChanged
    obtain ⟨w, hw, hFind⟩ := hAccounts.files.exists_of_changed hFile hChanged
    exact List.mem_filterMap.mpr ⟨w, hw, FileTree.placeOf?_of_find hFind⟩

/-- Two templates of one name in two directories. -/
def twins : FileTree :=
  ⟨[(["a"], .directory), (["a", "x.hbs"], .file (Text.encode "A")),
    (["b"], .directory), (["b", "x.hbs"], .file (Text.encode "B")),
    (["Bundlebars.toml"], .file (Text.encode
      "[[targets]]\nsrc = [\"a/x.hbs\", \"b/x.hbs\"]\ndest = \"out\"\n"))], []⟩

theorem run_keeps_latest_twins :
    let built := (run none).run.run { tree := twins }
    built.1.toOption = some { written := 2, failed := 0 } ∧
      ∃ written : List (Path × String),
        let places := written.filterMap fun w => built.2.tree.placeOf? w.1
        written.length = 2 ∧ (places.toFinset.card = 2 ↔ places.Nodup) ∧
        ∀ before w after, written = before ++ w :: after →
          ∃ place content, built.2.tree.find w.1 = .ok (place, .file content) ∧
            ((∀ v ∈ after, built.2.tree.placeOf? v.1 ≠ some place) →
              content = Text.encode w.2) := by
  intro built
  have hBuilt : built.1.toOption = some { written := 2, failed := 0 } := by decide +kernel
  refine ⟨hBuilt, ?_⟩
  obtain ⟨later, hRun⟩ := Outcome.exists_of_toOption hBuilt
  rw [hRun]
  obtain ⟨_, _, _, -, -, hWritten, -, -, hPlaces, -, hLatest⟩ := run_keeps_latest hRun
  exact ⟨_, hWritten.symm, hPlaces, hLatest⟩

/-- Two results that count as written go to one file, which has the text of the later one. -/
theorem run_loses_first :
    let built := (run none).run.run { tree := twins }
    let target : BuildTarget := ⟨["a/x.hbs", "b/x.hbs"], ⟨"out"⟩, {}⟩
    let text? := fun source : Path =>
      ((BuildTarget.bundleTemplate {} ⟨"."⟩ source twins).on (.new {})).1.toOption
    built.1.toOption = some { written := 2, failed := 0 } ∧
      built.2.tree.changesSince twins = [(["out", "x.html"], Text.encode "B")] ∧
      text? ⟨"a/x.hbs"⟩ = some "A" ∧
      (built.2.tree.readText (target.outputPath ⟨"."⟩ ⟨"a/x.hbs"⟩ ".html")).toOption = some "B" := by
  decide +kernel

end TemplateBundle.BuildManifest
