import TemplateBundle.Build.Build
import TemplateBundle.Proofs.Session

/-! The templates of a target, built one after another: what becomes of one of them, and the whole as
the sequence of these steps. -/
namespace TemplateBundle

namespace BuildTarget

variable {target : BuildTarget} {options : BuildOptions} {base : Path}

/-- Writes what was built of a template, or reports why there is nothing to write. -/
def deliver (target : BuildTarget) (options : BuildOptions) (base source : Path)
    (summary : BuildSummary) : Except BundleError String → Session.Work BuildSummary
  | .ok text => do
    Session.writeResult (target.outputPath base source options.outputExt) text
    return { summary with written := summary.written + 1 }
  | .error e => do
    Session.report ⟨["Failed to build '" ++ source.text ++ "'"], .bundle e⟩
    return { summary with failed := summary.failed + 1 }

theorem run_deliver_error (target : BuildTarget) (options : BuildOptions) (base source : Path)
    (summary : BuildSummary) (e : BundleError) (session : Session) :
    (target.deliver options base source summary (.error e)).run.run session =
      let failure : Failure := ⟨["Failed to build '" ++ source.text ++ "'"], .bundle e⟩
      (.ok { summary with failed := summary.failed + 1 },
        { session with errors := session.errors ++ (Report.ofFailure failure).display }) := rfl

theorem run_deliver_ok (target : BuildTarget) (options : BuildOptions) (base source : Path)
    (summary : BuildSummary) (text : String) (session : Session) :
    (target.deliver options base source summary (.ok text)).run.run session =
      let dest := target.outputPath base source options.outputExt
      match session.tree.write dest (Text.encode text) with
      | (tree, .ok ()) => (.ok { summary with written := summary.written + 1 },
        { session with tree, output := session.output ++ Session.writingLine dest })
      | (tree, .error e) => (.error (Session.writeFailure e), { session with tree }) := by
  rw [deliver, Session.run_bind, Session.run_writeResult]
  dsimp only
  rcases session.tree.write _ (Text.encode text) with ⟨tree, e | _⟩
  · rfl
  · rfl

/-- Builds one template with the bundler that the earlier ones have left. -/
def buildTemplate (target : BuildTarget) (options : BuildOptions) (base : Path)
    (state : Bundler Unit × BuildSummary) (source : Path) :
    Session.Work (Bundler Unit × BuildSummary) := do
  let (bundler, outcome) ← Session.bundle state.1 (bundleTemplate options base source)
  let summary ← target.deliver options base source state.2 outcome
  return (bundler, summary)

theorem buildTemplates_eq_foldlM (target : BuildTarget) (options : BuildOptions) (base : Path)
    (sources : List Path) (bundler : Bundler Unit) (summary : BuildSummary) :
    target.buildTemplates options base sources bundler summary =
      (sources.foldlM (target.buildTemplate options base) (bundler, summary) >>= fun state =>
        return state.2) := by
  induction sources generalizing bundler summary with
  | nil => rfl
  | cons source rest ih =>
      rw [buildTemplates, List.foldlM_cons, buildTemplate]
      simp only [bind_assoc]
      congr 1
      funext ⟨after, outcome⟩
      cases outcome with
      | ok text => simp only [ih, deliver, bind_assoc, pure_bind]
      | error e => simp only [ih, deliver, bind_assoc, pure_bind]

theorem run_buildTemplate (target : BuildTarget) (options : BuildOptions) (base : Path)
    (state : Bundler Unit × BuildSummary) (source : Path) (session : Session) :
    (target.buildTemplate options base state source).run.run session =
      let (outcome, after) := (bundleTemplate options base source session.tree).on state.1
      match (target.deliver options base source state.2 outcome).run.run { session with
        warnings := session.warnings ++ after.warnings.drop state.1.warnings.length } with
      | (.ok summary, later) => (.ok (after, summary), later)
      | (.error f, later) => (.error f, later) := by
  rw [buildTemplate, Session.run_bind, Session.run_bundle]
  rcases (bundleTemplate options base source session.tree).on state.1 with ⟨outcome, after⟩
  dsimp only
  rw [Session.run_bind]
  rcases (target.deliver options base source state.2 outcome).run.run _ with ⟨f | summary, later⟩
  · rfl
  · rfl

end BuildTarget
end TemplateBundle
