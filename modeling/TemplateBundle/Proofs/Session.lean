import TemplateBundle.Proofs.Bundler.Work
import TemplateBundle.Session

/-! The work of a session, step by step: what each step comes to and the session that it leaves. -/
namespace TemplateBundle.Session

theorem run_bind {α β : Type} (work : Session.Work α) (next : α → Session.Work β)
    (session : Session) :
    (work >>= next).run.run session =
      match work.run.run session with
      | (.ok a, later) => (next a).run.run later
      | (.error f, later) => (.error f, later) := by
  simp only [ExceptT.run_bind, StateT.run_bind]
  rcases work.run.run session with ⟨_ | a, later⟩
  · rfl
  · rfl

theorem run_bundle {σ α : Type} (bundler : Bundler σ)
    (work : FileTree → Bundler.Work σ α) (session : Session) :
    (Session.bundle bundler work).run.run session =
      let (outcome, after) := ((work session.tree).on bundler)
      (.ok (after, outcome), { session with
        warnings := session.warnings ++ after.warnings.drop bundler.warnings.length }) := rfl

theorem run_pure {α : Type} (a : α) (session : Session) :
    (pure a : Work α).run.run session = (.ok a, session) := rfl

theorem run_get (session : Session) :
    (get : Work Session).run.run session = (.ok session, session) := rfl

theorem run_set (next session : Session) :
    (set next : Work Unit).run.run session = (.ok (), next) := rfl

theorem run_lift {α : Type} (x : Except Failure α) (session : Session) :
    (liftM x : Work α).run.run session = (x, session) := by
  cases x <;> rfl

theorem run_report (f : Failure) (session : Session) :
    (report f).run.run session =
      (.ok (), { session with errors := session.errors ++ (Report.ofFailure f).display }) := rfl

theorem run_tryCatch {α : Type} (work : Work α) (handler : Failure → Work α) (session : Session) :
    (tryCatch work handler).run.run session =
      match work.run.run session with
      | (.ok a, later) => (.ok a, later)
      | (.error f, later) => (handler f).run.run later := by
  rw [ExceptT.run_tryCatch, StateT.run_bind]
  rcases work.run.run session with ⟨_ | a, later⟩
  · rfl
  · rfl

/-- Failures are reported one after another. -/
theorem run_forM_report (failures : List Failure) (session : Session) :
    (failures.forM report).run.run session =
      (.ok (), { session with
        errors := session.errors ++
          String.join (failures.map fun f => (Report.ofFailure f).display) }) := by
  induction failures generalizing session with
  | nil =>
      rw [List.map_nil, String.join_nil, String.append_empty]
      rfl
  | cons f rest ih =>
      rw [List.forM_eq_forM, List.forM_cons, ← List.forM_eq_forM, run_bind, run_report]
      dsimp only
      rw [ih, List.map_cons, String.join_cons, String.append_assoc]

/-- What is said of a result that is in its file. -/
def writingLine (dest : Path) : String := "Writing result to " ++ dest.text ++ "...OK\n"

theorem run_writeResult (dest : Path) (text : String) (session : Session) :
    (writeResult dest text).run.run session =
      match session.tree.write dest (Text.encode text) with
      | (tree, .ok ()) =>
        (.ok (), { session with tree, output := session.output ++ writingLine dest })
      | (tree, .error e) => (.error (writeFailure e), { session with tree }) := by
  simp only [writeResult, run_bind, run_get, run_set]
  rcases session.tree.write dest (Text.encode text) with ⟨tree, e | _⟩
  · rfl
  · rfl

end TemplateBundle.Session
