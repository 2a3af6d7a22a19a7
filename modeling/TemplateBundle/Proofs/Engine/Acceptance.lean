import TemplateBundle.Proofs.Engine

/-! Which texts engines take. A text comes into an engine to be rendered, to be precompiled, as a
partial or in an artifact, and is read each time with options of its own. Main statement: whether it
is taken, and why not, depends on nothing but the text, and what was taken does not turn out to be
malformed when it is rendered. -/
namespace TemplateBundle.Engine

open Json (Value)

/-- Whether a text is a template, and if not what is wrong with it. -/
def verdict (text : String) : Except TemplateError Unit :=
  (Template.parse false text).map fun _ => ()

/-- The attempt succeeds if the text is a template, and fails with what is wrong with it if not. -/
def GoesBy {α : Type} (text : String) (attempt : Except EngineError α) : Prop :=
  attempt.map (fun _ => ()) = (verdict text).mapError EngineError.template

section

variable {α β : Type} {text : String}

theorem goesBy_map {attempt : Except EngineError α} (h : GoesBy text attempt) (f : α → β) :
    GoesBy text (attempt.map f) := by
  rw [GoesBy, ← h]
  cases attempt with
  | error e => rfl
  | ok a => rfl

/-- The options with which an engine reads a text have no say in whether it can. -/
theorem goesBy_parse (engine : Engine) (text : String) : GoesBy text (engine.parse text) := by
  have hAlike := Template.alike_parse engine.options.preventIndent false text
  unfold GoesBy verdict parse
  revert hAlike
  rcases Template.parse engine.options.preventIndent text with e | template
  · rcases Template.parse false text with f | accepted
    · rintro rfl
      rfl
    · exact False.elim
  · rcases Template.parse false text with f | accepted
    · exact False.elim
    · exact fun _ => rfl

theorem goesBy_compile (engine : Engine) (text : String) : GoesBy text (engine.compile text) := by
  rw [compile_eq]
  exact goesBy_map (goesBy_parse engine text) _

theorem goesBy_precompile (engine : Engine) (text : String) :
    GoesBy text (engine.precompile text) :=
  goesBy_map (goesBy_compile engine text) fun _ => (Artifact.ofSource text).compress

theorem goesBy_registerTemplate (engine : Engine) (name text : String) :
    GoesBy text (engine.registerTemplate name text) :=
  goesBy_map (goesBy_parse engine text) fun template =>
    ({ engine with templates := (name, template) :: engine.templates } : Engine)

theorem goesBy_registerPartial (engine : Engine) (name text : String) :
    GoesBy text (engine.registerPartial ⟨name, text⟩) := by
  have hPartial : engine.registerPartial ⟨name, text⟩ =
      (engine.parse text).map (engine.withPartial ⟨name, text⟩) := by
    rw [registerPartial, registerTemplate]
    cases engine.parse text with
    | error e => rfl
    | ok template => rfl
  rw [hPartial]
  exact goesBy_map (goesBy_parse engine text) _

theorem goesBy_registerArtifact (engine : Engine) (name : String) {artifact : String}
    {a : Artifact} (hLoad : Artifact.load artifact = .ok a) :
    GoesBy a.source (engine.registerArtifact name artifact) := by
  rw [registerArtifact, hLoad]
  exact goesBy_registerTemplate engine name a.source

end

theorem render_ne_template (engine : Engine) {text : String} {compiled : CompiledTemplate}
    (h : engine.compile text = .ok compiled) (fileText : Path → Option String) (data : Value)
    (e : TemplateError) : compiled.render fileText data ≠ .error (.template e) := by
  rw [compile_eq] at h
  obtain ⟨template, hParse, rfl⟩ := Outcome.map_eq_ok.mp h
  rw [CompiledTemplate.render]
  dsimp only
  rw [hParse]
  intro hFails
  change engine.renderTemplate fileText none template data = _ at hFails
  unfold renderTemplate at hFails
  split at hFails
  · cases hFails
  · cases hFails

/-- All engines take the same texts wherever these come in, and refuse the others for the same
reason. A text that was taken is never found malformed when it is rendered. -/
theorem exists_verdict (text : String) : ∃ verdict : Except TemplateError Unit,
    ∀ engine : Engine,
      (engine.compile text).map (fun _ => ()) = verdict.mapError .template ∧
      (engine.precompile text).map (fun _ => ()) = verdict.mapError .template ∧
      (∀ name, (engine.registerPartial ⟨name, text⟩).map (fun _ => ()) =
        verdict.mapError .template) ∧
      (∀ name artifact a, Artifact.load artifact = .ok a → a.source = text →
        (engine.registerArtifact name artifact).map (fun _ => ()) = verdict.mapError .template) ∧
      ∀ compiled, engine.compile text = .ok compiled →
        ∀ fileText data e, compiled.render fileText data ≠ .error (.template e) := by
  refine ⟨verdict text, fun engine => ⟨goesBy_compile engine text, goesBy_precompile engine text,
    fun name => goesBy_registerPartial engine name text, ?_, ?_⟩⟩
  · rintro name artifact a hLoad rfl
    exact goesBy_registerArtifact engine name hLoad
  · exact fun compiled hCompile => render_ne_template engine hCompile

/-- An artifact may hold a text that is no template. Every engine refuses it for what every engine
finds wrong with the text. -/
theorem exists_verdict_unclosed :
    let text := "\x7b\x7b#if\x7d\x7d"
    let artifact := "\x7b\"compiler\":[1,\"\"],\"source\":\"\x7b\x7b#if\x7d\x7d\"\x7d"
    Artifact.load artifact = .ok ⟨1, "", text, []⟩ ∧
      ∃ e, ∀ engine : Engine, (engine.compile text).map (fun _ => ()) = .error (.template e) ∧
        (engine.registerArtifact "page" artifact).map (fun _ => ()) = .error (.template e) := by
  intro text artifact
  have hLoad : Artifact.load artifact = .ok ⟨1, "", text, []⟩ := by decide +kernel
  have hFails : ((new {}).compile text).isOk = false := by decide +kernel
  obtain ⟨verdict, hVerdict⟩ := exists_verdict text
  cases verdict with
  | ok _ =>
      have hCompile := (hVerdict (new {})).1
      cases hResult : (new {}).compile text with
      | ok compiled =>
          rw [hResult] at hFails
          cases hFails
      | error e =>
          rw [hResult] at hCompile
          cases hCompile
  | error e =>
      refine ⟨hLoad, e, fun engine => ?_⟩
      obtain ⟨hCompile, -, -, hArtifact, -⟩ := hVerdict engine
      exact ⟨hCompile, hArtifact "page" artifact _ hLoad rfl⟩

end TemplateBundle.Engine
