import TemplateBundle.Proofs.Engine
import TemplateBundle.Proofs.Render.Agreement

/-! Engines that agree in what a template looks up render it alike. -/
namespace TemplateBundle.Engine

open Json (Value)

/-- The engines find the same helpers. -/
structure SameHelpers (engine other : Engine) : Prop where
  helpers : ∀ name, other.helpers.lookup name = engine.helpers.lookup name
  scripts : ∀ name, other.scripts.lookup name = engine.scripts.lookup name

theorem agrees {allowed : String → Prop} {engine other : Engine}
    (hOptions : other.options = engine.options) (hHelpers : engine.SameHelpers other)
    (hTemplates : ∀ name, allowed name → other.templates.lookup name = engine.templates.lookup name)
    (hOnly : ∀ name template, allowed name → engine.templates.lookup name = some template →
      IncludesOnly allowed template) (fileText : Path → Option String) (data : Value) :
    Rendering.Agrees allowed ⟨engine.library fileText, data⟩ ⟨other.library fileText, data⟩ where
  data := rfl
  helper? := by
    funext name
    simp only [library, Engine.helper?, hOptions, hHelpers.helpers, hHelpers.scripts]
  hasHelper := by
    funext name
    simp only [library, hasHelper, hHelpers.helpers]
  strict := by simp only [library, hOptions]
  escapes := by simp only [library, hOptions]
  template? name hName := (hTemplates name hName).symm
  includesOnly := hOnly

/-- A text renders the same on engines that agree in the names that it includes. -/
theorem renderText_congr {allowed : String → Prop} {engine other : Engine}
    (hOptions : other.options = engine.options) (hHelpers : engine.SameHelpers other)
    (hTemplates : ∀ name, allowed name → other.templates.lookup name = engine.templates.lookup name)
    (hOnly : ∀ name template, allowed name → engine.templates.lookup name = some template →
      IncludesOnly allowed template) {text : String}
    (hText : ∀ template, engine.parse text = .ok template → IncludesOnly allowed template)
    (fileText : Path → Option String) (data : Value) :
    other.renderText fileText text data = engine.renderText fileText text data := by
  rw [renderText_eq, renderText_eq, parse_congr hOptions]
  cases hParse : engine.parse text with
  | error e => simp only [bind, Except.bind]
  | ok template =>
      have hAgrees := agrees hOptions hHelpers hTemplates hOnly fileText data
      have hName : Rendering.SameName allowed none none := fun _ _ => Iff.rfl
      have hRender := Rendering.render_congr hAgrees hName (hText template hParse)
      simp only [bind, Except.bind, renderTemplate, hRender]

end TemplateBundle.Engine
