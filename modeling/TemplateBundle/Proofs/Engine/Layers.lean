import TemplateBundle.Proofs.Engine.Agreement

/-! What is registered in an engine lies as a layer over what the engine knew: a name is looked up
in the layer first. The same layer once more changes nothing that is looked up. -/
namespace TemplateBundle

open Json (Value)

/-- What is known under each name. -/
@[ext] structure Layer where
  template? : String → Option Template
  source? : String → Option String
  helper? : String → Option Helper
  script? : String → Option Path

namespace Layer

def empty : Layer := ⟨fun _ => none, fun _ => none, fun _ => none, fun _ => none⟩

/-- A layer over another: what the upper one knows hides what the lower one knows. -/
def upon (upper lower : Layer) : Layer where
  template? name := (upper.template? name).or (lower.template? name)
  source? name := (upper.source? name).or (lower.source? name)
  helper? name := (upper.helper? name).or (lower.helper? name)
  script? name := (upper.script? name).or (lower.script? name)

theorem upon_assoc (first second third : Layer) :
    (first.upon second).upon third = first.upon (second.upon third) := by
  simp only [upon, Option.or_assoc]

/-- A layer that lies there already adds nothing. -/
theorem upon_upon_self (upper lower : Layer) :
    upper.upon (upper.upon lower) = upper.upon lower := by
  simp only [upon, ← Option.or_assoc, Option.or_self]

/-- What is known of helpers alone. -/
def helpers (layer : Layer) : Layer :=
  { empty with helper? := layer.helper?, script? := layer.script? }

theorem helpers_upon (upper lower : Layer) :
    (upper.upon lower).helpers = upper.helpers.upon lower.helpers := rfl

/-- The layer with one entry. -/
def entry {α : Type} (key : String) (a : α) (name : String) : Option α :=
  if key = name then some a else none

theorem entry_or {α : Type} (key : String) (a : α) (entries : List (String × α)) (name : String) :
    ((key, a) :: entries).lookup name = (entry key a name).or (entries.lookup name) := by
  rw [Engine.lookup_cons_eq_ite, entry]
  by_cases hName : key = name
  · simp [hName]
  · simp [hName]

end Layer

namespace Engine

variable {engine between after other : Engine}

def known (engine : Engine) : Layer where
  template? name := engine.templates.lookup name
  source? := engine.partialSource?
  helper? name := engine.helpers.lookup name
  script? name := engine.scripts.lookup name

/-- The engine with a layer over what it knew. -/
structure Covered (engine : Engine) (layer : Layer) (after : Engine) : Prop where
  options : after.options = engine.options
  known : after.known = layer.upon engine.known

/-- The engines find the same under every name. -/
structure SameKnown (engine other : Engine) : Prop where
  options : other.options = engine.options
  known : other.known = engine.known

theorem Covered.empty (engine : Engine) : Covered engine .empty engine := ⟨rfl, rfl⟩

theorem Covered.trans {lower upper : Layer} (h : Covered engine lower between)
    (hNext : Covered between upper after) : Covered engine (upper.upon lower) after where
  options := hNext.options.trans h.options
  known := by rw [hNext.known, h.known, Layer.upon_assoc]

/-- The same layer once more makes no difference. -/
theorem Covered.again {layer : Layer} (h : Covered engine layer between)
    (hNext : Covered between layer after) : SameKnown between after where
  options := hNext.options
  known := by rw [hNext.known, h.known, Layer.upon_upon_self]

theorem SameKnown.of_eq (h : other = engine) : SameKnown engine other :=
  ⟨congrArg Engine.options h, congrArg Engine.known h⟩

theorem SameKnown.partialSource? (h : SameKnown engine other) (name : String) :
    other.partialSource? name = engine.partialSource? name :=
  congrFun (congrArg Layer.source? h.known) name

theorem sameHelpers_of_known (h : other.known.helpers = engine.known.helpers) :
    SameHelpers engine other :=
  ⟨congrFun (congrArg Layer.helper? h), congrFun (congrArg Layer.script? h)⟩

theorem SameKnown.renderText (h : SameKnown engine other) (fileText : Path → Option String)
    (text : String) (data : Value) :
    other.renderText fileText text data = engine.renderText fileText text data :=
  renderText_congr h.options (sameHelpers_of_known (congrArg Layer.helpers h.known))
    (fun name _ => congrFun (congrArg Layer.template? h.known) name)
    (fun _ template _ _ => includesOnly_true template)
    (fun template _ => includesOnly_true template) fileText data

/-- What an engine makes known under a partial's name. -/
def partialLayer (p : Partial) (template : Template) : Layer :=
  { Layer.empty with template? := Layer.entry p.name template
                     source? := Layer.entry p.name p.source }

theorem covered_withPartial (engine : Engine) (p : Partial) (template : Template) :
    Covered engine (partialLayer p template) (engine.withPartial p template) where
  options := rfl
  known := by
    ext1
    · funext name
      exact Layer.entry_or p.name template engine.templates name
    · funext name
      exact Layer.entry_or p.name p.source engine.sources name
    · rfl
    · rfl

/-- Registering partials puts the same layer over every engine of these options, and goes as far. -/
theorem exists_layer_registerPartials (options : CompilerOptions) (added : List Partial) :
    ∃ layer outcome, ∀ engine : Engine, engine.options = options →
      Covered engine layer (engine.registerPartials added).1 ∧
        (engine.registerPartials added).2 = outcome := by
  induction added with
  | nil => exact ⟨.empty, .ok (), fun engine _ => ⟨.empty engine, rfl⟩⟩
  | cons p rest ih =>
      cases hParse : (Engine.new options).parse p.source with
      | error e =>
          refine ⟨.empty, .error e, fun engine hOptions => ?_⟩
          have hFirst : engine.registerPartial p = .error e := by
            rw [registerPartial, registerTemplate, parse_eq_new hOptions, hParse]
            rfl
          rw [registerPartials, hFirst]
          exact ⟨.empty engine, rfl⟩
      | ok template =>
          obtain ⟨layer, outcome, hRest⟩ := ih
          refine ⟨layer.upon (partialLayer p template), outcome, fun engine hOptions => ?_⟩
          have hFirst : engine.registerPartial p = .ok (engine.withPartial p template) := by
            refine registerPartial_eq_ok.mpr ⟨template, ?_, rfl⟩
            rw [parse_eq_new hOptions, hParse]
          obtain ⟨hCovered, hOutcome⟩ := hRest (engine.withPartial p template) hOptions
          rw [registerPartials, hFirst]
          exact ⟨(covered_withPartial engine p template).trans hCovered, hOutcome⟩

/-- Engines of the same options take the same partials, or refuse the same one. -/
theorem outcome_registerPartials_congr {engine other : Engine}
    (h : other.options = engine.options) (added : List Partial) :
    (other.registerPartials added).2 = (engine.registerPartials added).2 := by
  obtain ⟨_, outcome, hAll⟩ := exists_layer_registerPartials engine.options added
  exact (hAll other h).2.trans (hAll engine rfl).2.symm

/-- Registering a script puts the same layer over every engine, and goes as far. -/
theorem exists_layer_registerScript (fileText : Path → Option String) (name : String)
    (path : Path) :
    ∃ layer outcome, ∀ engine : Engine,
      Covered engine layer (engine.registerScript fileText name path).1 ∧
        (engine.registerScript fileText name path).2 = outcome := by
  unfold registerScript
  cases fileText path with
  | none => exact ⟨.empty, .error .unreadable, fun engine => ⟨.empty engine, rfl⟩⟩
  | some text =>
      have hScript (engine : Engine) : Covered engine
          { Layer.empty with script? := Layer.entry name path }
          { engine with scripts := (name, path) :: engine.scripts } := by
        refine ⟨rfl, ?_⟩
        ext1
        · rfl
        · rfl
        · rfl
        · funext key
          exact Layer.entry_or name path engine.scripts key
      dsimp only
      cases Script.parse? text with
      | none => exact ⟨_, .error .malformed, fun engine => ⟨hScript engine, rfl⟩⟩
      | some script =>
          have hHelper (engine : Engine) : Covered engine
              { Layer.empty with helper? := Layer.entry name (.script script) }
              (engine.registerHelper name (.script script)) := by
            refine ⟨rfl, ?_⟩
            ext1
            · rfl
            · rfl
            · funext key
              exact Layer.entry_or name _ engine.helpers key
            · rfl
          exact ⟨_, .ok (), fun engine => ⟨(hScript engine).trans (hHelper _), rfl⟩⟩

end Engine

end TemplateBundle
