import Mathlib.Data.List.Nodup
import TemplateBundle.Proofs.Artifact
import TemplateBundle.Proofs.Template.Acceptance

/-! Partials in an engine: what is known after they were registered, and that they may as well come
as artifacts and in another order. -/
namespace TemplateBundle

open Json (Value)

namespace Engine

variable {engine other after : Engine} {added : List Partial}

theorem parse_congr (h : engine.options = other.options) : engine.parse = other.parse := by
  funext text
  rw [parse, parse, h]

theorem parse_eq_new {options : CompilerOptions} (h : engine.options = options) :
    engine.parse = (new options).parse := parse_congr h

/-- An engine accepts just what it can read. -/
theorem compile_eq (engine : Engine) (text : String) :
    engine.compile text = (engine.parse text).map fun _ => ⟨engine, text⟩ := by
  have hAlike := Template.alike_parse false engine.options.preventIndent text
  unfold compile parse
  revert hAlike
  rcases Template.parse false text with e | accepted
  · rcases Template.parse engine.options.preventIndent text with f | template
    · exact fun hSame => congrArg (fun e => Except.error (EngineError.template e)) hSame
    · exact False.elim
  · rcases Template.parse engine.options.preventIndent text with f | template
    · exact False.elim
    · exact fun _ => rfl

/-- All engines precompile alike. -/
theorem precompile_congr (engine other : Engine) : engine.precompile = other.precompile := by
  funext text
  unfold precompile compile
  cases Template.parse false text with
  | error e => rfl
  | ok template => rfl

/-- A text that is accepted renders as the template that the engine reads in it. -/
theorem renderText_eq (engine : Engine) (fileText : Path → Option String) (text : String)
    (data : Value) : engine.renderText fileText text data = (do
      let template ← engine.parse text
      engine.renderTemplate fileText none template data) := by
  rw [renderText, compile_eq]
  cases hParse : engine.parse text with
  | error e => rfl
  | ok template => simp only [Except.map, CompiledTemplate.render, hParse, bind, Except.bind]

/-- The engines have the same options and know the same templates. -/
structure SameTemplates (engine other : Engine) : Prop where
  options : other.options = engine.options
  templates : other.templates = engine.templates
  partials : other.partials = engine.partials

theorem SameTemplates.refl (engine : Engine) : SameTemplates engine engine := ⟨rfl, rfl, rfl⟩

theorem SameTemplates.trans {first second third : Engine} (h : SameTemplates first second)
    (hNext : SameTemplates second third) : SameTemplates first third :=
  ⟨hNext.options.trans h.options, hNext.templates.trans h.templates,
    hNext.partials.trans h.partials⟩

/-- The template of a name once partials were registered: the last of them counts. -/
def templateWith? (engine : Engine) (added : List Partial) (name : String) : Option Template :=
  match added.reverse.find? fun p => p.name = name with
  | some p => (engine.parse p.source).toOption
  | none => engine.templates.lookup name

/-- Partials hide what was known under their names. -/
theorem templateWith?_eq {name : String} (hOptions : other.options = engine.options)
    (hOther : (∀ p ∈ added, p.name ≠ name) →
      other.templates.lookup name = engine.templates.lookup name) :
    other.templateWith? added name = engine.templateWith? added name := by
  rw [templateWith?, templateWith?, parse_congr hOptions]
  split
  · rfl
  · next hNone =>
    refine hOther fun p hp hName => ?_
    exact List.find?_eq_none.mp hNone p (List.mem_reverse.mpr hp) (decide_eq_true hName)

theorem templateWith?_congr (hOptions : other.options = engine.options)
    (hTemplates : other.templates = engine.templates) (added : List Partial) :
    other.templateWith? added = engine.templateWith? added :=
  funext fun _ => templateWith?_eq hOptions fun _ => by rw [hTemplates]

/-- What an engine that knew nothing under a name then knows comes of one of the partials. -/
theorem exists_of_templateWith? {name : String} {template : Template}
    (h : engine.templateWith? added name = some template)
    (hNone : engine.templates.lookup name = none) :
    ∃ p ∈ added, engine.parse p.source = .ok template := by
  rw [templateWith?] at h
  split at h
  · next p hFound =>
    refine ⟨p, List.mem_reverse.mp (List.mem_of_find?_eq_some hFound), ?_⟩
    cases hParse : engine.parse p.source with
    | error e => simp [hParse, Except.toOption] at h
    | ok parsed => simp_all [Except.toOption]
  · rw [hNone] at h
    cases h

/-- The engine once a partial is registered that has this template. -/
def withPartial (engine : Engine) (p : Partial) (template : Template) : Engine :=
  { engine with
    templates := (p.name, template) :: engine.templates
    sources := (p.name, p.source) :: engine.sources
    partials := engine.partials ++ [p] }

/-- The latest entry of a name counts. -/
theorem lookup_cons_eq_ite {α : Type} (key name : String) (a : α) (entries : List (String × α)) :
    ((key, a) :: entries).lookup name = if key = name then some a else entries.lookup name := by
  rw [List.lookup_cons]
  by_cases hName : key = name
  · simp [hName]
  · simp [hName, beq_false_of_ne (Ne.symm hName)]

/-- The last of some partials that has a name: the one in question only if no later one has it. -/
theorem find?_reverse_cons (p : Partial) (added : List Partial) (name : String) :
    ((p :: added).reverse.find? fun q => q.name = name) =
      (added.reverse.find? fun q => q.name = name).or (if p.name = name then some p else none) := by
  rw [List.reverse_cons, List.find?_append]
  by_cases hName : p.name = name
  · simp [hName]
  · simp [hName]

/-- What is known of an engine after partials were registered. -/
structure Registered (engine : Engine) (added : List Partial) (after : Engine) : Prop where
  options : after.options = engine.options
  helpers : after.helpers = engine.helpers
  scripts : after.scripts = engine.scripts
  partials : after.partials = engine.partials ++ added
  parses : ∀ p ∈ added, (engine.parse p.source).isOk
  lookup : ∀ name, after.templates.lookup name = engine.templateWith? added name
  source : ∀ name, after.partialSource? name =
    ((added.reverse.find? fun p => p.name = name).map Partial.source).or
      (engine.partialSource? name)

theorem Registered.nil : Registered engine [] engine where
  options := rfl
  helpers := rfl
  scripts := rfl
  partials := (List.append_nil _).symm
  parses _ h := (List.not_mem_nil h).elim
  lookup _ := rfl
  source _ := rfl

theorem Registered.cons {p : Partial} {template : Template}
    (hParse : engine.parse p.source = .ok template)
    (h : Registered (engine.withPartial p template) added after) :
    Registered engine (p :: added) after where
  options := h.options
  helpers := h.helpers
  scripts := h.scripts
  partials := by rw [h.partials, withPartial, List.append_assoc, List.singleton_append]
  parses q hq := by
    rcases List.mem_cons.mp hq with rfl | hq
    · rw [hParse]
      rfl
    · exact h.parses q hq
  lookup name := by
    rw [h.lookup name, templateWith?, templateWith?, find?_reverse_cons, withPartial]
    cases added.reverse.find? fun p => p.name = name with
    | some q => rfl
    | none =>
        by_cases hName : p.name = name
        · simp [hName, hParse, Except.toOption]
        · simp [lookup_cons_eq_ite, hName]
  source name := by
    rw [h.source name, find?_reverse_cons, partialSource?, withPartial]
    cases added.reverse.find? fun p => p.name = name with
    | some q => rfl
    | none =>
        by_cases hName : p.name = name
        · simp [hName]
        · simp [lookup_cons_eq_ite, hName, partialSource?]

/-- Just what is a template can be registered as a partial. -/
theorem registerPartial_eq_ok {p : Partial} : engine.registerPartial p = .ok after ↔
    ∃ template, engine.parse p.source = .ok template ∧ after = engine.withPartial p template := by
  rw [registerPartial, registerTemplate]
  cases hParse : engine.parse p.source with
  | error e => simp [bind, Except.bind]
  | ok template => simp [bind, Except.bind, withPartial, eq_comm]

theorem registered_of_foldlM (h : added.foldlM registerPartial engine = .ok after) :
    Registered engine added after := by
  induction added generalizing engine with
  | nil =>
      cases h
      exact .nil
  | cons p rest ih =>
      rw [List.foldlM_cons] at h
      obtain ⟨between, hFirst, hRest⟩ := Outcome.bind_eq_ok.mp h
      obtain ⟨template, hParse, rfl⟩ := registerPartial_eq_ok.mp hFirst
      exact .cons hParse (ih hRest)

theorem registerPartials_eq_ok : engine.registerPartials added = (after, .ok ()) ↔
    added.foldlM registerPartial engine = .ok after := by
  induction added generalizing engine with
  | nil =>
      unfold registerPartials
      simp [pure, Except.pure]
  | cons p rest ih =>
      unfold registerPartials
      rw [List.foldlM_cons]
      cases engine.registerPartial p with
      | error e => simp [bind, Except.bind]
      | ok between => exact ih

theorem registered_of_registerPartials (h : engine.registerPartials added = (after, .ok ())) :
    Registered engine added after :=
  registered_of_foldlM (registerPartials_eq_ok.mp h)

/-- Partials that are templates can be registered. -/
theorem exists_registered (h : ∀ p ∈ added, (engine.parse p.source).isOk) :
    ∃ after, added.foldlM registerPartial engine = .ok after := by
  induction added generalizing engine with
  | nil => exact ⟨engine, rfl⟩
  | cons p rest ih =>
      obtain ⟨template, hParse⟩ := Outcome.isOk_iff.mp (h p List.mem_cons_self)
      rw [List.foldlM_cons, registerPartial_eq_ok.mpr ⟨template, hParse, rfl⟩]
      exact ih fun q hq => h q (List.mem_cons_of_mem p hq)

/-- Of partials that are registered in order, those before the first that is no template are. -/
theorem registered_registerPartials (engine : Engine) (added : List Partial) :
    Registered engine (added.takeWhile fun p => (engine.parse p.source).isOk)
      (engine.registerPartials added).1 := by
  induction added generalizing engine with
  | nil => exact .nil
  | cons p rest ih =>
      unfold registerPartials
      cases hParse : engine.parse p.source with
      | error e =>
          have hFirst : engine.registerPartial p = .error e := by
            rw [registerPartial, registerTemplate, hParse]
            rfl
          have hFails : (Except.error e : Except EngineError Template).isOk = false := rfl
          simp only [hFirst, hParse, hFails, List.takeWhile_cons, Bool.false_eq_true, if_false]
          exact .nil
      | ok template =>
          have hFirst := registerPartial_eq_ok.mpr ⟨template, hParse, rfl⟩
          have hOk : (Except.ok template : Except EngineError Template).isOk = true := rfl
          simp only [hFirst, hParse, hOk, List.takeWhile_cons, if_true]
          exact .cons hParse (ih _)

theorem partials_registerPartials (engine : Engine) (added : List Partial) :
    (engine.registerPartials added).1.partials =
      engine.partials ++ added.takeWhile fun p => (engine.parse p.source).isOk :=
  (registered_registerPartials engine added).partials

/-! Artifacts. -/

/-- Just a template is precompiled, and what is written for it depends on its source alone. -/
theorem precompile_eq_ok {source text : String} : engine.precompile source = .ok text ↔
    (engine.parse source).isOk ∧ text = (Artifact.ofSource source).compress := by
  rw [precompile, compile_eq]
  cases engine.parse source with
  | error e => simp [bind, Except.bind, Except.map, Except.isOk, Except.toBool]
  | ok template => simp [bind, Except.bind, Except.map, Except.isOk, Except.toBool, eq_comm]

theorem registerPartialArtifact_ofSource (engine : Engine) (p : Partial) :
    engine.registerPartialArtifact p.name (Artifact.ofSource p.source).value.compress =
      engine.registerPartial p := by
  rw [registerPartialArtifact, (Artifact.load_ofSource p.source).2]
  rfl

theorem registerArtifact_ofSource (engine : Engine) (name source : String) :
    engine.registerArtifact name (Artifact.ofSource source).value.compress =
      engine.registerTemplate name source := by
  rw [registerArtifact, (Artifact.load_ofSource source).2]
  rfl

/-- Loads the artifacts of partials in an order, and then that of a template under its name. -/
def loadArtifacts (engine : Engine) (partials : List (String × Value)) (name : String)
    (template : Value) : Except EngineError Engine := do
  let engine ← partials.foldlM
    (fun engine entry => engine.registerPartialArtifact entry.1 entry.2.compress) engine
  engine.registerArtifact name template.compress

/-- Loading artifacts comes to registering their sources. -/
theorem loadArtifacts_ofSource (engine : Engine) (partials : List Partial) (name source : String) :
    engine.loadArtifacts (partials.map fun p => (p.name, (Artifact.ofSource p.source).value)) name
      (Artifact.ofSource source).value = (do
        let engine ← partials.foldlM registerPartial engine
        engine.registerTemplate name source) := by
  have hPartial : (fun (engine : Engine) (p : Partial) => engine.registerPartialArtifact p.name
      (Artifact.ofSource p.source).value.compress) = registerPartial := by
    funext engine p
    exact registerPartialArtifact_ofSource engine p
  have hTemplate : (fun engine : Engine => engine.registerArtifact name
      (Artifact.ofSource source).value.compress) =
        fun engine => engine.registerTemplate name source := by
    funext engine
    exact registerArtifact_ofSource engine name source
  rw [loadArtifacts, List.foldlM_map, hPartial, hTemplate]

/-- The artifacts of templates can be loaded; that of the template itself hides a partial of its
name. -/
theorem exists_loaded {body : String} {template : Template}
    (hAdded : ∀ p ∈ added, (engine.parse p.source).isOk) (hBody : engine.parse body = .ok template)
    (name : String) :
    ∃ loaded, engine.loadArtifacts
        (added.map fun p => (p.name, (Artifact.ofSource p.source).value)) name
        (Artifact.ofSource body).value = .ok loaded ∧
      loaded.options = engine.options ∧ loaded.helpers = engine.helpers ∧
      loaded.scripts = engine.scripts ∧ ∀ key, loaded.templates.lookup key =
        if key = name then some template else engine.templateWith? added key := by
  obtain ⟨after, hRegister⟩ := exists_registered hAdded
  have hRegistered := registered_of_foldlM hRegister
  have hLast : after.parse body = .ok template := by
    rw [parse_congr hRegistered.options, hBody]
  refine ⟨{ after with templates := (name, template) :: after.templates }, ?_, hRegistered.options,
    hRegistered.helpers, hRegistered.scripts, fun key => ?_⟩
  · have hTemplate : after.registerTemplate name body =
        .ok { after with templates := (name, template) :: after.templates } := by
      rw [registerTemplate, hLast]
      rfl
    rw [loadArtifacts_ofSource, hRegister]
    exact hTemplate
  · simp only [lookup_cons_eq_ite, hRegistered.lookup, @eq_comm _ name]

/-! Orders. -/

theorem find?_eq_some_of_nodup (hNames : (added.map Partial.name).Nodup) {name : String}
    {p : Partial} : (added.reverse.find? fun p => p.name = name) = some p ↔
      p ∈ added ∧ p.name = name := by
  constructor
  · intro h
    have hMem := List.mem_reverse.mp (List.mem_of_find?_eq_some h)
    have hName := List.find?_some h
    exact ⟨hMem, of_decide_eq_true hName⟩
  · rintro ⟨hMem, rfl⟩
    obtain ⟨q, hFound⟩ : ∃ q, (added.reverse.find? fun q => q.name = p.name) = some q :=
      Option.isSome_iff_exists.mp
        (List.find?_isSome.mpr ⟨p, List.mem_reverse.mpr hMem, decide_eq_true rfl⟩)
    have hOther := List.mem_reverse.mp (List.mem_of_find?_eq_some hFound)
    have hName := List.find?_some hFound
    rw [hFound, List.inj_on_of_nodup_map hNames hOther hMem (of_decide_eq_true hName)]

/-- If the names differ the order does not matter. -/
theorem find?_reverse_perm {others : List Partial} (hPerm : others.Perm added)
    (hNames : (added.map Partial.name).Nodup) (name : String) :
    (others.reverse.find? fun p => p.name = name) =
      added.reverse.find? fun p => p.name = name := by
  have hOthers : (others.map Partial.name).Nodup := (hPerm.map Partial.name).nodup_iff.mpr hNames
  ext p
  rw [find?_eq_some_of_nodup hOthers, find?_eq_some_of_nodup hNames, hPerm.mem_iff]

theorem templateWith?_perm {others : List Partial} (hPerm : others.Perm added)
    (hNames : (added.map Partial.name).Nodup) (name : String) :
    engine.templateWith? others name = engine.templateWith? added name := by
  rw [templateWith?, templateWith?, find?_reverse_perm hPerm hNames]

end Engine
end TemplateBundle
