import TemplateBundle.Proofs.Engine

/-! What an engine keeps account of: its templates, the partials and their sources, and its helpers.
Main statement: after any operations all of this is as the operations that succeeded say, in their
order, and an operation that fails changes none of it. -/
namespace TemplateBundle.Engine

open Json (Value)

/-- What an engine can be asked to do. The files are as they are at that time. -/
inductive Operation where
  | registerPartial (p : Partial)
  | registerPartialArtifact (name text : String)
  | registerArtifact (name text : String)
  | registerHelper (name : String) (helper : Helper)
  | registerScript (fileText : Path → Option String) (name : String) (path : Path)
  | compile (text : String)
  | precompile (text : String)
  | render (fileText : Path → Option String) (name : String) (data : Value)

namespace Operation

/-- The source in the text of an artifact, if it can be taken up. -/
def sourceIn? (text : String) : Option String := (Artifact.load text).toOption.map Artifact.source

/-- The name and the source of the template that the operation registers if it succeeds. -/
def template? : Operation → Option (String × String)
  | .registerPartial p => some (p.name, p.source)
  | .registerPartialArtifact name text => (sourceIn? text).map fun source => (name, source)
  | .registerArtifact name text => (sourceIn? text).map fun source => (name, source)
  | _ => none

/-- The partial that the operation registers if it succeeds. -/
def partial? : Operation → Option Partial
  | .registerPartial p => some p
  | .registerPartialArtifact name text => (sourceIn? text).map fun source => ⟨name, source⟩
  | _ => none

/-- The name of the helper that the operation registers if it succeeds. -/
def helper? : Operation → Option String
  | .registerHelper name _ => some name
  | .registerScript _ name _ => some name
  | _ => none

end Operation

variable {start engine after : Engine} {op : Operation} {done : List Operation}

/-- The engine that was asked for, or else the one at hand; and whether it was to be had. -/
def orSame (engine : Engine) : Except EngineError Engine → Engine × Bool
  | .ok next => (next, true)
  | .error _ => (engine, false)

/-- The engine that an operation leaves, and whether the operation succeeds. -/
def perform (engine : Engine) : Operation → Engine × Bool
  | .registerPartial p => engine.orSame (engine.registerPartial p)
  | .registerPartialArtifact name text => engine.orSame (engine.registerPartialArtifact name text)
  | .registerArtifact name text => engine.orSame (engine.registerArtifact name text)
  | .registerHelper name helper => (engine.registerHelper name helper, true)
  | .registerScript fileText name path =>
    let (after, outcome) := engine.registerScript fileText name path
    (after, outcome.isOk)
  | .compile text => (engine, (engine.compile text).isOk)
  | .precompile text => (engine, (engine.precompile text).isOk)
  | .render fileText name data => (engine, (engine.render fileText name data).isOk)

/-- Performs an operation and adds it to those that have succeeded, if it does. -/
def performNext (course : Engine × List Operation) (op : Operation) : Engine × List Operation :=
  let (after, succeeded) := course.1.perform op
  (after, if succeeded then course.2 ++ [op] else course.2)

/-- The engine that operations leave, and those of them that succeeded. -/
def performAll (engine : Engine) (ops : List Operation) : Engine × List Operation :=
  ops.foldl performNext (engine, [])

/-- The engines agree in all that is kept account of. -/
structure SameRecords (engine after : Engine) : Prop where
  options : after.options = engine.options
  templates : after.templates = engine.templates
  sources : after.sources = engine.sources
  partials : after.partials = engine.partials
  helpers : after.helpers = engine.helpers

theorem SameRecords.refl (engine : Engine) : SameRecords engine engine :=
  ⟨rfl, rfl, rfl, rfl, rfl⟩

/-- What an operation that succeeds does to what is kept account of. -/
structure Performed (engine : Engine) (op : Operation) (after : Engine) : Prop where
  options : after.options = engine.options
  templates : (op.template? = none ∧ after.templates = engine.templates) ∨
    ∃ name source template, op.template? = some (name, source) ∧
      engine.parse source = .ok template ∧ after.templates = (name, template) :: engine.templates
  sources : after.sources =
    (op.partial?.map fun p => (p.name, p.source)).toList ++ engine.sources
  partials : after.partials = engine.partials ++ op.partial?.toList
  helpers : after.helpers.map Prod.fst = op.helper?.toList ++ engine.helpers.map Prod.fst

theorem orSame_succeeded {outcome : Except EngineError Engine}
    (h : (engine.orSame outcome).2 = true) : outcome = .ok (engine.orSame outcome).1 := by
  cases outcome with
  | error e => cases h
  | ok next => rfl

theorem orSame_failed {outcome : Except EngineError Engine}
    (h : (engine.orSame outcome).2 = false) : (engine.orSame outcome).1 = engine := by
  cases outcome with
  | error e => rfl
  | ok next => cases h

theorem Performed.of_registerPartial {p : Partial} (hPartial : op.partial? = some p)
    (hTemplate : op.template? = some (p.name, p.source)) (hHelper : op.helper? = none)
    (h : engine.registerPartial p = .ok after) : Performed engine op after := by
  obtain ⟨template, hParse, rfl⟩ := registerPartial_eq_ok.mp h
  exact ⟨rfl, .inr ⟨p.name, p.source, template, hTemplate, hParse, rfl⟩, by rw [hPartial]; rfl,
    by rw [hPartial]; rfl, by rw [hHelper]; rfl⟩

theorem Performed.of_registerTemplate {name source : String} (hPartial : op.partial? = none)
    (hTemplate : op.template? = some (name, source)) (hHelper : op.helper? = none)
    (h : engine.registerTemplate name source = .ok after) : Performed engine op after := by
  obtain ⟨template, hParse, h⟩ := Outcome.bind_eq_ok.mp h
  cases h
  exact ⟨rfl, .inr ⟨name, source, template, hTemplate, hParse, rfl⟩, by rw [hPartial]; rfl,
    by rw [hPartial]; exact (List.append_nil _).symm, by rw [hHelper]; rfl⟩

theorem perform_succeeded (h : (engine.perform op).2 = true) :
    Performed engine op (engine.perform op).1 := by
  cases op with
  | registerPartial p => exact .of_registerPartial rfl rfl rfl (orSame_succeeded h)
  | registerPartialArtifact name text =>
      obtain ⟨a, hLoad, hRegister⟩ := Outcome.bind_eq_ok.mp (orSame_succeeded h)
      have hSource : Operation.sourceIn? text = some a.source := by
        rw [Operation.sourceIn?, hLoad]
        rfl
      refine .of_registerPartial ?_ ?_ rfl hRegister
      · rw [Operation.partial?, hSource]
        rfl
      · rw [Operation.template?, hSource]
        rfl
  | registerArtifact name text =>
      obtain ⟨a, hLoad, hRegister⟩ := Outcome.bind_eq_ok.mp (orSame_succeeded h)
      refine .of_registerTemplate rfl ?_ rfl hRegister
      rw [Operation.template?, Operation.sourceIn?, hLoad]
      rfl
  | registerHelper name helper =>
      exact ⟨rfl, .inl ⟨rfl, rfl⟩, rfl, (List.append_nil _).symm, rfl⟩
  | registerScript fileText name path =>
      simp only [perform, registerScript] at h ⊢
      split at h
      · cases h
      split at h
      · cases h
      · exact ⟨rfl, .inl ⟨rfl, rfl⟩, rfl, (List.append_nil _).symm, rfl⟩
  | compile text => exact ⟨rfl, .inl ⟨rfl, rfl⟩, rfl, (List.append_nil _).symm, rfl⟩
  | precompile text => exact ⟨rfl, .inl ⟨rfl, rfl⟩, rfl, (List.append_nil _).symm, rfl⟩
  | render fileText name data => exact ⟨rfl, .inl ⟨rfl, rfl⟩, rfl, (List.append_nil _).symm, rfl⟩

theorem perform_failed (h : (engine.perform op).2 = false) :
    SameRecords engine (engine.perform op).1 := by
  have hOrSame {outcome : Except EngineError Engine} (hFailed : (engine.orSame outcome).2 = false) :
      SameRecords engine (engine.orSame outcome).1 := by
    rw [orSame_failed hFailed]
    exact .refl engine
  cases op with
  | registerPartial p => exact hOrSame h
  | registerPartialArtifact name text => exact hOrSame h
  | registerArtifact name text => exact hOrSame h
  | registerHelper name helper => cases h
  | registerScript fileText name path =>
      simp only [perform, registerScript] at h ⊢
      split at h
      · exact .refl engine
      split at h
      · exact ⟨rfl, rfl, rfl, rfl, rfl⟩
      · cases h
  | compile text => exact .refl engine
  | precompile text => exact .refl engine
  | render fileText name data => exact .refl engine

theorem hasHelper_iff {name : String} :
    engine.hasHelper name ↔ name ∈ engine.helpers.map Prod.fst := by
  rw [hasHelper, List.lookup_isSome_iff, List.mem_map]
  simp only [beq_iff_eq, @eq_comm _ name]

theorem Performed.hasHelper (h : Performed engine op after) (name : String) :
    after.hasHelper name ↔ engine.hasHelper name ∨ name ∈ op.helper?.toList := by
  rw [hasHelper_iff, hasHelper_iff, h.helpers, List.mem_append, or_comm]

/-- What an engine knows is what the operations that succeeded have registered, the last one under
each name. -/
structure Recorded (start : Engine) (done : List Operation) (engine : Engine) : Prop where
  options : engine.options = start.options
  templates : ∀ name, engine.templates.lookup name =
    ((done.filterMap Operation.template?).reverse.lookup name).bind fun source =>
      (start.parse source).toOption
  parses : ∀ entry ∈ done.filterMap Operation.template?, (start.parse entry.2).isOk
  sources : ∀ name, engine.partialSource? name =
    ((done.filterMap Operation.partial?).reverse.find? fun p => p.name = name).map Partial.source
  partials : engine.partials = done.filterMap Operation.partial?
  helpers : ∀ name, engine.hasHelper name ↔
    name = "var" ∨ name = "json" ∨ name ∈ done.filterMap Operation.helper?

theorem Recorded.new (options : CompilerOptions) : Recorded (new options) [] (new options) where
  options := rfl
  templates _ := rfl
  parses _ h := (List.not_mem_nil h).elim
  sources _ := rfl
  partials := rfl
  helpers name := by simp [hasHelper_iff, Engine.new, builtins]

theorem Recorded.same (h : Recorded start done engine) (hSame : SameRecords engine after) :
    Recorded start done after where
  options := hSame.options.trans h.options
  templates name := by rw [hSame.templates, h.templates]
  parses := h.parses
  sources name := by rw [← h.sources, partialSource?, partialSource?, hSame.sources]
  partials := hSame.partials.trans h.partials
  helpers name := by rw [← h.helpers, hasHelper, hasHelper, hSame.helpers]

theorem filterMap_concat {α : Type} (f : Operation → Option α) (done : List Operation)
    (op : Operation) : (done ++ [op]).filterMap f = done.filterMap f ++ (f op).toList := by
  rw [List.filterMap_append]
  cases hOp : f op with
  | none => rw [List.filterMap_cons_none hOp]; rfl
  | some a => rw [List.filterMap_cons_some hOp]; rfl

/-- An operation that succeeds is the last under what it registers. -/
theorem Recorded.next (h : Recorded start done engine) (hDone : Performed engine op after) :
    Recorded start (done ++ [op]) after where
  options := hDone.options.trans h.options
  templates name := by
    rw [filterMap_concat]
    rcases hDone.templates with ⟨hNone, hSame⟩ | ⟨key, source, template, hSome, hParse, hMore⟩
    · rw [hSame, h.templates, hNone, Option.toList_none, List.append_nil]
    · rw [parse_congr h.options] at hParse
      rw [hMore, hSome, Option.toList_some, List.reverse_append, List.reverse_singleton,
        List.singleton_append, lookup_cons_eq_ite, lookup_cons_eq_ite]
      by_cases hName : key = name
      · simp [hName, hParse, Except.toOption]
      · simpa [hName] using h.templates name
  parses entry hEntry := by
    rw [filterMap_concat, List.mem_append] at hEntry
    rcases hEntry with hOld | hNew
    · exact h.parses entry hOld
    rcases hDone.templates with ⟨hNone, -⟩ | ⟨key, source, template, hSome, hParse, -⟩
    · rw [hNone] at hNew
      cases hNew
    · rw [hSome, Option.toList_some, List.mem_singleton] at hNew
      rw [hNew, ← parse_congr h.options, hParse]
      rfl
  sources name := by
    rw [partialSource?, hDone.sources, filterMap_concat, List.reverse_append]
    cases op.partial? with
    | none => exact h.sources name
    | some p =>
        have hOld := h.sources name
        rw [partialSource?] at hOld
        simp only [Option.map_some, Option.toList_some, List.singleton_append,
          List.reverse_singleton, lookup_cons_eq_ite, List.find?_cons]
        by_cases hName : p.name = name
        · simp [hName]
        · simpa [hName] using hOld
  partials := by rw [hDone.partials, h.partials, filterMap_concat]
  helpers name := by
    rw [hDone.hasHelper, h.helpers, filterMap_concat, List.mem_append, or_assoc, or_assoc]

theorem Recorded.performNext {course : Engine × List Operation}
    (h : Recorded start course.2 course.1) (op : Operation) :
    Recorded start (performNext course op).2 (performNext course op).1 := by
  rw [Engine.performNext]
  cases hSucceeded : (course.1.perform op).2 with
  | true =>
      have hNext := h.next (perform_succeeded hSucceeded)
      simpa only [hSucceeded, if_true] using hNext
  | false =>
      have hSame := h.same (perform_failed hSucceeded)
      simpa only [hSucceeded, Bool.false_eq_true, if_false] using hSame

theorem Recorded.foldl {course : Engine × List Operation}
    (h : Recorded start course.2 course.1) (ops : List Operation) :
    Recorded start (ops.foldl Engine.performNext course).2
      (ops.foldl Engine.performNext course).1 := by
  induction ops generalizing course with
  | nil => exact h
  | cons op ops ih => exact ih (h.performNext op)

/-- After any operations on an engine, its helpers are those that it had and those that were
registered with success. -/
theorem hasHelper_performAll (engine : Engine) (ops : List Operation) (name : String) :
    (engine.performAll ops).1.hasHelper name ↔
      engine.hasHelper name ∨
        name ∈ (engine.performAll ops).2.filterMap Operation.helper? := by
  have hFold (ops : List Operation) (course : Engine × List Operation)
      (hCourse : course.1.hasHelper name ↔
        engine.hasHelper name ∨ name ∈ course.2.filterMap Operation.helper?) :
      (ops.foldl performNext course).1.hasHelper name ↔ engine.hasHelper name ∨
        name ∈ (ops.foldl performNext course).2.filterMap Operation.helper? := by
    induction ops generalizing course with
    | nil => exact hCourse
    | cons op ops ih =>
        refine ih _ ?_
        rw [performNext]
        cases hSucceeded : (course.1.perform op).2 with
        | true =>
            have hDone := perform_succeeded hSucceeded
            simp only [hSucceeded, if_true]
            rw [hDone.hasHelper, hCourse, filterMap_concat, List.mem_append, or_assoc]
        | false =>
            have hSame := perform_failed hSucceeded
            simp only [hSucceeded, Bool.false_eq_true, if_false]
            rw [← hCourse, hasHelper, hasHelper, hSame.helpers]
  exact hFold ops (engine, []) (by simp)

/-- A name is unknown only if nothing was registered under it: what was registered is a template. -/
theorem Recorded.lookup_eq_none (h : Recorded start done engine) {name : String} :
    engine.templates.lookup name = none ↔
      name ∉ (done.filterMap Operation.template?).map Prod.fst := by
  have hLookup : (done.filterMap Operation.template?).reverse.lookup name = none ↔
      name ∉ (done.filterMap Operation.template?).map Prod.fst := by
    rw [List.lookup_eq_none_iff, List.mem_map]
    constructor
    · rintro hAll ⟨entry, hEntry, rfl⟩
      simpa using hAll entry (List.mem_reverse.mpr hEntry)
    · intro hNone entry hEntry
      exact bne_iff_ne.mpr fun hName => hNone ⟨entry, List.mem_reverse.mp hEntry, hName.symm⟩
  rw [h.templates, ← hLookup]
  cases hSource : (done.filterMap Operation.template?).reverse.lookup name with
  | none => simp
  | some source =>
      obtain ⟨before, after, hSplit, -⟩ := List.lookup_eq_some_iff.mp hSource
      have hMem : (name, source) ∈ done.filterMap Operation.template? := by
        rw [← List.mem_reverse, hSplit]
        exact List.mem_append_right before List.mem_cons_self
      obtain ⟨template, hParse⟩ := Outcome.isOk_iff.mp (h.parses _ hMem)
      simp [hParse, Except.toOption]

/-- After any operations on a new engine, the partials are those that were registered with success,
in order; the source of a partial and the template under a name are the last of the name that were
registered with success, and a name without any is unknown; the helpers are the two that every
engine has and those registered with success. An operation that fails changes none of this. -/
theorem performAll_records (options : CompilerOptions) (ops : List Operation) :
    let start := new options
    let engine := (start.performAll ops).1
    let done := (start.performAll ops).2
    let partials := done.filterMap Operation.partial?
    let entries := done.filterMap Operation.template?
    let template? := fun name => (entries.reverse.lookup name).bind fun source =>
      (start.parse source).toOption
    engine.partials = partials ∧
      (∀ name, engine.partialSource? name =
        (partials.reverse.find? fun p => p.name = name).map Partial.source) ∧
      (∀ fileText name data, engine.render fileText name data =
        match template? name with
        | some template => engine.renderTemplate fileText (some name) template data
        | none => .error (.render (.templateNotFound name))) ∧
      (∀ fileText, (engine.library fileText).template? = template?) ∧
      (∀ name, template? name = none ↔ name ∉ entries.map Prod.fst) ∧
      (∀ name, engine.hasHelper name ↔
        name = "var" ∨ name = "json" ∨ name ∈ done.filterMap Operation.helper?) ∧
      ∀ op, (engine.perform op).2 = false →
        let after := (engine.perform op).1
        after.partials = engine.partials ∧
          (∀ name, after.partialSource? name = engine.partialSource? name) ∧
          (∀ fileText, (after.library fileText).template? = (engine.library fileText).template?) ∧
          ∀ name, after.hasHelper name = engine.hasHelper name := by
  intro start engine done partials entries template?
  have h : Recorded start done engine := (Recorded.new options).foldl ops
  -- Nothing else about the engine matters from here on.
  clear_value engine done
  refine ⟨h.partials, h.sources, fun fileText name data => ?_, fun fileText => ?_, fun name => ?_,
    h.helpers, fun op hFailed => ?_⟩
  · have hTemplate : engine.templates.lookup name = template? name := h.templates name
    cases hKnown : template? name with
    | some template => simp only [render, hTemplate, hKnown]
    | none => simp only [render, hTemplate, hKnown]
  · exact funext h.templates
  · rw [← h.lookup_eq_none, h.templates]
  · have hSame := perform_failed hFailed
    refine ⟨hSame.partials, fun name => ?_, fun fileText => ?_, fun name => ?_⟩
    · rw [partialSource?, partialSource?, hSame.sources]
    · simp only [library, hSame.templates]
    · rw [hasHelper, hasHelper, hSame.helpers]

end TemplateBundle.Engine
