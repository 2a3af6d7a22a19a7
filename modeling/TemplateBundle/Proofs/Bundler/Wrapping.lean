import TemplateBundle.Proofs.Bundler.Work
import TemplateBundle.Proofs.Json.Members
import TemplateBundle.Proofs.Render.Adding

/-! Built-in wrappers: they are rendered by an engine of their own, over the name of a template, its
artifact and the artifacts of its partials. -/
namespace TemplateBundle

open Json (Value)
open Rendering (Adds)

theorem follow_append {keys later : List String} {v w : Value}
    (h : follow keys v = .ok (some w)) : follow (keys ++ later) v = follow later w := by
  induction keys generalizing v with
  | nil =>
      obtain rfl : v = w := by simpa [follow] using h
      rfl
  | cons key keys ih =>
      rw [List.cons_append, follow]
      rw [follow] at h
      cases hStep : step key v with
      | error e => simp [hStep, bind, Except.bind] at h
      | ok found =>
          cases found with
          | none => simp [hStep, bind, Except.bind] at h
          | some u =>
              simp only [hStep, bind, Except.bind] at h ⊢
              exact ih h

/-- A name stands for a member of the data at hand. -/
theorem Scope.find_name {scope : Scope} {data : Value} {keys : List String}
    {members : Json.Members} {name : String} {v : Value} (hBase : scope.baseAt 0 = .route keys)
    (hParam : scope.param? name = none) (hData : follow keys data = .ok (some (.object members)))
    (hMember : members.get? name = some v) :
    scope.find data [.name name] = .ok (some ⟨v, some (keys ++ [name])⟩) := by
  have hFollow : follow (keys ++ [name]) data = .ok (some v) := by
    rw [follow_append hData]
    simp [follow, step, hMember, bind, Except.bind]
  have hMarked : markedName? [.name name] = none := rfl
  have hLeading : leadingName? [.name name] = some name := rfl
  simp only [Scope.find, hMarked, hLeading, Option.bind_some, hParam]
  simp [upCount, names, hBase, Base.follow, hFollow, bind, Except.bind]

/-- A variable stands for what the innermost frame sets it to. -/
theorem Scope.find_variable {scope : Scope} {frame : Frame} {name : String} {v : Value}
    (hFrame : scope.frames.head? = some frame) (hVar : frame.vars.lookup name = some v)
    (data : Value) : scope.find data [.variable, .name name] = .ok (some ⟨v, none⟩) := by
  have hMarked : markedName? [.variable, .name name] = some (0, name) := rfl
  have hValue : scope.valueOf? 0 name = some v := by
    cases hFrames : scope.frames with
    | nil => simp [hFrames] at hFrame
    | cons first rest =>
        obtain rfl : first = frame := by simpa [hFrames] using hFrame
        have hSome : first.vars.isEmpty = false := by
          cases hVars : first.vars with
          | nil => simp [hVars] at hVar
          | cons => rfl
        simp [Scope.valueOf?, hFrames, hSome, hVar]
  simp [Scope.find, hMarked, hValue]

namespace Bundler

variable {σ : Type}

/-- How a wrapper is rendered. -/
def wrapping (tree : FileTree) (b : Bundling) (artifact : String) : Rendering :=
  ⟨(Engine.new .unescaped).library fun p => (tree.readText p).toOption, wrapperData b artifact⟩

/-- A text is rendered without partials and helpers of its own, if the setup names no place for
them. -/
theorem on_compile_ofText {tree : FileTree} {text : String} {members : Json.Members}
    {bundler : Bundler σ} (hText : Text.decode (Text.encode text) = .ok text)
    (hHelpers : bundler.config.helpersDir? = none) (hPartials : bundler.config.partialsDir? = none)
    {result : String} (hRender : bundler.engine.renderText (fun p => (tree.readText p).toOption)
      text (.object members) = .ok result) :
    ((compile tree (.ofText text) (some (.given (.object members)))).on bundler).1 =
      .ok result := by
  let start : Bundling :=
    { source? := some (.ofText text), contextSource? := some (.given (.object members)) }
  have hRead : start.readTemplate tree =
      .ok { start with source? := none, body? := some text } := by
    simp only [Bundling.readTemplate, start, TemplateSource.ofText, TemplateSource.read,
      List.flatten_singleton, hText]
    rfl
  have hContext : (if true then start.context? tree else .ok none) =
      .ok (some ⟨.object members, none, []⟩) := rfl
  have hPrepare := on_prepare hRead hContext bundler
  rw [on_loadHelpers_none] at hPrepare
  · have hSkip (b : Bundling) (h : b.file? = none) (after : Bundler σ)
        (hAfter : after.config = bundler.config) :
        (registerPartials tree b).on after = (.ok b, after) := by
      refine on_registerPartials_skip ?_
      simp [findsPartials, h, hAfter, hPartials]
    rw [on_compile hPrepare (hSkip _ rfl _ rfl)]
    simp only [render, Bundling.withContext, hRender]
    rfl
  · exact hHelpers

/-- A built-in wrapper gives what its template adds to nothing. -/
theorem wrap_builtin {tree : FileTree} {b : Bundling} {wrapper : BuiltinWrapper}
    {artifact text : String} {template : Template} (hWrapper : b.wrapper? = some (.builtin wrapper))
    (hResult : b.result? = some artifact) (hAscii : ∀ c ∈ wrapper.source.toList, c.toNat < 128)
    (hParse : Template.parse false wrapper.source = .ok template)
    (hAdds : ∀ expand, Adds (Rendering.renderElements (wrapping tree b artifact) expand template)
      Scope.initial text) : wrap tree b = .ok { b with result? := some text } := by
  obtain ⟨after, hRun, hText⟩ :=
    hAdds (Rendering.renderTemplate (wrapping tree b artifact) 1999) Page.empty
  have hTop : (wrapping tree b artifact).renderTemplate Rendering.inclusionLimit none template
      ⟨Scope.initial, Page.empty⟩ = .ok ⟨Scope.initial, after⟩ := hRun
  have hRender : (wrapping tree b artifact).render none template = .ok text := by
    rw [Rendering.render, hTop]
    exact congrArg Except.ok (hText.trans (String.empty_append))
  have hTemplate : (Engine.new .unescaped).parse wrapper.source = .ok template := by
    have hPlain : (Engine.new .unescaped).options.preventIndent = false := rfl
    rw [Engine.parse, hPlain, hParse]
  have hEngine : (Engine.new .unescaped).renderText (fun p => (tree.readText p).toOption)
      wrapper.source (wrapperData b artifact) = .ok text := by
    have hLibrary : (Rendering.mk ((Engine.new .unescaped).library fun p =>
        (tree.readText p).toOption) (wrapperData b artifact)).render none template = .ok text :=
      hRender
    simp only [Engine.renderText_eq, hTemplate, Engine.renderTemplate, bind, Except.bind, hLibrary]
  have hCompile : ((compile tree (Wrapper.builtin wrapper).template
      (some (.given (wrapperData b artifact)))).on (new wrapperSetup)).1 = .ok text :=
    on_compile_ofText (Text.decode_encode_of_ascii hAscii) rfl rfl hEngine
  rw [wrap_eq tree hWrapper hResult, hCompile]
  rfl

/-! The tags of wrappers. -/

/-- The tag that writes a value as JSON. -/
def jsonTag (key : String) : Element :=
  .output ⟨.name "json", [.reference ⟨key, [.name key]⟩], [], []⟩ false

/-- The tag that writes an artifact. -/
def artifactTag : Element := .output ⟨.reference ⟨"src", [.name "src"]⟩, [], [], []⟩ false

/-- The block that goes through the partials. -/
def partialsTag (body : Template) (ownLine : Bool) : Element :=
  .block ⟨.name "each", [.reference ⟨"partials", [.name "partials"]⟩], [], []⟩ body none ownLine

section Tags

variable {tree : FileTree} {b : Bundling} {artifact : String} {scope : Scope}
  {expand : Option String → Template → Progress → Except RenderError Progress}

theorem helper?_wrapping (name : String) :
    (wrapping tree b artifact).library.helper? name =
      .ok ((Engine.builtins.lookup name).or (Helper.standard.lookup name)) := rfl

theorem adds_jsonTag {key text : String} {route? : Option (List String)}
    (hIndent : scope.indent = "")
    (hFound : scope.find (wrapperData b artifact) [.name key] =
      .ok (some ⟨.string text, route?⟩)) :
    Adds (Rendering.renderElement (wrapping tree b artifact) expand (jsonTag key)) scope
      (Json.quote text) := by
  have hHelper : (wrapping tree b artifact).library.helper? "json" = .ok (some .json) := by
    rw [helper?_wrapping]
    simp [Engine.builtins, List.lookup_cons]
  have hGiven : (wrapping tree b artifact).arguments scope
      ⟨.name "json", [.reference ⟨key, [.name key]⟩], [], []⟩ =
      .ok ⟨[⟨some key, some ⟨.string text, route?⟩⟩], []⟩ :=
    Rendering.arguments_reference _ _ hFound
  have hOutcome (strict : Bool) : Helper.json.apply strict .none []
      ⟨[⟨some key, some ⟨.string text, route?⟩⟩], []⟩ =
      .ok (.value (.string (Value.string text).compress)) := by
    simp [Helper.apply, Helper.requiredNamed, Given.value, bind, Except.bind]
  have hWrite : Adds (Rendering.renderElement (wrapping tree b artifact) expand (jsonTag key)) scope
      (Value.string (Value.string text).compress).shown :=
    Rendering.adds_helper hIndent rfl (List.cons_ne_nil _ _) hGiven hHelper (hOutcome _)
  rwa [Value.shown] at hWrite

theorem adds_artifactTag {text : String} {route? : Option (List String)}
    (hIndent : scope.indent = "")
    (hFound : scope.find (wrapperData b artifact) [.name "src"] =
      .ok (some ⟨.string text, route?⟩)) :
    Adds (Rendering.renderElement (wrapping tree b artifact) expand artifactTag) scope text := by
  have hHelper : (wrapping tree b artifact).library.hasHelper "src" = false := by
    simp [wrapping, Engine.library, Engine.hasHelper, Engine.new, Engine.builtins, Helper.standard]
  have hWrite : Adds (Rendering.renderElement (wrapping tree b artifact) expand artifactTag) scope
      (Value.string text).shown :=
    Rendering.adds_reference ⟨"src", [.name "src"]⟩ hIndent hHelper hFound
  rwa [Value.shown] at hWrite

/-- What a wrapper knows of a partial. -/
def partialEntries (p : Partial) : List (String × Value) :=
  [("name", .string p.name), ("src", .string p.source)]

/-- What a wrapper knows of a template. -/
def wrapperEntries (b : Bundling) (artifact : String) : List (String × Value) := [
  ("partials", .array (b.partials.map fun p => .ofMembers (partialEntries p))),
  ("src", .string artifact), ("name", .string b.name)]

/-- What a wrapper finds by name at its top. -/
theorem find_top {key : String} {v : Value}
    (hValue : (wrapperEntries b artifact).reverse.lookup key = some v) :
    Scope.initial.find (wrapperData b artifact) [.name key] = .ok (some ⟨v, some [key]⟩) := by
  have hData : follow [] (wrapperData b artifact) =
      .ok (some (.ofMembers (wrapperEntries b artifact))) := rfl
  have hMember := (Json.Members.get?_ofList (wrapperEntries b artifact) key).trans hValue
  exact Scope.find_name rfl rfl hData hMember

/-- The scope of the block over the partials, at one of them. -/
def partialScope (index count : Nat) : Scope :=
  Scope.initial.push (Helper.eachFrame (.route ["partials", toString index]) [] none index count)

/-- What a wrapper finds by name at a partial. -/
theorem find_partial {index : Nat} {p : Partial} (hPartial : b.partials[index]? = some p)
    {key : String} {v : Value} (hValue : (partialEntries p).reverse.lookup key = some v)
    (count : Nat) :
    (partialScope index count).find (wrapperData b artifact) [.name key] =
      .ok (some ⟨v, some ["partials", toString index, key]⟩) := by
  let entries : List Value := b.partials.map fun p => .ofMembers (partialEntries p)
  have hIndex : index < entries.length := by
    rw [List.length_map]
    exact (List.getElem?_eq_some_iff.mp hPartial).1
  have hEntry : entries[index]? = some (.ofMembers (partialEntries p)) := by
    simp [entries, hPartial]
  have hArray : step "partials" (wrapperData b artifact) = .ok (some (.array entries)) :=
    congrArg Except.ok (Json.Members.get?_ofList (wrapperEntries b artifact) "partials")
  have hElement : step (toString index) (.array entries) =
      .ok (some (.ofMembers (partialEntries p))) := by
    simp only [step, index?_toString hIndex, hEntry]
  have hData : follow ["partials", toString index] (wrapperData b artifact) =
      .ok (some (.ofMembers (partialEntries p))) := by
    simp only [follow, hArray, hElement, bind, Except.bind]
  have hParam : (partialScope index count).param? key = none := rfl
  exact Scope.find_name rfl hParam hData
    ((Json.Members.get?_ofList (partialEntries p) key).trans hValue)

/-- The block over the partials renders its body for each. -/
theorem adds_partialsTag {body : Template} {text : Partial → Nat → String} (ownLine : Bool)
    (hBody : ∀ p index, b.partials[index]? = some p →
      Adds (Rendering.renderElements (wrapping tree b artifact) expand body)
        (partialScope index b.partials.length) (text p index)) :
    Adds (Rendering.renderElement (wrapping tree b artifact) expand (partialsTag body ownLine))
      Scope.initial (String.join (b.partials.zipIdx.map fun (p, index) => text p index)) := by
  let entries : List Value := b.partials.map fun p => .ofMembers (partialEntries p)
  let g : Given := ⟨some "partials", some ⟨.array entries, some ["partials"]⟩⟩
  have hHelper : (wrapping tree b artifact).library.helper? "each" = .ok (some .each) := by
    rw [helper?_wrapping]
    simp [Engine.builtins, Helper.standard, List.lookup_cons]
  have hFound : Scope.initial.find (wrapperData b artifact) [.name "partials"] =
      .ok (some ⟨.array entries, some ["partials"]⟩) := find_top rfl
  have hGiven : (wrapping tree b artifact).arguments Scope.initial
      ⟨.name "each", [.reference ⟨"partials", [.name "partials"]⟩], [], []⟩ = .ok ⟨[g], []⟩ :=
    Rendering.arguments_reference _ _ hFound
  have hOutcome (strict : Bool) : Helper.each.apply strict .one [] ⟨[g], []⟩ =
      .ok (.inside (Helper.itemFrames g [] entries)) := by
    simp [Helper.apply, Helper.at?, Given.value, Helper.goesThrough, bind, Except.bind, g]
  refine Rendering.adds_block rfl hGiven hHelper (hOutcome _) ?_ ownLine
  refine Rendering.adds_inside rfl ?_
  have hEntries : entries.zipIdx = b.partials.zipIdx.map fun (p, index) =>
      (.ofMembers (partialEntries p), index) := List.zipIdx_map ..
  have hLength : entries.length = b.partials.length := List.length_map ..
  rw [Helper.itemFrames, hEntries, hLength, List.map_map, List.forall₂_map_left_iff,
    List.forall₂_map_right_iff, List.forall₂_same]
  rintro ⟨p, index⟩ hPartial
  exact hBody p index (List.mem_zipIdx_iff_getElem?.mp hPartial)

end Tags

end Bundler
end TemplateBundle
