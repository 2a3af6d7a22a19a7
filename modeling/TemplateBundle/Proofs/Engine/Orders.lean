import TemplateBundle.Proofs.Engine.Layers

/-! The order in which partials are registered. Main statement: if their names differ, it makes no
difference to what is rendered with them. -/
namespace TemplateBundle.Engine

open Json (Value)

variable {engine other after : Engine} {added others : List Partial}

/-- Engines that find the same under every name have the same to render with. -/
theorem SameKnown.library (h : SameKnown engine other) (fileText : Path → Option String) :
    other.library fileText = engine.library fileText := by
  have hTemplates : (fun name => other.templates.lookup name) =
      fun name => engine.templates.lookup name := congrArg Layer.template? h.known
  have hHelpers := sameHelpers_of_known (congrArg Layer.helpers h.known)
  have hHelper : other.helper? fileText = engine.helper? fileText := by
    funext name
    simp only [helper?, h.options, hHelpers.helpers, hHelpers.scripts]
  simp only [Engine.library, hasHelper, hTemplates, h.options, hHelper, hHelpers.helpers]

theorem SameKnown.render (h : SameKnown engine other) (fileText : Path → Option String)
    (name : String) (data : Value) :
    other.render fileText name data = engine.render fileText name data := by
  have hTemplate : other.templates.lookup name = engine.templates.lookup name :=
    congrFun (congrArg Layer.template? h.known) name
  simp only [Engine.render, renderTemplate, hTemplate, h.library]

/-- Partials of different names are found alike in whatever order they were registered. -/
theorem Registered.sameKnown (h : Registered engine added after)
    (hOther : Registered engine others other) (hPerm : others.Perm added)
    (hNames : (added.map Partial.name).Nodup) : SameKnown after other where
  options := hOther.options.trans h.options.symm
  known := by
    ext1
    · funext name
      change other.templates.lookup name = after.templates.lookup name
      rw [hOther.lookup, h.lookup, templateWith?_perm hPerm hNames]
    · funext name
      change other.partialSource? name = after.partialSource? name
      rw [hOther.source, h.source, find?_reverse_perm hPerm hNames]
    · simp only [known, hOther.helpers, h.helpers]
    · simp only [known, hOther.scripts, h.scripts]

/-- Partials of different names that are templates can be registered in any order. Every text, and
whatever is registered under a name, then renders the same or fails with the same error. -/
theorem render_of_perm (engine : Engine) (hPerm : others.Perm added)
    (hNames : (added.map Partial.name).Nodup)
    (hParses : ∀ p ∈ added, (engine.parse p.source).isOk) :
    ∃ after other, engine.registerPartials added = (after, .ok ()) ∧
      engine.registerPartials others = (other, .ok ()) ∧ ∀ fileText data,
        (∀ text, other.renderText fileText text data = after.renderText fileText text data) ∧
          ∀ name, other.render fileText name data = after.render fileText name data := by
  obtain ⟨after, hAfter⟩ := exists_registered hParses
  obtain ⟨other, hOther⟩ :=
    exists_registered fun p hp => hParses p (hPerm.mem_iff.mp hp)
  have hKnown : SameKnown after other :=
    (registered_of_foldlM hAfter).sameKnown (registered_of_foldlM hOther) hPerm hNames
  exact ⟨after, other, registerPartials_eq_ok.mpr hAfter, registerPartials_eq_ok.mpr hOther,
    fun fileText data => ⟨fun text => hKnown.renderText fileText text data,
      fun name => hKnown.render fileText name data⟩⟩

/-- A list of folders and the entry of a folder, each of which includes the other. The list hides a
partial that the engine knew before. -/
theorem render_of_perm_folders :
    let engine := ((new {}).registerPartials [⟨"folders", "old"⟩]).1
    let folders : Partial :=
      ⟨"folders", "(\x7b\x7b#each below\x7d\x7d\x7b\x7b> entry\x7d\x7d\x7b\x7b/each\x7d\x7d)"⟩
    let entry : Partial := ⟨"entry", "\x7b\x7bname\x7d\x7d\x7b\x7b> folders\x7d\x7d"⟩
    let leaf : Value := .ofMembers [("name", .string "b"), ("below", .array [])]
    let branch : Value := .ofMembers [("name", .string "a"), ("below", .array [leaf])]
    let data : Value := .ofMembers [("below", .array [branch])]
    [entry, folders].Perm [folders, entry] ∧ ([folders, entry].map Partial.name).Nodup ∧
      (∀ p ∈ [folders, entry], (engine.parse p.source).isOk) ∧
      ∃ after other, engine.registerPartials [folders, entry] = (after, .ok ()) ∧
        engine.registerPartials [entry, folders] = (other, .ok ()) ∧
        after.render (fun _ => none) "folders" data = .ok "(a(b()))" ∧
        other.render (fun _ => none) "folders" data = .ok "(a(b()))" := by
  intro engine folders entry leaf branch data
  have hPerm : [entry, folders].Perm [folders, entry] := .swap folders entry []
  have hNames : ([folders, entry].map Partial.name).Nodup := by decide
  have hParses : ∀ p ∈ [folders, entry], (engine.parse p.source).isOk := by decide +kernel
  have hFirst : (engine.registerPartials [folders, entry]).1.render (fun _ => none) "folders" data =
      .ok "(a(b()))" := by decide +kernel
  obtain ⟨after, other, hAfter, hOther, hSame⟩ := render_of_perm engine hPerm hNames hParses
  rw [hAfter] at hFirst
  exact ⟨hPerm, hNames, hParses, after, other, hAfter, hOther, hFirst,
    ((hSame _ data).2 "folders").trans hFirst⟩

end TemplateBundle.Engine
