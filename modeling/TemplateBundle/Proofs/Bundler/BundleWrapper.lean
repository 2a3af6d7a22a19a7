import TemplateBundle.Proofs.Bundler.JsonWrapper

/-! The wrapper that gives one JSON object of artifacts: those of the partials under their names,
and then that of the template under its own. Main statement: the name of the template has the
artifact of the template whatever the partials are called, and of several partials of one name the
last counts. -/
namespace TemplateBundle.Bundler

open Json (Value)
open Rendering (Adds)

/-- The line of an artifact under its name, and what ends it. -/
def entryTemplate (ending : String) : Template :=
  [.text "  ", jsonTag "name", .text ": ", artifactTag, .text ending]

/-- The template of the wrapper. -/
def bundleTemplate : Template :=
  .text "\x7b\n" :: partialsTag (entryTemplate ",\n") true :: entryTemplate "\n\x7d\n"

theorem parse_bundleSource :
    Template.parse false BuiltinWrapper.jsonBundle.source = .ok bundleTemplate := by
  unfold Template.parse BuiltinWrapper.source
  simp only [String.reduceAppend, String.reduceToList]
  cbv

theorem ascii_bundleSource : ∀ c ∈ BuiltinWrapper.jsonBundle.source.toList, c.toNat < 128 := by
  have hAll : (BuiltinWrapper.jsonBundle.source.toList.all fun c => c.toNat < 128) = true := by
    decide +kernel
  intro c hMem
  exact of_decide_eq_true (List.all_eq_true.mp hAll c hMem)

/-- The text of an entry, and what ends it. -/
def entryText (ending : String) (entry : Partial) : String :=
  "  " ++ (Json.quote entry.name ++ (": " ++ (entry.source ++ (ending ++ ""))))

/-- The text of the wrapper. -/
def bundleText (name artifact : String) (partials : List Partial) : String :=
  "\x7b\n" ++ (String.join (partials.map (entryText ",\n")) ++
    entryText "\n\x7d\n" ⟨name, artifact⟩)

section Text

variable {tree : FileTree} {b : Bundling} {artifact : String}
  {expand : Option String → Template → Progress → Except RenderError Progress}

/-- An entry is written wherever its name and its artifact are found. -/
theorem adds_entryTemplate {scope : Scope} {entry : Partial} {name? src? : Option (List String)}
    (hIndent : scope.indent = "")
    (hName : scope.find (wrapperData b artifact) [.name "name"] =
      .ok (some ⟨.string entry.name, name?⟩))
    (hSource : scope.find (wrapperData b artifact) [.name "src"] =
      .ok (some ⟨.string entry.source, src?⟩)) (ending : String) :
    Adds (Rendering.renderElements (wrapping tree b artifact) expand (entryTemplate ending)) scope
      (entryText ending entry) := by
  refine Rendering.adds_cons (Rendering.adds_text hIndent _) ?_
  refine Rendering.adds_cons (adds_jsonTag hIndent hName) ?_
  refine Rendering.adds_cons (Rendering.adds_text hIndent _) ?_
  refine Rendering.adds_cons (adds_artifactTag hIndent hSource) ?_
  exact Rendering.adds_cons (Rendering.adds_text hIndent _) Rendering.adds_nil

theorem adds_bundleTemplate :
    Adds (Rendering.renderElements (wrapping tree b artifact) expand bundleTemplate) Scope.initial
      (bundleText b.name artifact b.partials) := by
  have hBody (p : Partial) (index : Nat) (hPartial : b.partials[index]? = some p) :
      Adds (Rendering.renderElements (wrapping tree b artifact) expand (entryTemplate ",\n"))
        (partialScope index b.partials.length) (entryText ",\n" p) :=
    adds_entryTemplate rfl (find_partial hPartial rfl b.partials.length)
      (find_partial hPartial rfl b.partials.length) ",\n"
  have hLines := adds_partialsTag true hBody
  have hTexts (texts : Partial × Nat → String) (h : ∀ p, texts p = entryText ",\n" p.1) :
      b.partials.zipIdx.map texts = b.partials.map (entryText ",\n") := by
    conv_rhs => rw [← List.zipIdx_map_fst 0 b.partials, List.map_map]
    exact List.map_congr_left fun p _ => h p
  rw [hTexts _ fun _ => rfl] at hLines
  refine Rendering.adds_cons (Rendering.adds_text rfl _) (Rendering.adds_cons hLines ?_)
  have hName : Scope.initial.find (wrapperData b artifact) [.name "name"] =
      .ok (some ⟨.string b.name, some ["name"]⟩) := find_top rfl
  have hSource : Scope.initial.find (wrapperData b artifact) [.name "src"] =
      .ok (some ⟨.string artifact, some ["src"]⟩) := find_top rfl
  have hEntry : Adds (Rendering.renderElements (wrapping tree b artifact) expand
      (entryTemplate "\n\x7d\n")) Scope.initial (entryText "\n\x7d\n" ⟨b.name, artifact⟩) :=
    adds_entryTemplate rfl hName hSource _
  exact hEntry

theorem wrap_bundleText (hWrapper : b.wrapper? = some (.builtin .jsonBundle))
    (hResult : b.result? = some artifact) :
    wrap tree b = .ok { b with result? := some (bundleText b.name artifact b.partials) } :=
  wrap_builtin hWrapper hResult ascii_bundleSource parse_bundleSource fun _ => adds_bundleTemplate

end Text

/-! The text of the wrapper as JSON. -/

theorem toList_entryText (ending : String) (entry : String × Value) :
    (entryText ending (written entry)).toList =
      ' ' :: ' ' ::
        (Json.stringChars entry.1 ++ ':' :: ' ' :: (entry.2.chars ++ ending.toList)) := by
  simp only [entryText, written, String.toList_append, Json.toList_quote,
    Json.Value.toList_compress, String.append_empty]
  rfl

/-- Entries, with commas behind all but the last, spell the members of an object. -/
theorem spells_entries {entries : List (String × Value)} (hPlain : Json.PlainMembers entries)
    (name : String) {template : Value} (hTemplate : template.Plain) :
    Json.SpellsMembers ((String.join ((entries.map written).map (entryText ",\n"))).toList ++
      (entryText "\n\x7d\n" (written (name, template))).toList)
      (Json.Document.ofMembers (entries ++ [(name, template)])) ['\n'] := by
  induction entries with
  | nil =>
      have hItem := Json.spells_chars hTemplate
        (Json.endsNumber_cons (c := '\n') (by decide) ['}', '\n'])
      rw [toList_entryText]
      exact .last (Json.spellsString_stringChars name _) rfl (hItem.gap rfl) rfl
  | cons entry entries ih =>
      obtain ⟨key, v⟩ := entry
      obtain ⟨hValue, hPlain⟩ := hPlain
      have hItem (t : List Char) := Json.spells_chars hValue
        (Json.endsNumber_cons (c := ',') (by decide) ('\n' :: t))
      rw [List.map_cons, List.map_cons, String.join_cons, String.toList_append, toList_entryText]
      simp only [List.cons_append, List.append_assoc]
      exact .more (Json.spellsString_stringChars key _) rfl ((hItem _).gap rfl) rfl
        ((ih hPlain).gap rfl)

/-- The text of the wrapper spells an object: its last member is the template. -/
theorem spells_bundleText (name : String) {template : Value} (hTemplate : template.Plain)
    {entries : List (String × Value)} (hPlain : Json.PlainMembers entries) :
    Json.Spells (bundleText name template.compress (entries.map written)).toList
      (.ofValue (.object (entries ++ [(name, template)]))) ['\n'] := by
  have hMembers := spells_entries hPlain name hTemplate
  rw [bundleText, String.toList_append, String.toList_append]
  exact .object rfl (hMembers.gap rfl)

/-- The members of the object: the template stands for itself as one more partial, the last. -/
def bundleMembers (name body : String) (partials : List Partial) : Json.Members :=
  partialMembers (partials ++ [⟨name, body⟩])

theorem mem_keys_bundleMembers {name body key : String} {partials : List Partial} :
    key ∈ (bundleMembers name body partials).map Prod.fst ↔
      key = name ∨ ∃ p ∈ partials, p.name = key := by
  rw [bundleMembers, mem_keys_partialMembers]
  simp only [List.mem_append, List.mem_singleton, or_and_right, exists_or, exists_eq_left]
  rw [or_comm, @eq_comm _ name]

/-- Under its name the template comes behind all partials. -/
theorem get?_bundleMembers (name body : String) (partials : List Partial) (key : String) :
    (bundleMembers name body partials).get? key =
      if key = name then some (Artifact.ofSource body).value
      else (partialMembers partials).get? key := by
  rw [bundleMembers, get?_partialMembers, get?_partialMembers, List.reverse_append,
    List.reverse_singleton, List.singleton_append, List.find?_cons]
  by_cases hName : key = name
  · simp [hName]
  · simp [hName, Ne.symm hName]

/-- What is read from the text of the wrapper. -/
theorem parse_bundleText (name body : String) (partials : List Partial) :
    Json.parse (bundleText name (Artifact.ofSource body).compress
      ((partials.map artifactEntry).map written)) =
        .ok (.object (bundleMembers name body partials)) := by
  let all : List Partial := partials ++ [⟨name, body⟩]
  have hAll : all.map artifactEntry =
      partials.map artifactEntry ++ [(name, .object (Artifact.ofSource body).members)] :=
    List.map_append
  have hRevision : Bits.fitsUnsigned 32 Artifact.currentRevision = true := by decide
  have hTemplate := (Artifact.plain_members (Artifact.ofSource body) hRevision).1
  have hHeight : (Value.object (all.map artifactEntry)).height < Json.depthLimit := by
    have hEntries := height_entries all
    rw [Value.height, Json.depthLimit]
    omega
  have hSpelled := spells_bundleText name hTemplate (plain_entries partials)
  rw [← hAll] at hSpelled
  rw [Artifact.compress_eq, Json.parse_of_spells hSpelled rfl hHeight, Value.normal,
    normal_entries]
  rfl

/-- Over a template that can be read, and any partials that can, the wrapper gives a text that is
one JSON object. Its keys are the name of the template and the names of the partials. The name of
the template has the artifact of the template, even if a partial has that name too; every other name
has the artifact of the last partial of this name. -/
theorem wrap_jsonBundle {engine : Engine} {body : String} {partials : List Partial}
    (hBody : (engine.parse body).isOk) (hPartials : ∀ p ∈ partials, (engine.parse p.source).isOk)
    (tree : FileTree) (b : Bundling) (name : String) :
    ∃ artifact arts text members, engine.precompile body = .ok artifact ∧
      artifacts engine partials = .ok arts ∧
      (wrap tree { b with
        name, partials := arts, result? := some artifact
        wrapper? := some (.builtin .jsonBundle) }).map Bundling.result = .ok text ∧
      Json.parse text = .ok (.object members) ∧
      members.Pairwise (fun a b => a.1 < b.1) ∧
      (∀ key, key ∈ members.map Prod.fst ↔ key = name ∨ ∃ p ∈ partials, p.name = key) ∧
      members.lookup name = some (Artifact.ofSource body).value ∧
      ∀ key, key ≠ name → members.lookup key =
        (partials.reverse.find? fun p => p.name = key).map fun p =>
          (Artifact.ofSource p.source).value := by
  refine ⟨_, _, _, bundleMembers name body partials, precompile_eq hBody, artifacts_eq hPartials,
    ?_, parse_bundleText name body partials, Json.Members.sorted_ofList _,
    fun key => mem_keys_bundleMembers, ?_, fun key hKey => ?_⟩
  · rw [wrap_bundleText rfl rfl]
    rfl
  · exact (get?_bundleMembers name body partials name).trans (if_pos rfl)
  · rw [← get?_partialMembers]
    exact (get?_bundleMembers name body partials key).trans (if_neg hKey)

/-- A partial that has the name of the template does not hide it, and of two partials of another
name the second counts. -/
theorem wrap_jsonBundle_shared :
    let engine := Engine.new {}
    let partials : List Partial := [⟨"a", "first"⟩, ⟨"page", "hidden"⟩, ⟨"a", "second"⟩]
    (engine.parse "\x7b\x7b> a\x7d\x7d").isOk ∧ (∀ p ∈ partials, (engine.parse p.source).isOk) ∧
      ∃ text members, Json.parse text = .ok (.object members) ∧
        (∀ key, key ∈ members.map Prod.fst ↔ key = "page" ∨ ∃ p ∈ partials, p.name = key) ∧
        members.lookup "page" = some (Artifact.ofSource "\x7b\x7b> a\x7d\x7d").value ∧
        members.lookup "a" = some (Artifact.ofSource "second").value := by
  intro engine partials
  have hBody : (engine.parse "\x7b\x7b> a\x7d\x7d").isOk := by decide +kernel
  have hPartials : ∀ p ∈ partials, (engine.parse p.source).isOk := by decide +kernel
  obtain ⟨_, _, text, members, _, _, _, hRead, _, hKeys, hOwn, hLookup⟩ :=
    wrap_jsonBundle hBody hPartials ⟨[], []⟩ {} "page"
  exact ⟨hBody, hPartials, text, members, hRead, hKeys, hOwn, hLookup "a" (by decide)⟩

end TemplateBundle.Bundler
