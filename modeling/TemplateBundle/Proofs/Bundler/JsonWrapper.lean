import Mathlib
import TemplateBundle.Proofs.Artifact
import TemplateBundle.Proofs.Bundler.Wrapping

/-! The wrapper that gives one JSON object: the name of a template, its artifact and an object of
the artifacts of its partials. -/
namespace TemplateBundle.Bundler

open Json (Value)
open Rendering (Adds)

/-- The comma behind all partials but the last. -/
def commaTag : Element :=
  .block ⟨.name "unless", [.reference ⟨"@last", [.variable, .name "last"]⟩], [], []⟩ [.text ","]
    none false

/-- The line of a partial. -/
def lineTemplate : Template :=
  [.text "    ", jsonTag "name", .text ": ", artifactTag, commaTag, .text "\n"]

/-- The template of the wrapper. -/
def jsonTemplate : Template := [
  .text "\x7b\n  \"name\": ", jsonTag "name", .text ",\n  \"template\": ", artifactTag,
  .text ",\n  \"partials\": \x7b\n", partialsTag lineTemplate true, .text "  \x7d\n\x7d\n"]

theorem parse_jsonSource : Template.parse false BuiltinWrapper.json.source = .ok jsonTemplate := by
  unfold Template.parse BuiltinWrapper.source
  simp only [String.reduceAppend, String.reduceToList]
  cbv

theorem ascii_jsonSource : ∀ c ∈ BuiltinWrapper.json.source.toList, c.toNat < 128 := by
  have hAll : (BuiltinWrapper.json.source.toList.all fun c => c.toNat < 128) = true := by
    decide +kernel
  intro c hMem
  exact of_decide_eq_true (List.all_eq_true.mp hAll c hMem)

/-- The line of a partial, with a comma unless it is the last of `count`. -/
def lineText (count : Nat) (p : Partial) (index : Nat) : String :=
  "    " ++ (Json.quote p.name ++ (": " ++ (p.source ++
    ((if index + 1 = count then "" else ",") ++ ("\n" ++ "")))))

/-- The lines of partials, the first of which is at `offset` of `count`. -/
def linesText (count offset : Nat) (partials : List Partial) : String :=
  String.join ((partials.zipIdx offset).map fun (p, index) => lineText count p index)

/-- The text of the wrapper. -/
def jsonText (name artifact : String) (partials : List Partial) : String :=
  "\x7b\n  \"name\": " ++ (Json.quote name ++ (",\n  \"template\": " ++ (artifact ++
    (",\n  \"partials\": \x7b\n" ++ (linesText partials.length 0 partials ++
      ("  \x7d\n\x7d\n" ++ ""))))))

section Text

variable {tree : FileTree} {b : Bundling} {artifact : String}
  {expand : Option String → Template → Progress → Except RenderError Progress}

theorem adds_commaTag (index count : Nat) :
    Adds (Rendering.renderElement (wrapping tree b artifact) expand commaTag)
      (partialScope index count) (if index + 1 = count then "" else ",") := by
  have hHelper : (wrapping tree b artifact).library.helper? "unless" =
      .ok (some (.condition false)) := by
    rw [helper?_wrapping]
    simp [Engine.builtins, Helper.standard, List.lookup_cons]
  have hFound : (partialScope index count).find (wrapperData b artifact)
      [.variable, .name "last"] = .ok (some ⟨.bool (index + 1 == count), none⟩) :=
    Scope.find_variable rfl rfl _
  let g : Given := ⟨some "@last", some ⟨.bool (index + 1 == count), none⟩⟩
  have hGiven : (wrapping tree b artifact).arguments (partialScope index count)
      ⟨.name "unless", [.reference ⟨"@last", [.variable, .name "last"]⟩], [], []⟩ =
      .ok ⟨[g], []⟩ :=
    Rendering.arguments_reference _ _ hFound
  by_cases hLast : index + 1 = count
  · have hOutcome (strict : Bool) : (Helper.condition false).apply strict .one [] ⟨[g], []⟩ =
        .ok .otherwise := by
      simp [Helper.apply, Helper.at?, Given.value, Value.isTruthy, hLast, bind, Except.bind, g]
    rw [if_pos hLast]
    exact Rendering.adds_block rfl hGiven hHelper (hOutcome _) .nothing false
  · have hOutcome (strict : Bool) : (Helper.condition false).apply strict .one [] ⟨[g], []⟩ =
        .ok .body := by
      simp [Helper.apply, Helper.at?, Given.value, Value.isTruthy, hLast, bind, Except.bind, g]
    rw [if_neg hLast]
    have hComma : Adds (Rendering.renderElements (wrapping tree b artifact) expand [.text ","])
        (partialScope index count) ("," ++ "") :=
      Rendering.adds_cons (Rendering.adds_text rfl _) Rendering.adds_nil
    rw [String.append_empty] at hComma
    exact Rendering.adds_block rfl hGiven hHelper (hOutcome _) (hComma.body rfl) false

theorem adds_lineTemplate {p : Partial} {index : Nat} (hPartial : b.partials[index]? = some p)
    (count : Nat) :
    Adds (Rendering.renderElements (wrapping tree b artifact) expand lineTemplate)
      (partialScope index count) (lineText count p index) := by
  refine Rendering.adds_cons (Rendering.adds_text rfl _) ?_
  refine Rendering.adds_cons (adds_jsonTag rfl (find_partial hPartial rfl count)) ?_
  refine Rendering.adds_cons (Rendering.adds_text rfl _) ?_
  refine Rendering.adds_cons (adds_artifactTag rfl (find_partial hPartial rfl count)) ?_
  refine Rendering.adds_cons (adds_commaTag index count) ?_
  exact Rendering.adds_cons (Rendering.adds_text rfl _) Rendering.adds_nil

theorem adds_jsonTemplate :
    Adds (Rendering.renderElements (wrapping tree b artifact) expand jsonTemplate) Scope.initial
      (jsonText b.name artifact b.partials) := by
  refine Rendering.adds_cons (Rendering.adds_text rfl _) ?_
  refine Rendering.adds_cons (adds_jsonTag rfl (find_top rfl)) ?_
  refine Rendering.adds_cons (Rendering.adds_text rfl _) ?_
  refine Rendering.adds_cons (adds_artifactTag rfl (find_top rfl)) ?_
  refine Rendering.adds_cons (Rendering.adds_text rfl _) ?_
  refine Rendering.adds_cons (adds_partialsTag true fun p index h => adds_lineTemplate h _) ?_
  exact Rendering.adds_cons (Rendering.adds_text rfl _) Rendering.adds_nil

theorem wrap_jsonText (hWrapper : b.wrapper? = some (.builtin .json))
    (hResult : b.result? = some artifact) :
    wrap tree b = .ok { b with result? := some (jsonText b.name artifact b.partials) } :=
  wrap_builtin hWrapper hResult ascii_jsonSource parse_jsonSource fun _ => adds_jsonTemplate

end Text

/-! The text of the wrapper as JSON. -/

/-- A partial whose text is the compact text of a value. -/
def written (entry : String × Value) : Partial := ⟨entry.1, entry.2.compress⟩

theorem toList_linesText_cons (count offset : Nat) (entry : String × Value)
    (entries : List (String × Value)) :
    (linesText count offset ((entry :: entries).map written)).toList =
      ' ' :: ' ' :: ' ' :: ' ' :: (Json.stringChars entry.1 ++ ':' :: ' ' :: (entry.2.chars ++
        ((if offset + 1 = count then [] else [',']) ++ '\n' ::
          (linesText count (offset + 1) (entries.map written)).toList))) := by
  have hComma : (if offset + 1 = count then "" else ",").toList =
      if offset + 1 = count then [] else [','] := by
    split <;> rfl
  have hLine : (lineText count (written entry) offset).toList =
      ' ' :: ' ' :: ' ' :: ' ' :: (Json.stringChars entry.1 ++ ':' :: ' ' :: (entry.2.chars ++
        ((if offset + 1 = count then [] else [',']) ++ ['\n']))) := by
    simp only [lineText, written, String.toList_append, hComma, Json.toList_quote,
      Json.Value.toList_compress]
    rfl
  rw [linesText, List.map_cons, List.zipIdx_cons, List.map_cons, String.join_cons,
    String.toList_append, hLine]
  simp [linesText]

/-- The lines of partials spell the members of an object. -/
theorem spells_linesText {entries : List (String × Value)} (hSome : entries ≠ [])
    (hPlain : Json.PlainMembers entries) {offset count : Nat}
    (hCount : offset + entries.length = count) {tail rest : List Char}
    (hTail : Json.skipGap tail = '}' :: rest) :
    Json.SpellsMembers ((linesText count offset (entries.map written)).toList ++ tail)
      (Json.Document.ofMembers entries) rest := by
  induction entries generalizing offset with
  | nil => exact absurd rfl hSome
  | cons entry entries ih =>
      obtain ⟨key, v⟩ := entry
      obtain ⟨hValue, hPlain⟩ := hPlain
      have hColon (t : List Char) : Json.skipGap (':' :: ' ' :: t) = ':' :: ' ' :: t := rfl
      rw [toList_linesText_cons]
      simp only [List.cons_append, List.append_assoc]
      rcases eq_or_ne entries [] with rfl | hMore
      · have hLast : offset + 1 = count := hCount
        have hItem := Json.spells_chars hValue (Json.endsNumber_cons (c := '\n') (by decide) tail)
        rw [if_pos hLast]
        exact .last (Json.spellsString_stringChars key _) (hColon _) (hItem.gap rfl) hTail
      · have hNotLast : offset + 1 ≠ count := by
          have := List.length_pos_iff.mpr hMore
          simp only [List.length_cons] at hCount
          omega
        have hNext : offset + 1 + entries.length = count := by
          simp only [List.length_cons] at hCount
          omega
        have hRest := ih hMore hPlain hNext
        have hItem := Json.spells_chars hValue (Json.endsNumber_cons (c := ',') (by decide)
          ('\n' :: ((linesText count (offset + 1) (entries.map written)).toList ++ tail)))
        rw [if_neg hNotLast]
        exact .more (Json.spellsString_stringChars key _) (hColon _) (hItem.gap rfl) rfl
          (hRest.gap rfl)

/-- The text of the wrapper spells an object. -/
theorem spells_jsonText (name : String) {template : Value} (hTemplate : template.Plain)
    {entries : List (String × Value)} (hPlain : Json.PlainMembers entries) :
    Json.Spells (jsonText name template.compress (entries.map written)).toList
      (.ofValue (.object [("name", .string name), ("template", template),
        ("partials", .object entries)])) ['\n'] := by
  have hText : (jsonText name template.compress (entries.map written)).toList =
      '{' :: '\n' :: ' ' :: ' ' :: (Json.stringChars "name" ++ ':' :: ' ' ::
      (Json.stringChars name ++ ',' :: '\n' :: ' ' :: ' ' :: (Json.stringChars "template" ++
      ':' :: ' ' :: (template.chars ++ ',' :: '\n' :: ' ' :: ' ' ::
      (Json.stringChars "partials" ++ ':' :: ' ' :: '{' :: '\n' ::
      ((linesText entries.length 0 (entries.map written)).toList ++
      [' ', ' ', '}', '\n', '}', '\n'])))))) := by
    simp only [jsonText, String.toList_append, Json.toList_quote, Json.Value.toList_compress,
      List.length_map]
    rfl
  have hPartials : Json.Spells ('{' :: '\n' ::
      ((linesText entries.length 0 (entries.map written)).toList ++
      [' ', ' ', '}', '\n', '}', '\n'])) (.ofValue (.object entries)) ['\n', '}', '\n'] := by
    rcases eq_or_ne entries [] with rfl | hSome
    · exact .emptyObject rfl rfl
    · exact .object rfl ((spells_linesText hSome hPlain (Nat.zero_add _) rfl).gap rfl)
  have hName (t : List Char) : Json.Spells (Json.stringChars name ++ ',' :: t)
      (.string (some name)) (',' :: t) := .string (Json.spellsString_stringChars name _)
  have hBody (t : List Char) := Json.spells_chars hTemplate
    (Json.endsNumber_cons (c := ',') (by decide) t)
  rw [hText]
  refine .object rfl (.more (.written "name" rfl) rfl ((hName _).gap rfl) rfl ?_)
  refine .more (.written "template" rfl) rfl ((hBody _).gap rfl) rfl ?_
  exact .last (.written "partials" rfl) rfl (hPartials.gap rfl) rfl

/-- The artifact of a partial under its name. -/
def artifactEntry (p : Partial) : String × Value :=
  (p.name, .object (Artifact.ofSource p.source).members)

/-- The members of the object of partials. -/
def partialMembers (partials : List Partial) : Json.Members :=
  .ofList (partials.map fun p => (p.name, (Artifact.ofSource p.source).value))

theorem lookup_map_partial {α : Type} (f : Partial → α) (partials : List Partial) (key : String) :
    (partials.map fun p => (p.name, f p)).lookup key =
      (partials.find? fun p => p.name = key).map f := by
  induction partials with
  | nil => rfl
  | cons p rest ih =>
      rw [List.map_cons, List.find?_cons, Engine.lookup_cons_eq_ite, ih]
      by_cases hKey : p.name = key
      · simp [hKey]
      · simp [hKey]

/-- The last partial of a name gives the member. -/
theorem get?_partialMembers (partials : List Partial) (key : String) :
    (partialMembers partials).get? key =
      (partials.reverse.find? fun p => p.name = key).map fun p =>
        (Artifact.ofSource p.source).value := by
  rw [partialMembers, Json.Members.get?_ofList, ← List.map_reverse, lookup_map_partial]

theorem mem_keys_partialMembers {partials : List Partial} {key : String} :
    key ∈ (partialMembers partials).map Prod.fst ↔ ∃ p ∈ partials, p.name = key := by
  rw [partialMembers, Json.Members.mem_keys_ofList, List.map_map]
  simp

/-- Whatever order the members are in, they are those of the partials in some order. -/
theorem perm_partialMembers {included : List Partial}
    (hNames : (included.map Partial.name).Nodup) {order : Json.Members}
    (hOrder : order.Perm (partialMembers included)) :
    ∃ others : List Partial, others.Perm included ∧
      order = others.map fun p => (p.name, (Artifact.ofSource p.source).value) := by
  have hKeys : ((included.map fun p => (p.name, (Artifact.ofSource p.source).value)).map
      Prod.fst).Nodup := by
    rw [List.map_map]
    exact hNames
  have hEntries := hOrder.trans (Json.Members.ofList_perm hKeys)
  have hSplit := congrFun₂ (List.eq_map_comp_perm fun p : Partial =>
    (p.name, (Artifact.ofSource p.source).value)) order included
  obtain ⟨others, hOthers, hPerm⟩ := hSplit.mpr hEntries
  exact ⟨others, hPerm, hOthers⟩

theorem precompile_eq {engine : Engine} {source : String} (h : (engine.parse source).isOk) :
    engine.precompile source = .ok (Artifact.ofSource source).compress :=
  Engine.precompile_eq_ok.mpr ⟨h, rfl⟩

theorem map_written (partials : List Partial) :
    (partials.map artifactEntry).map written = partials.map precompiled := by
  rw [List.map_map]
  refine List.map_congr_left fun p _ => ?_
  rw [precompiled, Artifact.compress_eq]
  rfl

theorem artifacts_eq {engine : Engine} {partials : List Partial}
    (h : ∀ p ∈ partials, (engine.parse p.source).isOk) :
    artifacts engine partials = .ok ((partials.map artifactEntry).map written) := by
  rw [map_written]
  exact artifacts_eq_ok.mpr ⟨h, rfl⟩

theorem plain_entries (partials : List Partial) :
    Json.PlainMembers (partials.map artifactEntry) := by
  induction partials with
  | nil => trivial
  | cons p rest ih =>
      have hRevision : Bits.fitsUnsigned 32 Artifact.currentRevision = true := by decide
      exact ⟨(Artifact.plain_members (Artifact.ofSource p.source) hRevision).1, ih⟩

theorem height_entries (partials : List Partial) :
    Json.heightMembers (partials.map artifactEntry) ≤ 2 := by
  induction partials with
  | nil => exact Nat.zero_le 2
  | cons p rest ih =>
      have hHeight := Artifact.height_members (Artifact.ofSource p.source)
      rw [List.map_cons, artifactEntry, Json.heightMembers, hHeight]
      exact Nat.max_le.mpr ⟨le_rfl, ih⟩

theorem normal_entries (partials : List Partial) :
    Json.normalMembers (partials.map artifactEntry) = partials.map fun p =>
      (p.name, (Artifact.ofSource p.source).value) := by
  rw [Json.normalMembers_eq_map, List.map_map]
  refine List.map_congr_left fun p _ => ?_
  exact congrArg (Prod.mk p.name) (Artifact.normal_members (Artifact.ofSource p.source))

/-- What is read from the text of the wrapper. -/
theorem parse_jsonText (name body : String) (partials : List Partial) :
    Json.parse (jsonText name (Artifact.ofSource body).compress
      ((partials.map artifactEntry).map written)) = .ok (.object [("name", .string name),
        ("partials", .object (partialMembers partials)),
        ("template", (Artifact.ofSource body).value)]) := by
  let template : Value := .object (Artifact.ofSource body).members
  have hRevision : Bits.fitsUnsigned 32 Artifact.currentRevision = true := by decide
  have hPlain : template.Plain := (Artifact.plain_members (Artifact.ofSource body) hRevision).1
  have hHeight : (Value.object [("name", .string name), ("template", template),
      ("partials", .object (partials.map artifactEntry))]).height < Json.depthLimit := by
    have hTemplate : template.height = 2 := Artifact.height_members (Artifact.ofSource body)
    have hPartials := height_entries partials
    simp only [Value.height, Json.heightMembers, hTemplate, Json.depthLimit]
    omega
  have hSpelled := spells_jsonText name hPlain (plain_entries partials)
  have hRead := Json.parse_of_spells hSpelled rfl hHeight
  have hTemplate : template.normal = (Artifact.ofSource body).value := Artifact.normal_members _
  have hOrder : "partials" < "template" := by decide
  have hName : ¬ "template" < "name" := by decide
  have hPartials : ¬ "partials" < "name" := by decide
  rw [Artifact.compress_eq, hRead]
  simp [Value.normal, Json.normalMembers, hTemplate, normal_entries, Value.ofMembers,
    Json.Members.ofList, Json.Members.insert, hOrder, hName, hPartials, partialMembers]

/-- Over a template that can be read, and any partials that can, the wrapper gives a text that is
one JSON object: the name, the artifact of the template, and an object that has the names of the
partials as its keys, each with the artifact of the last partial of this name. -/
theorem wrap_json {engine : Engine} {body : String} {partials : List Partial}
    (hBody : (engine.parse body).isOk) (hPartials : ∀ p ∈ partials, (engine.parse p.source).isOk)
    (tree : FileTree) (b : Bundling) (name : String) :
    ∃ artifact arts text members, engine.precompile body = .ok artifact ∧
      artifacts engine partials = .ok arts ∧
      (wrap tree { b with
        name, partials := arts, result? := some artifact, wrapper? := some (.builtin .json) }).map
          Bundling.result = .ok text ∧
      Json.parse text = .ok (.object [("name", .string name), ("partials", .object members),
        ("template", (Artifact.ofSource body).value)]) ∧
      members.Pairwise (fun a b => a.1 < b.1) ∧
      (∀ key, key ∈ members.map Prod.fst ↔ ∃ p ∈ partials, p.name = key) ∧
      ∀ key, members.lookup key = (partials.reverse.find? fun p => p.name = key).map fun p =>
        (Artifact.ofSource p.source).value := by
  refine ⟨_, _, _, partialMembers partials, precompile_eq hBody, artifacts_eq hPartials, ?_,
    parse_jsonText name body partials, Json.Members.sorted_ofList _,
    fun key => mem_keys_partialMembers, get?_partialMembers partials⟩
  rw [wrap_jsonText rfl rfl]
  rfl

/-- Of two partials of one name the second counts. -/
theorem wrap_json_repeated :
    let engine := Engine.new {}
    let partials : List Partial := [⟨"a", "first"⟩, ⟨"a", "second"⟩]
    (engine.parse "\x7b\x7b> a\x7d\x7d").isOk ∧ (∀ p ∈ partials, (engine.parse p.source).isOk) ∧
      ∃ text members artifact, Json.parse text = .ok (.object [("name", .string ""),
          ("partials", .object members), ("template", artifact)]) ∧
        members.lookup "a" = some (Artifact.ofSource "second").value := by
  intro engine partials
  have hBody : (engine.parse "\x7b\x7b> a\x7d\x7d").isOk := by decide +kernel
  have hPartials : ∀ p ∈ partials, (engine.parse p.source).isOk := by decide +kernel
  obtain ⟨_, _, text, members, _, _, _, hRead, _, _, hLookup⟩ :=
    wrap_json hBody hPartials ⟨[], []⟩ {} ""
  exact ⟨hBody, hPartials, text, members, _, hRead, hLookup "a"⟩

end TemplateBundle.Bundler
