import TemplateBundle.Engine
import TemplateBundle.Proofs.Json.Normal
import TemplateBundle.Proofs.Json.Printing

/-! What is written for an artifact is read as this artifact, and so is every text of its value. -/
namespace TemplateBundle

open Json (Document Value)

namespace Artifact

variable (a : Artifact)

/-- The members of an artifact, in the order in which they are written. -/
def members : List (String × Value) := [
  ("compiler", .array [.number (.int a.revision), .string a.versions]),
  ("source", .string a.source),
  ("partials", .array (a.partials.map Value.string))]

/-- The value that the text of an artifact has. -/
def value : Value := .ofMembers a.members

theorem value_eq :
    a.value = .object [
      ("compiler", .array [.number (.int a.revision), .string a.versions]),
      ("partials", .array (a.partials.map Value.string)),
      ("source", .string a.source)] := by
  have hSource : ¬ "source" < "compiler" := by decide
  have hPartials : ¬ "partials" < "compiler" := by decide
  have hOrder : "partials" < "source" := by decide
  simp [value, members, Value.ofMembers, Json.Members.ofList, Json.Members.insert, hSource,
    hPartials, hOrder]

theorem normal_members : (Value.object a.members).normal = a.value := by
  have hPartials := Json.normalItems_strings a.partials
  simp only [members, value, Value.normal, Json.normalMembers, Json.normalItems, hPartials]

theorem height_members : (Value.object a.members).height = 2 := by
  have hPartials := Json.heightItems_strings a.partials
  simp only [members, Value.height, Json.heightMembers, Json.heightItems, hPartials]
  rfl

theorem toList_intercalate_quote (texts : List String) :
    (",".intercalate (texts.map Json.quote)).toList = Json.itemsChars (texts.map Value.string) := by
  match texts with
  | [] => rfl
  | [text] => rw [List.map_singleton, String.intercalate_singleton, Json.toList_quote]; rfl
  | text :: next :: texts =>
      have ih := toList_intercalate_quote (next :: texts)
      rw [List.map_cons, List.map_cons] at *
      rw [String.intercalate_cons_cons, String.toList_append, String.toList_append, ih,
        Json.toList_quote]
      rfl

/-- The text of an artifact is the compact text of its members in the order of writing. -/
theorem compress_eq : a.compress = (Value.object a.members).compress := by
  have hOpen : "\x7b\"compiler\":[".toList =
      '{' :: (Json.stringChars "compiler" ++ [':', '[']) := by
    decide
  have hSource : "],\"source\":".toList = ']' :: ',' :: (Json.stringChars "source" ++ [':']) := by
    decide
  have hPartials : ",\"partials\":[".toList =
      ',' :: (Json.stringChars "partials" ++ [':', '[']) := by
    decide
  have hComma : ",".toList = [','] := by decide
  have hClose : "]\x7d".toList = [']', '}'] := by decide
  unfold compress
  rw [← String.toList_inj]
  simp only [String.toList_append, hOpen, hSource, hPartials, hComma, hClose,
    toList_intercalate_quote, Json.toList_quote, Value.compress, Value.chars, Json.membersChars,
    Json.itemsChars, members, String.toList_ofList, Json.Number.text, List.append_assoc,
    List.cons_append, List.nil_append]
  rfl

theorem ofItems_strings (texts : List String) :
    Document.ofItems (texts.map Value.string) =
      texts.map fun text => Document.string (some text) := by
  induction texts with
  | nil => rfl
  | cons text texts ih => rw [List.map_cons, Document.ofItems, ih]; rfl

theorem toList_strings (texts : List String) :
    (Document.array (Document.ofItems (texts.map Value.string)) none).toList Document.toText =
      .ok texts := by
  have hTexts : (texts.map fun text => Document.string (some text)).mapM Document.toText =
      .ok texts := by
    induction texts with
    | nil => rfl
    | cons text texts ih => simp [Document.toText, ih, bind, Except.bind, pure, Except.pure]
  rw [ofItems_strings, Document.toList, hTexts]
  rfl

theorem readCompiler_members (hRevision : Bits.fitsUnsigned 32 a.revision = true) :
    readCompiler (.ofValue (.array [.number (.int a.revision), .string a.versions])) =
      .ok (a.revision, a.versions) := by
  have hWord : (Document.number (some (.int a.revision))).toWord = .ok a.revision := by
    simp [Document.toWord, hRevision]
  simp only [Document.ofValue, Document.ofItems, readCompiler, hWord]
  rfl

section Fields

variable {doc : Document} {seen : List String} (rest : List (Option String × Document)) (d : Draft)

theorem readMembers_compiler {revision : Nat} {versions : String}
    (hNew : seen.contains "compiler" = false)
    (hRead : readCompiler doc = .ok (revision, versions)) :
    Json.readMembers fields ((some "compiler", doc) :: rest) seen d =
      Json.readMembers fields rest ("compiler" :: seen)
        { d with compiler? := some (revision, versions) } := by
  have hField : Json.fieldOf? fields "compiler" = some fields[0] := rfl
  refine Json.readMembers_cons hField hNew ?_ rest
  simp only [fields, List.getElem_cons_zero, hRead]
  rfl

theorem readMembers_source {source : String} (hNew : seen.contains "source" = false)
    (hRead : doc.toText = .ok source) :
    Json.readMembers fields ((some "source", doc) :: rest) seen d =
      Json.readMembers fields rest ("source" :: seen) { d with source? := some source } := by
  have hField : Json.fieldOf? fields "source" = some fields[1] := rfl
  refine Json.readMembers_cons hField hNew ?_ rest
  simp only [fields, List.getElem_cons_zero, List.getElem_cons_succ, hRead]
  rfl

theorem readMembers_partials {partials : List String} (hNew : seen.contains "partials" = false)
    (hRead : doc.toList Document.toText = .ok partials) :
    Json.readMembers fields ((some "partials", doc) :: rest) seen d =
      Json.readMembers fields rest ("partials" :: seen) { d with partials } := by
  have hField : Json.fieldOf? fields "partials" = some fields[2] := rfl
  refine Json.readMembers_cons hField hNew ?_ rest
  simp only [fields, List.getElem_cons_zero, List.getElem_cons_succ, hRead]
  rfl

end Fields

/-- The members of an artifact may stand in the order of writing or in that of their keys. -/
theorem ofDocument_members (hRevision : Bits.fitsUnsigned 32 a.revision = true) :
    ofDocument (.ofValue (.object a.members)) = .ok a ∧ ofDocument (.ofValue a.value) = .ok a := by
  have hCompiler := readCompiler_members a hRevision
  have hPartials := toList_strings a.partials
  constructor
  · simp only [members, Document.ofValue, ofDocument, Json.readRecord, Document.ofMembers,
      Document.ofItems] at *
    rw [readMembers_compiler _ _ rfl hCompiler, readMembers_source _ _ rfl rfl,
      readMembers_partials _ _ rfl hPartials]
    rfl
  · rw [value_eq]
    simp only [Document.ofValue, ofDocument, Json.readRecord, Document.ofMembers,
      Document.ofItems] at *
    rw [readMembers_compiler _ _ rfl hCompiler, readMembers_partials _ _ rfl hPartials,
      readMembers_source _ _ rfl rfl]
    rfl

theorem plainItems_strings (texts : List String) : Json.PlainItems (texts.map Value.string) := by
  induction texts with
  | nil => trivial
  | cons text texts ih => exact ⟨trivial, ih⟩

theorem plain_members (hRevision : Bits.fitsUnsigned 32 a.revision = true) :
    (Value.object a.members).Plain ∧ a.value.Plain := by
  have hSize : a.revision ≤ Json.maxUnsigned := by
    simp only [Bits.fitsUnsigned, Bool.and_eq_true, decide_eq_true_eq] at hRevision
    have hWide : Bits.count 32 ≤ Json.maxUnsigned := by decide
    omega
  have hStrings := plainItems_strings a.partials
  rw [value_eq]
  exact ⟨⟨⟨hSize, trivial, trivial⟩, trivial, hStrings, trivial⟩,
    ⟨⟨hSize, trivial, trivial⟩, hStrings, trivial, trivial⟩⟩

/-- The text of an artifact is read as this artifact, and so is the compact text of its value. -/
theorem parse_compress (hRevision : Bits.fitsUnsigned 32 a.revision = true) :
    parse a.compress = .ok a ∧ parse a.value.compress = .ok a := by
  obtain ⟨hPlain, hValue⟩ := plain_members a hRevision
  obtain ⟨hRead, hReadValue⟩ := ofDocument_members a hRevision
  have hSpelled {v : Value} (h : v.Plain) :
      Json.Spells v.compress.toList (.ofValue v) [] := by
    have hEnd : Json.EndsNumber [] := by simp [Json.EndsNumber]
    have := Json.spells_chars h hEnd
    rwa [List.append_nil, ← String.toList_ofList (l := v.chars)] at this
  constructor
  · rw [compress_eq, parse, Json.readWith_of_spells (hSpelled hPlain) rfl, hRead]
  · rw [parse, Json.readWith_of_spells (hSpelled hValue) rfl, hReadValue]

/-- An artifact that is written for a source is taken up again. -/
theorem load_ofSource (source : String) :
    load (ofSource source).compress = .ok (ofSource source) ∧
      load (ofSource source).value.compress = .ok (ofSource source) := by
  have hRevision : Bits.fitsUnsigned 32 currentRevision = true := by decide
  obtain ⟨hText, hValue⟩ := parse_compress (ofSource source) hRevision
  constructor
  · rw [load, hText]
    rfl
  · rw [load, hValue]
    rfl

end Artifact
end TemplateBundle
