import TemplateBundle.Proofs.Bundler.Stages
import TemplateBundle.Proofs.Yaml

/-! The data that a template is rendered with. Main statement: it is an object, the one that its
source gives, and a source that gives none stops the template before its partials are looked up. -/
namespace TemplateBundle

open Json (Members Value)

namespace ContextSource

/-- Whether the name of a file says that it holds YAML. -/
def NamesYaml (path : Path) : Prop :=
  path.extension? = some "yml" ∨ path.extension? = some "yaml"

/-- What the text of a data file stands for. -/
inductive Parses (path : Path) (text : String) : Value → Prop where
  | yaml {value : Value} (hName : NamesYaml path) (h : Yaml.ofText? text = some value) :
      Parses path text value
  | json {value : Value} (hName : ¬ NamesYaml path) (h : Json.parse text = .ok value) :
      Parses path text value

/-- The object that a source of data gives: that which it is, or else an empty one instead of null,
of a file that is missing, and of a file with nothing in it. -/
inductive Gives (tree : FileTree) : ContextSource → Members → Prop where
  | null : Gives tree (.given .null) []
  | given (members : Members) : Gives tree (.given (.object members)) members
  | missing {path : Path} (h : tree.readText path = .error .notFound) : Gives tree (.file path) []
  | vacantFile {path : Path} {text : String} (h : tree.readText path = .ok text)
      (hName : NamesYaml path) (hVacant : Yaml.Vacant text) : Gives tree (.file path) []
  | nullFile {path : Path} {text : String} (h : tree.readText path = .ok text)
      (hParses : Parses path text .null) : Gives tree (.file path) []
  | file {path : Path} {text : String} {members : Members} (h : tree.readText path = .ok text)
      (hParses : Parses path text (.object members)) : Gives tree (.file path) members

/-- Why a source gives no object. -/
inductive Refuses : ContextSource → BundleError → Prop where
  | given (value : Value) : Refuses (.given value) (.invalidContext value.kindName)
  | file (path : Path) (cause : Cause) : Refuses (.file path) (.contextLoad path cause)

variable {tree : FileTree} {source : ContextSource} {path : Path} {text : String}

theorem isYaml_iff : path.isYaml = true ↔ NamesYaml path := by
  simp [Path.isYaml, NamesYaml]

theorem parse_eq_ok {value : Value} : parse path text = .ok value ↔ Parses path text value := by
  unfold parse
  by_cases hYaml : path.isYaml = true
  · rw [if_pos hYaml]
    constructor
    · intro h
      cases hText : Yaml.ofText? text with
      | none => simp [hText] at h
      | some found =>
          rw [hText] at h
          cases h
          exact .yaml (isYaml_iff.mp hYaml) hText
    · intro h
      cases h with
      | yaml hName hText => rw [hText]
      | json hName hText => exact absurd (isYaml_iff.mp hYaml) hName
  · rw [if_neg hYaml]
    constructor
    · intro h
      cases hText : Json.parse text with
      | error fault => simp [hText] at h
      | ok found =>
          rw [hText] at h
          cases h
          exact .json (fun hName => hYaml (isYaml_iff.mpr hName)) hText
    · intro h
      cases h with
      | yaml hName hText => exact absurd (isYaml_iff.mpr hName) hYaml
      | json hName hText => rw [hText]

theorem parse_vacant (hName : NamesYaml path) (hVacant : Yaml.Vacant text) :
    parse path text = .ok .null :=
  parse_eq_ok.mpr (.yaml hName (Yaml.ofText?_vacant hVacant))

/-- The object that a file with a text gives is the one that its text stands for. -/
theorem gives_text_iff (hText : tree.readText path = .ok text) {members : Members} :
    Gives tree (.file path) members ↔
      parse path text = .ok (.object members) ∨ parse path text = .ok .null ∧ members = [] := by
  constructor
  · intro h
    cases h with
    | missing hMissing => cases hText.symm.trans hMissing
    | vacantFile hSame hName hVacant =>
        cases hText.symm.trans hSame
        exact .inr ⟨parse_vacant hName hVacant, rfl⟩
    | nullFile hSame hParses =>
        cases hText.symm.trans hSame
        exact .inr ⟨parse_eq_ok.mpr hParses, rfl⟩
    | file hSame hParses =>
        cases hText.symm.trans hSame
        exact .inl (parse_eq_ok.mpr hParses)
  · rintro (hParse | ⟨hParse, rfl⟩)
    · exact .file hText (parse_eq_ok.mp hParse)
    · exact .nullFile hText (parse_eq_ok.mp hParse)

/-- A file that cannot be read gives no object unless it is missing. -/
theorem gives_unread_iff {e : IoError} (hText : tree.readText path = .error e) {members : Members} :
    Gives tree (.file path) members ↔ e = .notFound ∧ members = [] := by
  constructor
  · intro h
    cases h with
    | missing hMissing =>
        cases hText.symm.trans hMissing
        exact ⟨rfl, rfl⟩
    | vacantFile hSame hName hVacant => cases hText.symm.trans hSame
    | nullFile hSame hParses => cases hText.symm.trans hSame
    | file hSame hParses => cases hText.symm.trans hSame
  · rintro ⟨rfl, rfl⟩
    exact .missing hText

/-- The data of a source is the one object that it gives. -/
def GivesOnly (tree : FileTree) (source : ContextSource) (data : Value) : Prop :=
  ∃ members, data = .object members ∧ ∀ other, Gives tree source other ↔ other = members

/-- A file with a text gives one object, or is refused for what the text stands for. -/
theorem dataOf_cases (hText : tree.readText path = .ok text) :
    (∃ data, dataOf path text = .ok data ∧ GivesOnly tree (.file path) data) ∨
      ∃ cause, dataOf path text = .error cause ∧ ∀ members, ¬ Gives tree (.file path) members := by
  have hGives (members : Members) : Gives tree (.file path) members ↔ _ := gives_text_iff hText
  cases hParse : parse path text with
  | error cause =>
      refine .inr ⟨cause, ?_, fun members => by simp [hGives, hParse]⟩
      simp [dataOf, hParse, bind, Except.bind]
  | ok value =>
      cases value with
      | null =>
          refine .inl ⟨.empty, ?_, [], rfl, fun other => by simp [hGives, hParse]⟩
          simp [dataOf, hParse, bind, Except.bind]
      | object members =>
          refine .inl ⟨.object members, ?_, members, rfl, fun other => ?_⟩
          · simp [dataOf, hParse, bind, Except.bind]
          · simp [hGives, hParse, eq_comm]
      | _ => exact .inr ⟨_, by rw [dataOf, hParse]; rfl, fun members => by simp [hGives, hParse]⟩

/-- A source gives one object or is refused. -/
theorem load_cases (tree : FileTree) (source : ContextSource) :
    (∃ context, source.load tree = .ok context ∧ GivesOnly tree source context.data) ∨
      ∃ e, source.load tree = .error e ∧ source.Refuses e ∧
        ∀ members, ¬ source.Gives tree members := by
  cases source with
  | given value =>
      cases value with
      | null =>
          refine .inl ⟨_, rfl, [], rfl, fun other => ⟨fun h => ?_, fun h => h ▸ .null⟩⟩
          cases h
          rfl
      | object members =>
          refine .inl ⟨_, rfl, members, rfl, fun other => ⟨fun h => ?_, fun h => h ▸ .given other⟩⟩
          cases h
          rfl
      | _ => exact .inr ⟨_, rfl, .given _, fun members h => nomatch h⟩
  | file path =>
      cases hText : tree.readText path with
      | error e =>
          have hGives (members : Members) : Gives tree (.file path) members ↔ _ :=
            gives_unread_iff hText
          by_cases hMissing : e = .notFound
          · refine .inl ⟨⟨.empty, some path, [.contextMissing path]⟩, ?_, [], rfl, fun other => ?_⟩
            · simp [load, hText, hMissing]
            · simp [hGives, hMissing]
          · refine .inr ⟨.contextLoad path (.io e), ?_, .file path _, fun members => ?_⟩
            · simp [load, hText, hMissing]
            · simp [hGives, hMissing]
      | ok text =>
          rcases dataOf_cases hText with ⟨data, hData, hOnly⟩ | ⟨cause, hCause, hNone⟩
          · exact .inl ⟨⟨data, some path, []⟩, by simp [load, hText, hData], hOnly⟩
          · exact .inr ⟨.contextLoad path cause, by simp [load, hText, hCause], .file path cause,
              hNone⟩

end ContextSource

/-- The object that a template is to be rendered with: the one that its source of data gives, or else
the one that it has, empty instead of null. -/
inductive Bundling.HasData (tree : FileTree) (b : Bundling) : Members → Prop where
  | absent (h : b.contextSource? = none) (hNull : b.context = .null) : HasData tree b []
  | present {members : Members} (h : b.contextSource? = none)
      (hObject : b.context = .object members) : HasData tree b members
  | read {source : ContextSource} {members : Members} (h : b.contextSource? = some source)
      (hGives : source.Gives tree members) : HasData tree b members

namespace Bundling

variable {tree : FileTree} {b : Bundling}

/-- Of a template that has null or an object the data that is read is the one object that it is to
be rendered with, or its source is refused. -/
theorem context?_cases (hData : b.context = .null ∨ ∃ members, b.context = .object members) :
    (∃ context members, b.context? tree = .ok context ∧
      context.elim b.withObject.context Context.data = .object members ∧
      ∀ other, b.HasData tree other ↔ other = members) ∨
    ∃ source e, b.contextSource? = some source ∧ b.context? tree = .error e ∧ source.Refuses e ∧
      ∀ members, ¬ b.HasData tree members := by
  cases hSource : b.contextSource? with
  | none =>
      have hNone : b.context? tree = .ok none := by rw [context?, hSource]
      rcases hData with hNull | ⟨members, hObject⟩
      · refine .inl ⟨none, [], hNone, by simp [withObject, hNull, Value.empty], fun other => ?_⟩
        constructor
        · rintro (_ | ⟨-, hObject⟩ | ⟨hSome, -⟩)
          · rfl
          · cases hNull.symm.trans hObject
          · cases hSource.symm.trans hSome
        · rintro rfl
          exact .absent hSource hNull
      · refine .inl ⟨none, members, hNone, by simp [withObject, hObject], fun other => ?_⟩
        constructor
        · rintro (⟨-, hNull⟩ | ⟨-, hSame⟩ | ⟨hSome, -⟩)
          · cases hNull.symm.trans hObject
          · cases hObject.symm.trans hSame
            rfl
          · cases hSource.symm.trans hSome
        · rintro rfl
          exact .present hSource hObject
  | some source =>
      have hHas (members : Members) : b.HasData tree members ↔ source.Gives tree members := by
        constructor
        · rintro (⟨hNone, -⟩ | ⟨hNone, -⟩ | ⟨hSame, hGives⟩)
          · cases hSource.symm.trans hNone
          · cases hSource.symm.trans hNone
          · cases hSource.symm.trans hSame
            exact hGives
        · exact .read hSource
      rcases source.load_cases tree with ⟨context, hLoad, members, hObject, hOnly⟩ |
          ⟨e, hLoad, hRefuses, hNone⟩
      · refine .inl ⟨some context, members, ?_, hObject, fun other => (hHas other).trans (hOnly other)⟩
        rw [context?, hSource]
        simp only [hLoad, Except.map]
      · refine .inr ⟨source, e, rfl, ?_, hRefuses, fun members h => hNone members ((hHas members).mp h)⟩
        rw [context?, hSource]
        simp only [hLoad, Except.map]

end Bundling

namespace Bundler

variable {σ : Type}

end Bundler
end TemplateBundle
