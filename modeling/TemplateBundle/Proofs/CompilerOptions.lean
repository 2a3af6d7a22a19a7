import TemplateBundle.Bundler.Error
import TemplateBundle.Proofs.Json.Spelling

/-! Which JSON objects are options of the engine, and what they say. An option is given at most once,
by either of its two keys; what other members hold does not matter, nor in which order all stand. -/
namespace TemplateBundle.CompilerOptions

open Json (Document)

/-- The options, one by one. -/
inductive Setting where
  | noEscape
  | strict
  | preventIndent
  | devMode
  deriving DecidableEq

/-- A member of an object; without a key if what is written for it spells no text. -/
abbrev Member := Option String × Document

namespace Setting

def all : List Setting := [.noEscape, .strict, .preventIndent, .devMode]

/-- The keys that name the option. -/
def spellings : Setting → List String
  | .noEscape => ["no_escape", "noEscape"]
  | .strict => ["strict", "strictMode"]
  | .preventIndent => ["prevent_indent", "preventIndent"]
  | .devMode => ["dev_mode", "devMode"]

def valueIn (o : CompilerOptions) : Setting → Bool
  | .noEscape => o.noEscape
  | .strict => o.strict
  | .preventIndent => o.preventIndent
  | .devMode => o.devMode

def put (o : CompilerOptions) (b : Bool) : Setting → CompilerOptions
  | .noEscape => { o with noEscape := b }
  | .strict => { o with strict := b }
  | .preventIndent => { o with preventIndent := b }
  | .devMode => { o with devMode := b }

/-- The field of the record that the option is read by. -/
def field (s : Setting) : Json.RecordField CompilerOptions :=
  ⟨s.spellings, fun doc o => do return s.put o (← doc.toBool)⟩

/-- Whether a member gives the option. -/
def isNamed (s : Setting) (m : Member) : Bool := m.1.any s.spellings.contains

variable {s t : Setting} {key : String} {o o' : CompilerOptions}

theorem mem_all (s : Setting) : s ∈ all := by
  cases s with
  | noEscape => decide
  | strict => decide
  | preventIndent => decide
  | devMode => decide

@[simp] theorem isNamed_some {doc : Document} :
    s.isNamed (some key, doc) = true ↔ key ∈ s.spellings := by
  simp [isNamed]

/-- No key names two options. -/
theorem eq_of_mem_spellings (hs : key ∈ s.spellings) (ht : key ∈ t.spellings) : s = t := by
  have hApart : ∀ s ∈ all, ∀ t ∈ all, ∀ k ∈ s.spellings, k ∈ t.spellings → s = t := by decide
  exact hApart s s.mem_all t t.mem_all key hs ht

/-- What gives an option gives no other. -/
theorem isNamed_of_ne {doc : Document} (hKey : key ∈ s.spellings) (ht : t ≠ s) :
    t.isNamed (some key, doc) = false := by
  rw [Bool.eq_false_iff]
  exact fun h => ht (eq_of_mem_spellings (isNamed_some.mp h) hKey)

/-- A key that names an option was seen if that option was given. -/
theorem contains_flatMap_spellings (hKey : key ∈ s.spellings) (given : List Setting) :
    (given.flatMap spellings).contains key = true ↔ s ∈ given := by
  rw [List.contains_iff_mem, List.mem_flatMap]
  constructor
  · rintro ⟨t, hGiven, hNames⟩
    rwa [eq_of_mem_spellings hKey hNames]
  · intro hGiven
    exact ⟨s, hGiven, hKey⟩

theorem valueIn_put (b : Bool) :
    s.valueIn (t.put o b) = if s = t then b else s.valueIn o := by
  cases s <;> cases t <;> rfl

theorem eq_of_valueIn (h : ∀ s : Setting, s.valueIn o = s.valueIn o') : o = o' := by
  obtain ⟨a, b, c, d⟩ := o
  obtain rfl : a = o'.noEscape := h .noEscape
  obtain rfl : b = o'.strict := h .strict
  obtain rfl : c = o'.preventIndent := h .preventIndent
  obtain rfl : d = o'.devMode := h .devMode
  rfl

/-- An option is on or off, and nothing else. -/
theorem exists_fault (s : Setting) {doc : Document} (h : ¬ ∃ b, doc = .bool b) :
    ∃ fault, s.field.read doc o = .error fault := by
  cases doc with
  | bool b => exact absurd ⟨b, rfl⟩ h
  | null | number _ | string _ | array _ _ | object _ _ | broken _ => exact ⟨_, rfl⟩

theorem fieldOf?_eq (key : String) :
    Json.fieldOf? fields key = (all.find? fun s => s.spellings.contains key).map field := by
  have hFields : fields = all.map field := rfl
  rw [Json.fieldOf?, hFields, List.find?_map]
  rfl

theorem fieldOf?_of_not_mem (h : ∀ s : Setting, key ∉ s.spellings) :
    Json.fieldOf? fields key = none := by
  rw [fieldOf?_eq, Option.map_eq_none_iff, List.find?_eq_none]
  intro s _
  simpa using h s

/-- The first field that a key names is that of the one option it names. -/
theorem fieldOf?_of_mem (h : key ∈ s.spellings) : Json.fieldOf? fields key = some s.field := by
  have hSome : (all.find? fun t => t.spellings.contains key).isSome = true :=
    List.find?_isSome.mpr ⟨s, s.mem_all, List.contains_iff_mem.mpr h⟩
  obtain ⟨t, hFirst⟩ := Option.isSome_iff_exists.mp hSome
  have hNames := List.find?_some hFirst
  rw [fieldOf?_eq, hFirst, eq_of_mem_spellings h (List.contains_iff_mem.mp hNames)]
  rfl

end Setting

open Setting

/-- The members turn the options `o` into `o'`, if the options in `given` were given before. -/
structure Gives (given : List Setting) (o : CompilerOptions) (members : List Member)
    (o' : CompilerOptions) : Prop where
  keyed : ∀ m ∈ members, m.1.isSome = true
  value : ∀ s : Setting, ∀ m ∈ members, s.isNamed m = true → m.2 = .bool (s.valueIn o')
  once : ∀ s : Setting, members.countP s.isNamed ≤ if s ∈ given then 0 else 1
  other : ∀ s : Setting, (∀ m ∈ members, s.isNamed m = false) → s.valueIn o' = s.valueIn o

namespace Gives

variable {given : List Setting} {s : Setting} {key : String} {doc : Document}
  {members : List Member} {o o' : CompilerOptions}

theorem nil_iff : Gives given o [] o' ↔ o' = o := by
  refine ⟨fun h => eq_of_valueIn fun s => h.other s (by simp), ?_⟩
  rintro rfl
  exact ⟨by simp, by simp, by simp, fun _ _ => rfl⟩

/-- A member that gives no option makes no difference. -/
theorem skip_iff (hKey : ∀ s : Setting, key ∉ s.spellings) :
    Gives given o ((some key, doc) :: members) o' ↔ Gives given o members o' := by
  have hOther (s : Setting) : s.isNamed (some key, doc) = false := by
    simpa [isNamed] using hKey s
  constructor
  · intro h
    refine ⟨fun m hm => h.keyed m (.tail _ hm), fun s m hm => h.value s m (.tail _ hm), ?_, ?_⟩
    · intro s
      simpa [hOther s] using h.once s
    · intro s hNone
      exact h.other s (List.forall_mem_cons.mpr ⟨hOther s, hNone⟩)
  · intro h
    refine ⟨List.forall_mem_cons.mpr ⟨rfl, h.keyed⟩, ?_, ?_, ?_⟩
    · intro s
      refine List.forall_mem_cons.mpr ⟨?_, h.value s⟩
      simp [hOther s]
    · intro s
      simpa [hOther s] using h.once s
    · intro s hNone
      exact h.other s (List.forall_mem_cons.mp hNone).2

theorem not_of_given (hKey : key ∈ s.spellings) (hGiven : s ∈ given) :
    ¬ Gives given o ((some key, doc) :: members) o' := by
  intro h
  have hOnce := h.once s
  simp [isNamed_some.mpr hKey, hGiven] at hOnce

/-- A member that gives an option sets it, and none behind it gives the option again. -/
theorem tail {b : Bool} (h : Gives given o ((some key, .bool b) :: members) o')
    (hKey : key ∈ s.spellings) (hNew : s ∉ given) :
    Gives (s :: given) (s.put o b) members o' := by
  have hNamed : s.isNamed (some key, .bool b) = true := isNamed_some.mpr hKey
  have hNone : members.countP s.isNamed = 0 := by
    simpa [hNamed, hNew] using h.once s
  refine ⟨fun m hm => h.keyed m (.tail _ hm), fun t m hm => h.value t m (.tail _ hm), ?_, ?_⟩
  · intro t
    by_cases ht : t = s
    · subst ht
      simp [hNone]
    · simpa [isNamed_of_ne hKey ht, ht] using h.once t
  · intro t hRest
    rw [valueIn_put]
    split
    · next ht =>
      subst ht
      have hValue := h.value t _ List.mem_cons_self hNamed
      exact (Document.bool.inj hValue).symm
    · next ht => exact h.other t (List.forall_mem_cons.mpr ⟨isNamed_of_ne hKey ht, hRest⟩)

theorem cons {b : Bool} (h : Gives (s :: given) (s.put o b) members o') (hKey : key ∈ s.spellings)
    (hNew : s ∉ given) : Gives given o ((some key, .bool b) :: members) o' := by
  have hNamed : s.isNamed (some key, .bool b) = true := isNamed_some.mpr hKey
  have hNone : members.countP s.isNamed = 0 := by simpa using h.once s
  have hValue : s.valueIn o' = b := by
    have hRest : ∀ m ∈ members, s.isNamed m = false := by
      simpa [List.countP_eq_zero] using hNone
    rw [h.other s hRest, valueIn_put, if_pos rfl]
  refine ⟨List.forall_mem_cons.mpr ⟨rfl, h.keyed⟩, ?_, ?_, ?_⟩
  · intro t
    refine List.forall_mem_cons.mpr ⟨?_, h.value t⟩
    intro ht
    rw [eq_of_mem_spellings (isNamed_some.mp ht) hKey, hValue]
  · intro t
    by_cases ht : t = s
    · subst ht
      simp [hNamed, hNone, hNew]
    · simpa [isNamed_of_ne hKey ht, ht] using h.once t
  · intro t hRest
    rw [List.forall_mem_cons] at hRest
    have ht : t ≠ s := by
      rintro rfl
      exact absurd hNamed (by simp [hRest.1])
    rw [h.other t hRest.2, valueIn_put, if_neg ht]

end Gives

/-- The members of an object are read as the options that they give. The keys that were seen are those
of the options that were given. -/
theorem readMembers_iff {members : List Member} (hPass : ∀ m ∈ members, m.2.pass = .ok ())
    (given : List Setting) (o o' : CompilerOptions) :
    Json.readMembers fields members (given.flatMap spellings) o = .ok o' ↔
      Gives given o members o' := by
  induction members generalizing given o with
  | nil => simp [Json.readMembers, Gives.nil_iff, eq_comm]
  | cons m members ih =>
      obtain ⟨key?, doc⟩ := m
      have hRest := ih fun m hm => hPass m (.tail _ hm)
      cases key? with
      | none =>
          rw [Json.readMembers]
          refine iff_of_false (by simp) fun h => ?_
          exact Bool.false_ne_true (h.keyed _ List.mem_cons_self)
      | some key =>
          by_cases hKey : ∃ s : Setting, key ∈ s.spellings
          · obtain ⟨s, hKey⟩ := hKey
            have hSeen := contains_flatMap_spellings hKey given
            simp only [Json.readMembers, fieldOf?_of_mem hKey]
            by_cases hGiven : s ∈ given
            · rw [if_pos (hSeen.mpr hGiven)]
              exact iff_of_false (by simp) (Gives.not_of_given hKey hGiven)
            · rw [if_neg (hGiven ∘ hSeen.mp)]
              by_cases hBool : ∃ b, doc = .bool b
              · obtain ⟨b, rfl⟩ := hBool
                refine (hRest (s :: given) (s.put o b)).trans ?_
                exact ⟨fun h => h.cons hKey hGiven, fun h => h.tail hKey hGiven⟩
              · obtain ⟨fault, hFault⟩ := s.exists_fault (o := o) hBool
                simp only [hFault, bind, Except.bind]
                refine iff_of_false (by simp) fun h => hBool ⟨s.valueIn o', ?_⟩
                exact h.value s _ List.mem_cons_self (isNamed_some.mpr hKey)
          · have hOther : ∀ s : Setting, key ∉ s.spellings := fun s hs => hKey ⟨s, hs⟩
            have hDoc : doc.pass = .ok () := hPass _ List.mem_cons_self
            rw [Json.readMembers, fieldOf?_of_not_mem hOther, Gives.skip_iff hOther]
            simpa [hDoc, bind, Except.bind] using hRest given o

/-- The members make options: every key spells a text, whatever names an option has a value that is on
or off, and none is given twice. -/
structure Accepted (members : List Member) : Prop where
  keyed : ∀ m ∈ members, m.1.isSome = true
  boolean : ∀ s : Setting, ∀ m ∈ members, s.isNamed m = true → ∃ b, m.2 = .bool b
  once : ∀ s : Setting, members.countP s.isNamed ≤ 1

/-- The value that the members give for an option. -/
def givenValue (members : List Member) (s : Setting) : Bool :=
  match members.find? s.isNamed with
  | some (_, .bool b) => b
  | _ => false

def ofValues (value : Setting → Bool) : CompilerOptions :=
  ⟨value .noEscape, value .strict, value .preventIndent, value .devMode⟩

theorem valueIn_ofValues (value : Setting → Bool) (s : Setting) :
    s.valueIn (ofValues value) = value s := by
  cases s <;> rfl

/-- There is one member at most that gives an option. -/
theorem eq_of_countP_le_one {α : Type} {p : α → Bool} {l : List α} (h : l.countP p ≤ 1) {a b : α}
    (ha : a ∈ l) (hb : b ∈ l) (hpa : p a = true) (hpb : p b = true) : a = b := by
  have ha' := List.mem_filter.mpr ⟨ha, hpa⟩
  have hb' := List.mem_filter.mpr ⟨hb, hpb⟩
  rw [List.countP_eq_length_filter] at h
  match hFilter : l.filter p with
  | [] => rw [hFilter] at ha'; cases ha'
  | [c] =>
      rw [hFilter, List.mem_singleton] at ha' hb'
      exact ha'.trans hb'.symm
  | _ :: _ :: _ => rw [hFilter] at h; simp at h

theorem accepted_iff {members : List Member} :
    Accepted members ↔ ∃ o, Gives [] {} members o := by
  constructor
  · intro h
    refine ⟨ofValues (givenValue members), h.keyed, ?_, fun s => by simpa using h.once s, ?_⟩
    · intro s m hm hNamed
      obtain ⟨b, hValue⟩ := h.boolean s m hm hNamed
      obtain ⟨n, hFirst⟩ : ∃ n, members.find? s.isNamed = some n :=
        Option.isSome_iff_exists.mp (List.find?_isSome.mpr ⟨m, hm, hNamed⟩)
      obtain rfl : m = n := eq_of_countP_le_one (h.once s) hm (List.mem_of_find?_eq_some hFirst)
        hNamed (List.find?_some hFirst)
      rw [valueIn_ofValues, givenValue, hFirst]
      obtain ⟨key?, doc⟩ := m
      obtain rfl : doc = .bool b := hValue
      rfl
    · intro s hNone
      have hFirst : members.find? s.isNamed = none := by simpa using hNone
      rw [valueIn_ofValues, givenValue, hFirst]
      cases s <;> rfl
  · rintro ⟨o, h⟩
    exact ⟨h.keyed, fun s m hm hNamed => ⟨_, h.value s m hm hNamed⟩, fun s => by simpa using h.once s⟩

/-- Whether a member matters: it gives an option, or has no key. -/
def matters (m : Member) : Bool := m.1.isNone || Setting.all.any (·.isNamed m)

theorem matters_of_isNamed {s : Setting} {m : Member} (h : s.isNamed m = true) :
    matters m = true := by
  rw [matters, List.any_eq_true.mpr ⟨s, s.mem_all, h⟩, Bool.or_true]

/-- Members that do not matter may come and go, and those that do may stand in any order. -/
theorem Gives.of_perm {members members' : List Member} {o : CompilerOptions}
    (h : Gives [] {} members o)
    (hPerm : (members.filter matters).Perm (members'.filter matters)) :
    Gives [] {} members' o := by
  have hMem {m : Member} (hMatters : matters m = true) : m ∈ members' ↔ m ∈ members := by
    simpa [hMatters] using (hPerm.mem_iff (a := m)).symm
  refine ⟨?_, ?_, ?_, ?_⟩
  · intro m hm
    by_contra hNone
    have hMatters : matters m = true := by simp_all [matters]
    exact hNone (h.keyed m ((hMem hMatters).mp hm))
  · intro s m hm hNamed
    exact h.value s m ((hMem (matters_of_isNamed hNamed)).mp hm) hNamed
  · intro s
    have hSame (l : List Member) : l.countP s.isNamed = (l.filter matters).countP s.isNamed := by
      rw [List.countP_filter]
      refine List.countP_congr fun m _ => ?_
      simpa using matters_of_isNamed
    rw [hSame, ← hPerm.countP_eq, ← hSame]
    exact h.once s
  · intro s hNone
    refine h.other s fun m hm => ?_
    by_contra hNamed
    rw [Bool.not_eq_false] at hNamed
    have hm' := (hMem (matters_of_isNamed hNamed)).mpr hm
    exact absurd (hNone m hm') (by simp [hNamed])

theorem ofDocument_iff {members : List Member} (hPass : ∀ m ∈ members, m.2.pass = .ok ())
    (o : CompilerOptions) :
    ofDocument (.object members none) = .ok o ↔ Gives [] {} members o := by
  rw [← readMembers_iff hPass [] {} o, ofDocument, Json.readRecord]
  change (Json.readMembers fields members [] {} >>= fun record => Except.ok record) = .ok o ↔ _
  rw [show (fun record : CompilerOptions => Except.ok (ε := Json.Fault) record) = pure from rfl,
    bind_pure]
  rfl

/-- The file at the path is an object with these members. -/
def HoldsObject (tree : FileTree) (path : Path) (members : List Member) : Prop :=
  ∃ text rest, tree.readText path = .ok text ∧
    Json.Spells text.toList (.object members none) rest ∧ Json.skipGap rest = []

theorem HoldsObject.of_chars {tree : FileTree} {path : Path} {members : List Member}
    {chars : List Char} (hRead : tree.readText path = .ok (String.ofList chars))
    (hText : Json.Spells chars (.object members none) []) : HoldsObject tree path members :=
  ⟨_, [], hRead, by rwa [String.toList_ofList], rfl⟩

/-- The options in a file are those that the members of its object give. -/
theorem HoldsObject.load_iff {tree : FileTree} {path : Path} {members : List Member}
    (h : HoldsObject tree path members) (o : CompilerOptions) :
    load tree path = .ok o ↔ Gives [] {} members o := by
  obtain ⟨text, rest, hRead, hText, hEnd⟩ := h
  have hParse : parse text = ofDocument (.object members none) :=
    Json.readWith_of_spells hText hEnd
  rw [← ofDocument_iff hText.pass_of_mem o, ← hParse, load, hRead]
  cases hOptions : parse text with
  | error fault => simp [hOptions]
  | ok options => simp [hOptions]

/-- A file is loaded exactly if the members of its object are accepted. Each option then has the value
that is given for it, or is off, and neither the order of the members matters nor what names no option. -/
theorem load_object {tree : FileTree} {path : Path} {members : List Member}
    (h : HoldsObject tree path members) :
    ((∃ o, load tree path = .ok o) ↔ Accepted members) ∧
    (∀ o, load tree path = .ok o → ∀ s : Setting,
      (∀ m ∈ members, s.isNamed m = true → m.2 = .bool (s.valueIn o)) ∧
      ((∀ m ∈ members, s.isNamed m = false) → s.valueIn o = false)) ∧
    ∀ (other : FileTree) (place : Path) (changed : List Member), HoldsObject other place changed →
      (members.filter matters).Perm (changed.filter matters) →
      ∀ o, load other place = .ok o ↔ load tree path = .ok o := by
  refine ⟨?_, ?_, ?_⟩
  · rw [accepted_iff]
    exact exists_congr h.load_iff
  · intro o hLoad s
    have hGives := (h.load_iff o).mp hLoad
    refine ⟨hGives.value s, fun hNone => (hGives.other s hNone).trans ?_⟩
    cases s <;> rfl
  · intro other place changed hOther hPerm o
    rw [h.load_iff o, hOther.load_iff o]
    exact ⟨fun hGives => hGives.of_perm hPerm.symm, fun hGives => hGives.of_perm hPerm⟩

/-- Two options in either order, with a string that spells no text beside them. -/
theorem load_object_strict :
    let tree : FileTree := ⟨[
      (["a.json"], .file (Text.encode "\x7b\"strictMode\":true,\"no_escape\":false\x7d")),
      (["b.json"], .file (Text.encode
        "\x7b\"no_escape\":false,\"x\":\"\\ud800\",\"strictMode\":true\x7d"))], []⟩
    HoldsObject tree ⟨"a.json"⟩ [(some "strictMode", .bool true), (some "no_escape", .bool false)] ∧
      load tree ⟨"a.json"⟩ = .ok { strict := true } ∧
      load tree ⟨"b.json"⟩ = .ok { strict := true } := by
  intro tree
  have hStrict (t : List Char) := Json.spellsString_stringChars "strictMode" t
  have hEscape (t : List Char) := Json.spellsString_stringChars "no_escape" t
  have hOther (t : List Char) := Json.spellsString_stringChars "x" t
  have hObject : HoldsObject tree ⟨"a.json"⟩
      [(some "strictMode", .bool true), (some "no_escape", .bool false)] := by
    have hRead : tree.readText ⟨"a.json"⟩ = .ok (String.ofList
        ('{' :: (Json.stringChars "strictMode" ++ ':' :: 't' :: 'r' :: 'u' :: 'e' :: ',' ::
          (Json.stringChars "no_escape" ++ [':', 'f', 'a', 'l', 's', 'e', '}'])))) := by
      decide +kernel
    exact .of_chars hRead (.object rfl (.more (hStrict _) rfl (.word .true rfl) rfl
      (.last (hEscape _) rfl (.word .false rfl) rfl)))
  have hChanged : HoldsObject tree ⟨"b.json"⟩ [(some "no_escape", .bool false),
      (some "x", .string none), (some "strictMode", .bool true)] := by
    have hRead : tree.readText ⟨"b.json"⟩ = .ok (String.ofList
        ('{' :: (Json.stringChars "no_escape" ++ ':' :: 'f' :: 'a' :: 'l' :: 's' :: 'e' :: ',' ::
          (Json.stringChars "x" ++ ':' :: '"' :: '\\' :: 'u' :: 'd' :: '8' :: '0' :: '0' :: '"' ::
            ',' :: (Json.stringChars "strictMode" ++ [':', 't', 'r', 'u', 'e', '}']))))) := by
      decide +kernel
    exact .of_chars hRead (.object rfl (.more (hEscape _) rfl (.word .false rfl) rfl
      (.more (hOther _) rfl (.string (Json.spellsString_half _)) rfl
      (.last (hStrict _) rfl (.word .true rfl) rfl))))
  obtain ⟨hSome, hValues, hSame⟩ := load_object hObject
  have hAccepted : Accepted [(some "strictMode", .bool true), (some "no_escape", .bool false)] := by
    refine ⟨by simp, fun s => by simp, fun s => ?_⟩
    cases s with
    | noEscape | strict | preventIndent | devMode => decide
  obtain ⟨o, hLoad⟩ := hSome.mpr hAccepted
  obtain rfl : o = { strict := true } := by
    refine eq_of_valueIn fun s => ?_
    obtain ⟨hGiven, hOff⟩ := hValues o hLoad s
    cases s with
    | strict => exact (Document.bool.inj (hGiven _ (.head _) (by decide))).symm
    | noEscape => exact (Document.bool.inj (hGiven _ (.tail _ (.head _)) (by decide))).symm
    | preventIndent | devMode => exact hOff (by simp [isNamed, spellings])
  exact ⟨hObject, hLoad, (hSame _ _ _ hChanged (.swap _ _ []) _).mpr hLoad⟩

/-- An object with a key that spells no text gives no options, though it names none wrongly. -/
theorem not_load_half_key :
    ¬ ∀ (tree : FileTree) (path : Path) (members : List Member), HoldsObject tree path members →
      ((∃ o, load tree path = .ok o) ↔
        (∀ s : Setting, ∀ m ∈ members, s.isNamed m = true → ∃ b, m.2 = .bool b) ∧
        ∀ s : Setting, members.countP s.isNamed ≤ 1) := by
  intro h
  let tree : FileTree := ⟨[(["o.json"], .file (Text.encode "\x7b\"\\ud800\":true\x7d"))], []⟩
  have hRead : tree.readText ⟨"o.json"⟩ = .ok (String.ofList
      ['{', '"', '\\', 'u', 'd', '8', '0', '0', '"', ':', 't', 'r', 'u', 'e', '}']) := by
    decide +kernel
  have hObject : HoldsObject tree ⟨"o.json"⟩ [(none, .bool true)] :=
    .of_chars hRead (.object rfl (.last (Json.spellsString_half _) rfl (.word .true rfl) rfl))
  obtain ⟨o, hLoad⟩ := (h tree ⟨"o.json"⟩ _ hObject).mpr
    ⟨by simp [Setting.isNamed], by simp [Setting.isNamed]⟩
  have hFails : (load tree ⟨"o.json"⟩).isOk = false := by decide +kernel
  rw [hLoad] at hFails
  cases hFails

end TemplateBundle.CompilerOptions
