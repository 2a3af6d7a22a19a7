import Mathlib
import TemplateBundle.Proofs.Discovery
import TemplateBundle.Proofs.Resolution.Reachability

/-! Which markers of a text a scan finds. Main statement: going from the left, the scan selects each
marker whose braces do not lie in the name of a marker selected before, and the references of the
text are the names of the selected markers, each where it first occurs. -/
namespace TemplateBundle.Discovery

/-- What a name is made of: no quotes, blanks, closing braces or tildes. -/
def InName (c : Char) : Prop :=
  c ≠ '\'' ∧ c ≠ '"' ∧ c ≠ '}' ∧ c ≠ '~' ∧ Text.isBlank c = false

/-- An inclusion marker of a text, in the parts that it is written in. -/
structure Marker (text : List Char) where
  before : List Char
  tilde : List Char
  blanks : List Char
  quote : List Char
  name : List Char
  behind : List Char
  spelled : text = before ++ '{' :: '{' :: (tilde ++ '>' :: (blanks ++ (quote ++ (name ++ behind))))
  unescaped : before.getLast? ≠ some '\\'
  tilde_opt : tilde = [] ∨ tilde = ['~']
  isBlanks : ∀ c ∈ blanks, Text.isBlank c = true
  quote_opt : quote = [] ∨ quote = ['\''] ∨ quote = ['"']
  /-- The name is not empty, and does not begin like a subexpression or a local variable -/
  starts : ∃ c ∈ name.head?, c ≠ '(' ∧ c ≠ '@'
  inName : ∀ c ∈ name, InName c
  /-- The name is as long as it can be -/
  ends : ∀ c ∈ behind.head?, ¬ InName c

variable {text : List Char}

namespace Marker

/-- The place of the braces. -/
def start (marker : Marker text) : Nat := marker.before.length

def nameStart (marker : Marker text) : Nat :=
  marker.start + 2 + (marker.tilde ++ '>' :: (marker.blanks ++ marker.quote)).length

def nameEnd (marker : Marker text) : Nat := marker.nameStart + marker.name.length

/-- The braces of the other marker lie in the name of this one. -/
def Covers (marker other : Marker text) : Prop :=
  marker.nameStart ≤ other.start ∧ other.start + 2 ≤ marker.nameEnd

end Marker

/-- A choice of markers from the left to the right, where a marker is selected unless its braces lie
in the name of a marker selected before. -/
structure Selection (markers : List (Marker text)) : Prop where
  ordered : markers.Pairwise fun m n => m.start < n.start
  mem_iff : ∀ marker, marker ∈ markers ↔
    ∀ earlier ∈ markers, earlier.start < marker.start → ¬ earlier.Covers marker

theorem isNameChar_iff_inName {c : Char} : isNameChar c = true ↔ InName c := by
  simp only [isNameChar_iff, InName, Bool.or_eq_false_iff, beq_eq_false_iff_ne]
  tauto

theorem isNameStart_iff {c : Char} :
    isNameStart c = true ↔ InName c ∧ c ≠ '(' ∧ c ≠ '@' := by
  simp only [isNameStart, Bool.and_eq_true, isNameChar_iff_inName, Bool.not_eq_true',
    Bool.or_eq_false_iff, beq_eq_false_iff_ne]

theorem inName_brace : InName '{' := isNameChar_iff_inName.mp (by decide)

theorem starts_of_name? {s name rest : List Char} (h : name? s = some (name, rest)) :
    ∃ c ∈ name.head?, isNameStart c = true := by
  unfold name? at h
  split at h
  · cases h
  · next c cs =>
    split at h
    · next hStart =>
      cases h
      exact ⟨c, rfl, hStart⟩
    · cases h

/-- An optional character is dropped, and one that is not there costs nothing. -/
theorem dropOne_append {p : Char → Bool} {front rest : List Char}
    (hFront : front = [] ∨ ∃ c, p c = true ∧ front = [c]) (hRest : ∀ c ∈ rest.head?, p c = false) :
    dropOne p (front ++ rest) = rest := by
  rcases hFront with rfl | ⟨c, hc, rfl⟩
  · cases rest with
    | nil => rfl
    | cons c rest => simp [dropOne, hRest c rfl]
  · simp [dropOne, hc]

namespace Marker

variable (marker : Marker text)

/-- The name of the marker and what follows. -/
def named : List Char := marker.name ++ marker.behind

theorem head_named {c : Char} (h : c ∈ marker.named.head?) :
    InName c ∧ c ≠ '(' ∧ c ≠ '@' := by
  obtain ⟨d, hHead, hStart⟩ := marker.starts
  obtain ⟨chars, hName⟩ := List.head?_eq_some_iff.mp hHead
  obtain rfl : d = c := by simpa [named, hName] using h
  exact ⟨marker.inName d (by simp [hName]), hStart⟩

theorem dropOne_tilde (rest : List Char) :
    dropOne (· == '~') (marker.tilde ++ '>' :: rest) = '>' :: rest := by
  refine dropOne_append ?_ (by simp)
  exact marker.tilde_opt.imp_right fun hTilde => ⟨'~', rfl, hTilde⟩

theorem dropOne_quote :
    dropOne (fun c => c == '\'' || c == '"') (marker.quote ++ marker.named) = marker.named := by
  refine dropOne_append ?_ fun c hc => ?_
  · rcases marker.quote_opt with hQuote | hQuote | hQuote
    · exact .inl hQuote
    · exact .inr ⟨'\'', rfl, hQuote⟩
    · exact .inr ⟨'"', rfl, hQuote⟩
  · obtain ⟨hSingle, hDouble, -⟩ := (marker.head_named hc).1
    simp [hSingle, hDouble]

/-- No blank follows the blanks. -/
theorem head_quoted {c : Char} (h : c ∈ (marker.quote ++ marker.named).head?) :
    Text.isBlank c = false := by
  rcases marker.quote_opt with hQuote | hQuote | hQuote
  · rw [hQuote, List.nil_append] at h
    exact (marker.head_named h).1.2.2.2.2
  all_goals
    obtain rfl := Option.some.inj (hQuote ▸ h)
    decide

theorem takeWhile_blanks :
    (marker.blanks ++ (marker.quote ++ marker.named)).takeWhile Text.isBlank = marker.blanks ∧
      (marker.blanks ++ (marker.quote ++ marker.named)).dropWhile Text.isBlank =
        marker.quote ++ marker.named :=
  Text.takeWhile_run marker.isBlanks fun _ hc => marker.head_quoted hc

theorem name?_named : name? marker.named = some (marker.name, marker.behind) := by
  refine name?_append ?_ ?_ ?_
  · obtain ⟨c, hHead, hStart⟩ := marker.starts
    obtain ⟨chars, hName⟩ := List.head?_eq_some_iff.mp hHead
    exact ⟨c, hHead, isNameStart_iff.mpr ⟨marker.inName c (by simp [hName]), hStart⟩⟩
  · exact fun c hc => isNameChar_iff_inName.mpr (marker.inName c hc)
  · exact fun c hc => Bool.eq_false_iff.mpr (mt isNameChar_iff_inName.mp (marker.ends c hc))

/-- The text from the braces on. -/
def tag : List Char :=
  '{' :: '{' :: (marker.tilde ++ '>' :: (marker.blanks ++ (marker.quote ++ marker.named)))

/-- The scan reads a marker wherever there is one. -/
theorem marker?_tag : marker? marker.tag = some (marker.name, marker.behind) := by
  rw [tag, marker?]
  simp only [marker.dropOne_tilde]
  rw [marker.takeWhile_blanks.2, marker.dropOne_quote, marker.name?_named]

/-- At one place stands one marker at most: its parts can be read off the text behind its braces in
one way only. -/
theorem eq_of_start {marker other : Marker text} (h : marker.start = other.start) :
    marker = other := by
  have hText : marker.before ++ marker.tag = other.before ++ other.tag :=
    marker.spelled.symm.trans other.spelled
  obtain ⟨hBefore, hTag⟩ := List.append_inj hText h
  have hLead := (List.cons_eq_cons.mp (List.cons_eq_cons.mp hTag).2).2
  have hSign := congrArg (dropOne (· == '~')) hLead
  rw [marker.dropOne_tilde, other.dropOne_tilde] at hSign
  have hRest := (List.cons_eq_cons.mp hSign).2
  have hTilde : marker.tilde = other.tilde := by
    rw [hRest] at hLead
    exact List.append_cancel_right hLead
  have hBlanks : marker.blanks = other.blanks := by
    rw [← marker.takeWhile_blanks.1, ← other.takeWhile_blanks.1, hRest]
  have hQuoted : marker.quote ++ marker.named = other.quote ++ other.named := by
    rw [← marker.takeWhile_blanks.2, ← other.takeWhile_blanks.2, hRest]
  have hNamed : marker.named = other.named := by
    rw [← marker.dropOne_quote, ← other.dropOne_quote, hQuoted]
  have hQuote : marker.quote = other.quote := by
    rw [hNamed] at hQuoted
    exact List.append_cancel_right hQuoted
  have hName : (marker.name, marker.behind) = (other.name, other.behind) := by
    refine Option.some.inj ?_
    rw [← marker.name?_named, ← other.name?_named, hNamed]
  cases marker
  cases other
  simp only [Prod.mk.injEq] at *
  simp only [mk.injEq]
  exact ⟨hBefore, hTilde, hBlanks, hQuote, hName⟩

end Marker

/-- What the scan reads as a marker is one, unless a backslash stands before it. -/
theorem exists_marker {before s name rest : List Char} (hText : text = before ++ s)
    (hSlash : before.getLast? ≠ some '\\') (h : marker? s = some (name, rest)) :
    ∃ marker : Marker text, marker.before = before ∧ marker.name = name ∧ marker.behind = rest := by
  unfold marker? at h
  split at h
  · next behind =>
    split at h
    · next after hSign =>
      obtain ⟨hNamed, hChars, hRest⟩ := name?_eq_some h
      obtain ⟨tilde, hTilde, hLead⟩ : ∃ tilde : List Char, (tilde = [] ∨ tilde = ['~']) ∧
          behind = tilde ++ '>' :: after := by
        rw [← hSign]
        rcases dropOne_spelled (· == '~') behind with hSame | ⟨c, hc, hSame⟩
        · exact ⟨[], .inl rfl, hSame⟩
        · exact ⟨[c], .inr (by simpa using hc), hSame⟩
      obtain ⟨quote, hQuote, hQuoted⟩ : ∃ quote : List Char,
          (quote = [] ∨ quote = ['\''] ∨ quote = ['"']) ∧
            after.dropWhile Text.isBlank = quote ++ (name ++ rest) := by
        rw [← hNamed]
        rcases dropOne_spelled (fun c => c == '\'' || c == '"') (after.dropWhile Text.isBlank) with
          hSame | ⟨c, hc, hSame⟩
        · exact ⟨[], .inl rfl, hSame⟩
        · exact ⟨[c], .inr (by simpa using hc), hSame⟩
      have hStarts : ∃ c ∈ name.head?, c ≠ '(' ∧ c ≠ '@' := by
        obtain ⟨c, hHead, hStart⟩ := starts_of_name? h
        exact ⟨c, hHead, (isNameStart_iff.mp hStart).2⟩
      refine ⟨{ before, tilde, quote, name, behind := rest, blanks := after.takeWhile Text.isBlank
                spelled := ?_, unescaped := hSlash, tilde_opt := hTilde, quote_opt := hQuote
                starts := hStarts, isBlanks := fun c hc => List.mem_takeWhile_imp hc
                inName := fun c hc => isNameChar_iff_inName.mp (hChars c hc)
                ends := fun c hc hIn => ?_ }, rfl, rfl, rfl⟩
      · rw [hText, hLead, ← hQuoted, List.takeWhile_append_dropWhile]
      · exact absurd (isNameChar_iff_inName.mpr hIn) (by simp [hRest c hc])
    · cases h
  · cases h

theorem getElem?_of_split {front rest : List Char} (h : text = front ++ rest) (i : Nat) :
    text[front.length + i]? = rest[i]? := by
  rw [h, List.getElem?_append_right (Nat.le_add_right _ _), Nat.add_sub_cancel_left]

namespace Marker

variable (marker : Marker text)

/-- The marker without the text around it. -/
def span : List Char :=
  '{' :: '{' :: (marker.tilde ++ '>' :: (marker.blanks ++ marker.quote)) ++ marker.name

theorem start_add_two_lt_nameStart : marker.start + 2 < marker.nameStart := by
  simp only [nameStart, List.length_append, List.length_cons]
  omega

theorem start_add_two_lt_nameEnd : marker.start + 2 < marker.nameEnd :=
  lt_of_lt_of_le marker.start_add_two_lt_nameStart (Nat.le_add_right _ _)

theorem text_eq : text = (marker.before ++ marker.span) ++ marker.behind := by
  refine marker.spelled.trans ?_
  simp [span]

theorem length_span : (marker.before ++ marker.span).length = marker.nameEnd := by
  simp only [span, nameEnd, nameStart, start, List.length_append, List.length_cons]
  omega

theorem nameEnd_le_length : marker.nameEnd ≤ text.length := by
  have hLength := congrArg List.length marker.text_eq
  rw [List.length_append, marker.length_span] at hLength
  omega

theorem getElem?_start : text[marker.start]? = some '{' :=
  getElem?_of_split marker.spelled 0

theorem getElem?_start_succ : text[marker.start + 1]? = some '{' :=
  getElem?_of_split marker.spelled 1

/-- No brace stands between the two braces and the name. -/
theorem getElem?_ahead_of_name {i : Nat} (hStart : marker.start + 2 ≤ i)
    (hName : i < marker.nameStart) : text[i]? ≠ some '{' := by
  obtain ⟨j, rfl⟩ := Nat.exists_eq_add_of_le hStart
  have hSplit : text = (marker.before ++ ['{', '{']) ++
      ((marker.tilde ++ '>' :: (marker.blanks ++ marker.quote)) ++ marker.named) := by
    refine marker.spelled.trans ?_
    simp [named]
  have hPlace : (marker.before ++ ['{', '{']).length = marker.start + 2 := by simp [start]
  have hChar := getElem?_of_split hSplit j
  rw [hPlace, List.getElem?_append_left (by rw [nameStart] at hName; omega)] at hChar
  intro hBrace
  have hMem := List.mem_of_getElem? (hChar.symm.trans hBrace)
  simp only [List.mem_append, List.mem_cons] at hMem
  rcases hMem with hTilde | hSign | hBlank | hQuote
  · rcases marker.tilde_opt with h | h <;> simp [h] at hTilde
  · exact absurd hSign (by decide)
  · exact absurd (marker.isBlanks _ hBlank) (by decide)
  · rcases marker.quote_opt with h | h | h <;> simp [h] at hQuote

theorem getElem?_nameEnd : text[marker.nameEnd]? = marker.behind.head? := by
  have hChar := getElem?_of_split marker.text_eq 0
  rw [marker.length_span] at hChar
  rw [List.head?_eq_getElem?]
  exact hChar

/-- A marker that begins ahead of the end of an earlier one begins in the name of that one, and has
both of its braces there, since a brace would be part of the name. -/
theorem covers_of_lt {marker other : Marker text} (hStart : marker.start < other.start)
    (hEnd : other.start < marker.nameEnd) : marker.Covers other := by
  have hFirst := other.getElem?_start
  have hSecond := other.getElem?_start_succ
  have hName : marker.nameStart ≤ other.start := by
    by_contra hAhead
    rcases Nat.lt_or_ge (other.start + 1) marker.nameStart with hLt | hGe
    · exact marker.getElem?_ahead_of_name (by omega) hLt hSecond
    · have := marker.start_add_two_lt_nameStart
      exact marker.getElem?_ahead_of_name (by omega) (by omega) hFirst
  refine ⟨hName, ?_⟩
  by_contra hBehind
  obtain hLast : other.start + 1 = marker.nameEnd := by omega
  rw [hLast, marker.getElem?_nameEnd] at hSecond
  exact marker.ends '{' hSecond inName_brace

end Marker

/-- What a scan selects that goes on at a place behind everything selected before. -/
structure SelectedFrom (place : Nat) (markers : List (Marker text)) : Prop where
  ordered : markers.Pairwise fun m n => m.start < n.start
  mem_iff : ∀ marker, marker ∈ markers ↔ place ≤ marker.start ∧
    ∀ earlier ∈ markers, earlier.start < marker.start → ¬ earlier.Covers marker

namespace SelectedFrom

variable {place : Nat} {markers : List (Marker text)}

theorem nil (h : text.length ≤ place) : SelectedFrom place ([] : List (Marker text)) where
  ordered := .nil
  mem_iff marker := by
    have hLength := marker.nameEnd_le_length
    have hName := marker.start_add_two_lt_nameEnd
    simp only [List.not_mem_nil, false_iff, not_and]
    omega

/-- Where no marker stands, the scan goes on. -/
theorem skip (h : SelectedFrom (place + 1) markers)
    (hNone : ∀ marker : Marker text, marker.start ≠ place) : SelectedFrom place markers where
  ordered := h.ordered
  mem_iff marker := by
    rw [h.mem_iff]
    have := hNone marker
    refine and_congr_left fun _ => ?_
    omega

/-- Behind a marker the scan goes on at the end of its name. -/
theorem cons {marker : Marker text} (h : SelectedFrom marker.nameEnd markers) :
    SelectedFrom marker.start (marker :: markers) where
  ordered := by
    refine List.pairwise_cons.mpr ⟨fun other hOther => ?_, h.ordered⟩
    have hEnd := ((h.mem_iff other).mp hOther).1
    have hName := marker.start_add_two_lt_nameEnd
    omega
  mem_iff other := by
    have hName := marker.start_add_two_lt_nameEnd
    constructor
    · intro hMem
      rcases List.mem_cons.mp hMem with rfl | hMem
      · refine ⟨le_rfl, fun earlier hEarlier hLt => ?_⟩
        rcases List.mem_cons.mp hEarlier with rfl | hEarlier
        · exact absurd hLt (lt_irrefl _)
        · have := ((h.mem_iff earlier).mp hEarlier).1
          omega
      · obtain ⟨hPlace, hFree⟩ := (h.mem_iff other).mp hMem
        refine ⟨by omega, fun earlier hEarlier hLt => ?_⟩
        rcases List.mem_cons.mp hEarlier with rfl | hEarlier
        · intro hCovers
          have := hCovers.2
          omega
        · exact hFree earlier hEarlier hLt
    · rintro ⟨hPlace, hFree⟩
      rcases Nat.lt_or_ge other.start marker.nameEnd with hLt | hGe
      · rcases Nat.eq_or_lt_of_le hPlace with hSame | hAfter
        · exact List.mem_cons.mpr (.inl (Marker.eq_of_start hSame.symm))
        · exact absurd (Marker.covers_of_lt hAfter hLt) (hFree marker List.mem_cons_self hAfter)
      · refine List.mem_cons_of_mem marker ((h.mem_iff other).mpr ⟨hGe, ?_⟩)
        exact fun earlier hEarlier => hFree earlier (List.mem_cons_of_mem marker hEarlier)

end SelectedFrom

/-- The scan of what is left of a text selects from there. What `escaped` says counts only where a
brace comes next: behind a name none does, and the last character of the name may be a backslash. -/
theorem exists_selectedFrom (escaped : Bool) (s before : List Char) (hText : text = before ++ s)
    (hEscaped : s.head? = some '{' → (escaped = true ↔ before.getLast? = some '\\')) :
    ∃ markers : List (Marker text), SelectedFrom before.length markers ∧
      markers.map (·.name) = markerNames escaped s := by
  induction escaped, s using markerNames.induct generalizing before with
  | case1 escaped =>
      refine ⟨[], .nil (by simp [hText]), ?_⟩
      simp [markerNames]
  | case2 escaped c cs name rest hMarker ih =>
      obtain ⟨rfl, hRead⟩ : escaped = false ∧ marker? (c :: cs) = some (name, rest) := by
        cases escaped with
        | true => cases hMarker
        | false => exact ⟨rfl, hMarker⟩
      obtain ⟨hAhead, -, hRest⟩ := marker?_eq_some hRead
      have hSlash : before.getLast? ≠ some '\\' := by
        obtain ⟨after, hBraces⟩ := hAhead.braces
        have hBrace : (c :: cs).head? = some '{' := by rw [← hBraces]; rfl
        exact mt (hEscaped hBrace).mpr Bool.false_ne_true
      obtain ⟨marker, rfl, rfl, rfl⟩ := exists_marker hText hSlash hRead
      obtain ⟨markers, hMarkers, hNames⟩ := ih (marker.before ++ marker.span) marker.text_eq
        fun hBrace => absurd (hRest '{' hBrace) (by decide)
      rw [marker.length_span] at hMarkers
      refine ⟨marker :: markers, hMarkers.cons, ?_⟩
      rw [List.map_cons, hNames, markerNames_of_marker hRead]
  | case3 escaped c cs hNone ih =>
      obtain ⟨markers, hMarkers, hNames⟩ := ih (before ++ [c]) (by simp [hText])
        fun _ => by simp
      rw [List.length_append] at hMarkers
      refine ⟨markers, hMarkers.skip fun marker hStart => ?_, ?_⟩
      · -- a marker here would have been read
        obtain ⟨rfl, hTag⟩ := List.append_inj (hText.symm.trans marker.spelled) hStart.symm
        have hRead : marker? (c :: cs) = some (marker.name, marker.behind) := by
          rw [hTag]
          exact marker.marker?_tag
        cases escaped with
        | true => exact marker.unescaped ((hEscaped (by rw [hTag]; rfl)).mp rfl)
        | false => exact absurd (hNone.symm.trans hRead) (by simp)
      · rw [hNames, markerNames_of_none hNone]

namespace Selection

variable {markers others : List (Marker text)}

/-- Whether a marker is selected is settled by the markers ahead of it. -/
theorem mem_iff_mem (h : Selection markers) (hOthers : Selection others) (marker : Marker text) :
    marker ∈ markers ↔ marker ∈ others := by
  induction hStart : marker.start using Nat.strong_induction_on generalizing marker with
  | _ n ih =>
  subst hStart
  rw [h.mem_iff, hOthers.mem_iff]
  constructor
  · intro hFree earlier hEarlier hLt
    exact hFree earlier ((ih earlier.start hLt earlier rfl).mpr hEarlier) hLt
  · intro hFree earlier hEarlier hLt
    exact hFree earlier ((ih earlier.start hLt earlier rfl).mp hEarlier) hLt

theorem unique (h : Selection markers) (hOthers : Selection others) : markers = others := by
  have hNodup : ∀ {chosen : List (Marker text)}, Selection chosen → chosen.Nodup :=
    fun hChosen => hChosen.ordered.imp fun hLt hSame => (hSame ▸ hLt).false
  refine List.Perm.eq_of_pairwise (fun m n _ _ hLt hGt => absurd hLt (lt_asymm hGt)) h.ordered
    hOthers.ordered ?_
  exact (List.perm_ext_iff_of_nodup (hNodup h) (hNodup hOthers)).mpr (h.mem_iff_mem hOthers)

end Selection

theorem filter_firstOccurrences (p : String → Bool) (names : List String) :
    (firstOccurrences names).filter p = firstOccurrences (names.filter p) := by
  induction names with
  | nil => rfl
  | cons name rest ih =>
      cases hName : p name with
      | true =>
          rw [List.filter_cons_of_pos hName, firstOccurrences, firstOccurrences,
            List.filter_cons_of_pos hName, ← ih, List.filter_comm]
      | false =>
          rw [List.filter_cons_of_neg (by simp [hName]), firstOccurrences,
            List.filter_cons_of_neg (by simp [hName]), ← ih, List.filter_filter]
          refine List.filter_congr fun other _ => ?_
          by_cases hOther : other = name
          · simp [hOther, hName]
          · simp [hOther]

theorem firstOccurrences_eq_eraseDups (names : List String) :
    firstOccurrences names = names.eraseDups := by
  induction hLength : names.length using Nat.strong_induction_on generalizing names with
  | _ n ih =>
  subst hLength
  cases names with
  | nil => rfl
  | cons name rest =>
      have hShorter : (rest.filter fun other => !other == name).length < (name :: rest).length :=
        Nat.lt_succ_of_le (List.length_filter_le _ _)
      rw [List.eraseDups_cons, firstOccurrences, filter_firstOccurrences, ← ih _ hShorter _ rfl]
      have hOther : ∀ other ∈ rest, decide (other ≠ name) = !other == name := fun other _ => by
        by_cases h : other = name <;> simp [h]
      rw [List.filter_congr hOther]

/-- Exactly one selection of markers goes from the left to the right of a text, and the references
of the text are the names in it, each where it first occurs. -/
theorem exists_selection (text : String) : ∃ selected : List (Marker text.toList),
    (∀ markers, Selection markers ↔ markers = selected) ∧ (references text).Nodup ∧
      references text = (selected.map fun marker => String.ofList marker.name).eraseDups := by
  obtain ⟨selected, hFrom, hNames⟩ := exists_selectedFrom false text.toList [] rfl (by simp)
  have hSelected : Selection selected :=
    ⟨hFrom.ordered, fun marker => by simpa using hFrom.mem_iff marker⟩
  refine ⟨selected, fun markers => ⟨fun h => h.unique hSelected, ?_⟩, references_nodup text, ?_⟩
  · rintro rfl
    exact hSelected
  · rw [references, ← hNames, firstOccurrences_eq_eraseDups, List.map_map]
    rfl

/-- A marker in the name of another is part of that name, and so are its braces. -/
example : references "\x7b\x7b>\x7b\x7b>a\x7d\x7d \\\x7b\x7b> b\x7d\x7d\x7b\x7b\x7b>'c'" =
    ["\x7b\x7b>a", "c"] := by
  decide +kernel

end TemplateBundle.Discovery
