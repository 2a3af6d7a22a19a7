import TemplateBundle.Proofs.Template.Tags
import TemplateBundle.Template.Outline

/-! Where the tags that include partials stand in the text of a template. Main statement: each of
them stands at a place before which every beginning of a tag is closed or escaped. -/
namespace TemplateBundle

open Tag (Content Phrase)

mutual
/-- What the tags in a node say that include a partial and have no body. -/
def Node.inclusionTags : Node → List Phrase
  | .gap _ => []
  | .text _ => []
  | .comment _ => []
  | .output _ _ => []
  | .decorator _ => []
  | .inclusion tag => [tag.value]
  | .block _ body tail => Outline.inclusionTags body ++ tail.inclusionTags
  | .rawBlock _ _ _ => []
  | .decoratorBlock _ body _ => Outline.inclusionTags body
  | .inclusionBlock _ body _ => Outline.inclusionTags body

def BlockTail.inclusionTags : BlockTail → List Phrase
  | .close _ => []
  | .other _ body _ => Outline.inclusionTags body
  | .chain _ body tail => Outline.inclusionTags body ++ tail.inclusionTags

def Outline.inclusionTags : List Node → List Phrase
  | [] => []
  | node :: rest => node.inclusionTags ++ Outline.inclusionTags rest
end

namespace Outline

/-- Whether two braces come next. -/
def BracesAhead (s : List Char) : Prop := ['{', '{'] <+: s

/-- Whether the text ends with a backslash and braces behind it, if any. -/
def EscapeBehind (s : List Char) : Prop := ∃ n, '\\' :: List.replicate n '{' <:+ s

/-- What holds of the text before a place that a reading of the outline comes to. -/
structure Passed (done rest : List Char) : Prop where
  /-- Braces that begin before the place are closed before it, or escaped -/
  braces : ∀ ahead behind, done = ahead ++ behind → behind ≠ [] → BracesAhead (behind ++ rest) →
    '}' ∈ behind ∨ EscapeBehind ahead
  /-- Braces at the place have no single backslash before them -/
  slashes : BracesAhead rest → done.getLast? = some '\\' → ['\\', '\\'] <:+ done

theorem passed_nil (rest : List Char) : Passed [] rest where
  braces _ _ hSplit hBehind _ := absurd (List.append_eq_nil_iff.mp hSplit.symm).2 hBehind
  slashes _ := nofun

theorem passed_of_brace (done rest : List Char) : Passed (done ++ ['}']) rest where
  braces ahead behind hSplit hBehind _ := by
    obtain ⟨front, last, rfl⟩ := (List.eq_nil_or_concat' behind).resolve_left hBehind
    rw [← List.append_assoc] at hSplit
    obtain ⟨-, hLast⟩ := List.append_inj' hSplit rfl
    exact .inl (hLast ▸ List.mem_append_right front (List.mem_singleton_self _))
  slashes _ hLast := by simp at hLast

/-- More text is done. What counts are the braces that begin in it, and the backslashes it ends
with. -/
theorem Passed.append {done s rest : List Char} (h : Passed done (s ++ rest))
    (hBraces : ∀ front behind, s = front ++ behind → behind ≠ [] → BracesAhead (behind ++ rest) →
      EscapeBehind (done ++ front))
    (hSlashes : BracesAhead rest → s.getLast? = some '\\' → ['\\', '\\'] <:+ s) :
    Passed (done ++ s) rest where
  braces ahead behind hSplit hBehind hAhead := by
    rcases List.append_eq_append_iff.mp hSplit with ⟨front, rfl, hFront⟩ | ⟨front, rfl, rfl⟩
    · exact .inr (hBraces front behind hFront hBehind hAhead)
    · by_cases hFront : front = []
      · subst hFront
        exact .inr (by simpa using hBraces [] s rfl hBehind hAhead)
      · rw [List.append_assoc] at hAhead
        exact (h.braces ahead front rfl hFront hAhead).imp_left (List.mem_append_left s)
  slashes hAhead hLast := by
    by_cases hEmpty : s = []
    · subst hEmpty
      rw [List.append_nil] at hLast ⊢
      exact h.slashes hAhead hLast
    · rw [List.getLast?_append_of_ne_nil _ hEmpty] at hLast
      exact (hSlashes hAhead hLast).trans (List.suffix_append done s)

/-- A place in a text that a reading of its outline comes to. -/
def Reached (text rest : List Char) : Prop := ∃ done, text = done ++ rest ∧ Passed done rest

theorem reached_start (text : List Char) : Reached text text := ⟨[], rfl, passed_nil text⟩

theorem reached_of_brace {text rest : List Char} (h : '}' :: rest <:+ text) :
    Reached text rest := by
  obtain ⟨done, rfl⟩ := h
  exact ⟨done ++ ['}'], by simp, passed_of_brace done rest⟩

theorem startsWith_iff {w s : List Char} : Text.startsWith w s = true ↔ w <+: s := by
  simp only [Text.startsWith, Option.isSome_iff_exists, Text.Scanner.stripStart?_eq_some]
  exact ⟨fun ⟨rest, h⟩ => ⟨rest, h.symm⟩, fun ⟨rest, h⟩ => ⟨rest, h.symm⟩⟩

/-- A single backslash before braces is an escape. -/
theorem escape?_ne_none {s : List Char} (h : BracesAhead s) : escape? ('\\' :: s) ≠ none := by
  obtain ⟨rest, rfl⟩ := h
  unfold escape?
  split <;> simp_all

namespace Reached

variable {text s rest : List Char}

theorem suffix (h : Reached text rest) : rest <:+ text := by
  obtain ⟨done, rfl, -⟩ := h
  exact List.suffix_append done rest

/-- Text without braces is passed. If it ends with a backslash, it ends with two. -/
theorem append (h : Reached text (s ++ rest)) (hs : '{' ∉ s)
    (hSlashes : s.getLast? = some '\\' → ['\\', '\\'] <:+ s) : Reached text rest := by
  obtain ⟨done, rfl, hDone⟩ := h
  refine ⟨done ++ s, by simp, hDone.append (fun front behind hSplit hBehind hAhead => ?_)
    fun _ => hSlashes⟩
  obtain ⟨c, behind, rfl⟩ := List.exists_cons_of_ne_nil hBehind
  obtain rfl := (List.cons_prefix_cons.mp hAhead).1
  exact absurd (hSplit ▸ List.mem_append_right front List.mem_cons_self) hs

theorem dropGap (h : Reached text s) : Reached text (s.dropWhile Text.isGap) := by
  rw [← List.takeWhile_append_dropWhile (p := Text.isGap) (l := s)] at h
  refine h.append (fun hBrace => ?_) fun hLast => ?_
  · exact absurd (List.mem_takeWhile_imp hBrace) (by decide)
  · exact absurd (List.mem_takeWhile_imp (List.mem_of_getLast? hLast)) (by decide)

theorem dropChar {c : Char} (h : Reached text (c :: rest)) (hPlain : escape? (c :: rest) = none)
    (hNone : ¬ BracesAhead (c :: rest)) : Reached text rest := by
  obtain ⟨done, rfl, hDone⟩ := h
  refine ⟨done ++ [c], by simp, Passed.append (s := [c]) hDone ?_ fun hAhead hLast => ?_⟩
  · intro front behind hSplit hBehind hAhead
    rcases List.singleton_eq_append_iff.mp hSplit with ⟨rfl, rfl⟩ | ⟨rfl, rfl⟩
    · exact absurd hAhead hNone
    · exact absurd rfl hBehind
  · obtain rfl : c = '\\' := by simpa using hLast
    exact absurd hPlain (escape?_ne_none hAhead)

/-- Braces behind a backslash are passed. -/
theorem dropBraces {n : Nat} (h : Reached text ('\\' :: List.replicate (n + 1) '{' ++ rest)) :
    Reached text rest := by
  obtain ⟨done, rfl, hDone⟩ := h
  refine ⟨_, by simp, hDone.append (fun front behind hSplit hBehind hAhead => ?_) fun _ hLast => ?_⟩
  · cases front with
    | nil =>
        obtain rfl : _ = behind := hSplit
        exact absurd (List.cons_prefix_cons.mp hAhead).1 (by decide)
    | cons c front =>
        obtain ⟨rfl, hTail⟩ := List.cons_eq_cons.mp hSplit
        obtain ⟨-, hFront, -⟩ := List.append_eq_replicate_iff.mp hTail.symm
        exact ⟨front.length, done, by rw [← hFront]⟩
  · rw [List.replicate_succ', ← List.cons_append, List.getLast?_concat] at hLast
    exact absurd hLast (by decide)

theorem dropEscape {shown : List Char} (h : Reached text s)
    (hEscape : escape? s = some (shown, rest)) : Reached text rest := by
  unfold escape? at hEscape
  split at hEscape
  · cases hEscape
    exact dropBraces (n := 3) h
  · cases hEscape
    exact dropBraces (n := 1) h
  · next more =>
    dsimp only at hEscape
    split at hEscape
    · cases hEscape
      -- the escape is a run of backslashes, two or more of them
      obtain ⟨n, hRun⟩ : ∃ n, more.takeWhile (· == '\\') = List.replicate n '\\' :=
        ⟨_, List.eq_replicate_iff.mpr ⟨rfl, fun c hc => by simpa using List.mem_takeWhile_imp hc⟩⟩
      refine append (s := List.replicate (n + 2) '\\') ?_ (by simp) fun _ => ?_
      · simpa [List.replicate_succ, ← hRun, List.takeWhile_append_dropWhile] using h
      · exact List.suffix_replicate_iff.mpr ⟨by simp, rfl⟩
    · cases hEscape
  · cases hEscape

/-- Text that holds no tag is passed. -/
theorem dropPlain (h : Reached text s) (fuel : Nat) :
    Reached text (plain ['{', '{'] fuel s).2 := by
  induction fuel generalizing s with
  | zero => exact h
  | succ fuel ih =>
      unfold plain
      split
      · next hEscape => exact ih (h.dropEscape hEscape)
      · next hPlain =>
        split
        · exact h
        · next hStop =>
          split
          · exact h
          · exact ih (h.dropChar hPlain fun hBraces => hStop (startsWith_iff.mpr hBraces))

end Reached

/-- A tag of the text includes a partial in these words. -/
def Stands (text : List Char) (phrase : Phrase) : Prop :=
  ∃ s fuel tag rest, Reached text s ∧
    Tag.tagged ['>'] (Tag.inclusionCall fuel) s = some (tag, rest) ∧ tag.value = phrase

theorem placed?_eq_some {α : Type} {scanner : Text.Scanner (Content α)} {before : Before}
    {s rest : List Char} {placed : Placed α} (h : placed? scanner before s = some (placed, rest)) :
    ∃ tag, scanner s = some (tag, rest) ∧ placed.value = tag.value := by
  unfold placed? at h
  split at h
  · next tag behind hTag =>
    cases h
    exact ⟨tag, hTag, rfl⟩
  · cases h

theorem suffix_of_placed? {α : Type} {scanner : Text.Scanner (Content α)} {before : Before}
    {s rest : List Char} {placed : Placed α} (hScanner : Tag.EndsInBrace scanner)
    (h : placed? scanner before s = some (placed, rest)) : '}' :: rest <:+ s := by
  obtain ⟨tag, hTag, -⟩ := placed?_eq_some h
  exact hScanner s tag rest hTag

theorem suffix_of_escape? {s shown rest : List Char} (h : escape? s = some (shown, rest)) :
    rest <:+ s := by
  unfold escape? at h
  split at h
  · cases h
    exact List.suffix_append ['\\', '{', '{', '{', '{'] rest
  · cases h
    exact List.suffix_append ['\\', '{', '{'] rest
  · next more =>
    dsimp only at h
    split at h
    · cases h
      exact (List.dropWhile_suffix _).trans (List.suffix_append ['\\', '\\'] more)
    · cases h
  · cases h

theorem suffix_plain (stop : List Char) (fuel : Nat) (s : List Char) :
    (plain stop fuel s).2 <:+ s := by
  induction fuel generalizing s with
  | zero => exact List.suffix_rfl
  | succ fuel ih =>
      unfold plain
      split
      · next hEscape => exact (ih _).trans (suffix_of_escape? hEscape)
      · split
        · exact List.suffix_rfl
        · split
          · exact List.suffix_rfl
          · exact (ih _).trans (List.suffix_cons _ _)

theorem rawBlock?_eq_some {fuel : Nat} {before : Before} {s rest : List Char} {node : Node}
    (h : rawBlock? fuel before s = some (node, rest)) :
    '}' :: rest <:+ s ∧ node.inclusionTags = [] := by
  obtain ⟨⟨start, behind⟩, hStart, h⟩ := Option.bind_eq_some_iff.mp h
  obtain ⟨⟨close, behindClose⟩, hClose, h⟩ := Option.bind_eq_some_iff.mp h
  cases h
  refine ⟨?_, rfl⟩
  have hTag : Tag.EndsInBrace (Tag.rawStart fuel) :=
    Tag.endsInBrace_braced (Tag.leavesEnd_blockCall fuel) 3 []
  have hOpen := suffix_of_placed? hTag hStart
  have hClosed := suffix_of_placed? Tag.endsInBrace_rawEnd hClose
  have hBody : behind.dropWhile Text.isGap <:+ s :=
    (List.dropWhile_suffix Text.isGap).trans ((List.suffix_cons '}' behind).trans hOpen)
  exact (hClosed.trans (suffix_plain _ _ _)).trans hBody

/-- Of the tags that open no block, those that include a partial are kept. -/
theorem single?_eq_some {text : List Char} {fuel : Nat} {before : Before} {s rest : List Char}
    {node : Node} (hReached : Reached text s) (h : single? fuel before s = some (node, rest)) :
    '}' :: rest <:+ s ∧ ∀ phrase ∈ node.inclusionTags, Stands text phrase := by
  unfold single? at h
  split at h
  · next hTag =>
    cases h
    exact ⟨suffix_of_placed? (Tag.endsInBrace_output fuel) hTag, nofun⟩
  · split at h
    · next hTag =>
      cases h
      exact ⟨suffix_of_placed? (Tag.endsInBrace_plainOutput fuel) hTag, nofun⟩
    · split at h
      · next hTag =>
        cases h
        exact ⟨Tag.endsInBrace_comment s () _ hTag, nofun⟩
      · split at h
        · next hTag =>
          cases h
          have hScanner := Tag.endsInBrace_tagged (Tag.leavesEnd_blockCall fuel) ['*']
          exact ⟨suffix_of_placed? hScanner hTag, nofun⟩
        · split at h
          · next hTag =>
            cases h
            have hScanner := Tag.endsInBrace_tagged (Tag.leavesEnd_inclusionCall fuel) ['>']
            refine ⟨suffix_of_placed? hScanner hTag, fun phrase hPhrase => ?_⟩
            obtain ⟨tag, hScanned, hValue⟩ := placed?_eq_some hTag
            obtain rfl := List.mem_singleton.mp hPhrase
            exact ⟨s, fuel, tag, rest, hReached, hScanned, hValue.symm⟩
          · cases h

theorem mem_inclusionTags_append {phrase : Phrase} {nodes more : List Node} :
    phrase ∈ inclusionTags (nodes ++ more) ↔
      phrase ∈ inclusionTags nodes ∨ phrase ∈ inclusionTags more := by
  induction nodes with
  | nil => simp [inclusionTags]
  | cons node nodes ih => simp [inclusionTags, ih, or_assoc]

theorem inclusionTags_gapNode (s : List Char) : inclusionTags (gapNode s) = [] := by
  unfold gapNode
  split <;> rfl

/-- Bodies read from the text leave an end of it, and have no inclusions but those of its tags. -/
def BodiesStand (text : List Char) (fuel : Nat) : Prop :=
  ∀ before s, Reached text s → (body fuel before s).rest <:+ s ∧
    ∀ phrase ∈ inclusionTags (body fuel before s).nodes, Stands text phrase

def NodesStand (text : List Char) (fuel : Nat) : Prop :=
  ∀ before s node rest, Reached text s → node? fuel before s = some (node, rest) →
    '}' :: rest <:+ s ∧ ∀ phrase ∈ node.inclusionTags, Stands text phrase

def TailsStand (text : List Char) (fuel : Nat) : Prop :=
  ∀ before s tail rest, s <:+ text → tail? fuel before s = some (tail, rest) →
    '}' :: rest <:+ s ∧ ∀ phrase ∈ tail.inclusionTags, Stands text phrase

variable {text : List Char} {fuel : Nat}

theorem BodiesStand.behindTag (h : BodiesStand text fuel) {s rest : List Char} (hs : s <:+ text)
    (hTag : '}' :: rest <:+ s) : (body fuel Outline.behindTag rest).rest <:+ s ∧
      ∀ phrase ∈ inclusionTags (body fuel Outline.behindTag rest).nodes, Stands text phrase := by
  obtain ⟨hRest, hTags⟩ := h Outline.behindTag rest (reached_of_brace (hTag.trans hs))
  exact ⟨hRest.trans ((List.suffix_cons '}' rest).trans hTag), hTags⟩

/-- A body between two tags. -/
theorem BodiesStand.closed (h : BodiesStand text fuel) {α β : Type}
    {opening : Text.Scanner (Content α)} {closing : Text.Scanner (Content β)} {before : Before}
    {start : Placed α} {close : Placed β} {s behind rest : List Char}
    (hOpening : Tag.EndsInBrace opening) (hClosing : Tag.EndsInBrace closing) (hs : s <:+ text)
    (hStart : placed? opening before s = some (start, behind))
    (hClose : placed? closing (body fuel Outline.behindTag behind).before
      (body fuel Outline.behindTag behind).rest = some (close, rest)) :
    '}' :: rest <:+ s ∧
      ∀ phrase ∈ inclusionTags (body fuel Outline.behindTag behind).nodes, Stands text phrase := by
  obtain ⟨hBody, hTags⟩ := h.behindTag hs (suffix_of_placed? hOpening hStart)
  exact ⟨(suffix_of_placed? hClosing hClose).trans hBody, hTags⟩

/-- A body behind a tag, and what follows it in a block. -/
theorem BodiesStand.followed (h : BodiesStand text fuel) (hTails : TailsStand text fuel)
    {α : Type} {opening : Text.Scanner (Content α)} {before : Before} {start : Placed α}
    {tail : BlockTail} {s behind rest : List Char} (hOpening : Tag.EndsInBrace opening)
    (hs : s <:+ text) (hStart : placed? opening before s = some (start, behind))
    (hTail : tail? fuel (body fuel Outline.behindTag behind).before
      (body fuel Outline.behindTag behind).rest = some (tail, rest)) :
    '}' :: rest <:+ s ∧
      ∀ phrase ∈ inclusionTags (body fuel Outline.behindTag behind).nodes ++ tail.inclusionTags,
        Stands text phrase := by
  obtain ⟨hBody, hTags⟩ := h.behindTag hs (suffix_of_placed? hOpening hStart)
  obtain ⟨hRest, hMore⟩ := hTails _ _ tail rest (hBody.trans hs) hTail
  refine ⟨hRest.trans hBody, fun phrase hPhrase => ?_⟩
  rcases List.mem_append.mp hPhrase with hPhrase | hPhrase
  · exact hTags phrase hPhrase
  · exact hMore phrase hPhrase

theorem bodiesStand_succ (hBodies : BodiesStand text fuel) (hNodes : NodesStand text fuel) :
    BodiesStand text (fuel + 1) := by
  intro before s hReached
  have hGap := List.dropWhile_suffix (l := s) Text.isGap
  unfold body
  dsimp only
  split
  · split
    · next node behind hNode =>
      obtain ⟨hBehind, hTags⟩ := hNodes _ _ node behind hReached.dropGap hNode
      obtain ⟨hRest, hMore⟩ := hBodies.behindTag hReached.dropGap.suffix hBehind
      refine ⟨hRest.trans hGap, fun phrase hPhrase => ?_⟩
      rw [mem_inclusionTags_append, inclusionTags_gapNode, inclusionTags,
        List.mem_append] at hPhrase
      rcases hPhrase with hPhrase | hPhrase | hPhrase
      · nomatch hPhrase
      · exact hTags phrase hPhrase
      · exact hMore phrase hPhrase
    · refine ⟨hGap, fun phrase hPhrase => ?_⟩
      rw [inclusionTags_gapNode] at hPhrase
      nomatch hPhrase
  · obtain ⟨hRest, hMore⟩ := hBodies _ _ (hReached.dropGap.dropPlain _)
    refine ⟨(hRest.trans (suffix_plain _ _ _)).trans hGap, fun phrase hPhrase => ?_⟩
    exact hMore phrase hPhrase

theorem tailsStand_succ (hBodies : BodiesStand text fuel) (hTails : TailsStand text fuel) :
    TailsStand text (fuel + 1) := by
  intro before s tail rest hs h
  unfold tail? at h
  split at h
  · next hTag =>
    dsimp only at h
    split at h
    · next hTail =>
      cases h
      exact hBodies.followed hTails (Tag.endsInBrace_chainTag _) hs hTag hTail
    · cases h
  · split at h
    · next hTag =>
      dsimp only at h
      split at h
      · next hClose =>
        cases h
        exact hBodies.closed Tag.endsInBrace_elseTag Tag.endsInBrace_blockEnd hs hTag hClose
      · cases h
    · split at h
      · next hClose =>
        cases h
        exact ⟨suffix_of_placed? Tag.endsInBrace_blockEnd hClose, nofun⟩
      · cases h

theorem nodesStand_succ (hBodies : BodiesStand text fuel) (hTails : TailsStand text fuel) :
    NodesStand text (fuel + 1) := by
  intro before s node rest hReached h
  have hs := hReached.suffix
  have hBlock := Tag.endsInBrace_tagged (Tag.leavesEnd_blockCall (3 * s.length + 3))
  unfold node? at h
  split at h
  · next hSingle =>
    cases h
    exact single?_eq_some hReached hSingle
  · split at h
    · next hStart =>
      dsimp only at h
      split at h
      · next hTail =>
        cases h
        exact hBodies.followed hTails (hBlock ['#']) hs hStart hTail
      · cases h
    · split at h
      · next hRaw =>
        cases h
        obtain ⟨hRest, hNone⟩ := rawBlock?_eq_some hRaw
        exact ⟨hRest, by simp [hNone]⟩
      · split at h
        · next hStart =>
          dsimp only at h
          split at h
          · next hClose =>
            cases h
            exact hBodies.closed (hBlock ['#', '*']) Tag.endsInBrace_blockEnd hs hStart hClose
          · cases h
        · dsimp only at h
          split at h
          · next hStart =>
            split at h
            · next hClose =>
              cases h
              exact hBodies.closed (Tag.endsInBrace_tagged (Tag.leavesEnd_inclusionCall _) _)
                Tag.endsInBrace_inclusionEnd hs hStart hClose
            · cases h
          · cases h

theorem readings_stand (text : List Char) (fuel : Nat) :
    BodiesStand text fuel ∧ NodesStand text fuel ∧ TailsStand text fuel := by
  induction fuel with
  | zero => exact ⟨fun _ _ _ => ⟨List.suffix_rfl, nofun⟩, nofun, nofun⟩
  | succ fuel ih =>
      obtain ⟨hBodies, hNodes, hTails⟩ := ih
      exact ⟨bodiesStand_succ hBodies hNodes, nodesStand_succ hBodies hTails,
        tailsStand_succ hBodies hTails⟩

/-- Every inclusion in the outline of a text is one of the text's tags. -/
theorem stands_of_parse? {nodes : List Node} (h : parse? text = some nodes) :
    ∀ phrase ∈ inclusionTags nodes, Stands text phrase := by
  unfold parse? at h
  dsimp only at h
  split at h
  · cases h
    exact ((readings_stand text _).1 _ text (reached_start text)).2
  · cases h

end Outline
end TemplateBundle
