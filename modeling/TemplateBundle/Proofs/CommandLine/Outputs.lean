import TemplateBundle.Path.Naming
import TemplateBundle.Proofs.Path.Components

/-! Where the result of a source of the command line goes. Whatever the source, it goes to a file right
in the output directory, which is named after the source if that ends in a name. -/
namespace TemplateBundle.Path

/-- A name that leads into a directory and no further: it is not empty, has no slash, and is neither
one dot nor two. -/
def IsFileName (name : String) : Prop := name ≠ "" ∧ '/' ∉ name.toList ∧ name ≠ "." ∧ name ≠ ".."

instance (name : String) : Decidable (IsFileName name) := inferInstanceAs (Decidable (_ ∧ _))

/-- The path ends in a name. Slashes and dots behind it lead nowhere. -/
def EndsIn (p : Path) (name : String) : Prop :=
  IsFileName name ∧ ∃ above silent, p.pieces = above ++ name.toList :: silent ∧
    ∀ piece ∈ silent, piece = [] ∨ piece = ['.']

variable {p dir : Path} {name : String}

theorem IsFileName.component?_eq (h : IsFileName name) :
    component? false name.toList = some (.name name) := by
  obtain ⟨hEmpty, -, hDot, hUp⟩ := h
  simp only [ne_eq, ← String.toList_inj] at hEmpty hDot hUp
  rw [component?.eq_def]
  split
  · next hName => exact absurd hName hEmpty
  · next hName => exact absurd hName hDot
  · next hName => exact absurd hName hUp
  · rw [String.ofList_toList]

/-- What ends a path as its name is a name that a file can have. -/
theorem isFileName_of_fileName? (h : p.fileName? = some name) : IsFileName name := by
  obtain ⟨hEmpty, hDot, hUp⟩ := ne_of_component? (exists_moves_of_fileName? h).1
  refine ⟨?_, not_mem_of_fileName? h, ?_, ?_⟩
  · rintro rfl
    exact hEmpty rfl
  · rintro rfl
    exact hDot rfl
  · rintro rfl
    exact hUp rfl

theorem filter_silent {silent : List (List Char)}
    (h : ∀ piece ∈ silent, piece = [] ∨ piece = ['.']) : silent.filter leadsOn = [] := by
  rw [List.filter_eq_nil_iff]
  intro piece hPiece
  rw [Bool.not_eq_true]
  exact leadsOn_eq_false.mpr (h piece hPiece)

/-- The file name of a path is the name that the path ends in. -/
theorem fileName?_eq_some_iff : p.fileName? = some name ↔ p.EndsIn name := by
  constructor
  · intro h
    obtain ⟨above, hMoves⟩ := (exists_moves_of_fileName? h).2
    obtain ⟨front, back, hPieces, -, hBack⟩ := List.filter_eq_append_iff.mp hMoves
    obtain ⟨between, silent, rfl, -, -, hSilent⟩ := List.filter_eq_cons_iff.mp hBack
    refine ⟨isFileName_of_fileName? h, front ++ between, silent, by simp [hPieces], ?_⟩
    intro piece hPiece
    have hStays := List.filter_eq_nil_iff.mp hSilent piece hPiece
    exact leadsOn_eq_false.mp (Bool.eq_false_iff.mpr hStays)
  · rintro ⟨hName, above, silent, hPieces, hSilent⟩
    have hComponent := hName.component?_eq
    have hMoves : p.moves = above.filter leadsOn ++ [name.toList] := by
      rw [moves, hPieces, List.filter_append,
        List.filter_cons_of_pos (leadsOn_of_component? hComponent), filter_silent hSilent]
    exact fileName?_of_moves hMoves hComponent

/-- A path ends in a name exactly if its last component is the name. -/
theorem endsIn_iff_components : p.EndsIn name ↔ p.components.getLast? = some (.name name) := by
  rw [← fileName?_eq_some_iff]
  constructor
  · intro h
    rw [components_of_fileName? h, List.getLast?_concat]
  · intro h
    rcases List.eq_nil_or_concat' p.moves with hNone | ⟨above, last, hMoves⟩
    · -- what a path starts with is no name
      rw [components_eq, hNone, start] at h
      split at h
      · cases h
      · split at h
        · cases h
        · cases h
    · have hMem : last ∈ p.moves := by
        rw [hMoves]
        exact List.mem_concat_self
      obtain ⟨c, hComponent⟩ := Option.isSome_iff_exists.mp (List.mem_filter.mp hMem).2
      have hLast : laterComponents [last] = [c] := by
        rw [laterComponents, List.filterMap_cons, hComponent]
        rfl
      rw [components_eq, hMoves, laterComponents_append, hLast, ← List.append_assoc,
        List.getLast?_concat] at h
      obtain rfl := Option.some.inj h
      rw [← toList_of_component? hComponent] at hMoves hComponent
      exact fileName?_of_moves hMoves hComponent

/-- A file name is a path that ends in itself. -/
theorem IsFileName.fileName?_eq (h : IsFileName name) : (⟨name⟩ : Path).fileName? = some name := by
  refine fileName?_eq_some_iff.mpr ⟨h, [], [], Text.splitOn_of_not_mem h.2.1, ?_⟩
  nofun

/-- The only component of a file name is the name. -/
theorem IsFileName.components_eq (h : IsFileName name) :
    (⟨name⟩ : Path).components = [.name name] := by
  have hFile := h.fileName?_eq
  have hHead : (⟨name⟩ : Path).pieces.head? ≠ some ['.'] := by
    rw [pieces_of_fileName? hFile]
    exact fun hDot => (ne_of_component? h.component?_eq).2.1 (Option.some.inj hDot)
  rw [components_of_fileName? hFile, moves_file hFile, start, isAbsolute_file hFile,
    if_neg Bool.false_ne_true, if_neg hHead]
  rfl

/-- A file in a directory is one step below it. -/
theorem IsFileName.components_join (h : IsFileName name) (dir : Path) :
    (dir.join name).components = dir.components ++ [.name name] := by
  have hFile := h.fileName?_eq
  by_cases hDir : dir.text = ""
  · have hNone : dir.components = [] := by
      rw [components, pieces, isAbsolute, hDir]
      rfl
    rw [join_of_empty hDir (isAbsolute_file hFile), h.components_eq, hNone, List.nil_append]
  · rw [Path.components_join hDir (isAbsolute_file hFile), moves_file hFile,
      laterComponents_file hFile]

end TemplateBundle.Path

namespace TemplateBundle

/-- The result of a source stays in the output directory, right below it. The file has the name that
the source ends in, unless that is the standard input or ends in no name. -/
theorem outputPath_within (source : String) (out : Path) :
    ∃ name, Path.IsFileName name ∧ outputPath source out = out.join name ∧
      (outputPath source out).components = out.components ++ [.name name] ∧
      (∀ last, source ≠ stdinSource → Path.EndsIn ⟨source⟩ last → name = last) ∧
      ((source = stdinSource ∨ ∀ last, ¬ Path.EndsIn ⟨source⟩ last) → name = unnamedOutput) := by
  have hUnnamed : Path.IsFileName unnamedOutput := by decide
  by_cases hStdin : source = stdinSource
  · rw [outputPath, if_pos hStdin]
    exact ⟨unnamedOutput, hUnnamed, rfl, hUnnamed.components_join out,
      fun _ hNot _ => absurd hStdin hNot, fun _ => rfl⟩
  rw [outputPath, if_neg hStdin]
  cases hFile : Path.fileName? ⟨source⟩ with
  | none =>
      have hNone (last : String) : ¬ Path.EndsIn ⟨source⟩ last := by
        rw [← Path.fileName?_eq_some_iff, hFile]
        nofun
      exact ⟨unnamedOutput, hUnnamed, rfl, hUnnamed.components_join out,
        fun last _ hLast => absurd hLast (hNone last), fun _ => rfl⟩
  | some name =>
      have hName := Path.isFileName_of_fileName? hFile
      have hEnds := Path.fileName?_eq_some_iff.mp hFile
      refine ⟨name, hName, rfl, hName.components_join out, fun last _ hLast => ?_, fun hNone => ?_⟩
      · rw [← Path.fileName?_eq_some_iff, hFile] at hLast
        exact Option.some.inj hLast
      · exact absurd hEnds (hNone.resolve_left hStdin name)

end TemplateBundle
