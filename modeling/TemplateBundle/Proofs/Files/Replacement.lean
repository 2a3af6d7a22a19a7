import TemplateBundle.Files.Replacement
import TemplateBundle.Proofs.Files.Writing

/-! What writing a file does whatever goes wrong on the way. Main statement: a write that succeeds
puts its bytes at its path and leaves all other files, a write that fails leaves all files, and
after many writes every path holds what the last of those that succeeded there has put in place. -/
namespace TemplateBundle.FileTree

variable {tree between later : FileTree} {p q : Path} {place temporary : Location}

theorem barring_eq_ok {α : Type} {refused? : Option IoError} {step : Except IoError α} {a : α}
    (h : barring refused? step = .ok a) : step = .ok a := by
  cases refused? with
  | none => exact h
  | some e => cases h

theorem ne_nil_of_get?_none (h : tree.get? place = none) : place ≠ [] := by
  rintro rfl
  simp [get?] at h

/-- A file that is made and dropped again leaves the tree as it was. -/
theorem erase_set (h : tree.get? place = none) (entry : FileEntry) :
    (tree.set place entry).erase place = tree := by
  have hLookup : tree.entries.lookup place = none := by
    rw [get?, if_neg (by simpa using ne_nil_of_get?_none h)] at h
    exact h
  have hFresh : ∀ e ∈ tree.entries, e.1 ≠ place := by
    intro e he hSame
    simpa [hSame] using List.lookup_eq_none_iff.mp hLookup e he
  have hKept : (tree.entries.filter fun e => e.1 ≠ place) = tree.entries :=
    List.filter_eq_self.mpr (by simpa using hFresh)
  rw [erase, set]
  dsimp only
  rw [List.filter_cons_of_neg (by simp), hKept, hKept]

/-! Directories that are made for a path. -/

/-- The path itself, or one that it is below. -/
inductive Above : Path → Path → Prop where
  | refl (p : Path) : Above p p
  | parent {p q r : Path} (h : p.parent? = some q) (rest : Above q r) : Above p r

/-- All directories that are new in the later tree were missing, and are that of a path or above. -/
def MadeFor (p : Path) (tree later : FileTree) : Prop :=
  ∀ place, later.get? place = some .directory → tree.get? place = some .directory ∨
    tree.get? place = none ∧ ∃ q, Above p q ∧ later.find q = .ok (place, .directory)

namespace MadeFor

theorem refl (p : Path) (tree : FileTree) : MadeFor p tree tree := fun _ h => .inl h

/-- What was made for the path above is made for a path. -/
theorem above (h : MadeFor q tree later) (hParent : p.parent? = some q) : MadeFor p tree later := by
  intro place hPlace
  rcases h place hPlace with hHad | ⟨hNone, r, hAbove, hFind⟩
  · exact .inl hHad
  · exact .inr ⟨hNone, r, .parent hParent hAbove, hFind⟩

/-- Files that come later change nothing in it. -/
theorem trans {places : List Location} (h : MadeFor p tree between)
    (hGrown : Grown places between later)
    (hSame : ∀ place, later.get? place = some .directory → between.get? place = some .directory) :
    MadeFor p tree later := by
  intro place hPlace
  rcases h place (hSame place hPlace) with hHad | ⟨hNone, r, hAbove, hFind⟩
  · exact .inl hHad
  · exact .inr ⟨hNone, r, hAbove, hGrown.find_directory hFind⟩

/-- One more directory, at the place of the path itself. -/
theorem makeDirectory {places : List Location} (h : MadeFor p tree between)
    (hGrown : Grown places tree between) (hMade : between.makeDirectory p = .ok later) :
    MadeFor p tree later := by
  obtain ⟨made, hNil, hNone, rfl, hFind⟩ := makeDirectory_place hMade
  intro place hPlace
  rw [get?_set between hNil] at hPlace
  split at hPlace
  · next hSame =>
    subst hSame
    refine .inr ⟨?_, p, .refl p, hFind⟩
    cases hTree : tree.get? place with
    | none => rfl
    | some entry =>
        cases entry with
        | directory => cases hNone.symm.trans (hGrown.directory place hTree)
        | file bytes =>
            obtain ⟨content, hContent⟩ := hGrown.file place bytes hTree
            cases hNone.symm.trans hContent
  · rcases h place hPlace with hHad | ⟨hMissing, r, hAbove, hThere⟩
    · exact .inl hHad
    · exact .inr ⟨hMissing, r, hAbove, (makeDirectory_eq_ok hMade).find_directory hThere⟩

end MadeFor

/-- Making directories, as far as none is refused, changes nothing else. -/
theorem makeDirectoriesBarring_made (refused? : Bool → Path → Option IoError) (fuel : Nat)
    (tree : FileTree) (p : Path) :
    Grown [] tree (makeDirectoriesBarring refused? fuel tree p).1 ∧
      MadeFor p tree (makeDirectoriesBarring refused? fuel tree p).1 := by
  induction fuel generalizing tree p with
  | zero => exact ⟨.refl tree, .refl p tree⟩
  | succ fuel ih =>
      rw [makeDirectoriesBarring]
      split
      · exact ⟨.refl tree, .refl p tree⟩
      split
      · next hMade =>
        have hMade := barring_eq_ok hMade
        exact ⟨makeDirectory_eq_ok hMade, (MadeFor.refl p tree).makeDirectory (.refl tree) hMade⟩
      split
      · exact ⟨.refl tree, .refl p tree⟩
      split
      · exact ⟨.refl tree, .refl p tree⟩
      · next parent hParent =>
        obtain ⟨hGrown, hAbove⟩ := ih tree parent
        split
        · next hRun =>
          rw [hRun] at hGrown hAbove
          exact ⟨hGrown, hAbove.above hParent⟩
        · next hRun =>
          rw [hRun] at hGrown hAbove
          split
          · next hMade =>
            have hMade := barring_eq_ok hMade
            exact ⟨hGrown.trans (makeDirectory_eq_ok hMade),
              (hAbove.above hParent).makeDirectory hGrown hMade⟩
          · exact ⟨hGrown, hAbove.above hParent⟩

/-! The temporary file. -/

theorem freePlace_eq_ok {directory : Path} {names : List String}
    (h : tree.freePlace directory names = .ok place) :
    tree.get? place = none ∧ ∃ folder, ∃ name ∈ names, place = folder ++ [name] := by
  induction names with
  | nil => cases h
  | cons name names ih =>
      rw [freePlace] at h
      obtain ⟨⟨folder, entry⟩, -, h⟩ := Outcome.bind_eq_ok.mp h
      cases entry with
      | file bytes => cases h
      | directory =>
          dsimp only at h
          split at h
          · obtain ⟨hNone, folder', name', hName, rfl⟩ := ih h
            exact ⟨hNone, folder', name', .tail name hName, rfl⟩
          · next hNone =>
            cases h
            exact ⟨hNone, folder, name, .head names, rfl⟩

/-- A file that is put somewhere is no new directory. -/
theorem get?_of_set_file {bytes : List UInt8} (hPlace : place ≠ []) {other : Location}
    (h : (tree.set place (.file bytes)).get? other = some .directory) :
    tree.get? other = some .directory := by
  rw [get?_set tree hPlace] at h
  split at h
  · cases h
  · exact h

/-- A temporary file that is moved to a path is gone, and its bytes are there. -/
theorem move_eq_ok {bytes : List UInt8} (hFree : tree.get? temporary = none)
    (h : (tree.set temporary (.file bytes)).move temporary p = .ok later) :
    ∃ place, Grown [place] tree later ∧ later.find p = .ok (place, .file bytes) ∧
      ∀ other, later.get? other = some .directory → tree.get? other = some .directory := by
  have hNil := ne_nil_of_get?_none hFree
  obtain ⟨place, hPlace, h⟩ := Outcome.bind_eq_ok.mp h
  have hPlaceNil := (placeOf_eq_ok hPlace).2.1
  have hHere : (tree.set temporary (.file bytes)).get? temporary = some (.file bytes) := by
    rw [get?_set tree hNil, if_pos rfl]
  split at h
  · cases h
  · next hSlash =>
    rw [hHere, erase_set hFree] at h
    split at h
    · cases h
    · cases h
    · next entry hEntry hNot =>
      cases hEntry
      cases h
      have hNotHere : tree.get? place ≠ some .directory := by
        intro hDirectory
        apply hNot
        rw [get?_set tree hNil, if_neg, hDirectory]
        rintro rfl
        cases hFree.symm.trans hDirectory
      have hGrown : Grown [place] tree (tree.set place (.file bytes)) :=
        .set_file hPlaceNil hNotHere bytes
      have hDirectories (other : Location)
          (hOther : (tree.set temporary (.file bytes)).get? other = some .directory) :
          (tree.set place (.file bytes)).get? other = some .directory :=
        hGrown.directory other (get?_of_set_file hNil hOther)
      refine ⟨place, hGrown, find_of_placeOf hPlace hSlash rfl hDirectories ?_, ?_⟩
      · rw [get?_set tree hPlaceNil, if_pos rfl]
      · exact fun other hOther => get?_of_set_file hPlaceNil hOther

/-- What a write has done once its result is handled: if it succeeds the bytes are at the path, if it
fails no file is other than before, and new directories are those of the path in either case. -/
structure Handled (tree : FileTree) (p : Path) (bytes : List UInt8)
    (outcome : Except WriteError Unit) (later : FileTree) : Prop where
  made : MadeFor (directoryFor p) tree later
  ok : outcome = .ok () → ∃ place, Grown [place] tree later ∧
    later.find p = .ok (place, .file bytes)
  error : ∀ e, outcome = .error e → Grown [] tree later

theorem handled_replace (c : Circumstances) (tree : FileTree) (p : Path) (bytes : List UInt8) :
    Handled tree p bytes (tree.replace c p bytes).outcome (tree.replace c p bytes).handled := by
  have hDirectories := makeDirectoriesBarring_made c.directory?
    ((directoryFor p).text.length + 1) tree (directoryFor p)
  unfold replace
  dsimp only
  split
  · next between e hRun =>
    rw [hRun] at hDirectories
    exact ⟨hDirectories.2, nofun, fun _ _ => hDirectories.1⟩
  · next between hRun =>
    rw [hRun] at hDirectories
    obtain ⟨hGrown, hMade⟩ := hDirectories
    dsimp only at hGrown hMade
    split
    · exact ⟨hMade, nofun, fun _ _ => hGrown⟩
    · next temporary hFree =>
      obtain ⟨hFree, -⟩ := freePlace_eq_ok (barring_eq_ok hFree)
      split
      · -- the disk is full, say: what was written until then is dropped
        simp only [Replacement.handled, erase_set hFree]
        exact ⟨hMade, nofun, fun _ _ => hGrown⟩
      split
      · simp only [Replacement.handled, erase_set hFree]
        exact ⟨hMade, nofun, fun _ _ => hGrown⟩
      split
      · -- the failure holds the temporary file
        simp only [Replacement.handled, erase_set hFree]
        exact ⟨hMade, nofun, fun _ _ => hGrown⟩
      · next moved hMoved =>
        obtain ⟨place, hPut, hFind, hSame⟩ := move_eq_ok hFree (barring_eq_ok hMoved)
        exact ⟨hMade.trans hPut hSame, fun _ => ⟨place, hGrown.trans hPut, hFind⟩, nofun⟩

/-! Writes that nothing disturbs. -/

theorem makeDirectoriesBarring_none (fuel : Nat) (tree : FileTree) (p : Path) :
    makeDirectoriesBarring (fun _ _ => none) fuel tree p = makeDirectories fuel tree p := by
  induction fuel generalizing tree p with
  | zero => rfl
  | succ fuel ih =>
      rw [makeDirectoriesBarring]
      simp only [barring, ih]
      rfl

section Apart

variable {name : String}

/-- Steps that do not spell a name come to no place under it. -/
theorem descend_apart (tree : FileTree) (entry : FileEntry) (hName : name ∈ temporary)
    {start : Location} {steps : List (List Char)} (hStart : name ∉ start)
    (hSteps : ∀ step ∈ steps, step ≠ ['.'] → String.ofList step ≠ name) :
    (tree.set temporary entry).descend start steps = tree.descend start steps ∧
      ∀ place, tree.descend start steps = .ok place → name ∉ place := by
  induction steps generalizing start with
  | nil => exact ⟨rfl, fun place h => by cases h; exact hStart⟩
  | cons step rest ih =>
      obtain ⟨hStep, hRest⟩ := List.forall_mem_cons.mp hSteps
      have hApart : start ≠ temporary := fun h => hStart (h ▸ hName)
      have hUp : name ∉ start.dropLast := fun h => hStart (List.dropLast_subset start h)
      rw [descend, descend, get?_set tree (List.ne_nil_of_mem hName), if_neg hApart]
      split
      · exact ⟨rfl, fun _ h => by cases h⟩
      · exact ⟨rfl, fun _ h => by cases h⟩
      split
      · exact ih hStart hRest
      split
      · exact ih hUp hRest
      · next hDot _ =>
        dsimp only
        split
        · exact ⟨rfl, fun _ h => by cases h⟩
        · refine ih ?_ hRest
          rw [List.mem_append, not_or, List.mem_singleton]
          exact ⟨hStart, fun h => hStep hDot h.symm⟩

theorem placeOf_apart (entry : FileEntry) (hName : name ∈ temporary)
    (hWorking : name ∉ tree.workingDirectory)
    (hPieces : ∀ piece ∈ p.pieces, String.ofList piece ≠ name) (atDot atRoot : IoError) :
    (tree.set temporary entry).placeOf p atDot atRoot = tree.placeOf p atDot atRoot ∧
      ∀ place, tree.placeOf p atDot atRoot = .ok place → name ∉ place := by
  have hStart : name ∉ tree.startOf p := by
    rw [startOf]
    split
    · exact List.not_mem_nil
    · exact hWorking
  rw [placeOf, placeOf]
  cases checkPath p with
  | error e => exact ⟨rfl, fun _ h => by cases h⟩
  | ok _ =>
      cases hSteps : (p.pieces.filter fun piece => !piece.isEmpty).reverse with
      | nil => exact ⟨rfl, fun _ h => by cases h⟩
      | cons last rest =>
          have hSpelled : ∀ step ∈ last :: rest, step ∈ p.pieces := by
            intro step hStep
            rw [← hSteps, List.mem_reverse] at hStep
            exact List.mem_of_mem_filter hStep
          have hLast := hPieces last (hSpelled last List.mem_cons_self)
          have hFront : ∀ step ∈ rest.reverse ++ [['.']], step ≠ ['.'] →
              String.ofList step ≠ name := by
            intro step hStep hDot
            rw [List.mem_append, List.mem_reverse, List.mem_singleton] at hStep
            exact hPieces step (hSpelled step (.tail last (hStep.resolve_right hDot)))
          obtain ⟨hSame, hApart⟩ := descend_apart tree entry hName hStart hFront
          have hWhere : (tree.set temporary entry).startOf p = tree.startOf p := rfl
          simp only [bind, Except.bind, hWhere, hSame, true_and]
          intro place hPlace
          cases hParent : tree.descend (tree.startOf p) (rest.reverse ++ [['.']]) with
          | error e => simp [hParent] at hPlace
          | ok parent =>
              simp only [hParent] at hPlace
              split at hPlace
              · cases hPlace
              split at hPlace
              · cases hPlace
              · cases hPlace
                rw [List.mem_append, not_or, List.mem_singleton]
                exact ⟨hApart parent hParent, fun h => hLast h.symm⟩

/-- Moving a temporary file is putting a file with its bytes. -/
theorem move_apart (bytes : List UInt8) (hName : name ∈ temporary)
    (hFree : tree.get? temporary = none) (hWorking : name ∉ tree.workingDirectory)
    (hPieces : ∀ piece ∈ p.pieces, String.ofList piece ≠ name) :
    (tree.set temporary (.file bytes)).move temporary p = tree.place p bytes := by
  obtain ⟨hSame, hApart⟩ := placeOf_apart (.file bytes) hName hWorking hPieces .busy .busy
  have hNil := List.ne_nil_of_mem hName
  rw [move, FileTree.place, hSame]
  cases hPlace : tree.placeOf p .busy .busy with
  | error e => rfl
  | ok location =>
      have hOther : location ≠ temporary := fun h => hApart location hPlace (h ▸ hName)
      simp only [bind, Except.bind, get?_set tree hNil, if_neg hOther, if_pos, erase_set hFree]
      split
      · rfl
      · cases tree.get? location with
        | none => rfl
        | some found => cases found <;> rfl

end Apart

/-- Under names that a path does not spell a file is written as it is without a temporary file,
provided that one can be made. -/
theorem replace_eq_write {names : List String} {bytes : List UInt8}
    (hNames : ∀ name ∈ names, name ∉ tree.workingDirectory ∧
      ∀ piece ∈ p.pieces, String.ofList piece ≠ name)
    (hTemporary : ∀ e, (tree.replace { names } p bytes).outcome ≠
      .error (.temporary (directoryFor p) e)) :
    ((tree.replace { names } p bytes).handled, (tree.replace { names } p bytes).outcome) =
      tree.write p bytes := by
  have hMade := grown_makeDirectories ((directoryFor p).text.length + 1) tree (directoryFor p)
  unfold replace write at *
  simp only [makeDirectoriesBarring_none, barring] at hTemporary ⊢
  rcases hRun : makeDirectories ((directoryFor p).text.length + 1) tree (directoryFor p) with
    ⟨between, e | _⟩
  · rfl
  · rw [hRun] at hMade
    simp only [hRun] at hTemporary ⊢
    cases hPlace : between.freePlace (directoryFor p) names with
    | error e => simp [hPlace] at hTemporary
    | ok temporary =>
        obtain ⟨hFree, folder, name, hName, rfl⟩ := freePlace_eq_ok hPlace
        obtain ⟨hWorking, hPieces⟩ := hNames name hName
        rw [← hMade.workingDirectory] at hWorking
        have hTemporary : name ∈ folder ++ [name] := by simp
        have hMove := move_apart bytes hTemporary hFree hWorking hPieces
        simp only [hMove]
        cases between.place p bytes with
        | ok moved => rfl
        | error e => simp only [Replacement.handled, erase_set hFree]

/-! Many writes. -/

/-- The last of the writings that lead to a place. -/
def lastAt (tree : FileTree) (writings : List Writing) (place : Location) : Option Writing :=
  writings.reverse.find? fun w => tree.placeOf? w.path = some place

theorem lastAt_cons (tree : FileTree) (w : Writing) (writings : List Writing) (place : Location) :
    tree.lastAt (w :: writings) place = (tree.lastAt writings place).or
      (if tree.placeOf? w.path = some place then some w else none) := by
  rw [lastAt, lastAt, List.reverse_cons, List.find?_append, List.find?_singleton]
  simp

theorem mem_of_lastAt {tree : FileTree} {writings : List Writing} {place : Location} {w : Writing}
    (h : tree.lastAt writings place = some w) : w ∈ writings :=
  List.mem_reverse.mp (List.mem_of_find?_eq_some h)

/-- Nothing that was there goes away while files are written. -/
theorem grown_afterWritings (tree : FileTree) (writings : List Writing) :
    ∃ places, Grown places tree (tree.afterWritings writings) := by
  induction writings generalizing tree with
  | nil => exact ⟨[], .refl tree⟩
  | cons w rest ih =>
      have hFirst := handled_replace w.circumstances tree w.path w.bytes
      obtain ⟨places, hRest⟩ := ih (tree.replace w.circumstances w.path w.bytes).handled
      rw [afterWritings]
      cases hOutcome : (tree.replace w.circumstances w.path w.bytes).outcome with
      | ok _ =>
          obtain ⟨place, hPut, -⟩ := hFirst.ok hOutcome
          exact ⟨_, hPut.trans hRest⟩
      | error e => exact ⟨_, (hFirst.error e hOutcome).trans hRest⟩

/-- After many writes each place holds what the last that succeeded there has put, or else what it
held before. -/
theorem get?_afterWritings (tree : FileTree) (writings : List Writing) (place : Location)
    (content : List UInt8) :
    (tree.afterWritings writings).get? place = some (.file content) ↔
      match (tree.afterWritings writings).lastAt (tree.succeeded writings) place with
      | some w => content = w.bytes
      | none => tree.get? place = some (.file content) := by
  induction writings generalizing tree with
  | nil => rfl
  | cons w rest ih =>
      have hFirst := handled_replace w.circumstances tree w.path w.bytes
      have hRest := ih (tree.replace w.circumstances w.path w.bytes).handled
      obtain ⟨places, hGrown⟩ :=
        grown_afterWritings (tree.replace w.circumstances w.path w.bytes).handled rest
      rw [afterWritings, succeeded, hRest]
      cases hOutcome : (tree.replace w.circumstances w.path w.bytes).outcome with
      | error e =>
          -- a write that fails is not among those that succeed, and leaves all files
          have hSame := (hFirst.error e hOutcome).others place List.not_mem_nil content
          dsimp only
          split
          · rfl
          · exact hSame
      | ok _ =>
          obtain ⟨here, hPut, hFind⟩ := hFirst.ok hOutcome
          obtain ⟨_, hLater, -⟩ := hGrown.find_eq_ok hFind
          dsimp only
          rw [lastAt_cons, placeOf?_of_find hLater]
          generalize lastAt _ _ place = found
          cases found with
          | some v => rfl
          | none =>
              rw [Option.none_or]
              by_cases hHere : here = place
              · subst hHere
                simp [get?_of_find _ hFind, eq_comm]
              · have hOther : place ∉ [here] := by simpa [eq_comm] using hHere
                have hSame : some here ≠ some place := fun h => hHere (Option.some.inj h)
                rw [if_neg hSame]
                exact hPut.others place hOther content

/-- A path to which a write has succeeded leads to a file in the end. -/
theorem exists_find_of_succeeded {tree : FileTree} {writings : List Writing} {w : Writing}
    (h : w ∈ tree.succeeded writings) :
    ∃ place content, (tree.afterWritings writings).find w.path = .ok (place, .file content) := by
  induction writings generalizing tree with
  | nil => cases h
  | cons v rest ih =>
      rw [succeeded] at h
      rw [afterWritings]
      cases hOutcome : (tree.replace v.circumstances v.path v.bytes).outcome with
      | error e =>
          rw [hOutcome] at h
          exact ih h
      | ok _ =>
          rw [hOutcome] at h
          rcases List.mem_cons.mp h with rfl | hLater
          · obtain ⟨place, -, hFind⟩ :=
              (handled_replace w.circumstances tree w.path w.bytes).ok hOutcome
            obtain ⟨places, hGrown⟩ :=
              grown_afterWritings (tree.replace w.circumstances w.path w.bytes).handled rest
            obtain ⟨content, hLast, -⟩ := hGrown.find_eq_ok hFind
            exact ⟨place, content, hLast⟩
          · exact ih hLater

/-- A write that succeeds leaves its bytes at its path and no other file changed, one that fails
leaves all files as they were; neither leaves a temporary file once it is handled, or makes another
directory than those that the path needs. After many writes every path to which one has succeeded
holds the bytes of the last that succeeded there, and all other files are as they were. Where nothing
is refused and the temporary file has a name of its own, this is writing without one. -/
theorem replace_files :
    (∀ (tree : FileTree) (w : Writing),
      let r := tree.replace w.circumstances w.path w.bytes
      (r.outcome = .ok () → ∃ place, r.handled.find w.path = .ok (place, .file w.bytes) ∧
        ∀ other ≠ place, ∀ content, r.handled.get? other = some (.file content) ↔
          tree.get? other = some (.file content)) ∧
      (∀ e, r.outcome = .error e → ∀ other content, r.handled.get? other = some (.file content) ↔
        tree.get? other = some (.file content)) ∧
      (∀ other, tree.get? other = some .directory → r.handled.get? other = some .directory) ∧
      MadeFor (directoryFor w.path) tree r.handled) ∧
    (∀ (tree : FileTree) (writings : List Writing),
      let last := tree.afterWritings writings
      let done := tree.succeeded writings
      (∀ w ∈ done, ∃ place v, last.find w.path = .ok (place, .file v.bytes) ∧
        last.lastAt done place = some v) ∧
      ∀ place, last.lastAt done place = none → ∀ content,
        last.get? place = some (.file content) ↔ tree.get? place = some (.file content)) ∧
    ∀ (tree : FileTree) (names : List String) (p : Path) (bytes : List UInt8),
      (∀ name ∈ names, name ∉ tree.workingDirectory ∧
        ∀ piece ∈ p.pieces, String.ofList piece ≠ name) →
      (∀ e, (tree.replace { names } p bytes).outcome ≠ .error (.temporary (directoryFor p) e)) →
      ((tree.replace { names } p bytes).handled, (tree.replace { names } p bytes).outcome) =
        tree.write p bytes := by
  refine ⟨?_, ?_, fun tree names p bytes => replace_eq_write⟩
  · intro tree w
    have hHandled := handled_replace w.circumstances tree w.path w.bytes
    refine ⟨?_, ?_, ?_, hHandled.made⟩
    · intro hOutcome
      obtain ⟨place, hGrown, hFind⟩ := hHandled.ok hOutcome
      refine ⟨place, hFind, fun other hOther => hGrown.others other ?_⟩
      rwa [List.mem_singleton]
    · exact fun e hOutcome other => (hHandled.error e hOutcome).others other List.not_mem_nil
    · cases hOutcome : (tree.replace w.circumstances w.path w.bytes).outcome with
      | ok _ =>
          obtain ⟨place, hGrown, -⟩ := hHandled.ok hOutcome
          exact hGrown.directory
      | error e => exact (hHandled.error e hOutcome).directory
  · intro tree writings last done
    have hFiles := get?_afterWritings tree writings
    constructor
    · intro w hw
      obtain ⟨place, content, hFind⟩ := exists_find_of_succeeded hw
      have hContent := (hFiles place content).mp (last.get?_of_find hFind)
      have hSome : (last.lastAt done place).isSome := by
        rw [lastAt, List.find?_isSome]
        exact ⟨w, List.mem_reverse.mpr hw, by simp [last, placeOf?_of_find hFind]⟩
      obtain ⟨v, hv⟩ := Option.isSome_iff_exists.mp hSome
      simp only [last, done] at hv
      rw [hv] at hContent
      exact ⟨place, v, hContent ▸ hFind, hv⟩
    · intro place hNone content
      have hPlace := hFiles place content
      simp only [last, done] at hNone
      rw [hNone] at hPlace
      exact hPlace

/-- Of four writes one succeeds. The others fail at a directory, at a full disk and at the move. -/
theorem replace_files_once :
    let tree : FileTree := ⟨[(["a"], .file [1]), (["d"], .directory)], []⟩
    let refused : Circumstances := { names := ["t"], move? := some .busy }
    let writings : List Writing := [⟨{ names := ["t"] }, ⟨"a"⟩, [2, 3]⟩,
      ⟨{ names := ["t"] }, ⟨"a/b"⟩, [4]⟩,
      ⟨{ names := ["t"], content? := some (1, .system 28) }, ⟨"a"⟩, [5, 6]⟩,
      ⟨refused, ⟨"d/e/x"⟩, [7]⟩]
    (∃ e, (tree.replace refused ⟨"d/e/x"⟩ [7]).outcome = .error e ∧
      (tree.replace refused ⟨"d/e/x"⟩ [7]).held?.isSome ∧
      ∀ other content, (tree.replace refused ⟨"d/e/x"⟩ [7]).handled.get? other =
        some (.file content) ↔ tree.get? other = some (.file content)) ∧
    (∃ place, (tree.replace { names := ["t"] } ⟨"a"⟩ [2, 3]).handled.find ⟨"a"⟩ =
      .ok (place, .file [2, 3])) ∧
    (∃ place v, (tree.afterWritings writings).find ⟨"a"⟩ = .ok (place, .file v.bytes) ∧
      v ∈ tree.succeeded writings ∧ v.bytes = [2, 3]) ∧
    (tree.write ⟨"d/e/x"⟩ [7]).1 = (tree.replace { names := ["t"] } ⟨"d/e/x"⟩ [7]).handled := by
  intro tree refused writings
  obtain ⟨hOne, hMany, hWrite⟩ := replace_files
  refine ⟨?_, ?_, ?_, ?_⟩
  · obtain ⟨-, hError, -, -⟩ := hOne tree ⟨refused, ⟨"d/e/x"⟩, [7]⟩
    have hOutcome : (tree.replace refused ⟨"d/e/x"⟩ [7]).outcome =
        .error (.move ⟨"d/e/x"⟩ .busy) := by decide +kernel
    exact ⟨_, hOutcome, by decide +kernel, hError _ hOutcome⟩
  · obtain ⟨hOk, -, -, -⟩ := hOne tree ⟨{ names := ["t"] }, ⟨"a"⟩, [2, 3]⟩
    have hOutcome : (tree.replace { names := ["t"] } ⟨"a"⟩ [2, 3]).outcome = .ok () := by
      decide +kernel
    obtain ⟨place, hFind, -⟩ := hOk hOutcome
    exact ⟨place, hFind⟩
  · have hDone : (tree.succeeded writings).map (fun w => (w.path, w.bytes)) = [(⟨"a"⟩, [2, 3])] := by
      decide +kernel
    clear_value writings tree
    obtain ⟨w, hOnly, hSame⟩ := List.map_eq_singleton_iff.mp hDone
    obtain ⟨hPath, hBytes⟩ := Prod.mk.inj hSame
    have hMem : w ∈ tree.succeeded writings := hOnly ▸ List.mem_singleton_self w
    obtain ⟨place, v, hFind, hLast⟩ := (hMany tree writings).1 w hMem
    have hv := mem_of_lastAt hLast
    obtain rfl : v = w := List.mem_singleton.mp (hOnly ▸ hv)
    exact ⟨place, v, hPath ▸ hFind, hv, hBytes⟩
  · have hOutcome : (tree.replace { names := ["t"] } ⟨"d/e/x"⟩ [7]).outcome = .ok () := by
      decide +kernel
    rw [← hWrite tree ["t"] ⟨"d/e/x"⟩ [7] (by decide +kernel) (by simp [hOutcome])]

end TemplateBundle.FileTree
