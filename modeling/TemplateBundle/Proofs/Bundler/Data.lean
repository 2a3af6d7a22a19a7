import TemplateBundle.Proofs.Bundler.Stages

/-! The data of a template: how it is read on its own, and how on the way of the template through a
bundler. Main statement: a template that is compiled has the data that it has when its data alone is
read, and data that is refused alone is refused on the way. -/
namespace TemplateBundle

namespace ContextSource

def file? : ContextSource → Option Path
  | .given _ => none
  | .file path => some path

/-- Data in a file leaves the path of the file, also if there is no such file. -/
theorem file?_of_load {tree : FileTree} {source : ContextSource} {context : Context}
    (h : source.load tree = .ok context) : context.file? = source.file? := by
  unfold load at h
  split at h
  · cases h
    rfl
  · cases h
    rfl
  · cases h
  · split at h
    · split at h
      · cases h
        rfl
      · cases h
    · split at h
      · cases h
        rfl
      · cases h

end ContextSource

namespace Bundling

variable {tree : FileTree} {b read : Bundling}

/-- Reading a template leaves its data. -/
theorem readTemplate_data (h : b.readTemplate tree = .ok read) :
    read.contextSource? = b.contextSource? ∧ read.contextFile? = b.contextFile? ∧
      read.context = b.context := by
  rw [readTemplate_eq] at h
  obtain ⟨body, -, rfl⟩ := Outcome.map_eq_ok.mp h
  exact ⟨rfl, rfl, rfl⟩

/-- What is taken for the data depends on the data alone. -/
theorem withContext_data (context : Option Context)
    (h : read.contextSource? = b.contextSource? ∧ read.contextFile? = b.contextFile? ∧
      read.context = b.context) :
    (read.withContext context).context = (b.withContext context).context ∧
      (read.withContext context).contextSource? = (b.withContext context).contextSource? ∧
      (read.withContext context).contextFile? = (b.withContext context).contextFile? := by
  obtain ⟨hSource, hFile, hContext⟩ := h
  cases context with
  | some context => exact ⟨rfl, rfl, rfl⟩
  | none =>
      simp only [withContext, withObject, hContext]
      split
      · exact ⟨rfl, hSource, hFile⟩
      · exact ⟨hContext, hSource, hFile⟩

/-- On its own, data leaves a path that was there before unless it comes from a file itself. -/
theorem readContext_eq (tree : FileTree) (b : Bundling) :
    b.readContext tree = (b.context? tree).map fun context =>
      ({ b.withContext context with
          contextFile? := (context.bind Context.file?).or b.contextFile? },
        context.elim [] Context.warnings) := by
  unfold readContext
  cases b.context? tree with
  | error e => rfl
  | ok context =>
      cases context with
      | some context => rfl
      | none =>
          simp only [bind, Except.bind, Except.map, withContext, withObject]
          split
          · rfl
          · rfl

/-- What data that was read leaves of paths: on the way nothing but its own. -/
theorem contextFile?_withContext {context : Option Context} (h : b.context? tree = .ok context) :
    (b.withContext context).contextFile? =
        b.contextSource?.elim b.contextFile? ContextSource.file? ∧
      context.bind Context.file? = b.contextSource?.bind ContextSource.file? := by
  unfold context? at h
  split at h
  · next hSource =>
    cases h
    rw [withContext, withObject, hSource]
    split
    · exact ⟨rfl, rfl⟩
    · exact ⟨rfl, rfl⟩
  · next source hSource =>
    obtain ⟨read, hLoad, rfl⟩ := Outcome.map_eq_ok.mp h
    rw [hSource]
    exact ⟨ContextSource.file?_of_load hLoad, ContextSource.file?_of_load hLoad⟩

end Bundling

namespace Bundler

variable {σ : Type} {tree : FileTree} {bundler after : Bundler σ} {b c : Bundling}

/-- A template that was compiled was read, as was its data, which the later stages leave as it is. -/
theorem runCompile_eq_ok (h : (runCompile tree b).on bundler = (.ok c, after)) :
    ∃ read context, b.readTemplate tree = .ok read ∧ b.context? tree = .ok context ∧
      c.context = (read.withContext context).context ∧
      c.contextSource? = (read.withContext context).contextSource? ∧
      c.contextFile? = (read.withContext context).contextFile? := by
  obtain ⟨body, context, partials, text, hText, hContext, -, rfl⟩ := exists_of_runCompile h
  have hRead : b.readTemplate tree = .ok (b.withText body) := by
    rw [Bundling.readTemplate_eq, hText]
    rfl
  exact ⟨b.withText body, context, hRead, hContext, rfl, rfl, rfl⟩

/-- A template that was compiled has the data that it has when its data alone is read, and nothing
is left to be read. The path of the data is that of its file as well, but data that is given leaves
no path, where alone it leaves the one that was there before. Data that is refused alone is refused
for the same reason on the way, provided that the template can be read. -/
theorem runCompile_data (tree : FileTree) (b : Bundling) (bundler : Bundler σ) :
    (∀ c after, (runCompile tree b).on bundler = (.ok c, after) →
      ∃ alone warnings, b.readContext tree = .ok (alone, warnings) ∧
        c.context = alone.context ∧ c.contextSource? = alone.contextSource? ∧
        ((∀ value, b.contextSource? = some (.given value) → b.contextFile? = none) →
          c.contextFile? = alone.contextFile?) ∧
        ∀ value, b.contextSource? = some (.given value) →
          c.contextFile? = none ∧ alone.contextFile? = b.contextFile?) ∧
      ∀ e read, b.readContext tree = .error e → b.readTemplate tree = .ok read →
        (runCompile tree b).on bundler = (.error e, bundler) := by
  constructor
  · intro c after h
    obtain ⟨read, context, hRead, hContext, hData, hSource, hFile⟩ := runCompile_eq_ok h
    obtain ⟨hSameData, hSameSource, hSameFile⟩ :=
      Bundling.withContext_data context (Bundling.readTemplate_data hRead)
    obtain ⟨hWay, hAlone⟩ := Bundling.contextFile?_withContext hContext
    have hRun := Bundling.readContext_eq tree b
    rw [hContext, Except.map] at hRun
    refine ⟨_, _, hRun, hData.trans hSameData, hSource.trans hSameSource, ?_, ?_⟩
    · intro hGiven
      dsimp only
      rw [hFile, hSameFile, hWay, hAlone]
      cases hFrom : b.contextSource? with
      | none => rfl
      | some source =>
          cases source with
          | file path => rfl
          | given value => exact (hGiven value hFrom).symm
    · intro value hFrom
      dsimp only
      rw [hFile, hSameFile, hWay, hAlone, hFrom]
      exact ⟨rfl, rfl⟩
  · intro e read hAlone hRead
    rw [Bundling.readContext_eq] at hAlone
    cases hContext : b.context? tree with
    | error f =>
        rw [hContext] at hAlone
        cases hAlone
        have hData : (if true then b.context? tree else .ok none) = .error e := hContext
        rw [runCompile, Work.on_bind, on_prepare_refused_data hRead hData]
    | ok context =>
        rw [hContext] at hAlone
        cases hAlone

/-- A page with the data of a file, where data of another file was before, and a page that is given
a number for its data. -/
theorem runCompile_data_replaced :
    let tree : FileTree := ⟨[(["data.json"], .file (Text.encode "\x7b\"a\":1\x7d"))], []⟩
    let page : Bundling :=
      { body? := some "\x7b\x7ba\x7d\x7d"
        contextSource? := some (.file ⟨"data.json"⟩)
        contextFile? := some ⟨"old.json"⟩ }
    let numbered : Bundling := { page with contextSource? := some (.given (.number (.int 3))) }
    (∃ c after alone warnings, (runCompile tree page).on (new {}) = (.ok c, after) ∧
      page.readContext tree = .ok (alone, warnings) ∧ c.result = "1" ∧
      c.contextFile? = some ⟨"data.json"⟩ ∧ alone.contextFile? = some ⟨"data.json"⟩) ∧
      numbered.readContext tree = .error (.invalidContext "a number") ∧
      (runCompile tree numbered).on (new {}) = (.error (.invalidContext "a number"), new {}) := by
  intro tree page numbered
  obtain ⟨hAgree, -⟩ := runCompile_data tree page (new {})
  obtain ⟨-, hRefused⟩ := runCompile_data tree numbered (new {})
  have hRun : ((runCompile tree page).on (new {})).1.map
      (fun c => (c.result, c.contextFile?)) = .ok ("1", some ⟨"data.json"⟩) := by decide +kernel
  have hNumber : numbered.readContext tree = .error (.invalidContext "a number") := rfl
  refine ⟨?_, hNumber, hRefused _ numbered hNumber rfl⟩
  rcases hDone : (runCompile tree page).on (new {}) with ⟨outcome, after⟩
  rw [hDone] at hRun
  obtain ⟨c, rfl, hResult⟩ := Outcome.map_eq_ok.mp hRun
  obtain ⟨hText, hPath⟩ := Prod.mk.inj hResult
  obtain ⟨alone, warnings, hAlone, -, -, hFile, -⟩ := hAgree c after hDone
  refine ⟨c, after, alone, warnings, rfl, hAlone, hText, hPath, ?_⟩
  rw [← hFile (fun _ hGiven => nomatch hGiven), hPath]

/-- Data that is given loses the path that was there before on the way, and keeps it alone. -/
theorem runCompile_loses_path :
    let tree : FileTree := ⟨[], []⟩
    let b : Bundling :=
      { body? := some "x"
        contextSource? := some (.given .empty)
        contextFile? := some ⟨"data.json"⟩ }
    ((runCompile tree b).on (new {})).1.map Bundling.contextFile? = .ok none ∧
      (b.readContext tree).map (fun alone => alone.1.contextFile?) = .ok (some ⟨"data.json"⟩) := by
  decide +kernel

end Bundler
end TemplateBundle
