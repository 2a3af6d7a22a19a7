import TemplateBundle.Proofs.Bundler.History

/-! Where a bundler looks partials up, over everything that is done with it. Main statement: what of
this is not set is taken from the first template in a file that comes to have its partials
registered, the rest of the setup never changes, and all partials are looked up where the setup has
them in the end. -/
namespace TemplateBundle

/-- The setup with what is not set taken from a file, if there is one. -/
def BundlerConfig.filledFrom (config : BundlerConfig) (file? : Option Path) : BundlerConfig :=
  { config with
    partialsDir? := config.partialsDir?.or (file?.map Path.templateDir)
    partialsExt? := config.partialsExt?.or (file?.map Path.templateExt) }

namespace BundlerConfig

theorem filledFrom_none (config : BundlerConfig) : config.filledFrom none = config := by
  simp [filledFrom]

/-- What a first file has filled in does not come from a second one. -/
theorem filledFrom_filledFrom (config : BundlerConfig) (first? second? : Option Path) :
    (config.filledFrom first?).filledFrom second? = config.filledFrom (first?.or second?) := by
  cases first? with
  | none => rw [filledFrom_none, Option.none_or]
  | some file => simp [filledFrom]

theorem filledFrom_eq_self {config : BundlerConfig} {dir : Path} {ext : String}
    (hDir : config.partialsDir? = some dir) (hExt : config.partialsExt? = some ext)
    (file? : Option Path) : config.filledFrom file? = config := by
  simp only [filledFrom, hDir, hExt, Option.some_or]
  rw [← hDir, ← hExt]

end BundlerConfig

namespace Bundler

variable {σ : Type}

/-- What can be done with a bundler. -/
inductive Use (σ : Type) where
  /-- A template is taken through all stages, from its source or from where it has been read to -/
  | call (call : Call)
  | loadHelpers (tree : FileTree)
  | registerPartials (tree : FileTree) (template : Bundling)
  | compileTemplate (tree : FileTree) (template : Bundling)
  | precompileTemplate (template : Bundling)
  /-- The engine is changed by hand -/
  | changeEngine (change : Engine → Engine)
  | setLoader (loader : HelperLoader σ) (memory : σ)

/-- A template that comes to have its partials registered, with the files and the bundler as they
are then. -/
structure Arrival (σ : Type) where
  tree : FileTree
  template : Bundling
  bundler : Bundler σ

/-- The file of the template, if it is in one and partials are not disabled. -/
def Arrival.file? (arrival : Arrival σ) : Option Path :=
  if arrival.bundler.config.noPartials then none else arrival.template.file?

namespace Use

/-- The bundler that a use leaves, whether it fails or not. -/
def on : Use σ → Bundler σ → Bundler σ
  | .call page, bundler => (page.work.on bundler).2
  | .loadHelpers tree, bundler => ((Bundler.loadHelpers tree).on bundler).2
  | .registerPartials tree b, bundler => ((Bundler.registerPartials tree b).on bundler).2
  | .compileTemplate tree b, bundler => ((Bundler.compileTemplate tree b).on bundler).2
  | .precompileTemplate b, bundler => ((Bundler.precompileTemplate b).on bundler).2
  | .changeEngine change, bundler => { bundler with engine := change bundler.engine }
  | .setLoader loader memory, bundler => { bundler with loader, memory }

/-- The template that has its partials registered; none if it is refused before. -/
def arrival? : Use σ → Bundler σ → Option (Arrival σ)
  | .call page, bundler =>
    match (prepare page.tree page.withData page.template).on bundler with
    | (.error _, _) => none
    | (.ok b, prepared) => some ⟨page.tree, b, prepared⟩
  | .registerPartials tree b, bundler => some ⟨tree, b, bundler⟩
  | _, _ => none

end Use

/-- The bundler that is left when all has been done. -/
def through (bundler : Bundler σ) : List (Use σ) → Bundler σ
  | [] => bundler
  | use :: rest => (use.on bundler).through rest

/-- The templates that come to have their partials registered, in order. -/
def arrivals (bundler : Bundler σ) : List (Use σ) → List (Arrival σ)
  | [] => []
  | use :: rest => (use.arrival? bundler).toList ++ (use.on bundler).arrivals rest

/-- Registers the partials of a template that are found in a directory under an extension. -/
def registerFrom (tree : FileTree) (dir : Path) (ext : String) (b : Bundling) :
    Work σ Bundling := do
  match b.body? with
  | none => throw .missingTemplate
  | some body =>
    let partials ← (resolve body (partialStore tree dir ext)).outcome
    let bundler ← get
    let (engine, outcome) := bundler.engine.registerPartials partials
    set { bundler with engine }
    (outcome.mapError BundleError.engine : Except BundleError Unit)
    return { b with partials }

theorem through_append (bundler : Bundler σ) (uses more : List (Use σ)) :
    bundler.through (uses ++ more) = (bundler.through uses).through more := by
  induction uses generalizing bundler with
  | nil => rfl
  | cons use rest ih => exact ih _

/-- Where partials are looked up, the setup is filled from the template's file. -/
theorem settled_eq_filledFrom {config : BundlerConfig} {b : Bundling}
    (hFinds : findsPartials config b = true) : settled config b = config.filledFrom b.file? := by
  cases hFile : b.file? with
  | some file =>
      simp only [settled, BundlerConfig.filledFrom, hFile, Option.getD_some, Option.map_some]
      cases config.partialsDir? <;> cases config.partialsExt? <;> rfl
  | none =>
      simp only [findsPartials, hFile, Bool.and_eq_true, Option.isSome_none, Bool.false_or,
        Option.isSome_iff_exists] at hFinds
      obtain ⟨-, ⟨dir, hDir⟩, ext, hExt⟩ := hFinds
      simp [settled, BundlerConfig.filledFrom, hDir, hExt]

theorem config_registerFrom (tree : FileTree) (dir : Path) (ext : String) (b : Bundling)
    (bundler : Bundler σ) :
    ((registerFrom tree dir ext b).on bundler).2.config = bundler.config := by
  unfold registerFrom
  cases b.body? with
  | none => rfl
  | some body =>
      simp only [Work.on_bind, Work.on_lift]
      cases (resolve body (partialStore tree dir ext)).outcome with
      | error e => rfl
      | ok partials =>
          simp only [Work.on_get, Work.on_set]
          cases (bundler.engine.registerPartials partials).2 with
          | error e => rfl
          | ok _ => rfl

/-- To find partials is to fill the setup, and to look them up where it then has them. -/
theorem on_registerPartials_eq (tree : FileTree) {bundler : Bundler σ} {b : Bundling}
    (hFinds : findsPartials bundler.config b = true) :
    let filled := bundler.config.filledFrom b.file?
    ∃ dir ext, filled.partialsDir? = some dir ∧ filled.partialsExt? = some ext ∧
      (registerPartials tree b).on bundler =
        (registerFrom tree dir ext b).on { bundler with config := filled } := by
  intro filled
  have hFilled : settled bundler.config b = filled := settled_eq_filledFrom hFinds
  refine ⟨_, _, congrArg BundlerConfig.partialsDir? hFilled.symm,
    congrArg BundlerConfig.partialsExt? hFilled.symm, ?_⟩
  rw [← hFilled]
  unfold registerFrom
  cases hBody : b.body? with
  | none =>
      rw [on_registerPartials_missing hFinds hBody]
      rfl
  | some body =>
      rw [on_registerPartials hFinds hBody, storeFor]
      simp only [Work.on_bind, Work.on_lift]
      cases (resolve body (partialStore tree _ _)).outcome with
      | error e => rfl
      | ok partials =>
          simp only [Work.on_get, Work.on_set]
          cases (bundler.engine.registerPartials partials).2 with
          | error e => rfl
          | ok _ =>
              rw [← hBody]
              rfl

/-- Where partials are looked up they are not disabled, and where they are not there is no file or
they are. -/
theorem Arrival.file?_eq (arrival : Arrival σ) :
    arrival.file? =
      if findsPartials arrival.bundler.config arrival.template then arrival.template.file?
        else none := by
  unfold Arrival.file? findsPartials
  cases arrival.bundler.config.noPartials with
  | true => rfl
  | false =>
      cases hFile : arrival.template.file? with
      | some file => rfl
      | none => simp

/-- A template that has its partials registered leaves the setup filled from its file. -/
theorem config_registerPartials (arrival : Arrival σ) :
    ((registerPartials arrival.tree arrival.template).on arrival.bundler).2.config =
      arrival.bundler.config.filledFrom arrival.file? := by
  rw [arrival.file?_eq]
  cases hFinds : findsPartials arrival.bundler.config arrival.template with
  | false =>
      rw [on_registerPartials_skip hFinds]
      exact (BundlerConfig.filledFrom_none _).symm
  | true =>
      obtain ⟨dir, ext, -, -, hRun⟩ := on_registerPartials_eq arrival.tree hFinds
      rw [hRun, config_registerFrom]
      rfl

theorem config_loadHelpers (tree : FileTree) (bundler : Bundler σ) :
    ((loadHelpers tree).on bundler).2.config = bundler.config := by
  rcases hLoad : (loadHelpers tree).on bundler with ⟨outcome, after⟩
  exact (on_loadHelpers_relates (R := fun _ _ => True) (fun _ _ _ _ => trivial) (fun _ => trivial)
    (fun _ _ => trivial) hLoad).1

namespace Use

variable {use : Use σ} {bundler : Bundler σ} {arrival : Arrival σ}

/-- A template arrives with the setup as it was. -/
theorem config_of_arrival? (h : use.arrival? bundler = some arrival) :
    arrival.bundler.config = bundler.config := by
  cases use with
  | call page =>
      simp only [arrival?] at h
      split at h
      · cases h
      · next b prepared hPrepare =>
        cases h
        exact config_prepare hPrepare
  | registerPartials tree b =>
      cases h
      rfl
  | loadHelpers => cases h
  | compileTemplate => cases h
  | precompileTemplate => cases h
  | changeEngine => cases h
  | setLoader => cases h

/-- Whatever is done, the setup is filled from the file of the template that arrives. -/
theorem config_on (use : Use σ) (bundler : Bundler σ) :
    (use.on bundler).config =
      bundler.config.filledFrom ((use.arrival? bundler).bind Arrival.file?) := by
  cases use with
  | call page =>
      simp only [on, arrival?, Call.work_leaves]
      rcases hPrepare : (prepare page.tree page.withData page.template).on bundler with
        ⟨e | b, prepared⟩
      · exact (config_prepare hPrepare).trans (BundlerConfig.filledFrom_none _).symm
      · have hConfig := config_registerPartials ⟨page.tree, b, prepared⟩
        rwa [config_prepare hPrepare] at hConfig
  | registerPartials tree b => exact config_registerPartials ⟨tree, b, bundler⟩
  | loadHelpers tree =>
      exact (config_loadHelpers tree bundler).trans (BundlerConfig.filledFrom_none _).symm
  | compileTemplate tree b =>
      simp only [on, on_compileTemplate]
      exact (BundlerConfig.filledFrom_none _).symm
  | precompileTemplate b =>
      simp only [on, on_precompileTemplate]
      exact (BundlerConfig.filledFrom_none _).symm
  | changeEngine change => exact (BundlerConfig.filledFrom_none _).symm
  | setLoader loader memory => exact (BundlerConfig.filledFrom_none _).symm

end Use

/-- The setup is filled from the first file that arrives. -/
theorem config_through_eq (bundler : Bundler σ) (uses : List (Use σ)) :
    (bundler.through uses).config =
      bundler.config.filledFrom ((bundler.arrivals uses).findSome? Arrival.file?) := by
  induction uses generalizing bundler with
  | nil => exact (BundlerConfig.filledFrom_none _).symm
  | cons use rest ih =>
      rw [through, ih, use.config_on, BundlerConfig.filledFrom_filledFrom, arrivals,
        List.findSome?_append]
      congr 2
      cases use.arrival? bundler with
      | none => rfl
      | some arrival => simp

/-- Once partials have been looked up, where they are looked up is settled. -/
theorem config_of_mem_arrivals {bundler : Bundler σ} {uses : List (Use σ)} {arrival : Arrival σ}
    (hArrival : arrival ∈ bundler.arrivals uses)
    (hFinds : findsPartials arrival.bundler.config arrival.template = true) :
    (bundler.through uses).config = arrival.bundler.config.filledFrom arrival.template.file? := by
  induction uses generalizing bundler with
  | nil => cases hArrival
  | cons use rest ih =>
      rw [arrivals, List.mem_append] at hArrival
      rcases hArrival with hFirst | hRest
      · have hUse : use.arrival? bundler = some arrival := by simpa using hFirst
        obtain ⟨dir, ext, hDir, hExt, -⟩ := on_registerPartials_eq arrival.tree hFinds
        rw [through, config_through_eq, use.config_on, ← Use.config_of_arrival? hUse, hUse,
          Option.bind_some, arrival.file?_eq, hFinds, if_pos rfl,
          BundlerConfig.filledFrom_eq_self hDir hExt]
      · exact ih hRest

/-- Whatever is done with a bundler, be it in vain: of its setup nothing changes but where partials
are looked up, and that only where it is not set, to what the first file says that arrives while
partials are enabled. What is set stays set. Whenever partials are looked up, they are where the
setup has them in the end. -/
theorem config_through (bundler : Bundler σ) (uses : List (Use σ)) :
    let last := bundler.through uses
    let first? := (bundler.arrivals uses).findSome? Arrival.file?
    last.config = { bundler.config with
        partialsDir? := bundler.config.partialsDir?.or (first?.map Path.templateDir)
        partialsExt? := bundler.config.partialsExt?.or (first?.map Path.templateExt) } ∧
      (∀ done rest, uses = done ++ rest →
        (∀ dir, (bundler.through done).config.partialsDir? = some dir →
          last.config.partialsDir? = some dir) ∧
        ∀ ext, (bundler.through done).config.partialsExt? = some ext →
          last.config.partialsExt? = some ext) ∧
      ∀ arrival ∈ bundler.arrivals uses,
        findsPartials arrival.bundler.config arrival.template = true →
          ∃ dir ext, last.config.partialsDir? = some dir ∧ last.config.partialsExt? = some ext ∧
            (registerPartials arrival.tree arrival.template).on arrival.bundler =
              (registerFrom arrival.tree dir ext arrival.template).on
                { arrival.bundler with config := last.config } := by
  intro last first?
  refine ⟨config_through_eq bundler uses, ?_, fun arrival hArrival hFinds => ?_⟩
  · rintro done rest rfl
    have hRest : last.config = (bundler.through done).config.filledFrom
        (((bundler.through done).arrivals rest).findSome? Arrival.file?) := by
      rw [← config_through_eq, ← through_append]
    constructor
    · intro dir hDir
      rw [hRest, BundlerConfig.filledFrom, hDir, Option.some_or]
    · intro ext hExt
      rw [hRest, BundlerConfig.filledFrom, hExt, Option.some_or]
  · rw [config_of_mem_arrivals hArrival hFinds]
    exact on_registerPartials_eq arrival.tree hFinds

/-- Two pages in two directories. The first includes a partial that is not there. -/
def twoPlaces : FileTree :=
  ⟨[(["a"], .directory), (["a", "page.hbs"], .file (Text.encode "\x7b\x7b> gone\x7d\x7d")),
    (["a", "menu.hbs"], .file (Text.encode "text")),
    (["b"], .directory), (["b", "other.html"], .file (Text.encode "\x7b\x7b> menu\x7d\x7d"))], []⟩

/-- A page that fails settles where the partials of the next are looked up; a text and a page that
is not there do not. -/
theorem config_through_twoPlaces :
    let bundler := new {}
    let call (source : TemplateSource) : Use Unit :=
      .call ⟨.compile, twoPlaces, { source? := some source }⟩
    let uses := [call (.ofText "\x7b\x7b> menu\x7d\x7d"), call (.file ⟨"b/none.html"⟩),
      call (.file ⟨"a/page.hbs"⟩), call (.file ⟨"b/other.html"⟩)]
    let last := bundler.through uses
    (bundler.arrivals uses).map
        (fun arrival => (arrival.template.file?,
          findsPartials arrival.bundler.config arrival.template)) =
      [(none, false), (some ⟨"a/page.hbs"⟩, true), (some ⟨"b/other.html"⟩, true)] ∧
    last.config = { partialsDir? := some ⟨"a"⟩, partialsExt? := some ".hbs" } ∧
    last.engine.partials = [⟨"menu", "text"⟩] ∧
    ∃ arrival ∈ bundler.arrivals uses, arrival.template.file? = some ⟨"b/other.html"⟩ ∧
      (registerPartials arrival.tree arrival.template).on arrival.bundler =
        (registerFrom arrival.tree ⟨"a"⟩ ".hbs" arrival.template).on
          { arrival.bundler with config := last.config } := by
  intro bundler call uses last
  have hArrivals : (bundler.arrivals uses).map (fun arrival => (arrival.template.file?,
      findsPartials arrival.bundler.config arrival.template)) =
        [(none, false), (some ⟨"a/page.hbs"⟩, true), (some ⟨"b/other.html"⟩, true)] := by
    decide +kernel
  have hFirst : (bundler.arrivals uses).findSome? Arrival.file? = some ⟨"a/page.hbs"⟩ := by
    decide +kernel
  have hPartials : last.engine.partials = [⟨"menu", "text"⟩] := by decide +kernel
  have hPlace : Path.templateDir ⟨"a/page.hbs"⟩ = ⟨"a"⟩ ∧
      Path.templateExt ⟨"a/page.hbs"⟩ = ".hbs" := by
    decide +kernel
  obtain ⟨hConfig, -, hLookups⟩ := config_through bundler uses
  rw [hFirst, Option.map_some, Option.map_some, hPlace.1, hPlace.2] at hConfig
  obtain ⟨arrival, hArrival, hBoth⟩ : ∃ arrival ∈ bundler.arrivals uses,
      (arrival.template.file?, findsPartials arrival.bundler.config arrival.template) =
        (some ⟨"b/other.html"⟩, true) := by
    refine List.mem_map.mp ?_
    rw [hArrivals]
    decide
  obtain ⟨hFile, hFinds⟩ := Prod.mk.inj hBoth
  obtain ⟨dir, ext, hDir, hExt, hRun⟩ := hLookups arrival hArrival hFinds
  rw [hConfig] at hDir hExt
  cases hDir
  cases hExt
  exact ⟨hArrivals, hConfig, hPartials, arrival, hArrival, hFile, hRun⟩

end Bundler
end TemplateBundle
