import TemplateBundle.Proofs.Bundler.Footprint
import TemplateBundle.Proofs.Files.Apart

/-! What a template keeps on its way through a bundler. Main statement: no stage touches what is not
its own, and a template that is precompiled comes out the same whatever the file of its data holds,
unless the file is read as something else. -/
namespace TemplateBundle

open Json (Value)

/-- What becomes of a template apart from its data, its partials and its result. -/
structure Bundling.Framed (b c : Bundling) : Prop where
  extensions : c.extensions = b.extensions
  wrapper? : c.wrapper? = b.wrapper?
  source? : c.source? = none
  file? : c.file? = b.sourceFile?.or b.file?
  name : c.name = if b.name.isEmpty then b.sourceFile?.elim b.name Path.templateName else b.name

theorem Bundling.framed_withText (b : Bundling) (body : String) (context : Option Context)
    (partials : List Partial) (result? : Option String) :
    b.Framed { (b.withText body).withContext context with partials, result? } := by
  rw [Bundler.withContext_eq]
  exact ⟨rfl, rfl, rfl, rfl, rfl⟩

namespace Bundler

variable {σ : Type} {tree : FileTree} {place : Location} {held : List UInt8} {bundler : Bundler σ}
  {b : Bundling}

/-- Precompiling the template never reads what the file at a place holds: the template, its partials,
the wrapper and the partials of the wrapper are in other files, and so are the helpers that are still
to be loaded and all that their loader reads. -/
structure Unread (tree : FileTree) (place : Location) (bundler : Bundler σ) (b : Bundling) :
    Prop where
  files : ∀ path, FileOf tree bundler.config b path → tree.placeOf? path ≠ some place
  listed : bundler.helpersLoaded = false → ∀ dir ∈ bundler.config.helpersDir?, ∀ folder,
    tree.find dir = .ok (folder, .directory) → place.dropLast ≠ folder
  loads : bundler.helpersLoaded = false → ∀ dir ∈ bundler.config.helpersDir?, ∀ files,
    helperFiles tree dir = .ok files → ∀ path ∈ files, ∀ bytes,
      bundler.loader.load (tree.set place (.file bytes)) path = bundler.loader.load tree path
  wrapper : ∀ wrapper, b.wrapper? = some wrapper → ∀ path,
    FileOf tree wrapperSetup { source? := some wrapper.template } path →
      tree.placeOf? path ≠ some place

theorem Unread.on_runPrecompile (h : Unread tree place bundler b)
    (hFile : tree.get? place = some (.file held)) (bytes : List UInt8) :
    (runPrecompile (tree.set place (.file bytes)) b).on bundler =
      (runPrecompile tree b).on bundler := by
  apply on_runPrecompile_congr
  · exact fun path hPath => tree.readText_set_file hFile bytes (h.files path hPath)
  · intro hLoaded dir hDir
    have hList := helperFiles_set_file hFile bytes (h.listed hLoaded dir hDir)
    exact ⟨hList, fun files hFiles path hPath => h.loads hLoaded dir hDir files hFiles path hPath bytes⟩
  · exact fun wrapper hWrapper path hPath =>
      tree.readText_set_file hFile bytes (h.wrapper wrapper hWrapper path hPath)

/-- A template keeps its extensions and its wrapper, its source is read, and the file that it is read
from becomes its own and names it if it has no name. Its partials change only if they are looked up.
A template that is precompiled keeps its data as well, but for an empty object in the place of null,
and the file of the data counts for nothing unless it is read as something else. -/
theorem stages_frame (tree : FileTree) (b : Bundling) (bundler : Bundler σ) :
    (∀ c after, (runCompile tree b).on bundler = (.ok c, after) →
      b.Framed c ∧ ∃ text, b.text tree = .ok text ∧
        HasPartials tree bundler.config text b.partials c) ∧
    (∀ c after, (runPrecompile tree b).on bundler = (.ok c, after) →
      b.Framed c ∧ c.contextSource? = b.contextSource? ∧ c.contextFile? = b.contextFile? ∧
        (b.context = .null → c.context = .empty) ∧ (b.context ≠ .null → c.context = b.context)) ∧
    ∀ path place held, b.contextSource? = some (.file path) →
      tree.find path = .ok (place, .file held) → Unread tree place bundler b →
        ∀ bytes, (runPrecompile (tree.set place (.file bytes)) b).on bundler =
          (runPrecompile tree b).on bundler := by
  refine ⟨?_, ?_, ?_⟩
  · intro c after h
    obtain ⟨text, context, partials, result, hText, -, hPartials, rfl⟩ := exists_of_runCompile h
    exact ⟨b.framed_withText text context partials (some result), text, hText, hPartials⟩
  · intro c after h
    obtain ⟨text, partials, result?, -, rfl⟩ := exists_of_runPrecompile h
    refine ⟨b.framed_withText text none partials result?, ?_⟩
    rw [withContext_eq]
    refine ⟨rfl, rfl, ?_, ?_⟩
    · intro hNull
      simp [Bundling.withObject, Bundling.withText, hNull]
    · intro hValue
      simp [Bundling.withObject, Bundling.withText]
  · intro path place held _ hFind hUnread bytes
    exact hUnread.on_runPrecompile (tree.get?_of_find hFind) bytes

/-- A page that includes nothing, to be precompiled with a wrapper beside a file of data. -/
theorem stages_frame_page :
    let tree : FileTree :=
      ⟨[(["page.hbs"], .file (Text.encode "x")), (["wrap.hbs"], .file (Text.encode "y")),
        (["data.json"], .file (Text.encode "3"))], []⟩
    let changed := tree.set ["data.json"] (.file (Text.encode "5"))
    let page : Bundling :=
      { source? := some (.file ⟨"page.hbs"⟩)
        contextSource? := some (.file ⟨"data.json"⟩)
        context := .null
        wrapper? := some (.file ⟨"wrap.hbs"⟩)
        extensions := [("kind", .string "page")] }
    (∃ c after, (runCompile tree { page with contextSource? := none }).on (new {}) =
      (.ok c, after) ∧ c.file? = some ⟨"page.hbs"⟩ ∧ c.wrapper? = page.wrapper?) ∧
    (∃ c after, (runPrecompile tree page).on (new {}) = (.ok c, after) ∧ c.name = "page" ∧
      c.extensions = page.extensions ∧ c.contextSource? = page.contextSource? ∧
      c.context = .empty) ∧
    (runPrecompile changed page).on (new {}) = (runPrecompile tree page).on (new {}) := by
  intro tree changed page
  obtain ⟨hCompile, -⟩ := stages_frame tree { page with contextSource? := none } (new {})
  obtain ⟨-, hPrecompile, hData⟩ := stages_frame tree page (new {})
  refine ⟨?_, ?_, ?_⟩
  · have hOk : ((runCompile tree { page with contextSource? := none }).on (new {})).1.isOk := by
      decide +kernel
    obtain ⟨c, after, hRun⟩ := Work.exists_of_isOk hOk
    obtain ⟨hFramed, -⟩ := hCompile c after hRun
    exact ⟨c, after, hRun, hFramed.file?, hFramed.wrapper?⟩
  · have hOk : ((runPrecompile tree page).on (new {})).1.isOk := by decide +kernel
    obtain ⟨c, after, hRun⟩ := Work.exists_of_isOk hOk
    obtain ⟨hFramed, hSource, -, hNull, -⟩ := hPrecompile c after hRun
    have hName : c.name = "page" := hFramed.name.trans (by decide +kernel)
    exact ⟨c, after, hRun, hName, hFramed.extensions, hSource, hNull rfl⟩
  · have hFind : tree.find ⟨"data.json"⟩ = .ok (["data.json"], .file (Text.encode "3")) := by
      decide +kernel
    refine hData ⟨"data.json"⟩ ["data.json"] (Text.encode "3") rfl hFind ?_ (Text.encode "5")
    have hPage : page.text tree = .ok "x" := by decide +kernel
    have hWrapper : ({ source? := some (.file ⟨"wrap.hbs"⟩) } : Bundling).text tree = .ok "y" := by
      decide +kernel
    refine ⟨fun path hPath => ?_, fun _ _ hDir => (nomatch hDir), fun _ _ hDir => (nomatch hDir),
      fun wrapper hGiven path hPath => ?_⟩
    · obtain rfl : ⟨"page.hbs"⟩ = path := TemplateSource.file.inj
        (Option.some.inj (hPath.source?_eq hPage (by decide +kernel)))
      decide +kernel
    · obtain rfl : .file ⟨"wrap.hbs"⟩ = wrapper := Option.some.inj hGiven
      obtain rfl : ⟨"wrap.hbs"⟩ = path := TemplateSource.file.inj
        (Option.some.inj (hPath.source?_eq hWrapper (by decide +kernel)))
      decide +kernel

/-- A page that is its own data comes out as that file holds it. -/
theorem stages_frame_own_data :
    let tree : FileTree := ⟨[(["page.hbs"], .file (Text.encode "A"))], []⟩
    let changed := tree.set ["page.hbs"] (.file (Text.encode "B"))
    let page : Bundling :=
      { source? := some (.file ⟨"page.hbs"⟩), contextSource? := some (.file ⟨"page.hbs"⟩) }
    tree.find ⟨"page.hbs"⟩ = .ok (["page.hbs"], .file (Text.encode "A")) ∧
      ((runPrecompile tree page).on (new {})).1.isOk ∧
      ((runPrecompile changed page).on (new {})).1.map Bundling.result ≠
        ((runPrecompile tree page).on (new {})).1.map Bundling.result := by
  decide +kernel

end Bundler
end TemplateBundle
