import TemplateBundle.Proofs.Bundler.Gathering
import TemplateBundle.Proofs.Engine.Agreement

/-! What is precompiled to a bundle and loaded into an engine of its own renders as the template
does in place. -/
namespace TemplateBundle

open Json (Value)

/-- Every inclusion in the template spells out a name, and it is not the given one. -/
def IncludesOthers (own : String) (template : Template) : Prop :=
  ∀ call ∈ inclusions template, ∃ name, call.head.literalName? = some name ∧ name ≠ own

theorem IncludesOthers.includesOnly {own : String} {template : Template}
    (h : IncludesOthers own template) : IncludesOnly (· ≠ own) template := by
  intro call hCall
  obtain ⟨name, hName, hOther⟩ := h call hCall
  rw [Operand.NamesOnly, hName]
  exact hOther

namespace Engine

/-- A text renders as it does under a name that nothing includes. -/
theorem renderText_eq_render {engine other : Engine} {name text : String} {template : Template}
    {fileText : Path → Option String} {data : Value}
    (hAgrees : Rendering.Agrees (· ≠ name) ⟨engine.library fileText, data⟩
      ⟨other.library fileText, data⟩)
    (hParse : engine.parse text = .ok template)
    (hFound : other.templates.lookup name = some template)
    (hOnly : IncludesOnly (· ≠ name) template) :
    engine.renderText fileText text data = other.render fileText name data := by
  have hName : Rendering.SameName (· ≠ name) none (some name) := by
    intro key hKey
    simp [Ne.symm hKey]
  have hRender := Rendering.render_congr hAgrees hName hOnly
  rw [render, hFound, renderText_eq, hParse]
  simp only [renderTemplate, bind, Except.bind, hRender]

end Engine

namespace Bundler

section Loaded

variable {tree : FileTree} {config : BundlerConfig} {path : Path} {body : String}
  {included : List Partial} {engine : Engine}

theorem Gathered.includesOnly (h : Gathered tree config path body included engine)
    (hOthers : ∀ source, PartOf tree config path source → ∀ template,
      (Engine.new config.compilerOptions).parse source = .ok template →
        IncludesOthers path.templateName template) {name : String} {template : Template}
    (hKnown : engine.templates.lookup name = some template) :
    IncludesOnly (· ≠ path.templateName) template := by
  obtain ⟨source, hPart, hSource⟩ := h.partOf hKnown
  rw [h.parse] at hSource
  exact (hOthers source hPart template hSource).includesOnly

/-- Whatever order its partials were loaded in, an engine that loaded a bundle finds what the
bundler's engine finds, apart from the template under its own name. -/
theorem Gathered.agrees_loaded (h : Gathered tree config path body included engine)
    (hOthers : ∀ source, PartOf tree config path source → ∀ template,
      (Engine.new config.compilerOptions).parse source = .ok template →
        IncludesOthers path.templateName template)
    {others : List Partial} (hPerm : others.Perm included) {fresh loaded : Engine}
    {template : Template} (hFresh : fresh.options = config.compilerOptions)
    (hTemplates : fresh.templates = []) (hOptions : loaded.options = fresh.options)
    (hHelpers : engine.SameHelpers loaded)
    (hLookup : ∀ key, loaded.templates.lookup key =
      if key = path.templateName then some template else fresh.templateWith? others key)
    (fileText : Path → Option String) (data : Value) :
    Rendering.Agrees (· ≠ path.templateName) ⟨engine.library fileText, data⟩
      ⟨loaded.library fileText, data⟩ := by
  have hNames := ((Resolution.endsAt_resolve body _).of_ok h.found).1
  have hSame : ∀ name, name ≠ path.templateName →
      loaded.templates.lookup name = engine.templates.lookup name := by
    intro name hName
    have hStart : fresh.templateWith? included =
        (Engine.new config.compilerOptions).templateWith? included :=
      Engine.templateWith?_congr hFresh hTemplates included
    rw [hLookup, if_neg hName, Engine.templateWith?_perm hPerm hNames, hStart, h.lookup]
  have hEqual : loaded.options = engine.options := hOptions.trans (hFresh.trans h.options.symm)
  exact Engine.agrees hEqual hHelpers hSame
    (fun _ _ _ hKnown => h.includesOnly hOthers hKnown) fileText data

end Loaded

/-- A bundle renders as its template does in place. Its partials may be loaded in any order. -/
theorem render_loaded {tree : FileTree} {config : BundlerConfig} {path : Path} {bundle : String}
    {after : Bundler Unit} (hDiscovers : config.noPartials = false)
    (hBundle : (precompile tree (.file path) (some (.builtin .json))).on (new config) =
      (.ok bundle, after))
    (hOthers : ∀ source, PartOf tree config path source → ∀ template,
      (Engine.new config.compilerOptions).parse source = .ok template →
        IncludesOthers path.templateName template) :
    ∃ partials artifact, Json.parse bundle = .ok (.object [("name", .string path.templateName),
        ("partials", .object partials), ("template", artifact)]) ∧
      ∀ (order : List (String × Value)) (fresh : Engine), order.Perm partials →
        fresh.options = config.compilerOptions → fresh.templates = [] →
        after.engine.SameHelpers fresh →
          ∃ loaded, fresh.loadArtifacts order path.templateName artifact = .ok loaded ∧
            ∀ data : Json.Members,
              ((compile tree (.file path) (some (.given (.object data)))).on (new config)).1 =
                (loaded.render (fun p => (tree.readText p).toOption) path.templateName
                  (.object data)).mapError .engine := by
  obtain ⟨body, included, h, hBody, rfl⟩ := gathered_of_precompile hDiscovers hBundle
  have hNames := ((Resolution.endsAt_resolve body _).of_ok h.found).1
  refine ⟨partialMembers included, _, parse_jsonText _ _ _, ?_⟩
  intro order fresh hOrder hOptions hTemplates hHelpers
  obtain ⟨others, hPerm, rfl⟩ := perm_partialMembers hNames hOrder
  have hParse : fresh.parse = after.engine.parse :=
    Engine.parse_congr (hOptions.trans h.options.symm)
  have hOthersParse : ∀ p ∈ others, (fresh.parse p.source).isOk := by
    intro p hp
    rw [hParse]
    exact h.parses p (hPerm.mem_iff.mp hp)
  obtain ⟨template, hTemplate⟩ := Outcome.isOk_iff.mp hBody
  obtain ⟨loaded, hLoad, hLoadedOptions, hLoadedHelpers, hLoadedScripts, hLookup⟩ :=
    Engine.exists_loaded hOthersParse (hParse ▸ hTemplate) path.templateName
  refine ⟨loaded, hLoad, fun data => ?_⟩
  have hSameHelpers : after.engine.SameHelpers loaded := by
    refine ⟨fun name => ?_, fun name => ?_⟩
    · rw [hLoadedHelpers, hHelpers.helpers]
    · rw [hLoadedScripts, hHelpers.scripts]
  have hAgrees := h.agrees_loaded hOthers hPerm hOptions hTemplates hLoadedOptions hSameHelpers
    hLookup (fun p => (tree.readText p).toOption) (.object data)
  have hFound : loaded.templates.lookup path.templateName = some template := by
    rw [hLookup, if_pos rfl]
  have hOnly : IncludesOnly (· ≠ path.templateName) template := by
    rw [h.parse] at hTemplate
    exact (hOthers body (.body h.read) template hTemplate).includesOnly
  rw [h.on_compile hDiscovers data, Engine.renderText_eq_render hAgrees hTemplate hFound hOnly]

/-- A page that includes one partial. -/
def site : FileTree :=
  ⟨[(["page.hbs"], .file (Text.encode "\x7b\x7b> a\x7d\x7d!")),
    (["a.hbs"], .file (Text.encode "\x7b\x7bx\x7d\x7d"))], []⟩

theorem resolve_site :
    (resolve "\x7b\x7b> a\x7d\x7d!" (storeOf site {} ⟨"page.hbs"⟩)).outcome =
      .ok [⟨"a", "\x7b\x7bx\x7d\x7d"⟩] := by
  let fetch := (storeOf site {} ⟨"page.hbs"⟩).fetch
  have hRoot : Discovery.references "\x7b\x7b> a\x7d\x7d!" = ["a"] := by decide +kernel
  have hPath : partialPath (Path.templateDir ⟨"page.hbs"⟩) "a" (Path.templateExt ⟨"page.hbs"⟩) =
      ⟨"./a.hbs"⟩ := by decide +kernel
  have hRead : site.readText ⟨"./a.hbs"⟩ = .ok "\x7b\x7bx\x7d\x7d" := by decide +kernel
  have hReady : ∀ name ∈ ["a"], fetch name = ⟨0, .ok "\x7b\x7bx\x7d\x7d"⟩ := by
    intro name hName
    obtain rfl := List.mem_singleton.mp hName
    simp only [fetch, storeOf, partialStore, Option.getD_none, hPath, hRead, Except.mapError]
  have hLevel := Resolution.fetchLevel_of_ready hReady
  have hNext : Resolution.nextLevel ["a"] [⟨"a", "\x7b\x7bx\x7d\x7d"⟩] = [] := by decide +kernel
  have hRun : Resolution.run? "\x7b\x7b> a\x7d\x7d!" fetch 1 =
      some ⟨["a"], .ok [⟨"a", "\x7b\x7bx\x7d\x7d"⟩]⟩ := by
    rw [Resolution.run?, hRoot, Resolution.search_of_level hLevel _ _ _ (List.cons_ne_nil _ _),
      List.nil_append, List.map_singleton, hNext, Resolution.search_nil]
    rfl
  rw [resolve_eq_of_run? hRun]

theorem gathered_site : ∃ engine, Gathered site {} ⟨"page.hbs"⟩ "\x7b\x7b> a\x7d\x7d!"
    [⟨"a", "\x7b\x7bx\x7d\x7d"⟩] engine := by
  have hRead : site.readText ⟨"page.hbs"⟩ = .ok "\x7b\x7b> a\x7d\x7d!" := by decide +kernel
  let loaded : Bundler Unit := { new {} with helpersLoaded := true }
  have hParses : ∀ p ∈ [(⟨"a", "\x7b\x7bx\x7d\x7d"⟩ : Partial)],
      (loaded.engine.parse p.source).isOk := by decide +kernel
  obtain ⟨engine, hEngine⟩ := Engine.exists_registered hParses
  exact ⟨engine, hRead, resolve_site, loaded, on_loadHelpers_none rfl,
    Engine.registerPartials_eq_ok.mpr hEngine⟩

/-- What the page is made of wherever it finds its partial. -/
theorem partOf_page {tree : FileTree} {config : BundlerConfig} {path : Path}
    (hRead : tree.readText path = .ok "\x7b\x7b> a\x7d\x7d!")
    (hPartial : ((storeOf tree config path).fetch "a").outcome.toOption =
      some "\x7b\x7bx\x7d\x7d") {source : String} (h : PartOf tree config path source) :
    source = "\x7b\x7b> a\x7d\x7d!" ∨ source = "\x7b\x7bx\x7d\x7d" := by
  have hRoot : Discovery.references "\x7b\x7b> a\x7d\x7d!" = ["a"] := by decide +kernel
  have hNone : Discovery.references "\x7b\x7bx\x7d\x7d" = [] := by decide +kernel
  have hPartial := Outcome.eq_ok_of_toOption hPartial
  have hSources (source : String)
      (hSource : ((storeOf tree config path).fetch "a").outcome = .ok source) :
      source = "\x7b\x7bx\x7d\x7d" := Except.ok.inj (hSource.symm.trans hPartial)
  cases h with
  | body hText => exact .inl (Except.ok.inj (hText.symm.trans hRead))
  | reached hText hName hSource =>
      obtain rfl := Except.ok.inj (hText.symm.trans hRead)
      obtain rfl := hName.eq_of_only hRoot fun source hSource => hSources source hSource ▸ hNone
      exact .inr (hSources _ hSource)

/-- The page includes its partial, and the partial nothing. -/
theorem literalName_page {source : String}
    (hSource : source = "\x7b\x7b> a\x7d\x7d!" ∨ source = "\x7b\x7bx\x7d\x7d")
    {template : Template} (hTemplate : (Engine.new {}).parse source = .ok template) :
    ∀ call ∈ inclusions template, call.head.literalName? = some "a" := by
  have hPage : (Engine.new {}).parse "\x7b\x7b> a\x7d\x7d!" =
      .ok [.inclusion ⟨.name "a", [], [], []⟩ none "" false, .text "!"] := by
    unfold Engine.parse Template.parse
    simp only [String.reduceToList]
    cbv
  have hPartial : (Engine.new {}).parse "\x7b\x7bx\x7d\x7d" =
      .ok [.output ⟨.reference ⟨"x", [.name "x"]⟩, [], [], []⟩ true] := by
    unfold Engine.parse Template.parse
    simp only [String.reduceToList]
    cbv
  rcases hSource with rfl | rfl
  · rw [hPage] at hTemplate
    cases hTemplate
    intro call hCall
    simp only [inclusions, Element.inclusions, List.append_nil, List.mem_singleton] at hCall
    subst hCall
    rfl
  · rw [hPartial] at hTemplate
    cases hTemplate
    intro call hCall
    simp [inclusions, Element.inclusions] at hCall

theorem includesOthers_site {source : String} (hPart : PartOf site {} ⟨"page.hbs"⟩ source)
    {template : Template} (hTemplate : (Engine.new {}).parse source = .ok template) :
    IncludesOthers (Path.templateName ⟨"page.hbs"⟩) template := by
  have hName : Path.templateName ⟨"page.hbs"⟩ = "page" := by decide +kernel
  have hSource := partOf_page (by decide +kernel) (by decide +kernel) hPart
  intro call hCall
  exact ⟨"a", literalName_page hSource hTemplate call hCall, by rw [hName]; decide⟩

theorem render_loaded_site :
    let path : Path := ⟨"page.hbs"⟩
    let config : BundlerConfig := {}
    ∃ bundle after, config.noPartials = false ∧
      (precompile site (.file path) (some (.builtin .json))).on (new config) = (.ok bundle, after) ∧
      (∀ source, PartOf site config path source → ∀ template,
        (Engine.new config.compilerOptions).parse source = .ok template →
          IncludesOthers path.templateName template) ∧
      ∃ partials artifact loaded, Json.parse bundle =
          .ok (.object [("name", .string path.templateName), ("partials", .object partials),
            ("template", artifact)]) ∧
        Engine.loadArtifacts { Engine.new config.compilerOptions with
            helpers := after.engine.helpers, scripts := after.engine.scripts }
          partials.reverse path.templateName artifact = .ok loaded ∧
        ∀ data : Json.Members,
          ((compile site (.file path) (some (.given (.object data)))).on (new config)).1 =
            (loaded.render (fun p => (site.readText p).toOption) path.templateName
              (.object data)).mapError .engine := by
  intro path config
  obtain ⟨engine, hGathered⟩ := gathered_site
  have hParse : (engine.parse "\x7b\x7b> a\x7d\x7d!").isOk := by
    rw [hGathered.parse]
    decide +kernel
  obtain ⟨after, -, hBundle⟩ := hGathered.on_precompile rfl hParse
  have hOthers : ∀ source, PartOf site config path source → ∀ template,
      (Engine.new config.compilerOptions).parse source = .ok template →
        IncludesOthers path.templateName template :=
    fun _ hPart _ hTemplate => includesOthers_site hPart hTemplate
  obtain ⟨partials, artifact, hRead, hLoad⟩ := render_loaded rfl hBundle hOthers
  obtain ⟨loaded, hLoaded, hRender⟩ := hLoad partials.reverse
    { Engine.new config.compilerOptions with
      helpers := after.engine.helpers, scripts := after.engine.scripts }
    (List.reverse_perm partials) rfl rfl ⟨fun _ => rfl, fun _ => rfl⟩
  exact ⟨_, after, rfl, hBundle, hOthers, partials, artifact, loaded, hRead, hLoaded, hRender⟩

end Bundler
end TemplateBundle
