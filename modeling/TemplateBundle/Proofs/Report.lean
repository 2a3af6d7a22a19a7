import TemplateBundle.Report

/-! What is told of an error. Whatever was being done when it came up, its report advises the same, and
its message goes through the chain from the outermost error to the last, each once. -/
namespace TemplateBundle

mutual
/-- Behind an error stands its source, then what stands behind that. -/
theorem AnyError.behind_of_cons {e source : AnyError} {rest : List AnyError}
    (h : e.behind = source :: rest) : rest = source.behind := by
  cases e with
  | bundle e => exact AnyBundleError.behind_of_cons (e := e) h
  | engine e => exact AnyEngineError.behind_of_cons (e := e) h
  | plain _ => cases h
  | caused _ source => cases h; rfl

theorem AnyEngineError.behind_of_cons {e : AnyEngineError} {source : AnyError}
    {rest : List AnyError} (h : e.behind = source :: rest) : rest = source.behind := by
  cases e with
  | template e => exact AnyError.behind_of_cons (e := e) h
  | render e => exact AnyError.behind_of_cons (e := e) h
  | artifact _ => cases h; rfl
  | incompatible _ _ => cases h

theorem AnyBundleError.behind_of_cons {e : AnyBundleError} {source : AnyError}
    {rest : List AnyError} (h : e.behind = source :: rest) : rest = source.behind := by
  cases e with
  | templateRead | templateStream | contextLoad | partialNotFound | helpersLoad | helperRegistration
  | compilerOptions => cases h; rfl
  | missingTemplate | invalidContext => cases h
  | engine e => exact AnyEngineError.behind_of_cons (e := e) h
end

namespace AnyError

/-- An error of the engine and the error that carries it are told once. -/
theorem messages_engine (e : AnyEngineError) :
    (bundle (.engine e)).messages = (engine e).messages ∧
      ∀ inner, e = .template inner ∨ e = .render inner → (engine e).messages = inner.messages := by
  refine ⟨rfl, ?_⟩
  rintro inner (rfl | rfl)
  · rfl
  · rfl

theorem messages_within (contexts : List String) (e : AnyError) :
    (e.within contexts).messages = contexts ++ e.messages := by
  induction contexts with
  | nil => rfl
  | cons context contexts ih => exact congrArg (context :: ·) ih

/-- What was being done is no error of bundling. -/
theorem findSome?_within (contexts : List String) (e : AnyError) :
    (e.within contexts).chain.findSome? bundle? = e.chain.findSome? bundle? := by
  induction contexts with
  | nil => rfl
  | cons context contexts ih => exact ih

end AnyError

namespace Report

/-- Causes one below the other, numbered from `first` on. -/
def listed (first : Nat) : List String → String
  | [] => ""
  | cause :: causes =>
    "\n  " ++ toString first ++ ": " ++ cause ++ listed (first + 1) causes

theorem join_zipIdx (causes : List String) (k : Nat) :
    String.join ((causes.zipIdx k).map fun (c, i) => "\n  " ++ toString (i + 1) ++ ": " ++ c) =
      listed (k + 1) causes := by
  induction causes generalizing k with
  | nil => rfl
  | cons cause causes ih =>
      rw [List.zipIdx_cons, List.map_cons, String.join_cons, ih, listed]

theorem chainMessage_cons (headline : String) (causes : List String) :
    chainMessage (headline :: causes) =
      if causes = [] then headline else headline ++ "\n\nCaused by:" ++ listed 1 causes := by
  cases causes with
  | nil => rfl
  | cons cause causes =>
    rw [if_neg (List.cons_ne_nil _ _), chainMessage, numbered, join_zipIdx]
    exact List.cons_ne_nil _ _

/-- What was being done when an error of bundling came up changes no advice, and is told in front of
the error and its causes, which are numbered; an error of the engine is told once. -/
theorem ofError_within (e : AnyBundleError) (contexts : List String) :
    let alone := ofError (.bundle e)
    let whole := ofError ((AnyError.bundle e).within contexts)
    whole.suggestion? = alone.suggestion? ∧ whole.details? = alone.details? ∧
      (∃ headline causes,
        headline :: causes = contexts ++ e.message :: e.behind.map AnyError.message ∧
        whole.message =
          if causes = [] then headline else headline ++ "\n\nCaused by:" ++ listed 1 causes) ∧
      ∀ x : AnyEngineError,
        (AnyError.bundle (.engine x)).messages = (AnyError.engine x).messages ∧
        ∀ inner, x = .template inner ∨ x = .render inner →
          (AnyError.engine x).messages = inner.messages := by
  intro alone whole
  have hFound : (AnyError.bundle e).chain.findSome? AnyError.bundle? = some e := rfl
  have hAlone : alone = ⟨chainMessage (AnyError.bundle e).messages, suggestionFor? e,
      detailsFor? e⟩ := rfl
  have hWhole : whole = ⟨chainMessage ((AnyError.bundle e).within contexts).messages,
      suggestionFor? e, detailsFor? e⟩ := by
    simp only [whole, ofError, AnyError.findSome?_within, hFound]
  obtain ⟨headline, causes, hMessages⟩ : ∃ headline causes, headline :: causes =
      contexts ++ e.message :: e.behind.map AnyError.message := by
    cases contexts with
    | nil => exact ⟨_, _, rfl⟩
    | cons context contexts => exact ⟨_, _, rfl⟩
  refine ⟨by rw [hWhole, hAlone], by rw [hWhole, hAlone], ⟨headline, causes, hMessages, ?_⟩,
    AnyError.messages_engine⟩
  have hChain : ((AnyError.bundle e).within contexts).messages = headline :: causes :=
    (AnyError.messages_within contexts (.bundle e)).trans hMessages.symm
  rw [hWhole, hChain, chainMessage_cons]

example : (ofError ((AnyError.bundle (.helpersLoad ⟨"helpers"⟩ (.plain "gone"))).within
    ["Failed to compile 'page.hbs'"])).message =
      "Failed to compile 'page.hbs'\n\nCaused by:\n  1: Failed to list helpers directory 'helpers'\n" ++
        "  2: gone" := by
  decide +kernel

end Report
end TemplateBundle
