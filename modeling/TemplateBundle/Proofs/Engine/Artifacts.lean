import Mathlib
import TemplateBundle.Proofs.Engine.Records

/-! Artifacts stand for the texts they were made of. Main statement: the artifact of a text is read
as this text, loading it as a partial is registering the text, and an artifact of another revision
is refused and changes nothing. -/
namespace TemplateBundle

theorem Bits.fitsUnsigned_of_lt {n width : Nat} (h : n < 2 ^ width) :
    Bits.fitsUnsigned width n = true := by
  have hCount : (n : Int) < (Bits.count width : Int) := Int.ofNat_lt.mpr h
  exact Bool.and_eq_true_iff.mpr
    ⟨decide_eq_true (Int.natCast_nonneg n), decide_eq_true hCount⟩

namespace Artifact

/-- What is no artifact of the current revision is not loaded. -/
theorem load_eq_incompatible {a : Artifact} {text : String} (h : parse text = .ok a)
    (hOther : a.revision ≠ currentRevision) :
    load text = .error (.incompatible a.revision currentRevision) := by
  rw [load, h]
  exact if_neg hOther

end Artifact

namespace Engine

variable {engine other : Engine} {name text artifact : String}

/-- The engine refuses the artifact, as a template and as a partial, and stays as it is. -/
structure Refuses (engine : Engine) (name artifact : String) (e : EngineError) : Prop where
  registerArtifact : engine.registerArtifact name artifact = .error e
  registerPartialArtifact : engine.registerPartialArtifact name artifact = .error e
  unchanged : engine.perform (.registerArtifact name artifact) = (engine, false)
  unchangedPartial : engine.perform (.registerPartialArtifact name artifact) = (engine, false)

theorem refuses_of_load {e : EngineError} (h : Artifact.load artifact = .error e) :
    engine.Refuses name artifact e := by
  have hTemplate : engine.registerArtifact name artifact = .error e := by
    rw [registerArtifact, h]
    rfl
  have hPartial : engine.registerPartialArtifact name artifact = .error e := by
    rw [registerPartialArtifact, h]
    rfl
  refine ⟨hTemplate, hPartial, ?_, ?_⟩
  · rw [perform, hTemplate, orSame]
  · rw [perform, hPartial, orSame]

/-- What an engine makes of a text is read as this text and the partials it includes. Any engine
takes it as a partial just as it takes the text, or refuses both for the same reason and stays as it
is, and refuses what differs from it in the revision, however that is spelled. -/
theorem registerPartialArtifact_precompile (h : other.precompile text = .ok artifact)
    (engine : Engine) (name : String) :
    (∃ a, Artifact.load artifact = .ok a ∧ a.revision = 1 ∧ a.source = text ∧
      a.partials = Discovery.references text ∧
      ∀ revision < 2 ^ 32, revision ≠ 1 →
        Artifact.parse { a with revision }.compress = .ok { a with revision } ∧
        ∀ spelled, Artifact.parse spelled = .ok { a with revision } →
          engine.Refuses name spelled (.incompatible revision 1)) ∧
    engine.registerPartialArtifact name artifact = engine.registerPartial ⟨name, text⟩ ∧
    engine.perform (.registerPartialArtifact name artifact) =
      engine.perform (.registerPartial ⟨name, text⟩) := by
  obtain ⟨-, rfl⟩ := precompile_eq_ok.mp h
  have hLoad := (Artifact.load_ofSource text).1
  have hSame : engine.registerPartialArtifact name (Artifact.ofSource text).compress =
      engine.registerPartial ⟨name, text⟩ := by
    rw [registerPartialArtifact, hLoad]
    rfl
  refine ⟨?_, hSame, ?_⟩
  · refine ⟨Artifact.ofSource text, hLoad, rfl, rfl, rfl, fun revision hWord hOther => ?_⟩
    constructor
    · exact (Artifact.parse_compress _ (Bits.fitsUnsigned_of_lt hWord)).1
    · intro spelled hParse
      exact refuses_of_load (Artifact.load_eq_incompatible hParse hOther)
  · rw [perform, perform, hSame]

/-- A text with a quote, a backslash, a control character and a character beyond the basic ones is
taken from its artifact as it is. Of revision 2 the artifact is refused. -/
theorem registerPartialArtifact_precompile_escapes :
    let text := "\x7b\x7b> a\x7d\x7d\"\\\x01😀"
    let artifact := (Artifact.ofSource text).compress
    let later := { Artifact.ofSource text with revision := 2 }
    (new {}).precompile text = .ok artifact ∧
      (∃ a, Artifact.load artifact = .ok a ∧ a.source = text ∧ a.partials = ["a"]) ∧
      (new .unescaped).registerPartialArtifact "p" artifact =
        (new .unescaped).registerPartial ⟨"p", text⟩ ∧
      (new .unescaped).Refuses "p" later.compress (.incompatible 2 1) := by
  intro text artifact later
  have hPrecompile : (new {}).precompile text = .ok artifact := by decide +kernel
  have hFound : Discovery.references text = ["a"] := by decide +kernel
  obtain ⟨⟨a, hLoad, -, hSource, hPartials, hOther⟩, hSame, -⟩ :=
    registerPartialArtifact_precompile hPrecompile (new .unescaped) "p"
  have hKnown : a = Artifact.ofSource text :=
    Except.ok.inj (hLoad.symm.trans (Artifact.load_ofSource text).1)
  obtain ⟨hParse, hRefuses⟩ := hOther 2 (by decide) (by decide)
  rw [hKnown] at hParse hRefuses
  exact ⟨hPrecompile, ⟨a, hLoad, hSource, hPartials.trans hFound⟩, hSame, hRefuses _ hParse⟩

end Engine
end TemplateBundle
