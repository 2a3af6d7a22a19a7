import TemplateBundle.Discovery
import TemplateBundle.Json.Printer
import TemplateBundle.Json.Record

/-! Precompiled templates: the source of a template with the partials it includes, as JSON text that
says which compilers can take it up. -/
namespace TemplateBundle

open Json (Document Fault RecordField Value)

structure Artifact where
  revision : Nat
  /-- The versions of the engine that the format is meant for -/
  versions : String
  source : String
  partials : List String
  deriving DecidableEq, Repr, Inhabited

namespace Artifact

/-- The revision of the artifacts that are written and accepted. -/
def currentRevision : Nat := 1

def currentVersions : String := ">= 6.3.0"

def ofSource (source : String) : Artifact :=
  ⟨currentRevision, currentVersions, source, Discovery.references source⟩

def compress (a : Artifact) : String :=
  "\x7b\"compiler\":[" ++ toString a.revision ++ "," ++ Json.quote a.versions ++ "],\"source\":" ++
    Json.quote a.source ++ ",\"partials\":[" ++ ",".intercalate (a.partials.map Json.quote) ++
    "]\x7d"

def readCompiler : Document → Except Fault (Nat × String)
  | .array items tail =>
    match items with
    | [] => do Json.checkTail Json.Break.read tail; .error .mismatch
    | [a] => do
      let _ ← a.toWord
      Json.checkTail Json.Break.read tail
      .error .mismatch
    | [a, b] => do
      let revision ← a.toWord
      let versions ← b.toText
      Json.checkTail Json.Break.read tail
      .ok (revision, versions)
    | a :: b :: _ => do
      let _ ← a.toWord
      let _ ← b.toText
      .error .malformed
  | doc => .error doc.mismatch

/-- An artifact as far as it is read. -/
structure Draft where
  compiler? : Option (Nat × String) := none
  source? : Option String := none
  partials : List String := []

def fields : List (RecordField Draft) := [
  ⟨["compiler"], fun doc d => do return { d with compiler? := some (← readCompiler doc) }⟩,
  ⟨["source"], fun doc d => do return { d with source? := some (← doc.toText) }⟩,
  ⟨["partials"], fun doc d => do return { d with partials := ← doc.toList Document.toText }⟩]

/-- Reads an artifact. The revision and the source must be given. -/
def ofDocument (doc : Document) : Except Fault Artifact := do
  let draft ← Json.readRecord fields {} doc
  match draft.compiler?, draft.source? with
  | some (revision, versions), some source => .ok ⟨revision, versions, source, draft.partials⟩
  | _, _ => .error .mismatch

/-- Reads the text of an artifact, of whatever revision. -/
def parse : String → Except Fault Artifact := Json.readWith ofDocument

end Artifact
end TemplateBundle
