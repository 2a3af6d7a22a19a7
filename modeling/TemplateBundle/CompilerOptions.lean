import TemplateBundle.Json.Record

/-! The options that are handed to the template engine. -/
namespace TemplateBundle

open Json (Document Fault RecordField)

/-- Options of one engine, for every template it renders or precompiles. -/
structure CompilerOptions where
  /-- Values are written as they are, without HTML escapes -/
  noEscape : Bool := false
  strict : Bool := false
  /-- Partials are not indented as the marker that includes them -/
  preventIndent : Bool := false
  /-- Helper scripts are read again at every call -/
  devMode : Bool := false
  deriving DecidableEq, Repr, Inhabited

namespace CompilerOptions

/-- Options under which nothing is escaped. -/
def unescaped : CompilerOptions := { noEscape := true }

/-- The fields of an options record, each with its two spellings. -/
def fields : List (RecordField CompilerOptions) := [
  ⟨["no_escape", "noEscape"], fun doc o => do return { o with noEscape := ← doc.toBool }⟩,
  ⟨["strict", "strictMode"], fun doc o => do return { o with strict := ← doc.toBool }⟩,
  ⟨["prevent_indent", "preventIndent"],
    fun doc o => do return { o with preventIndent := ← doc.toBool }⟩,
  ⟨["dev_mode", "devMode"], fun doc o => do return { o with devMode := ← doc.toBool }⟩]

/-- Reads options; what is not given is off, and unknown members are passed over. -/
def ofDocument : Document → Except Fault CompilerOptions := Json.readRecord fields {}

def parse : String → Except Fault CompilerOptions := Json.readWith ofDocument

end CompilerOptions
end TemplateBundle
