import TemplateBundle.CompilerOptions
import TemplateBundle.Path.Basic

/-! What a bundler is set up with. -/
namespace TemplateBundle

open Json (Document Fault RecordField)

/-- The setup of a bundler. What is not set is taken from the first template that is a file. -/
structure BundlerConfig where
  partialsDir? : Option Path := none
  /-- What the file names of partials end in, with the dot -/
  partialsExt? : Option String := none
  helpersDir? : Option Path := none
  /-- Partials are not looked up at all -/
  noPartials : Bool := false
  compilerOptions : CompilerOptions := {}
  deriving DecidableEq, Repr, Inhabited

/-- An extension with its dot; nothing stays nothing. -/
def dottedExt (ext : String) : String :=
  if ext.isEmpty || ext.toList.head? == some '.' then ext else "." ++ ext

namespace BundlerConfig

def withPartialsDir (c : BundlerConfig) (dir : Path) : BundlerConfig :=
  { c with partialsDir? := some dir }

/-- Sets the extension of partials, whether it has its dot or not. -/
def withPartialsExt (c : BundlerConfig) (ext : String) : BundlerConfig :=
  { c with partialsExt? := some (dottedExt ext) }

def withHelpersDir (c : BundlerConfig) (dir : Path) : BundlerConfig :=
  { c with helpersDir? := some dir }

def fields : List (RecordField BundlerConfig) := [
  ⟨["partials_dir"], fun doc c => do
    return { c with partialsDir? := (← doc.toOption Document.toText).map Path.mk }⟩,
  ⟨["partials_ext"], fun doc c => do
    return { c with partialsExt? := ← doc.toOption Document.toText }⟩,
  ⟨["helpers_dir"], fun doc c => do
    return { c with helpersDir? := (← doc.toOption Document.toText).map Path.mk }⟩,
  ⟨["no_partials"], fun doc c => do return { c with noPartials := ← doc.toBool }⟩,
  ⟨["compiler_options"], fun doc c => do
    return { c with compilerOptions := ← CompilerOptions.ofDocument doc }⟩]

/-- Reads a setup; what is not given is not set. -/
def ofDocument : Document → Except Fault BundlerConfig := Json.readRecord fields {}

end BundlerConfig
end TemplateBundle
