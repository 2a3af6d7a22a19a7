import TemplateBundle.Path.Basic

/-! Wrappers: templates that are rendered over a precompiled template and its partials. -/
namespace TemplateBundle

/-- The wrappers that need no file. -/
inductive BuiltinWrapper where
  /-- An object with the name, the artifact of the template and an object of its partials -/
  | json
  /-- An object of all artifacts, those of the partials first -/
  | jsonBundle
  deriving DecidableEq, Repr

namespace BuiltinWrapper

def all : List BuiltinWrapper := [.json, .jsonBundle]

def name : BuiltinWrapper → String
  | .json => "json"
  | .jsonBundle => "json-bundle"

def source : BuiltinWrapper → String
  | .json =>
    "\x7b\n  \"name\": \x7b\x7b\x7bjson name\x7d\x7d\x7d,\n" ++
      "  \"template\": \x7b\x7b\x7bsrc\x7d\x7d\x7d,\n  \"partials\": \x7b\n" ++
      "\x7b\x7b#each partials\x7d\x7d\n" ++
      "    \x7b\x7b\x7bjson name\x7d\x7d\x7d: \x7b\x7b\x7bsrc\x7d\x7d\x7d" ++
      "\x7b\x7b#unless @last\x7d\x7d,\x7b\x7b/unless\x7d\x7d\n\x7b\x7b/each\x7d\x7d\n  \x7d\n\x7d\n"
  | .jsonBundle =>
    "\x7b\n\x7b\x7b#each partials\x7d\x7d\n" ++
      "  \x7b\x7b\x7bjson name\x7d\x7d\x7d: \x7b\x7b\x7bsrc\x7d\x7d\x7d,\n" ++
      "\x7b\x7b/each\x7d\x7d\n" ++
      "  \x7b\x7b\x7bjson name\x7d\x7d\x7d: \x7b\x7b\x7bsrc\x7d\x7d\x7d\n\x7d\n"

end BuiltinWrapper

inductive Wrapper where
  | builtin (wrapper : BuiltinWrapper)
  | file (path : Path)
  deriving DecidableEq, Repr

namespace Wrapper

/-- The wrapper of a name, or else the file of a path. -/
def parse (text : String) : Wrapper :=
  match BuiltinWrapper.all.find? fun wrapper => wrapper.name = text with
  | some wrapper => .builtin wrapper
  | none => .file ⟨text⟩

end Wrapper
end TemplateBundle
