import TemplateBundle.Bundler.Error
import TemplateBundle.Path.Naming

/-! Failures as they are told to a user: the chain of causes, and what to do about them. -/
namespace TemplateBundle

inductive Origin where
  | bundle (e : BundleError)
  | io (e : IoError)
  /-- A text that does not keep to a format, such as a manifest or a pattern -/
  | format (message : String)
  | text (s : String)
  deriving DecidableEq, Repr

/-- A failure: where it comes from, and what was being done, the outermost first. -/
structure Failure where
  contexts : List String
  origin : Origin
  deriving DecidableEq, Repr

/-- The origin with what stands behind it. -/
def Origin.raised : Origin → AnyError
  | .bundle e => .bundle e.raised
  | .io e => (Cause.io e).raised
  | .format s => .plain s
  | .text s => .plain s

namespace Failure

/-- The failure with what stands behind it: each thing that was being done is caused by the next. -/
def raised (f : Failure) : AnyError := f.origin.raised.within f.contexts

/-- The failure in words, from the outermost to its last cause. -/
def messages (f : Failure) : List String := f.raised.messages

/-- The failure, seen from something that it happened in. -/
def within (context : String) (f : Failure) : Failure :=
  { f with contexts := context :: f.contexts }

end Failure

/-- A failure as it is shown. -/
structure Report where
  message : String
  suggestion? : Option String
  details? : Option String
  deriving DecidableEq, Repr

namespace Report

/-- The report that has nothing but a message. -/
def new (message : String) : Report := ⟨message, none, none⟩

def withSuggestion (r : Report) (s : String) : Report := { r with suggestion? := some s }

def withDetails (r : Report) (s : String) : Report := { r with details? := some s }

def text (r : Report) : String :=
  r.message ++ (r.details?.elim "" fun s => "\nDetails: " ++ s) ++
    (r.suggestion?.elim "" fun s => "\nSuggestion: " ++ s)

def display (r : Report) : String :=
  "error: " ++ r.message ++ "\n" ++ (r.details?.elim "" fun s => "details: " ++ s ++ "\n") ++
    (r.suggestion?.elim "" fun s => "suggestion: " ++ s ++ "\n")

/-- The causes, numbered. -/
def numbered (causes : List String) : String :=
  String.join (causes.zipIdx.map fun (c, i) => "\n  " ++ toString (i + 1) ++ ": " ++ c)

/-- The message of a chain: its head, and the rest as causes. -/
def chainMessage : List String → String
  | [] => ""
  | [head] => head
  | head :: causes => head ++ "\n\nCaused by:" ++ numbered causes

def suggestionFor? : AnyBundleError → Option String
  | .templateRead .. => some "Check that the template path exists, or pass '-' to read from stdin"
  | .missingTemplate => some "Check that the template path exists, or pass '-' to read from stdin"
  | .contextLoad path _ =>
    some ("Check that '" ++ path.text ++ "' is valid " ++ (if path.isYaml then "YAML" else "JSON"))
  | .invalidContext _ =>
    some "Pass the context as a JSON object, e.g. \x7b\"title\": \"Home\"\x7d"
  | .partialNotFound name .. =>
    some ("Create the partial '" ++ name ++
      "' or point --partials at the directory that contains it")
  | .helpersLoad .. => some "Check the --helpers directory exists and is readable"
  | .compilerOptions .. =>
    some ("Compiler options are a JSON object, e.g. \x7b\"noEscape\": true, " ++
      "\"strict\": false\x7d")
  | _ => none

def detailsFor? : AnyBundleError → Option String
  | .templateStream _ => some "The input stream closed with an error or was not valid UTF-8"
  | .contextLoad .. =>
    some ("A missing context file is allowed; an unreadable or malformed one, or one whose top " ++
      "level is not a mapping, is not")
  | .partialNotFound .. =>
    some ("Partials are looked up as <partials-dir>/<name><partials-ext>; '$0' in the " ++
      "directory is replaced by the partial name")
  | .helperRegistration .. =>
    some "Every file in the helpers directory is loaded as a rhai script helper"
  | .engine _ =>
    some ("The template engine rejected the template. Check for unclosed blocks, unknown " ++
      "helpers or missing variables in strict mode")
  | _ => none

/-- The report of an error. What to do is told by the first error of bundling in its chain. -/
def ofError (e : AnyError) : Report :=
  let message := chainMessage e.messages
  match e.chain.findSome? AnyError.bundle? with
  | some e => ⟨message, suggestionFor? e, detailsFor? e⟩
  | none => new message

def ofFailure (f : Failure) : Report := ofError f.raised

end Report
end TemplateBundle
