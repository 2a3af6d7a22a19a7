import TemplateBundle.CommandLine.Command

/-! Reading command lines. The words before the name of a command are read for themselves, and those
after it as the command asks. -/
namespace TemplateBundle

/-- Why a command line is no command. -/
inductive UsageError where
  | help
  | version
  | empty
  | missingCommand
  | unknownCommand
  | missingSources
  | unknownArgument
  /-- An option without its value, or with an empty one that it does not take -/
  | invalidValue
  /-- A value for what takes none -/
  | needlessValue
  /-- The same option twice, or two that exclude each other -/
  | conflict
  deriving DecidableEq, Repr

/-- The exit status: asking is no error. -/
def UsageError.exitStatus : UsageError → Nat
  | .help => 0
  | .version => 0
  | _ => 2

namespace Arguments

/-- An option that takes a value. -/
structure ValueOption where
  long : String
  short? : Option Char
  /-- The value may be empty -/
  takesEmpty : Bool := false
  deriving DecidableEq, Repr

/-- What a word may be at one place of the command line. -/
structure Grammar where
  options : List ValueOption := []
  /-- Words that are no options name templates -/
  takesSources : Bool := false
  /-- The version may be asked for -/
  hasVersion : Bool := false

/-- The words that were read at one place of the command line. -/
structure Words where
  verbose : Bool := false
  quiet : Bool := false
  values : List (String × String) := []
  sources : List String := []
  /-- An option whose value is to come, or is not checked yet -/
  pending? : Option (ValueOption × Option String) := none

namespace Words

def value? (w : Words) (long : String) : Option String := w.values.lookup long

def path? (w : Words) (long : String) : Option Path := (w.value? long).map Path.mk

def settle (w : Words) : Except UsageError Words :=
  match w.pending? with
  | none => .ok w
  | some (_, none) => .error .invalidValue
  | some (option, some value) =>
    if (w.value? option.long).isSome then .error .conflict
    else if value.isEmpty && !option.takesEmpty then .error .invalidValue
    else .ok { w with values := (option.long, value) :: w.values, pending? := none }

/-- Takes an option, with its value if that is part of the word. -/
def takeOption (w : Words) (option : ValueOption) (value? : Option String) :
    Except UsageError Words := do
  let w := { ← w.settle with pending? := some (option, value?) }
  if value?.isSome then w.settle else .ok w

def takeVerbose (w : Words) : Except UsageError Words := do
  let w ← w.settle
  if w.verbose then .error .conflict else .ok { w with verbose := true }

def takeQuiet (w : Words) : Except UsageError Words := do
  let w ← w.settle
  if w.quiet then .error .conflict else .ok { w with quiet := true }

def check (w : Words) : Except UsageError Words :=
  if w.verbose && w.quiet then .error .conflict else .ok w

end Words

namespace Grammar

/-- Takes the letters of a word that begins with one dash. -/
def letters (g : Grammar) : List Char → Words → Except UsageError Words
  | [], w => .ok w
  | c :: rest, w =>
    match g.options.find? fun option => option.short? = some c with
    | some option =>
      w.takeOption option (match rest with
        | [] => none
        | '=' :: value => some (String.ofList value)
        | value => some (String.ofList value))
    | none =>
      if c = 'v' then w.takeVerbose >>= letters g rest
      else if c = 'q' then w.takeQuiet >>= letters g rest
      else if c = 'h' then w.settle >>= fun _ => .error .help
      else if c = 'V' && g.hasVersion then w.settle >>= fun _ => .error .version
      else .error .unknownArgument

/-- Takes what stands after two dashes: a name and what follows an equals sign. -/
def longWord (g : Grammar) (name : String) (value? : Option String) (w : Words) :
    Except UsageError Words :=
  match g.options.find? fun option => option.long = name with
  | some option => w.takeOption option value?
  | none =>
    if !(["verbose", "quiet", "help"].contains name || (name == "version" && g.hasVersion)) then
      .error .unknownArgument
    else if value?.isSome then .error .needlessValue
    else if name = "verbose" then w.takeVerbose
    else if name = "quiet" then w.takeQuiet
    else w.settle >>= fun _ => .error (if name = "help" then .help else .version)

def dashed (g : Grammar) (word : List Char) (w : Words) : Except UsageError Words :=
  match word with
  | '-' :: '-' :: rest =>
    let name := rest.takeWhile (· ≠ '=')
    let value? := (Text.stripStart? ['='] (rest.dropWhile (· ≠ '='))).map String.ofList
    g.longWord (String.ofList name) value? w
  | '-' :: rest => g.letters rest w
  | _ => .ok w

/-- Takes a word that is no option. -/
def source (g : Grammar) (word : String) (w : Words) : Except UsageError Words :=
  if g.takesSources then
    w.settle.map fun w => { w with sources := w.sources ++ [word] }
  else .error .unknownArgument

end Grammar

/-- Whether a word begins an option; a dash alone does not. -/
def isDashed (word : String) : Bool :=
  word.toList.head? == some '-' && word != "-"

/-- Reads the words after the name of a command. After two dashes there are no more options. -/
def read (g : Grammar) : List String → Words → Except UsageError Words
  | [], w => w.settle
  | word :: rest, w =>
    if word = "--" then do (← rest.foldlM (fun w word => g.source word w) w).settle
    else if isDashed word then g.dashed word.toList w >>= read g rest
    else
      match w.pending? with
      | some (option, none) => read g rest { w with pending? := some (option, some word) }
      | _ => g.source word w >>= read g rest

def sourceOptions : List ValueOption :=
  [⟨"partials", some 'p', false⟩, ⟨"partials-ext", none, true⟩, ⟨"helpers", none, false⟩,
    ⟨"options", none, false⟩, ⟨"out", some 'o', false⟩]

inductive Name where
  | compile | precompile | build
  deriving DecidableEq, Repr

namespace Name

def parse? : String → Option Name
  | "compile" => some .compile
  | "precompile" => some .precompile
  | "build" => some .build
  | _ => none

/-- What may follow the name of a command. -/
def grammar : Name → Grammar
  | .compile => ⟨⟨"data", some 'd', false⟩ :: sourceOptions, true, false⟩
  | .precompile => ⟨⟨"wrapper", some 'w', true⟩ :: sourceOptions, true, false⟩
  | .build => ⟨[⟨"manifest", some 'm', false⟩], false, false⟩

end Name

/-- The arguments of a command that takes templates. At least one has to be named. -/
def sourceArguments (w : Words) : Except UsageError SourceArguments :=
  if w.sources.isEmpty then .error .missingSources
  else .ok {
    sources := w.sources
    partialsDir? := w.path? "partials"
    partialsExt? := w.value? "partials-ext"
    helpersDir? := w.path? "helpers"
    optionsFile? := w.path? "options"
    out? := w.path? "out" }

def command (name : Name) (w : Words) : Except UsageError Command := do
  let w ← w.check
  match name with
  | .compile => return .compile (← sourceArguments w) (w.path? "data")
  | .precompile => return .precompile (← sourceArguments w) ((w.value? "wrapper").map Wrapper.parse)
  | .build => return .build (w.path? "manifest")

/-- Reads what help is asked for: the name of a command, or nothing. -/
def helpTopic : List String → UsageError
  | [] => .help
  | [word] => if word = "help" || (Name.parse? word).isSome then .help else .unknownCommand
  | _ => .unknownCommand

/-- What a command line comes to that has no command. -/
def withoutCommand (w : Words) : UsageError :=
  if w.verbose || w.quiet then .missingCommand else .empty

/-- What a word comes to after two dashes, where no command may stand. -/
def afterDashes (w : Words) : List String → UsageError
  | [] => withoutCommand w
  | word :: _ =>
    if word = "help" || (Name.parse? word).isSome then .unknownArgument else .unknownCommand

/-- Reads a command line: words that hold for every command, a command's name, and its words. -/
def readLine : List String → Words → Except UsageError CommandLine
  | [], w => .error (withoutCommand w)
  | word :: rest, w =>
    if word = "--" then .error (afterDashes w rest)
    else if isDashed word then
      ({ hasVersion := true } : Grammar).dashed word.toList w >>= readLine rest
    else if word = "help" then .error (helpTopic rest)
    else
      match Name.parse? word with
      | none => .error .unknownCommand
      | some name => do
        let inner ← read name.grammar rest {}
        let command ← command name inner
        let w ← w.check
        return ⟨command, w.verbose || inner.verbose, w.quiet || inner.quiet⟩

end Arguments

/-- Reads a command line, without the name of the program. -/
def CommandLine.parse (words : List String) : Except UsageError CommandLine :=
  Arguments.readLine words {}

end TemplateBundle
