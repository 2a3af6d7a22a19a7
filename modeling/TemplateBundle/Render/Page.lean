import TemplateBundle.Text.Char

/-! The result of a rendering as it is written. Lines that a partial writes begin with the
indentation of the partial; whether a line begins is known from what was written last. -/
namespace TemplateBundle

structure Page where
  text : String
  /-- The last text that was written ends a line -/
  endsLine : Bool
  /-- Something was written since this was last reset -/
  wrote : Bool
  /-- The next text begins a line and is to be indented -/
  startsLine : Bool

namespace Page

def empty : Page := ⟨"", false, false, false⟩

/-- Puts the indentation after each end of a line, unless nothing follows. -/
def indented (indent : List Char) : List Char → List Char
  | [] => []
  | ['\n'] => ['\n']
  | '\n' :: rest => '\n' :: (indent ++ indented indent rest)
  | c :: rest => c :: indented indent rest

/-- Whether the text begins with the end of a line. -/
def beginsWithLineEnd (s : String) : Bool :=
  match s.toList.head? with
  | some c => Text.isLineEnd c
  | none => false

/-- Whether the text ends with the end of a line. -/
def endsWithLineEnd (s : String) : Bool :=
  match s.toList.getLast? with
  | some c => Text.isLineEnd c
  | none => false

/-- Writes a text under an indentation. -/
def write (page : Page) (indent s : String) : Page :=
  if s.isEmpty then page
  else
    let start := if page.startsLine && !beginsWithLineEnd s then indent else ""
    let text := if indent.isEmpty then s else String.ofList (indented indent.toList s.toList)
    let ends := endsWithLineEnd s
    ⟨page.text ++ start ++ text, ends, true, ends⟩

/-- Writes a text as it is, whatever stands around it. -/
def writeVerbatim (page : Page) (s : String) : Page := { page with text := page.text ++ s }

/-- Runs what may write, on a page that knows nothing written yet and starts a line if `startsLine`
says so. If nothing is written the page is as before. -/
def track {m : Type → Type} [Monad m] {σ : Type} (page : Page) (startsLine : Bool)
    (run : Page → m (σ × Page)) : m (σ × Page) := do
  let (result, after) ← run { page with wrote := false, startsLine := startsLine }
  return (result,
    if after.wrote then { after with startsLine := after.endsLine }
    else { after with wrote := page.wrote, startsLine := page.startsLine })

end Page
end TemplateBundle
