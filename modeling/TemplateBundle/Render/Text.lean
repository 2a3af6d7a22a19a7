import TemplateBundle.Json.Printer

/-! What a value looks like in the result of a template. -/
namespace TemplateBundle

def htmlChar (c : Char) : List Char :=
  if c = '&' then ['&', 'a', 'm', 'p', ';']
  else if c = '<' then ['&', 'l', 't', ';']
  else if c = '>' then ['&', 'g', 't', ';']
  else if c = '"' then ['&', 'q', 'u', 'o', 't', ';']
  else if c = '\'' then ['&', '#', 'x', '2', '7', ';']
  else if c = Char.ofNat 96 then ['&', '#', 'x', '6', '0', ';']
  else if c = '=' then ['&', '#', 'x', '3', 'D', ';']
  else [c]

/-- The text with the characters replaced that mean something in HTML. -/
def escapeHtml (s : String) : String := String.ofList (s.toList.flatMap htmlChar)

namespace Json

mutual
/-- The text of a value in a result: nothing for null, and no contents of objects. -/
def Value.shown : Value → String
  | .null => ""
  | .bool b => if b then "true" else "false"
  | .number n => n.text
  | .string s => s
  | .array items => "[" ++ shownItems items ++ "]"
  | .object _ => "[object]"

/-- The texts of the elements of an array, between commas. -/
def shownItems : List Value → String
  | [] => ""
  | [v] => v.shown
  | v :: w :: rest => v.shown ++ ", " ++ shownItems (w :: rest)
end

end Json
end TemplateBundle
