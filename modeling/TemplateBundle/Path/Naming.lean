import TemplateBundle.Path.Basic

/-! How files are named after templates, and templates after files. -/
namespace TemplateBundle

namespace Path

/-- The logical name of a template: its file name without the last extension. -/
def templateName (p : Path) : String := p.stem?.getD ""

/-- The extension of a template with its dot, or nothing. -/
def templateExt (p : Path) : String :=
  match p.extension? with
  | some ext => "." ++ ext
  | none => ""

/-- The directory of a template; a dot for a bare file name. -/
def templateDir (p : Path) : Path :=
  match p.parent? with
  | some dir => if dir.text.isEmpty then ⟨"."⟩ else dir
  | none => ⟨"."⟩

/-- Whether a data file is YAML, judged by its extension. -/
def isYaml (p : Path) : Bool := p.extension? == some "yml" || p.extension? == some "yaml"

end Path

/-- Stands for the name of a partial in its directory, and for the name of a template in the path
of its data. -/
def namePlaceholder : String := "$0"

def fillPlaceholder (text name : String) : String :=
  String.ofList (Text.replaceAll namePlaceholder.toList name.toList text.toList)

/-- The file of a partial: its name and the extension, in the directory whose placeholders are
filled. -/
def partialPath (dir : Path) (name ext : String) : Path :=
  Path.join ⟨fillPlaceholder dir.text name⟩ (name ++ ext)

def stdinSource : String := "-"

/-- The file that takes the result of a source without a file name. -/
def unnamedOutput : String := "bb.out"

/-- The file in `out` that takes the result of a source. -/
def outputPath (source : String) (out : Path) : Path :=
  if source = stdinSource then out.join unnamedOutput
  else out.join ((Path.fileName? ⟨source⟩).getD unnamedOutput)

end TemplateBundle
