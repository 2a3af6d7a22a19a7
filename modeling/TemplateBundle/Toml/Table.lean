import TemplateBundle.Json.Value

/-! Tables of TOML texts and how they are put together. A table is defined once: under a heading of
its own, by dotted keys, or between braces. Headings may add tables below it, dotted keys only to
what they began themselves. -/
namespace TemplateBundle.Toml

/-- How a table came to be. -/
inductive Origin where
  /-- Under its heading -/
  | heading
  /-- On the way to a heading below it -/
  | passed
  /-- On the way of a dotted key -/
  | dotted
  /-- Between braces -/
  | braces
  deriving DecidableEq, Repr, Inhabited

inductive Item where
  | string (s : String)
  | integer (i : Int)
  | float (x : Float)
  /-- A number out of range, or none at all for its digits: nothing that reads it accepts it -/
  | unsound
  | bool (b : Bool)
  /-- A date, a time or both, as it is written -/
  | moment (text : String)
  /-- An array; `headed` if its elements are tables under headings -/
  | array (headed : Bool) (items : List Item)
  | table (origin : Origin) (entries : List (String × Item))
  deriving Inhabited

structure Table where
  origin : Origin
  entries : List (String × Item)
  deriving Inhabited

namespace Table

def item (t : Table) : Item := .table t.origin t.entries

/-- The table with the value of a key set. -/
def set (t : Table) (key : String) (value : Item) : Table :=
  if (t.entries.lookup key).isSome then
    { t with entries := t.entries.map fun (k, v) => (k, if k = key then value else v) }
  else { t with entries := t.entries ++ [(key, value)] }

/-- Changes the table that a path leads to. Tables that are not there are made on the way; of the
tables of an array the last is meant. -/
def change? (dotted : Bool) (f : Table → Option Table) : List String → Table → Option Table
  | [], t => f t
  | key :: path, t =>
    match t.entries.lookup key with
    | none =>
      (change? dotted f path ⟨if dotted then .dotted else .passed, []⟩).map fun inner =>
        t.set key inner.item
    | some (.table origin entries) =>
      if origin = .braces || (dotted && origin = .heading) then none
      else (change? dotted f path ⟨origin, entries⟩).map fun inner => t.set key inner.item
    | some (.array true items) =>
      match items.reverse with
      | .table origin entries :: earlier =>
        (change? dotted f path ⟨origin, entries⟩).map fun inner =>
          t.set key (.array true (earlier.reverse ++ [inner.item]))
      | _ => none
    | some _ => none

/-- Adds a value under a dotted key. -/
def add? (path : List String) (key : String) (value : Item) (t : Table) : Option Table :=
  let isDotted := !path.isEmpty
  t.change? isDotted (fun inner =>
    if (inner.origin = .dotted) != isDotted || (inner.entries.lookup key).isSome then none
    else some (inner.set key value)) path

/-- Begins a table under its heading. -/
def open? (path : List String) (key : String) (t : Table) : Option Table :=
  t.change? false (fun parent =>
    match parent.entries.lookup key with
    | none => some (parent.set key (.table .heading []))
    | some (.table .passed entries) => some (parent.set key (.table .heading entries))
    | some _ => none) path

/-- Begins one more table of an array under its heading. -/
def append? (path : List String) (key : String) (t : Table) : Option Table :=
  t.change? false (fun parent =>
    match parent.entries.lookup key with
    | none => some (parent.set key (.array true [.table .heading []]))
    | some (.array true items) =>
      some (parent.set key (.array true (items ++ [.table .heading []])))
    | some _ => none) path

end Table
end TemplateBundle.Toml
