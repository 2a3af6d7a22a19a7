import TemplateBundle.Json.Document
import TemplateBundle.Json.Numeral

/-! Reading JSON texts. -/
namespace TemplateBundle.Json

def skipGap (s : List Char) : List Char := s.dropWhile Text.isGap

/-- A scanned part and what follows it; nothing follows a part that is broken. -/
abbrev Scan (α : Type) := α × Option (List Char)

/-- A part that is no JSON. -/
def broken (fault : Fault) : Scan Document := (.broken (.of fault), none)

def scanWord (value : Document) : List Char → List Char → Scan Document
  | [], s => (value, some s)
  | _ :: _, [] => broken .truncated
  | e :: es, c :: cs => if e = c then scanWord value es cs else broken .malformed

def scanHex (s : List Char) : Except Fault (Nat × List Char) :=
  match s with
  | a :: b :: c :: d :: rest =>
    match Text.hexValue? a, Text.hexValue? b, Text.hexValue? c, Text.hexValue? d with
    | some a, some b, some c, some d => .ok (((a * 16 + b) * 16 + c) * 16 + d, rest)
    | _, _, _, _ => .error .malformed
  | s => if (s.map Char.utf8Size).foldl (· + ·) 0 < 4 then .error .truncated else .error .malformed

/-- A code unit that the second half of a pair has to follow. -/
def isHighSurrogate (n : Nat) : Bool := 0xD800 ≤ n && n ≤ 0xDBFF

def isLowSurrogate (n : Nat) : Bool := 0xDC00 ≤ n && n ≤ 0xDFFF

def pairedChar (high low : Nat) : Char :=
  Char.ofNat ((high - 0xD800) * 0x400 + (low - 0xDC00) + 0x10000)

def escapeValue? : Char → Option Char
  | '"' => some '"'
  | '\\' => some '\\'
  | '/' => some '/'
  | 'b' => some (Char.ofNat 8)
  | 'f' => some (Char.ofNat 12)
  | 'n' => some '\n'
  | 'r' => some '\r'
  | 't' => some '\t'
  | _ => none

/-- What a string spells: its characters in reverse, or nothing once an escape spells none. -/
abbrev Spelled := Option (List Char)

/-- The break of a string that ends in a fault: a reader meets an escape without a character
first. -/
def stringBreak (spelled : Spelled) (fault : Fault) : Break :=
  ⟨if spelled.isSome then fault else .malformed, fault⟩

/-- The rest of a string after its opening quote. `fuel` bounds the scan; one more than the length
suffices. -/
def scanString : Nat → Spelled → List Char → Except Break (Option String × List Char)
  | 0, spelled, _ => .error (stringBreak spelled .truncated)
  | _ + 1, spelled, [] => .error (stringBreak spelled .truncated)
  | fuel + 1, spelled, c :: rest =>
    if c = '"' then .ok (spelled.map fun cs => String.ofList cs.reverse, rest)
    else if c = '\\' then
      match rest with
      | [] => .error (stringBreak spelled .truncated)
      | 'u' :: rest =>
        match scanHex rest with
        | .error fault => .error (stringBreak spelled fault)
        | .ok (n, rest) =>
          if isLowSurrogate n then scanString fuel none rest
          else if isHighSurrogate n then
            match rest with
            | [] => .error (stringBreak spelled .truncated)
            | ['\\'] => .error (stringBreak spelled .truncated)
            | '\\' :: 'u' :: second =>
              match scanHex second with
              | .error fault => .error (stringBreak spelled fault)
              | .ok (m, second) =>
                if isLowSurrogate m then
                  scanString fuel (spelled.map (pairedChar n m :: ·)) second
                else scanString fuel none rest
            | _ => scanString fuel none rest
          else scanString fuel (spelled.map (Char.ofNat n :: ·)) rest
      | e :: rest =>
        match escapeValue? e with
        | some d => scanString fuel (spelled.map (d :: ·)) rest
        | none => .error (stringBreak spelled .malformed)
    else if c.toNat < 32 then .error (stringBreak spelled .malformed)
    else scanString fuel (spelled.map (c :: ·)) rest

/-- The fault of a numeral that stops short: the text ends, or another character stands there. -/
def numeralBreak : List Char → Break
  | [] => ⟨.truncated, .malformed⟩
  | _ :: _ => .of .malformed

/-- The exponent of a numeral, if it has one. -/
def scanExponent (s : List Char) : Except Break (Option (Bool × List Char) × List Char) :=
  match s with
  | c :: rest =>
    if c = 'e' ∨ c = 'E' then
      let (negative, rest) :=
        match rest with
        | '+' :: rest => (false, rest)
        | '-' :: rest => (true, rest)
        | rest => (false, rest)
      let ds := rest.takeWhile Text.isDigit
      let rest := rest.dropWhile Text.isDigit
      if ds.isEmpty then .error (numeralBreak rest) else .ok (some (negative, ds), rest)
    else .ok (none, s)
  | [] => .ok (none, s)

def scanNumeral (negative : Bool) (s : List Char) : Except Break (Numeral × List Char) := do
  let whole := s.takeWhile Text.isDigit
  let rest := s.dropWhile Text.isDigit
  match whole with
  | [] => .error (numeralBreak rest)
  | '0' :: _ :: _ => .error (.of .malformed)
  | _ =>
    match rest with
    | '.' :: rest =>
      let fraction := rest.takeWhile Text.isDigit
      let rest := rest.dropWhile Text.isDigit
      if fraction.isEmpty then .error (numeralBreak rest)
      else
        let (exponent?, rest) ← scanExponent rest
        .ok (⟨negative, whole, fraction, exponent?⟩, rest)
    | rest =>
      let (exponent?, rest) ← scanExponent rest
      .ok (⟨negative, whole, [], exponent?⟩, rest)

def scanNumber (negative : Bool) (s : List Char) : Scan Document :=
  match scanNumeral negative s with
  | .error b => (.broken b, none)
  | .ok (numeral, rest) => (.number numeral.number?, some rest)

mutual
/-- A value. `fuel` bounds the nesting, the number of elements and the length of a string; twice the
length of the text suffices. -/
def scanValue : Nat → List Char → Scan Document
  | 0, _ => broken .malformed
  | fuel + 1, s =>
    match skipGap s with
    | [] => broken .truncated
    | 'n' :: rest => scanWord .null ['u', 'l', 'l'] rest
    | 't' :: rest => scanWord (.bool true) ['r', 'u', 'e'] rest
    | 'f' :: rest => scanWord (.bool false) ['a', 'l', 's', 'e'] rest
    | '-' :: rest => scanNumber true rest
    | '"' :: rest =>
      match scanString fuel (some []) rest with
      | .error b => (.broken b, none)
      | .ok (text, rest) => (.string text, some rest)
    | '[' :: rest =>
      match skipGap rest with
      | [] => (.array [] (some (.of .truncated)), none)
      | ']' :: rest => (.array [] none, some rest)
      | rest =>
        let ((items, tail), rest) := scanItems fuel rest
        (.array items tail, rest)
    | '{' :: rest =>
      match skipGap rest with
      | [] => (.object [] (some (.of .truncated)), none)
      | '}' :: rest => (.object [] none, some rest)
      | rest =>
        let ((members, tail), rest) := scanMembers fuel rest
        (.object members tail, rest)
    | c :: rest => if Text.isDigit c then scanNumber false (c :: rest) else broken .malformed

/-- The elements of an array, the first of which begins here, up to its end. -/
def scanItems : Nat → List Char → Scan (List Document × Option Break)
  | 0, _ => (([], some (.of .malformed)), none)
  | fuel + 1, s =>
    match scanValue fuel s with
    | (item, none) => (([item], none), none)
    | (item, some rest) =>
      match skipGap rest with
      | [] => (([item], some (.of .truncated)), none)
      | ']' :: rest => (([item], none), some rest)
      | ',' :: rest =>
        match skipGap rest with
        | [] => (([item], some (.of .truncated)), none)
        | ']' :: _ => (([item], some (.of .malformed)), none)
        | rest =>
          let ((items, tail), rest) := scanItems fuel rest
          ((item :: items, tail), rest)
      | _ => (([item], some (.of .malformed)), none)

/-- The members of an object, the first of which begins here, up to its end. -/
def scanMembers : Nat → List Char → Scan (List (Option String × Document) × Option Break)
  | 0, _ => (([], some (.of .malformed)), none)
  | fuel + 1, s =>
    match s with
    | '"' :: rest =>
      match scanString fuel (some []) rest with
      | .error b => (([], some b), none)
      | .ok (key, rest) =>
        match skipGap rest with
        | [] => (([(key, .broken (.of .truncated))], none), none)
        | ':' :: rest =>
          match scanValue fuel rest with
          | (item, none) => (([(key, item)], none), none)
          | (item, some rest) =>
            match skipGap rest with
            | [] => (([(key, item)], some (.of .truncated)), none)
            | '}' :: rest => (([(key, item)], none), some rest)
            | ',' :: rest =>
              match skipGap rest with
              | [] => (([(key, item)], some (.of .truncated)), none)
              | '}' :: _ => (([(key, item)], some (.of .malformed)), none)
              | rest =>
                let ((members, tail), rest) := scanMembers fuel rest
                (((key, item) :: members, tail), rest)
            | _ => (([(key, item)], some (.of .malformed)), none)
        | _ => (([(key, .broken (.of .malformed))], none), none)
    | _ => (([], some (.of .malformed)), none)
end

/-- Reads a whole text with `decode`; nothing but blanks may follow the value. -/
def readWith {α : Type} (decode : Document → Except Fault α) (text : String) : Except Fault α := do
  let s := text.toList
  let (doc, rest) := scanValue (2 * s.length + 2) s
  let value ← decode doc
  match rest with
  | none => .error .malformed
  | some rest => if (skipGap rest).isEmpty then .ok value else .error .malformed

def parse (text : String) : Except Fault Value := readWith (Document.toValue depthLimit) text

end TemplateBundle.Json
