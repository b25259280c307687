import ChatSpaces.Document
import ChatSpaces.Number.Text

/-!
# Documents in JSON

Reading keeps apart what JSON only hints at: a number with a point or an exponent is a floating point
number, and so is a negative zero. A character beyond the basic plane may be written as two escapes;
half of such a pair is refused.
-/

namespace ChatSpaces.Document.Json

open Number (Binary64)

def isGap (c : Char) : Bool := c = ' ' || c = '\n' || c = '\r' || c = '\t'

def skipGaps (cs : List Char) : List Char := cs.dropWhile isGap

def hexValue? (c : Char) : Option Nat :=
  if '0' ≤ c ∧ c ≤ '9' then some (c.toNat - 48)
  else if 'a' ≤ c ∧ c ≤ 'f' then some (c.toNat - 87)
  else if 'A' ≤ c ∧ c ≤ 'F' then some (c.toNat - 55)
  else none

def unit? (a b c d : Char) : Option Nat := do
  return ((← hexValue? a) * 4096 + (← hexValue? b) * 256 + (← hexValue? c) * 16 + (← hexValue? d))

def escape? : Char → Option Char
  | '"' => some '"'
  | '\\' => some '\\'
  | '/' => some '/'
  | 'b' => some '\x08'
  | 'f' => some '\x0c'
  | 'n' => some '\n'
  | 'r' => some '\r'
  | 't' => some '\t'
  | _ => none

/-- The characters up to the closing quote, after those already read in reverse. -/
def quoted : Nat → List Char → List Char → Option (String × List Char)
  | 0, _, _ => none
  | fuel + 1, seen, cs =>
    match cs with
    | '"' :: rest => some (String.ofList seen.reverse, rest)
    | '\\' :: 'u' :: a :: b :: c :: d :: rest =>
      match unit? a b c d with
      | none => none
      | some high =>
        if 0xDC00 ≤ high ∧ high < 0xE000 then none
        else if 0xD800 ≤ high ∧ high < 0xDC00 then
          match rest with
          | '\\' :: 'u' :: a :: b :: c :: d :: rest =>
            match unit? a b c d with
            | none => none
            | some low =>
              if 0xDC00 ≤ low ∧ low < 0xE000 then
                quoted fuel
                  (Char.ofNat (0x10000 + (high - 0xD800) * 1024 + (low - 0xDC00)) :: seen) rest
              else none
          | _ => none
        else quoted fuel (Char.ofNat high :: seen) rest
    | '\\' :: c :: rest =>
      match escape? c with
      | none => none
      | some e => quoted fuel (e :: seen) rest
    | c :: rest => if c.toNat < 32 then none else quoted fuel (c :: seen) rest
    | [] => none

def isNumberChar (c : Char) : Bool :=
  c.isDigit || c = '+' || c = '-' || c = '.' || c = 'e' || c = 'E'

/-- The digits before the point: a zero alone, or a run that starts with no zero. -/
def IsWholePart (ds : List Char) : Prop := ds = ['0'] ∨ (ds ≠ [] ∧ ds.head? ≠ some '0')

instance (ds : List Char) : Decidable (IsWholePart ds) := inferInstanceAs (Decidable (_ ∨ _))

def number? (cs : List Char) : Option Document :=
  let negative := cs.head? = some '-'
  let unsigned := if negative then cs.tail else cs
  let digits := unsigned.takeWhile Char.isDigit
  if ¬ IsWholePart digits then none
  else if digits = unsigned then
    if negative ∧ digits = ['0'] then some (.real (.zero true))
    else
      let n := Text.spelled digits 0
      some (.whole (if negative then -(n : Int) else n))
  else
    match Binary64.parts? unsigned with
    | none => none
    | some p =>
      if p.fraction = [] ∧ '.' ∈ unsigned then none else some (.real (.ofParts negative p))

mutual

def value : Nat → List Char → Option (Document × List Char)
  | 0, _ => none
  | fuel + 1, cs =>
    match skipGaps cs with
    | '\x7b' :: rest => members fuel [] rest
    | '[' :: rest => items fuel [] rest
    | '"' :: rest => (quoted fuel [] rest).map (fun r => (.text r.1, r.2))
    | 't' :: 'r' :: 'u' :: 'e' :: rest => some (.bool true, rest)
    | 'f' :: 'a' :: 'l' :: 's' :: 'e' :: rest => some (.bool false, rest)
    | 'n' :: 'u' :: 'l' :: 'l' :: rest => some (.null, rest)
    | cs => (number? (cs.takeWhile isNumberChar)).map ((·, cs.dropWhile isNumberChar))

def items : Nat → List Document → List Char → Option (Document × List Char)
  | 0, _, _ => none
  | fuel + 1, seen, cs =>
    match skipGaps cs with
    | ']' :: rest => if seen = [] then some (.list [], rest) else none
    | cs =>
      match value fuel cs with
      | none => none
      | some (v, rest) =>
        match skipGaps rest with
        | ',' :: rest => items fuel (v :: seen) rest
        | ']' :: rest => some (.list (v :: seen).reverse, rest)
        | _ => none

def members : Nat → List (String × Document) → List Char → Option (Document × List Char)
  | 0, _, _ => none
  | fuel + 1, seen, cs =>
    match skipGaps cs with
    | '\x7d' :: rest => if seen = [] then some (.record [], rest) else none
    | '"' :: rest =>
      match quoted fuel [] rest with
      | none => none
      | some (name, rest) =>
        match skipGaps rest with
        | ':' :: rest =>
          match value fuel rest with
          | none => none
          | some (v, rest) =>
            match skipGaps rest with
            | ',' :: rest => members fuel ((name, v) :: seen) rest
            | '\x7d' :: rest => some (.record ((name, v) :: seen).reverse, rest)
            | _ => none
        | _ => none
    | _ => none

end

/-- The document that a whole text spells. Every value and every element takes a character of its own,
so twice the length is fuel enough. -/
def read? (s : String) : Option Document :=
  let cs := s.toList
  match value (2 * cs.length + 2) cs with
  | some (d, rest) => if skipGaps rest = [] then some d else none
  | none => none

def hexDigit (n : Nat) : Char := (Nat.toDigits 16 (n % 16)).headD '0'

def escaped (c : Char) : List Char :=
  if c = '"' then ['\\', '"']
  else if c = '\\' then ['\\', '\\']
  else if c.toNat < 32 then ['\\', 'u', '0', '0', hexDigit (c.toNat / 16), hexDigit c.toNat]
  else [c]

def quote (s : String) : String :=
  "\"" ++ String.ofList (s.toList.flatMap escaped) ++ "\""

mutual

def write : Document → String
  | .null => "null"
  | .bool b => if b then "true" else "false"
  | .whole n => toString n
  | .real x => x.toText
  | .text s => quote s
  | .list items => "[" ++ ",".intercalate (writeItems items) ++ "]"
  | .record fields => "\x7b" ++ ",".intercalate (writeFields fields) ++ "\x7d"

def writeItems : List Document → List String
  | [] => []
  | d :: ds => write d :: writeItems ds

def writeFields : List (String × Document) → List String
  | [] => []
  | (name, d) :: fs => (quote name ++ ":" ++ write d) :: writeFields fs

end

end ChatSpaces.Document.Json
