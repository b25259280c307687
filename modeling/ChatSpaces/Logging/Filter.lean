import ChatSpaces.Logging.Occurrence
import ChatSpaces.Logging.Pattern.Reader
import ChatSpaces.Number.Text
import ChatSpaces.Text.Blank
import ChatSpaces.Text.Bytes

/-!
# Log filters

A filter says from which level on what happens at a target is logged. It is written as a list of entries
with commas between them: a level for every target, `target=level` for the targets that begin so, or a
target alone for all of its events. Brackets after the target limit an entry to a span or to events with a
field. Of the entries that apply the one with the longest target decides, of these the one with a field,
and of equal entries the last. Where no entry applies nothing is logged.
-/

namespace ChatSpaces.Logging

/-- The least important level that is let through; `none` lets nothing through. -/
abbrev Threshold := Option Level

def Threshold.admits (threshold : Threshold) (l : Level) : Bool :=
  match threshold with
  | none => false
  | some least => l ≤ least

inductive Filter.Limit where
  | unlimited
  | field (name : String)
  /-- A span of some name, or a value of a field of it. Spans have neither name nor values here. -/
  | span
deriving DecidableEq, Repr

structure Filter.Entry where
  /-- How the names of the targets begin; `none` applies to every target. -/
  target : Option (List Char)
  limit : Limit
  threshold : Threshold
deriving DecidableEq, Repr

abbrev Filter := List Filter.Entry

namespace Filter

open Text (between beyond byteSize)

def threshold? (cs : List Char) : Option Threshold :=
  let s := String.ofList cs
  if Text.natUpTo? Number.Word.max64 s = some 0 ∨ Text.SameWord s "off" then some none
  else (Level.ofText? s).map some

namespace Limit

def allows : Limit → Occurrence → Bool
  | .unlimited, _ => true
  | .field name, o => o.mayHave name
  | .span, _ => false

/-- A limit with a field is more specific than one without, and one with a later name than one with an
earlier. -/
def atMost : Limit → Limit → Bool
  | .field a, .field b => a ≤ b
  | .field _, _ => false
  | _, _ => true

def isValue (cs : List Char) : Bool :=
  (Number.Binary64.ofText? (String.ofList cs)).isSome || (Pattern.read? cs).any (·.isTaken)

/-- Reads the name of a field, with or without a value. What stands after a second `=` is not read. -/
def ofField? (cs : List Char) : Option Limit :=
  match cs.dropWhile (· ≠ '=') with
  | [] => some (.field (String.ofList cs))
  | _ :: value => if isValue (value.takeWhile (· ≠ '=')) then some .span else none

end Limit

namespace Entry

/-- An entry begins with a letter, a numeral or one of three signs, if not with a bracket. -/
def canBegin (c : Char) : Bool := Text.isAlphanumeric c || c = '-' || c = ':' || c = '_'

/-- Where the end `rest` of a text begins, in bytes. Places are found in an entry without the blanks
around it, but the entry is cut there with its blanks. So an entry that begins with blanks has everything
after its first sign cut too early, and cannot have a level. -/
def placeOf (text rest : List Char) : Nat := byteSize text - byteSize rest

def levelFrom? (entry : List Char) (place : Nat) : Option Threshold :=
  match beyond place entry with
  | [] => some (some .trace)
  | level => threshold? level

def limit? (entry text inner : List Char) : Option (Limit × List Char) :=
  let name := inner.takeWhile (fun c => c ≠ ']' ∧ c ≠ '{')
  match inner.dropWhile (fun c => c ≠ ']' ∧ c ≠ '{') with
  | ']' :: rest => some (.span, rest)
  | '{' :: field =>
    match field.dropWhile (· ≠ '}') with
    | '}' :: ']' :: rest =>
      if field.head? = some '}' then none
      else
        let written := between (placeOf text field) (placeOf text ('}' :: ']' :: rest)) entry
        (Limit.ofField? written).map fun limit => (if name = [] then limit else .span, rest)
    | _ => none
  | _ => none

def limited? (target : Option (List Char)) (entry text inner : List Char) : Option Entry :=
  match limit? entry text inner with
  | some (limit, []) => some ⟨target, limit, some .trace⟩
  | some (limit, '=' :: level) =>
    (levelFrom? entry (placeOf text level)).map (⟨target, limit, ·⟩)
  | _ => none

def read? (entry : List Char) : Option Entry :=
  let text := Text.trimChars entry
  match text with
  | [] => none
  | '[' :: inner => limited? none entry text inner
  | first :: _ =>
    if canBegin first then
      match text.dropWhile (fun c => c ≠ '=' ∧ c ≠ '[') with
      | '=' :: level =>
        (levelFrom? entry (placeOf text level)).map
          (⟨some (between 0 (placeOf text ('=' :: level)) entry), .unlimited, ·⟩)
      | '[' :: inner =>
        limited? (some (between 0 (placeOf text ('[' :: inner)) entry)) entry text inner
      | _ =>
        match threshold? entry with
        | some threshold => some ⟨none, .unlimited, threshold⟩
        | none => some ⟨some entry, .unlimited, some .trace⟩
    else none

def appliesTo (e : Entry) (target : String) (o : Occurrence) : Bool :=
  e.limit.allows o &&
    match e.target with
    | none => true
    | some start => start.isPrefixOf target.toList

/-- Entries with longer targets are more specific; an entry for every target is the least. -/
def weight (e : Entry) : Nat :=
  match e.target with
  | none => 0
  | some start => start.length + 1

def yieldsTo (e other : Entry) : Bool :=
  e.weight < other.weight || (e.weight = other.weight && e.limit.atMost other.limit)

end Entry

/-- Reads a filter; empty pieces between commas are passed over. -/
def read? (s : String) : Option Filter :=
  ((s.toList.splitOn ',').filter (· ≠ [])).mapM Entry.read?

def moreSpecific (best : Option Entry) (e : Entry) : Option Entry :=
  match best with
  | none => some e
  | some b => if b.yieldsTo e then some e else some b

def deciding? (f : Filter) (target : String) (o : Occurrence) : Option Entry :=
  (f.filter (·.appliesTo target o)).foldl moreSpecific none

def admits (f : Filter) (target : String) (o : Occurrence) : Bool :=
  (f.deciding? target o).any (·.threshold.admits o.level)

def upTo (l : Level) : Filter := [⟨none, .unlimited, some l⟩]

end Filter

end ChatSpaces.Logging
