import ChatSpaces.Document
import ChatSpaces.Number.Text
import ChatSpaces.Number.Word
import ChatSpaces.Text.Case
import ChatSpaces.Text.Decimal

/-!
# Layers of settings

Settings are a tree of records. A layer is put over the tree value by value: a record is merged into what
is there name by name, every other value takes the place of what was there. Names are compared in lower
case, so the tree holds them lowered. A key may also lead to an item of a list, which is replaced as a
whole.
-/

namespace ChatSpaces.Settings

open Number
open Text (lowerName)

abbrev Fields := List (String × Document)

def withField (name : String) (value : Document) : Fields → Fields
  | [] => [(name, value)]
  | (n, v) :: rest => if n = name then (n, value) :: rest else (n, v) :: withField name value rest

def fieldsOf : Document → Fields
  | .record fields => fields
  | _ => []

def fieldIn (name : String) (fields : Fields) : Option Document :=
  (fields.find? (fun f => f.1 = name)).map Prod.snd

mutual

/-- Puts a value under a name of a tree. What is no record becomes one, unless there is nothing to put
into it. -/
def assign (name : String) (tree : Document) : Document → Document
  | .record values =>
    let fields := fieldsOf tree
    let below := (fieldIn (lowerName name) fields).getD (.record [])
    .record (withField (lowerName name) (assignAll below values) fields)
  | value => .record (withField (lowerName name) value (fieldsOf tree))

def assignAll (tree : Document) : Fields → Document
  | [] => tree
  | (name, value) :: rest => assignAll (assign name tree value) rest

end

/-- A step of a path: into a record by name, or into a list by place. -/
inductive Step where
  | name (name : String)
  /-- Places from zero on count from the first item, places below zero from the end. -/
  | item (place : Int)
deriving DecidableEq, Repr

/-- Which item a place means. Before the first item there is none, so the first one is meant. -/
def itemNumber (items : List Document) (place : Int) : Nat :=
  if 0 ≤ place then place.toNat else items.length - place.natAbs

/-- Gives a list an item, in place of the item it had. Items that are missing before it are null. -/
def withItem (n : Nat) (value : Document) (items : List Document) : List Document :=
  if n < items.length then items.set n value
  else items ++ (List.replicate (n - items.length) .null ++ [value])

def itemsOf (d : Document) : List Document := d.list?.getD []

/-- Puts a value at the end of a path. What is no record, or no list, becomes one where the path leads
through it. -/
def assignAt (value : Document) (tree : Document) : List Step → Document
  | [] => tree
  | [.name name] => assign name tree value
  | .name name :: rest =>
    let fields := fieldsOf tree
    let below := (fieldIn (lowerName name) fields).getD .null
    .record (withField (lowerName name) (assignAt value below rest) fields)
  | [.item place] =>
    let items := itemsOf tree
    .list (withItem (itemNumber items place) value items)
  | .item place :: rest =>
    let items := itemsOf tree
    let n := itemNumber items place
    .list (withItem n (assignAt value (items[n]?.getD .null) rest) items)

def isPathChar (c : Char) : Bool := c.isAlphanum || c = '_' || c = '-' || c = ' '

def isGap (c : Char) : Bool := c = ' ' || c = '\t'

/-- Reads a place and the bracket that closes it. Gaps around the place and a minus sign are allowed. -/
def place? (cs : List Char) : Option Int :=
  match cs.reverse with
  | ']' :: inner =>
    let digits := ((inner.dropWhile isGap).reverse).dropWhile isGap
    if digits.head? = some '+' then none
    else Text.intWithin? Word.minSigned Word.maxSigned (String.ofList digits)
  | _ => none

def steps? (part : List Char) : Option (List Step) :=
  match part.splitOn '[' with
  | name :: places =>
    if name ≠ [] ∧ name.all isPathChar then
      (places.mapM place?).map fun places => .name (String.ofList name) :: places.map .item
    else none
  | [] => none

/-- A key of names and places with points before the names is a path; any other key is one name. -/
def pathOf (key : String) : List Step :=
  match (key.toList.splitOn '.').mapM steps? with
  | some parts => parts.flatten
  | none => [.name key]

def overlay (tree : Document) (layer : Fields) : Document :=
  layer.foldl (fun tree entry => assignAt entry.2 tree (pathOf entry.1)) tree

def variableMark : List Char := "spaces__".toList

/-- The key that a variable sets: two underscores in its name stand for a point. -/
def keyOf : List Char → List Char
  | '_' :: '_' :: rest => '.' :: keyOf rest
  | c :: rest => c :: keyOf rest
  | [] => []

def variableKey? (name : String) : Option String :=
  let lowered := (lowerName name).toList
  if variableMark.isPrefixOf lowered then
    some (String.ofList (keyOf (lowered.drop variableMark.length)))
  else none

/-- The one key whose variable holds a list, with commas between the items. -/
def listKey : String := "moderation.posting_blocked_kinds"

/-- The value in the text of a variable: a truth value, a number, or else the text. -/
def variableValue (key text : String) : Document :=
  if Text.SameWord text "true" then .bool true
  else if Text.SameWord text "false" then .bool false
  else match Text.intWithin? Word.minSigned Word.maxSigned text with
    | some n => .whole n
    | none =>
      match Binary64.ofText? text with
      | some x => .real x
      | none =>
        if key = listKey then
          .list ((text.toList.splitOn ',').map fun item => .text (String.ofList item))
        else .text text

def ofVariables (vars : List (String × String)) : Fields :=
  vars.filterMap fun v => (variableKey? v.1).map fun key => (key, variableValue key v.2)

end ChatSpaces.Settings
