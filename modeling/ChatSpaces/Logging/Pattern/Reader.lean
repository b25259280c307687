import ChatSpaces.Logging.Pattern.Basic
import ChatSpaces.Text.Alphanumeric
import ChatSpaces.Text.Blank

/-!
# Reading patterns

A pattern is read sign by sign, with the groups that are open kept beside it. `read?` gives the pattern
that a text writes. A backslash takes the meaning from a sign or gives one to a letter. A repetition is
written with one of three marks; braces are not used.
-/

namespace ChatSpaces.Logging.Pattern

/-! ## Blanks and comments -/

def skipFrom (inComment : Bool) : List Char → List Char
  | [] => []
  | c :: cs =>
    if inComment then skipFrom (c ≠ '\n') cs
    else if Text.isBlank c then skipFrom false cs
    else if c = '#' then skipFrom true cs
    else c :: cs

/-- Blanks and comments have a meaning unless a flag says otherwise. -/
def skip (spaced : Bool) (cs : List Char) : List Char := if spaced then skipFrom false cs else cs

/-- The first sign that is no blank, where a number sign counts as one the first time it is met. -/
def signIn? (metNumberSign : Bool) : List Char → Option Char
  | [] => none
  | c :: cs =>
    if Text.isBlank c then signIn? metNumberSign cs
    else if c = '#' ∧ !metNumberSign then signIn? true cs
    else some c

def nextSign? (spaced : Bool) (cs : List Char) : Option Char :=
  if spaced then (signIn? false cs).or cs.head? else cs.head?

/-! ## Escapes -/

def hexValue? (c : Char) : Option Nat :=
  if c.isDigit then some (c.toNat - '0'.toNat)
  else if 'a' ≤ c ∧ c ≤ 'f' then some (c.toNat - 'a'.toNat + 10)
  else if 'A' ≤ c ∧ c ≤ 'F' then some (c.toNat - 'A'.toNat + 10)
  else none

def hexDigits? (spaced : Bool) (n : Nat) : Nat → List Char → Option (Nat × List Char)
  | 0, cs => some (n, cs)
  | _ + 1, [] => none
  | more + 1, c :: cs => do
    let v ← hexValue? c
    hexDigits? spaced (16 * n + v) more (skip spaced cs)

/-- Reads the number of a character in hexadecimal digits; one of two digits is that of a byte. -/
def numbered? (spaced : Bool) (digits : Nat) (cs : List Char) : Option (Pattern × List Char) := do
  let (n, rest) ← hexDigits? spaced 0 digits (skip spaced cs)
  if n.isValidChar then some (.char ⟨Char.ofNat n, decide (digits = 2)⟩, rest) else none

def meaning? : Char → Option Pattern
  | 'a' => some (.char ⟨'\x07', false⟩)
  | 'f' => some (.char ⟨'\x0C', false⟩)
  | 'n' => some (.char ⟨'\n', false⟩)
  | 'r' => some (.char ⟨'\r', false⟩)
  | 't' => some (.char ⟨'\t', false⟩)
  | 'v' => some (.char ⟨'\x0B', false⟩)
  | 'A' => some .edge
  | 'z' => some .edge
  | 'b' => some .wordEdge
  | 'B' => some .wordEdge
  | '<' => some .wordEdge
  | '>' => some .wordEdge
  | 'd' => some (.shorthand false)
  | 's' => some (.shorthand false)
  | 'w' => some (.shorthand false)
  | 'D' => some (.shorthand true)
  | 'S' => some (.shorthand true)
  | 'W' => some (.shorthand true)
  | _ => none

/-- Reads what follows a backslash. The other signs of ASCII stand for themselves. -/
def escaped? (spaced : Bool) : List Char → Option (Pattern × List Char)
  | [] => none
  | 'x' :: cs => numbered? spaced 2 cs
  | 'u' :: cs => numbered? spaced 4 cs
  | 'U' :: cs => numbered? spaced 8 cs
  | c :: cs =>
    match meaning? c with
    | some p => some (p, cs)
    | none => if c.toNat < 128 ∧ !c.isAlphanum then some (.char ⟨c, false⟩, cs) else none

/-! ## Sets -/

def classNames : List String :=
  ["alnum", "alpha", "ascii", "blank", "cntrl", "digit", "graph", "lower", "print", "punct", "space",
   "upper", "word", "xdigit"]

def namedClass? : List Char → Option (CharSet × List Char)
  | ':' :: cs =>
    let negated := cs.head? = some '^'
    let cs := if negated then cs.drop 1 else cs
    match cs.dropWhile (· ≠ ':') with
    | ':' :: ']' :: rest =>
      if String.ofList (cs.takeWhile (· ≠ ':')) ∈ classNames then some (.named negated, rest) else none
    | _ => none
  | _ => none

def member? (spaced : Bool) : List Char → Option (Pattern × List Char)
  | [] => none
  | '\\' :: cs => escaped? spaced cs
  | c :: cs => some (.char ⟨c, false⟩, cs)

def single? : Pattern → Option CharSet
  | .char l => some (.char l)
  | .shorthand negated => some (.shorthand negated)
  | _ => none

def range? : Pattern → Pattern → Option CharSet
  | .char low, .char high => if low.char ≤ high.char then some (.range low high) else none
  | _, _ => none

/-- Reads a part of a set: a range, where a hyphen follows that is not the last of the set or the first of
two. -/
def part? (spaced : Bool) (cs : List Char) : Option (CharSet × List Char) := do
  let (first, rest) ← member? spaced cs
  match skip spaced rest with
  | [] => none
  | c :: after =>
    let next := nextSign? spaced after
    if c ≠ '-' ∨ next = some ']' ∨ next = some '-' then
      return (← single? first, c :: after)
    else
      let (second, rest) ← member? spaced (skip spaced after)
      return (← range? first second, rest)

/-- A set whose closing bracket is still to come. -/
structure OpenSet where
  negated : Bool
  /-- Nothing but hyphens has been read. -/
  atStart : Bool
  left : Option CharSet
  /-- The parts after the last operator, last first. -/
  parts : List CharSet

namespace OpenSet

def start (spaced : Bool) (cs : List Char) : OpenSet × List Char :=
  match skip spaced cs with
  | '^' :: rest => (⟨true, true, none, []⟩, rest)
  | rest => (⟨false, true, none, []⟩, rest)

def push (s : OpenSet) (part : CharSet) : OpenSet :=
  { s with atStart := false, parts := part :: s.parts }

/-- A hyphen at the start stands for itself. -/
def pushHyphen (s : OpenSet) : OpenSet := { s with parts := .char ⟨'-', false⟩ :: s.parts }

def started (s : OpenSet) : OpenSet := { s with atStart := false }

def operand (s : OpenSet) : CharSet :=
  match s.parts with
  | [] => .empty
  | [part] => part
  | parts => .union parts.reverse

def content (s : OpenSet) : CharSet :=
  match s.left with
  | none => s.operand
  | some left => .combined left s.operand

def operator (s : OpenSet) : OpenSet := ⟨s.negated, false, some s.content, []⟩

def close (s : OpenSet) : CharSet := .bracketed s.negated s.content

end OpenSet

/-- Reads the rest of a set that stands in the sets `outer`, up to the bracket that closes the outermost. A
step takes at least one character, so the length of the text is fuel enough. -/
def set? (spaced : Bool) : Nat → OpenSet → List OpenSet → List Char → Option (CharSet × List Char)
  | 0, _, _, _ => none
  | fuel + 1, s, outer, cs =>
    match skip spaced cs with
    | [] => none
    | c :: rest =>
      if s.atStart ∧ c = '-' then set? spaced fuel s.pushHyphen outer rest
      else if s.atStart ∧ s.parts.isEmpty ∧ c = ']' then
        set? spaced fuel (s.push (.char ⟨']', false⟩)) outer rest
      else if c = ']' then
        match outer with
        | [] => some (s.close, rest)
        | around :: outer => set? spaced fuel (around.push s.close) outer rest
      else if c = '[' then
        match namedClass? rest with
        | some (named, rest) => set? spaced fuel (s.push named) outer rest
        | none =>
          let (inner, rest) := OpenSet.start spaced rest
          set? spaced fuel inner (s.started :: outer) rest
      else if (c = '&' ∨ c = '-' ∨ c = '~') ∧ rest.head? = some c then
        set? spaced fuel s.operator outer (rest.drop 1)
      else
        match part? spaced (c :: rest) with
        | some (part, rest) => set? spaced fuel (s.push part) outer rest
        | none => none

def wholeSet? (spaced : Bool) (cs : List Char) : Option (CharSet × List Char) :=
  let (s, rest) := OpenSet.start spaced cs
  set? spaced rest.length s [] rest

/-! ## Groups -/

inductive Opening where
  | group (switches : Switches) (name : Option (List Char)) (rest : List Char)
  | flags (switches : Switches) (rest : List Char)

/-- Reads flags, each of which may be given once. Those after a hyphen are switched off. -/
def switches? (cs : List Char) : Option Switches := do
  let on ← (cs.takeWhile (· ≠ '-')).mapM Flag.of?
  let off ← ((cs.dropWhile (· ≠ '-')).drop 1).mapM Flag.of?
  if (on ++ off).Nodup ∧ cs.getLast? ≠ some '-' then
    some (on.map (·, true) ++ off.map (·, false))
  else none

def isGroupName : List Char → Bool
  | [] => false
  | c :: cs =>
    (c = '_' || Text.isAlphabetic c) &&
      cs.all (fun c => Text.isAlphanumeric c || ['_', '.', '[', ']'].contains c)

def named? (cs : List Char) : Option Opening :=
  match cs.dropWhile (· ≠ '>') with
  | _ :: rest =>
    let name := cs.takeWhile (· ≠ '>')
    if isGroupName name then some (.group [] (some name) rest) else none
  | [] => none

def opening? : List Char → Option Opening
  | '?' :: 'P' :: '<' :: cs => named? cs
  | '?' :: '<' :: cs => named? cs
  | '?' :: cs => do
    let switches ← switches? (cs.takeWhile (fun c => c ≠ ':' ∧ c ≠ ')'))
    match cs.dropWhile (fun c => c ≠ ':' ∧ c ≠ ')') with
    | ':' :: rest => some (.group switches none rest)
    | ')' :: rest => if switches.isEmpty then none else some (.flags switches rest)
    | _ => none
  | cs => some (.group [] none cs)

/-! ## Patterns -/

/-- A group whose closing parenthesis is still to come, or the whole pattern. -/
structure OpenGroup where
  switches : Switches
  spaced : Bool
  /-- The alternatives before the last bar, last first. -/
  alternatives : List Pattern
  /-- What stands after the last bar, last first. -/
  parts : List Pattern

namespace OpenGroup

def push (g : OpenGroup) (p : Pattern) : OpenGroup := { g with parts := p :: g.parts }

def sequence (g : OpenGroup) : Pattern :=
  match g.parts with
  | [] => .empty
  | [p] => p
  | ps => .sequence ps.reverse

def content (g : OpenGroup) : Pattern :=
  match g.alternatives with
  | [] => g.sequence
  | ps => .alternatives (g.sequence :: ps).reverse

def bar (g : OpenGroup) : OpenGroup :=
  { g with alternatives := g.sequence :: g.alternatives, parts := [] }

/-- Flags hold up to the end of the group. -/
def switch (g : OpenGroup) (s : Switches) : OpenGroup :=
  { g with spaced := s.apply .spaced g.spaced, parts := .flags s :: g.parts }

/-- Repeats what was read last. Flags cannot be repeated. -/
def repeatLast? (g : OpenGroup) : Option OpenGroup :=
  match g.parts with
  | [] => none
  | .flags _ :: _ => none
  | p :: ps => some { g with parts := .repeated p :: ps }

end OpenGroup

structure Progress where
  group : OpenGroup
  /-- The groups around it, innermost first. -/
  outer : List OpenGroup
  /-- The names of groups, each of which may be given once. -/
  names : List (List Char)

namespace Progress

def start : Progress := ⟨⟨[], false, [], []⟩, [], []⟩

def push (p : Progress) (part : Pattern) : Progress := { p with group := p.group.push part }

def enter? (p : Progress) (s : Switches) (name : Option (List Char)) : Option Progress :=
  let inner : OpenGroup := ⟨s, s.apply .spaced p.group.spaced, [], []⟩
  match name with
  | none => some ⟨inner, p.group :: p.outer, p.names⟩
  | some name => if name ∈ p.names then none else some ⟨inner, p.group :: p.outer, name :: p.names⟩

def leave? (p : Progress) : Option Progress :=
  match p.outer with
  | [] => none
  | around :: outer => some ⟨around.push (.group p.group.switches p.group.content), outer, p.names⟩

def whole? (p : Progress) : Option Pattern :=
  if p.outer.isEmpty then some p.group.content else none

/-- Reads what begins with the sign `c`. A second question mark after a mark of repetition belongs to it. -/
def step? (p : Progress) (c : Char) (cs : List Char) : Option (Progress × List Char) :=
  let spaced := p.group.spaced
  if c = '(' then do
    match ← opening? (skip spaced cs) with
    | .group switches name rest => return (← p.enter? switches name, rest)
    | .flags switches rest => return ({ p with group := p.group.switch switches }, rest)
  else if c = ')' then p.leave?.map (·, cs)
  else if c = '|' then some ({ p with group := p.group.bar }, cs)
  else if c = '?' ∨ c = '*' ∨ c = '+' then do
    return ({ p with group := ← p.group.repeatLast? }, if cs.head? = some '?' then cs.drop 1 else cs)
  else if c = '{' then none
  else if c = '[' then do
    let (s, rest) ← wholeSet? spaced cs
    return (p.push (.set s), rest)
  else if c = '\\' then do
    let (escaped, rest) ← escaped? spaced cs
    return (p.push escaped, rest)
  else if c = '.' then some (p.push .point, cs)
  else if c = '^' ∨ c = '$' then some (p.push .edge, cs)
  else some (p.push (.char ⟨c, false⟩), cs)

/-- Reads to the end. A step takes at least one character, so one more than the length of the text is fuel
enough. -/
def finish? (p : Progress) : Nat → List Char → Option Pattern
  | 0, _ => none
  | fuel + 1, cs =>
    match skip p.group.spaced cs with
    | [] => p.whole?
    | c :: rest => do
      let (p, rest) ← p.step? c rest
      finish? p fuel rest

end Progress

def read? (cs : List Char) : Option Pattern := Progress.start.finish? (cs.length + 1) cs

end ChatSpaces.Logging.Pattern
