/-!
# Patterns

A pattern describes texts: characters stand for themselves and a point for any of them, brackets hold sets
of characters, parentheses hold groups, a bar stands between alternatives, and a mark repeats what stands
before it. Flags change how what follows them is read.

A pattern has a depth, which counts what stands in one another, and it has a sense or has none: the mode
in which it stands, letter case and kind of characters, decides. There are no tables of the letter case
and the properties of characters beyond ASCII, so what asks for them has no sense.
-/

namespace ChatSpaces.Logging

namespace Pattern

inductive Flag where
  | anyCase
  | multiLine
  | pointMatchesLineEnd
  | shortestFirst
  | unicode
  | carriageReturns
  | spaced
deriving DecidableEq, Repr

def Flag.of? : Char → Option Flag
  | 'i' => some .anyCase
  | 'm' => some .multiLine
  | 's' => some .pointMatchesLineEnd
  | 'U' => some .shortestFirst
  | 'u' => some .unicode
  | 'R' => some .carriageReturns
  | 'x' => some .spaced
  | _ => none

abbrev Switches := List (Flag × Bool)

def Switches.apply (s : Switches) (flag : Flag) (before : Bool) : Bool :=
  ((s.find? (fun e => e.1 = flag)).map Prod.snd).getD before

structure Literal where
  char : Char
  /-- Whether it is written as the number of a byte. -/
  asByte : Bool

inductive CharSet where
  | empty
  | char (l : Literal)
  | range (low high : Literal)
  /-- A class of ASCII, such as `[:alpha:]`, or the characters outside it. -/
  | named (negated : Bool)
  /-- Digits, blanks or letters of words, or the other characters. -/
  | shorthand (negated : Bool)
  | bracketed (negated : Bool) (content : CharSet)
  | union (parts : List CharSet)
  | combined (left right : CharSet)

end Pattern

open Pattern (CharSet Literal Switches) in
inductive Pattern where
  | empty
  | flags (switches : Switches)
  | char (l : Literal)
  | point
  | edge
  | wordEdge
  | shorthand (negated : Bool)
  | set (s : CharSet)
  | repeated (p : Pattern)
  | group (switches : Switches) (p : Pattern)
  | alternatives (ps : List Pattern)
  | sequence (ps : List Pattern)

namespace Pattern

/-! ## Depth -/

mutual

def CharSet.depth : CharSet → Nat
  | .bracketed _ content => content.depth + 1
  | .union parts => CharSet.greatestDepth parts + 1
  | .combined left right => max left.depth right.depth + 1
  | _ => 0

def CharSet.greatestDepth : List CharSet → Nat
  | [] => 0
  | s :: rest => max s.depth (CharSet.greatestDepth rest)

end

mutual

def depth : Pattern → Nat
  | .set s => s.depth
  | .repeated p => p.depth + 1
  | .group _ p => p.depth + 1
  | .alternatives ps => greatestDepth ps + 1
  | .sequence ps => greatestDepth ps + 1
  | _ => 0

def greatestDepth : List Pattern → Nat
  | [] => 0
  | p :: rest => max p.depth (greatestDepth rest)

end

/-! ## Sense -/

/-- The flags that decide whether a pattern has a sense. -/
structure Mode where
  anyCase : Bool
  unicode : Bool
deriving DecidableEq, Repr

namespace Mode

def initial : Mode := ⟨false, true⟩

def switched (m : Mode) (s : Switches) : Mode :=
  ⟨s.apply .anyCase m.anyCase, s.apply .unicode m.unicode⟩

/-- Characters of Unicode have no known letter case. A byte has to be a character of ASCII. -/
def hasLiteral (m : Mode) (l : Literal) : Bool :=
  if m.unicode then !m.anyCase else !(l.asByte && 128 ≤ l.char.toNat)

def hasMember (m : Mode) (l : Literal) : Bool :=
  if m.unicode then !m.anyCase else l.char.toNat < 128

def hasNamed (m : Mode) (negated : Bool) : Bool := if m.unicode then !m.anyCase else !negated

def hasShorthand (m : Mode) (negated : Bool) : Bool := !m.unicode && !negated

mutual

def hasSet (m : Mode) : CharSet → Bool
  | .empty => true
  | .char l => m.hasMember l
  | .range low high => m.hasMember low && m.hasMember high
  | .named negated => m.hasNamed negated
  | .shorthand negated => m.hasShorthand negated
  | .bracketed negated content => (m.unicode || !negated) && m.hasSet content
  | .union parts => m.hasSets parts
  | .combined left right => m.hasSet left && m.hasSet right

def hasSets (m : Mode) : List CharSet → Bool
  | [] => true
  | s :: rest => m.hasSet s && m.hasSets rest

end

def provided (m : Mode) (holds : Bool) : Option Mode := if holds then some m else none

end Mode

mutual

def after? (m : Mode) : Pattern → Option Mode
  | .empty => some m
  | .flags s => some (m.switched s)
  | .char l => m.provided (m.hasLiteral l)
  | .point => m.provided m.unicode
  | .edge => some m
  | .wordEdge => m.provided !m.unicode
  | .shorthand negated => m.provided (m.hasShorthand negated)
  | .set s => m.provided (m.hasSet s)
  | .repeated p => after? m p
  | .group s p => (after? (m.switched s) p).map fun _ => m
  | .alternatives ps => afterAll? m ps
  | .sequence ps => afterAll? m ps

def afterAll? (m : Mode) : List Pattern → Option Mode
  | [] => some m
  | p :: rest => (after? m p).bind fun m => afterAll? m rest

end

def depthLimit : Nat := 250

def isTaken (p : Pattern) : Bool := decide (p.depth ≤ depthLimit) && (after? .initial p).isSome

end Pattern

end ChatSpaces.Logging
