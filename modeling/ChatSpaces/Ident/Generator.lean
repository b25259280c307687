import ChatSpaces.Ident

/-!
# Making identifiers

A generator packs the millisecond and the sequence number of its last identifier into one 64-bit
word. The word only moves forward: a clock that stands still or steps back is answered by the next
sequence number, and a used up millisecond by the next millisecond. All arithmetic wraps at 64 bits.
-/

namespace ChatSpaces

/-- Workers are numbered below 1024. -/
abbrev Worker := Fin 1024

structure Generator where
  worker : Worker
  /-- Millisecond and sequence number of the last identifier, packed. -/
  last : Int
deriving DecidableEq, Repr

namespace Generator

def new (worker : Worker) : Generator := ⟨worker, 0⟩

def ofWorker? (worker : Nat) : Option Generator :=
  if h : worker < 1024 then some (new ⟨worker, h⟩) else none

/-- A number reduced to the range of signed 64-bit words. -/
def wrap (n : Int) : Int := n.bmod 18446744073709551616

/-- The milliseconds that a wall clock shows beyond the epoch; before 1970 it shows zero. -/
def sinceEpoch (wall : Int) : Int := max wall 0 - Ident.epoch

/-- The packed word after `last` when the clock shows `now` milliseconds beyond the epoch. -/
def successor (last now : Int) : Int :=
  if last / 4096 < now then wrap (now * 4096)
  else if last % 4096 < 4095 then wrap (last + 1)
  else wrap ((last / 4096 + 1) * 4096)

def identOf (worker : Worker) (packed : Int) : Ident :=
  .ofInt (wrap (packed / 4096 * 4194304) + worker * 4096 + packed % 4096)

/-- The next identifier at a reading of the wall clock in milliseconds, and the generator after it. -/
def next (g : Generator) (wall : Int) : Ident × Generator :=
  let packed := successor g.last (sinceEpoch wall)
  (identOf g.worker packed, { g with last := packed })

/-- As many identifiers in turn, after those already made, which stand latest first. -/
def takeOnto (made : List Ident) (g : Generator) (wall : Int) : Nat → List Ident × Generator
  | 0 => (made.reverse, g)
  | n + 1 =>
    let one := g.next wall
    takeOnto (one.1 :: made) one.2 wall n

def take (g : Generator) (wall : Int) (n : Nat) : List Ident × Generator := takeOnto [] g wall n

theorem takeOnto_eq (made : List Ident) (g : Generator) (wall : Int) (n : Nat) :
    takeOnto made g wall n = (made.reverse ++ (take g wall n).1, (take g wall n).2) := by
  induction n generalizing made g with
  | zero => simp [takeOnto, take]
  | succ n ih =>
    simp only [takeOnto, take]
    rw [ih, ih [(g.next wall).1]]
    simp

theorem take_succ (g : Generator) (wall : Int) (n : Nat) :
    g.take wall (n + 1) =
      ((g.next wall).1 :: ((g.next wall).2.take wall n).1, ((g.next wall).2.take wall n).2) := by
  rw [take, takeOnto, takeOnto_eq]
  rfl

end Generator

end ChatSpaces
