import ChatSpaces.Text.Blank
import ChatSpaces.Text.Decimal
import ChatSpaces.Time.Instant

/-!
# The text of an instant

Writing follows RFC 3339 with the shortest of zero, three, six and nine fraction digits that is
exact, and a signed year outside 0 to 9999. Reading is looser: fields may have fewer digits than
their width, blanks may stand before a number and before a separator, a blank may divide date and
time, digits after the ninth are dropped, and the offset may be `Z`, `UTC` or hours and minutes.
-/

namespace ChatSpaces.Time.Instant

open ChatSpaces.Text

def yearText (year : Int) : String :=
  if 0 ≤ year ∧ year ≤ 9999 then padded 4 year.toNat
  else (if year < 0 then "-" else "+") ++ padded 4 year.natAbs

def fractionText (nanos : Nat) : String :=
  if nanos = 0 then ""
  else if nanos % 1000000 = 0 then "." ++ padded 3 (nanos / 1000000)
  else if nanos % 1000 = 0 then "." ++ padded 6 (nanos / 1000)
  else "." ++ padded 9 nanos

def localText (i : Instant) : String :=
  let date := Date.ofDays i.day
  let ofDay := (i.seconds % 86400).toNat
  let leap := if i.nanos < 1000000000 then 0 else 1
  yearText date.year ++ "-" ++ padded 2 date.month ++ "-" ++ padded 2 date.day ++ "T"
    ++ padded 2 (ofDay / 3600) ++ ":" ++ padded 2 (ofDay / 60 % 60) ++ ":" ++ padded 2 (ofDay % 60 + leap)
    ++ fractionText (i.nanos % 1000000000)

def toText (i : Instant) : String := i.localText ++ "Z"

def toOffsetText (i : Instant) : String := i.localText ++ "+00:00"

/-- A reader takes characters from the front and leaves the rest. -/
abbrev Reader (α : Type) := StateT (List Char) Option α

namespace Reader

def skipBlanks : Reader Unit := modify trimStart

def expect (c : Char) : Reader Unit := do
  match ← get with
  | d :: rest => if d = c then set rest else failure
  | [] => failure

def next : Reader Char := do
  match ← get with
  | c :: rest => set rest; return c
  | [] => failure

/-- At least one digit and at most `width`. -/
def number (width : Nat) : Reader Nat := do
  let cs ← get
  let ds := (cs.take width).takeWhile Char.isDigit
  set (cs.drop ds.length)
  digits? ds

def longNumber : Reader Nat := do
  let cs ← get
  set (cs.dropWhile Char.isDigit)
  digits? (cs.takeWhile Char.isDigit)

/-- A number between two bounds after blanks. -/
def field (low high : Nat) : Reader Nat := do
  skipBlanks
  let n ← number 2
  if low ≤ n ∧ n ≤ high then return n else failure

/-- A year of at most four digits, or of any number of them after a sign. -/
def year : Reader Int := do
  skipBlanks
  match ← get with
  | '-' :: rest => set rest; return -(← longNumber : Int)
  | '+' :: rest => set rest; return (← longNumber : Int)
  | _ => return (← number 4 : Int)

def fraction : Reader Nat := do
  match ← get with
  | '.' :: rest =>
    let ds := (rest.take 9).takeWhile Char.isDigit
    set (rest.dropWhile Char.isDigit)
    let n ← digits? ds
    return n * Nat.pow 10 (9 - ds.length)
  | _ => return 0

def twoDigits : Reader Nat := do
  let a ← next
  let b ← next
  digits? [a, b]

/-- The seconds by which the local time is ahead of UTC. -/
def offset : Reader Int := do
  let cs ← get
  if ((cs.take 3).map Char.toLower) = ['u', 't', 'c'] then
    set (cs.drop 3)
    return 0
  let c ← next
  if c = 'Z' ∨ c = 'z' then return 0
  let sign : Int ← if c = '+' then pure 1 else if c = '-' ∨ c = '\u2212' then pure (-1) else failure
  let hours ← twoDigits
  modify (List.dropWhile (fun d => d = ':' || isBlank d))
  let minutes ← twoDigits
  if 60 ≤ minutes ∨ 24 ≤ hours then failure
  return sign * (hours * 3600 + minutes * 60 : Nat)

def date : Reader Date := do
  let y ← year
  skipBlanks
  expect '-'
  let m ← field 1 12
  skipBlanks
  expect '-'
  let d ← field 1 31
  let date : Date := ⟨y, m, d⟩
  if date.Valid then return date else failure

def divider : Reader Unit := do
  let c ← next
  if c = 'T' ∨ c = 't' ∨ c = ' ' then return () else failure

/-- The whole text of an instant. -/
def instant : Reader Instant := do
  let day ← date
  divider
  let hour ← field 0 23
  skipBlanks
  expect ':'
  let minute ← field 0 59
  skipBlanks
  expect ':'
  let second ← field 0 60
  let nanos ← fraction
  skipBlanks
  let ahead ← offset
  skipBlanks
  let days := day.toDays
  if days < firstDay ∨ lastDay < days then failure
  let ofDay : Nat := hour * 3600 + minute * 60 + min second 59
  let leap := if second = 60 then 1000000000 else 0
  let i := ofSeconds (days * 86400 + ofDay - ahead) (nanos + leap)
  if i.InRange then return i else failure

end Reader

def ofText? (s : String) : Option Instant :=
  match Reader.instant.run s.toList with
  | some (i, []) => some i
  | _ => none

end ChatSpaces.Time.Instant
