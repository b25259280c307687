import ChatSpaces.Admin.Program
import ChatSpaces.Document.Json

/-!
# The administration program, run

Gathers the surroundings, runs the program on them and writes down the report. No driver for a database is
built in, so no address leads anywhere.
-/

namespace ChatSpaces.Admin

open Logging (Line)

/-- Variables as the system lists them, with a zero byte after each. -/
def variablesOf (listing : String) : List (String × String) :=
  (listing.toList.splitOn '\x00').filterMap fun cs =>
    match cs.dropWhile (· ≠ '=') with
    | [] => none
    | _ :: value => some (String.ofList (cs.takeWhile (· ≠ '=')), String.ofList value)

def lineText (l : Line) : String :=
  if l.setup.json then
    Document.Json.write (.record [("level", .text l.level.name), ("target", .text l.target),
      ("fields", l.fieldsDocument)])
  else
    l.level.name ++ " " ++ l.target ++ ": " ++ " ".intercalate (l.fields.map fun f =>
      if f.1 = "message" then f.2 else f.1 ++ "=" ++ f.2)

def textOf (path : String) : IO String := do
  try IO.FS.readFile path catch _ => return ""

def surroundings (args : List String) : IO Surroundings := do
  let listing ← textOf "/proc/self/environ"
  let file ← textOf "config/spaces.json"
  return ⟨args, variablesOf listing, ((Document.Json.read? file).map Settings.fieldsOf).getD []⟩

def write (r : Report) : IO Unit := do
  for l in r.log do IO.println (lineText l)
  for s in r.output do IO.println s
  for s in r.complaints do IO.eprintln s

end ChatSpaces.Admin

def main (args : List String) : IO UInt32 := do
  let report := ChatSpaces.Admin.Program.run (← ChatSpaces.Admin.surroundings args) (fun _ => none)
  ChatSpaces.Admin.write report
  return report.exit.toUInt32
