import ChatSpaces.Admin.Command

/-!
# The command line

Options stand before the command, what belongs to the command after it. The first thing that is wrong or
asks for help ends the reading. The value of an option counts only when the next argument that is not a
command is read: that is when a missing value and a repeated option are noticed.
-/

namespace ChatSpaces.Admin

structure Arguments where
  command : Command
  logLevel : Option String
  jsonLogs : Bool
  databaseUrl : Option String
deriving DecidableEq, Repr

namespace Arguments

/-- What is answered instead of carrying out a command. -/
inductive Usage where
  | help
  | version
  | error
deriving DecidableEq, Repr

inductive ValueOption where
  | logLevel
  | databaseUrl
deriving DecidableEq, Repr

structure Progress where
  logLevel : Option String
  jsonLogs : Bool
  databaseUrl : Option String
  /-- The option that was read last, with its value once that is read. -/
  pending : Option (ValueOption × Option String)
deriving DecidableEq, Repr

abbrev Reading := Except Usage

namespace Progress

def nothing : Progress := ⟨none, false, none, none⟩

def set (p : Progress) (o : ValueOption) (value : String) : Reading Progress :=
  match o with
  | .logLevel => if p.logLevel.isSome then .error .error else .ok { p with logLevel := some value }
  | .databaseUrl =>
    if p.databaseUrl.isSome then .error .error else .ok { p with databaseUrl := some value }

def settle (p : Progress) : Reading Progress :=
  match p.pending with
  | none => .ok p
  | some (_, none) => .error .error
  | some (o, some value) => { p with pending := none }.set o value

/-- An option with its value in one argument, or one that waits for the next. -/
def option (p : Progress) (o : ValueOption) (value : Option String) : Reading Progress := do
  let p ← p.settle
  match value with
  | some v => p.set o v
  | none => return { p with pending := some (o, none) }

def jsonFlag (p : Progress) : Reading Progress := do
  let p ← p.settle
  if p.jsonLogs then throw .error else return { p with jsonLogs := true }

/-- Ends the reading, unless the pending option is wrong. -/
def stop (p : Progress) (u : Usage) : Reading Progress := do
  let _ ← p.settle
  throw u

def waiting? (p : Progress) : Option ValueOption :=
  match p.pending with
  | some (o, none) => some o
  | _ => none

end Progress

def splitValue (cs : List Char) : String × Option String :=
  (String.ofList (cs.takeWhile (· ≠ '=')),
    match cs.dropWhile (· ≠ '=') with
    | [] => none
    | _ :: value => some (String.ofList value))

def longArgument (p : Progress) (cs : List Char) : Reading Progress :=
  match splitValue cs with
  | ("log-level", value) => p.option .logLevel value
  | ("database-url", value) => p.option .databaseUrl value
  | ("json-logs", none) => p.jsonFlag
  | ("help", none) => p.stop .help
  | ("version", none) => p.stop .version
  | _ => .error .error

def shortArgument (p : Progress) : List Char → Reading Progress
  | 'h' :: _ => p.stop .help
  | 'V' :: _ => p.stop .version
  | ['l'] => p.option .logLevel none
  | 'l' :: '=' :: value => p.option .logLevel (some (String.ofList value))
  | 'l' :: value => p.option .logLevel (some (String.ofList value))
  | _ => .error .error

inductive CommandName where
  | provision
  | teardown
  | compact
  | help
deriving DecidableEq, Repr

def CommandName.of? (s : String) : Option CommandName :=
  if s = "provision" then some .provision
  else if s = "teardown" then some .teardown
  else if s = "compact" then some .compact
  else if s = "help" then some .help
  else none

def helpOn : List String → Usage
  | [] => .help
  | [name] => if (CommandName.of? name).isSome then .help else .error
  | _ => .error

/-- What stands after a command: a flag that may be given once where the command takes it, and a pair of
dashes after which there is nothing. -/
def afterCommand (takesYes yes : Bool) : List String → Reading Bool
  | [] => .ok yes
  | arg :: rest =>
    if arg = "--" then (if rest.isEmpty then .ok yes else .error .error)
    else if arg = "--help" then .error .help
    else if arg.toList.take 2 = ['-', 'h'] then .error .help
    else if arg = "--yes" ∧ takesYes = true ∧ yes = false then afterCommand takesYes true rest
    else .error .error

def commandWith (rest : List String) : CommandName → Reading Command
  | .provision => (afterCommand false false rest).map fun _ => .provision
  | .teardown => (afterCommand true false rest).map .teardown
  | .compact => (afterCommand false false rest).map fun _ => .compact
  | .help => .error (helpOn rest)

def commandName? (p : Progress) (arg : String) : Option CommandName :=
  if p.waiting?.isSome then none else CommandName.of? arg

/-- An argument that is no command: a pair of dashes alone, options, or the value of the option that
waits. -/
def optionArgument (p : Progress) (arg : String) : Reading Progress :=
  match arg.toList with
  | ['-', '-'] => .error .error
  | '-' :: '-' :: cs => longArgument p cs
  | '-' :: c :: cs => shortArgument p (c :: cs)
  | _ =>
    match p.waiting? with
    | some o => .ok { p with pending := some (o, some arg) }
    | none => .error .error

/-- Reads up to the command and what stands after it; without a command nothing is asked for. -/
def readFrom (p : Progress) : List String → Reading (Progress × Command)
  | [] => .error .error
  | arg :: rest =>
    match commandName? p arg with
    | some name => do
      let c ← commandWith rest name
      return (← p.settle, c)
    | none =>
      match optionArgument p arg with
      | .ok p => readFrom p rest
      | .error u => .error u

/-- Reads the arguments after the name of the program. The address of the database may come from a
variable if no option gives it. -/
def read (args : List String) (databaseVariable : Option String) : Reading Arguments := do
  let (p, c) ← readFrom .nothing args
  return ⟨c, p.logLevel, p.jsonLogs, p.databaseUrl.or databaseVariable⟩

end Arguments

end ChatSpaces.Admin
