import ChatSpaces.Admin.Arguments
import ChatSpaces.Logging.Setup

/-!
# The administration program

From the arguments and variables of the program to its end: arguments, settings, logging, connection and
command. What a run tells the world is its exit code, what it says on the error output and its log.
-/

namespace ChatSpaces.Admin

open Logging (Line Logger Occurrence Setup)

structure Surroundings where
  args : List String
  vars : List (String × String)
  file : Settings.Fields

/-- The value of the last variable of that name. -/
def Surroundings.value? (s : Surroundings) (name : String) : Option String :=
  (s.vars.reverse.find? (fun v => v.1 = name)).map Prod.snd

structure Report where
  exit : Nat
  complaints : List String
  output : List String
  log : List Line
deriving DecidableEq, Repr

namespace Program

def target : String := "spaces_admin"

/-- The setup for logging: arguments go before settings. -/
def loggingSetup (a : Arguments) (s : Settings) : Except Logging.Fault Setup :=
  Setup.ofLevelText (a.logLevel.getD s.logLevel) (s.jsonLogs || a.jsonLogs)

def logger (a : Arguments) (s : Settings) (filter : Option String) : Logger × List String :=
  match (loggingSetup a s).bind (Logger.silent.install · filter) with
  | .ok l => (l, [])
  | .error fault => (.silent, ["Warning: Failed to initialize tracing: " ++ fault.message])

def started (a : Arguments) (s : Settings) : Occurrence :=
  .event .info "spaces-admin starting" [("command", a.command.name), ("env", s.environment.title)]

def failed (a : Arguments) (text : String) : Occurrence :=
  .event .error "Command failed" [("error", text), ("command", a.command.name)]

def unreachable : String := "failed to connect to PostgreSQL"

def outcomeText : Outcome → String
  | .provisioned => "provisioned"
  | .tornDown => "torn down"
  | .compacted removed => "removed " ++ toString removed ++ " expired restraint(s)"

/-- A database that can be reached carries out commands. -/
abbrev Connection := Command → Settings → Except Fault Outcome

def carryOut (a : Arguments) (s : Settings) : Option Connection → Except String Outcome
  | none => .error unreachable
  | some database =>
    match database a.command s with
    | .ok outcome => .ok outcome
    | .error fault => .error fault.message

def runWith (a : Arguments) (s : Settings) (around : Surroundings) (database : Option Connection) :
    Report :=
  let (l, complaints) := logger a s (around.value? "RUST_LOG")
  match carryOut a s database with
  | .ok outcome => ⟨0, complaints, [outcomeText outcome], l.log target [started a s]⟩
  | .error text => ⟨1, complaints, [], l.log target [started a s, failed a text]⟩

/-- A run of the program. Where the address of the database leads is a matter of the surroundings. -/
def run (around : Surroundings) (connect : String → Option Connection) : Report :=
  match Arguments.read around.args (around.value? "DATABASE_URL") with
  | .error .error => ⟨2, ["usage"], [], []⟩
  | .error _ => ⟨0, [], [], []⟩
  | .ok a =>
    match Settings.load around.file around.vars a.databaseUrl with
    | .error fault => ⟨2, ["Failed to load configuration: " ++ fault.message], [], []⟩
    | .ok s => runWith a s around (connect s.databaseUrl)

end Program

end ChatSpaces.Admin
