import ChatSpaces.Number.Word
import ChatSpaces.Policy
import ChatSpaces.Settings.Layer
import ChatSpaces.Settings.Value
import ChatSpaces.Text.Blank

/-!
# Settings

Settings come in layers: what is built in, a file, the variables of the environment, and an override of
the address of the database. The tree that results is read into `Settings`, and then checked. The first
check that fails is the one reported.
-/

namespace ChatSpaces

inductive Environment where
  | development
  | staging
  | production
deriving DecidableEq, Repr

namespace Environment

def name : Environment → String
  | .development => "development"
  | .staging => "staging"
  | .production => "production"

def title : Environment → String
  | .development => "Development"
  | .staging => "Staging"
  | .production => "Production"

def ofName? (s : String) : Option Environment :=
  if Text.SameWord s "development" then some .development
  else if Text.SameWord s "staging" then some .staging
  else if Text.SameWord s "production" then some .production
  else none

@[simp] theorem ofName?_name (e : Environment) : ofName? e.name = some e := by cases e <;> decide

end Environment

structure Settings where
  name : String
  environment : Environment
  databaseUrl : String
  maxConnections : Nat
  minConnections : Nat
  /-- Seconds to wait for a connection. -/
  acquireTimeout : Nat
  worker : Nat
  /-- The names of the restraint kinds that deny posting, as they were written. -/
  denyingKinds : List String
  logLevel : String
  jsonLogs : Bool
deriving DecidableEq, Repr

namespace Settings

inductive Fault where
  | unreadable
  | missing (setting : String)
  | invalid (setting text : String)
deriving DecidableEq, Repr

def Fault.message : Fault → String
  | .unreadable => "Failed to load configuration"
  | .missing setting => "Missing required setting: " ++ setting
  | .invalid setting text => "Invalid value for " ++ setting ++ ": " ++ text

/-- What is built in. Only the address of the database has no default. -/
def defaults : Document :=
  .record [
    ("app", .record [("name", .text "spaces"), ("env", .text "development")]),
    ("database", .record [("max_connections", .whole 20), ("min_connections", .whole 2),
      ("acquire_timeout_secs", .whole 5)]),
    ("snowflake", .record [("worker_id", .whole 0)]),
    ("moderation", .record [("posting_blocked_kinds",
      .list (Restraint.Kind.all.map fun k => .text k.name))]),
    ("telemetry", .record [("level", .text "info"), ("json", .bool false)])]

/-- The named values of a section, all of which must be there. A section may also be a list that begins
with them. -/
def section? (names : List String) (d : Option Document) : Option (List Document) := do
  match ← d with
  | .record fields => names.mapM (fieldIn · fields)
  | .list items => if names.length ≤ items.length then some (items.take names.length) else none
  | _ => none

def ofDocument? (d : Document) : Option Settings := do
  let fields := fieldsOf d
  let [name, environment] ← section? ["name", "env"] (fieldIn "app" fields) | none
  let [url, most, least, timeout] ← section?
    ["url", "max_connections", "min_connections", "acquire_timeout_secs"]
    (fieldIn "database" fields) | none
  let [worker] ← section? ["worker_id"] (fieldIn "snowflake" fields) | none
  let [kinds] ← section? ["posting_blocked_kinds"] (fieldIn "moderation" fields) | none
  let [level, json] ← section? ["level", "json"] (fieldIn "telemetry" fields) | none
  return {
    name := ← text? name
    environment := ← (choice? environment).bind Environment.ofName?
    databaseUrl := ← text? url
    maxConnections := ← natUpTo? Number.Word.max32 most
    minConnections := ← natUpTo? Number.Word.max32 least
    acquireTimeout := ← natUpTo? Number.Word.max64 timeout
    worker := ← natUpTo? Number.Word.max16 worker
    denyingKinds := ← texts? kinds
    logLevel := ← text? level
    jsonLogs := ← truth? json }

/-- Reads names of restraint kinds up to the first that names none. -/
def readKinds : List String → Except Restraint.Kind.Unknown (List Restraint.Kind)
  | [] => .ok []
  | raw :: rest =>
    match Restraint.Kind.read raw with
    | .error unknown => .error unknown
    | .ok kind => (readKinds rest).map (kind :: ·)

def policy (s : Settings) : Except Fault Policy :=
  match readKinds s.denyingKinds with
  | .error unknown => .error (.invalid "moderation.posting_blocked_kinds" unknown.message)
  | .ok kinds => .ok (Policy.ofKinds kinds)

def fault? (s : Settings) : Option Fault :=
  if Text.IsBlankText s.databaseUrl then some (.missing "database.url")
  else if 1024 ≤ s.worker then
    some (.invalid "snowflake.worker_id" (toString s.worker ++ " is not below 1024"))
  else if s.maxConnections < s.minConnections then
    some (.invalid "database.min_connections" "greater than database.max_connections")
  else match s.policy with
    | .error fault => some fault
    | .ok _ => none

/-- What is given from outside. It is gathered before it is put over what is built in, so a section that
the file takes away and a variable gives back is completed by the defaults. -/
def given (file : Fields) (vars : List (String × String)) : Document :=
  overlay (overlay (.record []) file) (ofVariables vars)

def layered (file : Fields) (vars : List (String × String)) (url : Option String) : Document :=
  let tree := overlay defaults (fieldsOf (given file vars))
  match url with
  | none => tree
  | some url => assignAt (.text url) tree [.name "database", .name "url"]

def ofTree (d : Document) : Except Fault Settings :=
  match ofDocument? d with
  | none => .error .unreadable
  | some s =>
    match s.fault? with
    | some fault => .error fault
    | none => .ok s

def load (file : Fields) (vars : List (String × String)) (url : Option String) :
    Except Fault Settings :=
  ofTree (layered file vars url)

theorem ofTree_eq_ok_iff {d : Document} {s : Settings} :
    ofTree d = .ok s ↔ ofDocument? d = some s ∧ s.fault? = none := by
  unfold ofTree
  split
  · simp_all
  · split
    · simp_all
      rintro rfl
      simp_all
    · simp_all
      rintro rfl
      assumption

end Settings

structure Pool where
  url : String
  maxConnections : Nat
  minConnections : Nat
  acquireTimeout : Nat
  /-- Seconds after which an unused connection is closed. -/
  idleTimeout : Nat
deriving DecidableEq, Repr

def Settings.pool (s : Settings) : Pool :=
  ⟨s.databaseUrl, s.maxConnections, s.minConnections, s.acquireTimeout, 300⟩

namespace Settings

def poolFields (p : Pool) : Fields :=
  [("url", .text p.url), ("max_connections", .whole p.maxConnections),
   ("min_connections", .whole p.minConnections), ("acquire_timeout_secs", .whole p.acquireTimeout)]

def document (s : Settings) : Document :=
  .record [
    ("app", .record [("name", .text s.name), ("env", .text s.environment.name),
      ("is_production", .bool (s.environment = .production)),
      ("is_development", .bool (s.environment = .development))]),
    ("database", .record (poolFields s.pool)),
    ("worker_id", .whole s.worker),
    ("posting_blocked_kinds", .texts s.denyingKinds),
    ("policy", match s.policy with
      | .ok p => .texts (p.denying.map (·.name))
      | .error _ => .null),
    ("telemetry", .record [("level", .text s.logLevel), ("json", .bool s.jsonLogs)]),
    ("pool", .record (poolFields s.pool ++ [("idle_timeout_secs", .whole s.pool.idleTimeout)]))]

end Settings

end ChatSpaces
