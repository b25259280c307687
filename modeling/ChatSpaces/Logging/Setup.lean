import ChatSpaces.Document
import ChatSpaces.Logging.Filter

/-!
# How a program logs

A setup says from which level on events are logged and what a line shows. It is installed once in the life
of a program; a filter given by the surroundings of the program then takes the place of the level, if it
can be read.
-/

namespace ChatSpaces.Logging

structure Setup where
  level : Level
  /-- Lines of JSON instead of text. -/
  json : Bool
  spanEvents : Bool
  fileLine : Bool
  threadIds : Bool
deriving DecidableEq, Repr

inductive Fault where
  | alreadyInstalled
  | unknownLevel (text : String)
deriving DecidableEq, Repr

def Fault.message : Fault → String
  | .alreadyInstalled => "Tracing subscriber already initialized"
  | .unknownLevel text => "Invalid log level: " ++ text

namespace Setup

def default : Setup := ⟨.info, false, false, false, false⟩

def development : Setup := ⟨.debug, false, true, true, false⟩

def ofLevelText (text : String) (json : Bool) : Except Fault Setup :=
  match Level.ofText? (Text.trim text) with
  | none => .error (.unknownLevel text)
  | some level => .ok { default with level := level, json := json }

def document (s : Setup) : Document :=
  .record [("level", .text s.level.name), ("json", .bool s.json), ("span_events", .bool s.spanEvents),
    ("file_line", .bool s.fileLine), ("thread_ids", .bool s.threadIds)]

def filter (s : Setup) (given : Option String) : Filter :=
  match given.bind Filter.read? with
  | some f => f
  | none => .upTo s.level

end Setup

structure Line where
  level : Level
  target : String
  /-- The message, then the fields of the event. -/
  fields : List (String × String)
  setup : Setup
deriving DecidableEq, Repr

namespace Line

def message (l : Line) : String :=
  ((l.fields.find? (fun f => f.1 = "message")).map Prod.snd).getD ""

def fieldsDocument (l : Line) : Document := .record (l.fields.map fun f => (f.1, .text f.2))

end Line

structure Logger where
  installed : Option (Setup × Filter)
deriving DecidableEq, Repr

namespace Logger

def silent : Logger := ⟨none⟩

def install (l : Logger) (s : Setup) (given : Option String) : Except Fault Logger :=
  match l.installed with
  | some _ => .error .alreadyInstalled
  | none => .ok ⟨some (s, s.filter given)⟩

/-- The line for what happens at a target, unless it is left out. -/
def line? (s : Setup) (f : Filter) (target : String) (o : Occurrence) : Option Line :=
  if f.admits target o && (o.isEvent || s.spanEvents) then some ⟨o.level, target, o.fields, s⟩ else none

def log (l : Logger) (target : String) (happened : List Occurrence) : List Line :=
  match l.installed with
  | none => []
  | some (s, f) => happened.filterMap (line? s f target)

/-- Nothing is installed a second time. -/
theorem install_of_install {l m : Logger} {s t : Setup} {given given' : Option String}
    (h : l.install s given = .ok m) : m.install t given' = .error .alreadyInstalled := by
  unfold install at h
  split at h
  · cases h
  · cases h
    rfl

end Logger

end ChatSpaces.Logging
