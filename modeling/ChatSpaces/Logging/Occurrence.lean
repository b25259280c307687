import ChatSpaces.Logging.Level

/-!
# What is logged

At a target of a program events happen, and spans are opened and closed around them.
-/

namespace ChatSpaces.Logging

inductive Occurrence where
  | event (level : Level) (message : String) (fields : List (String × String))
  | opened (level : Level)
  | closed (level : Level)
deriving DecidableEq, Repr

namespace Occurrence

def level : Occurrence → Level
  | .event level _ _ => level
  | .opened level => level
  | .closed level => level

def isEvent : Occurrence → Bool
  | .event _ _ _ => true
  | _ => false

/-- What a line shows of it: the message, then the fields of an event. -/
def fields : Occurrence → List (String × String)
  | .event _ message fields => ("message", message) :: fields
  | .opened _ => [("message", "new")]
  | .closed _ => [("message", "close")]

/-- Whether a filter may take it for one with a field of that name. Spans may get fields later, so no name
is ruled out for them. -/
def mayHave (name : String) (o : Occurrence) : Bool :=
  !o.isEvent || o.fields.any (fun f => f.1 = name)

end Occurrence

end ChatSpaces.Logging
