import ChatSpaces.Failure
import ChatSpaces.Visibility

/-!
# Talking to a relational store

The condition that hides deleted rows in a query, and what the errors of the database become.
-/

namespace ChatSpaces.Sql

def liveCondition (table : String) : String := " AND " ++ table ++ ".deleted = FALSE"

/-- The conditions on the joined tables, each named by its alias; none when deleted rows are wanted. -/
def liveFilter (v : Visibility) (aliases : List String) : String :=
  if v.includesDeleted then "" else String.join (aliases.map liveCondition)

inductive Fault where
  | database (text : String) (isUnique : Bool)
  | rowNotFound
  | protocol (text : String)
deriving DecidableEq, Repr

namespace Fault

def text : Fault → String
  | .database t _ => "error returned from database: " ++ t
  | .rowNotFound => "no rows returned by a query that expected to return at least one row"
  | .protocol t => "encountered unexpected or invalid data: " ++ t

def toFailure (f : Fault) : Failure := .database f.text

/-- An insertion that breaks a unique index is reported as the duplicate it would make. -/
def toFailureUnlessUnique (record : String) : Fault → Failure
  | .database _ true => .duplicate record
  | f => f.toFailure

end Fault

end ChatSpaces.Sql
