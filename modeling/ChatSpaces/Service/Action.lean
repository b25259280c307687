import ChatSpaces.Ident.Generator
import ChatSpaces.Policy
import ChatSpaces.Request
import ChatSpaces.Tables.Change
import ChatSpaces.Tables.Lookup

/-!
# Actions

What the services do is written in actions: trees of steps that open a unit of work, look at its copy of
the tables or change it, draw identifiers, and commit the copy, up to an answer or a refusal. `Action.run`
takes all the steps at once. What has not been committed by the end is lost with the copy, and a used
identifier is never taken back. The `run_` lemmas say what each part of an action does to the work.
-/

namespace ChatSpaces.Service

open Time (Instant)

structure Work where
  committed : Tables
  /-- The working copy of the unit of work. -/
  tables : Tables
  ids : Generator
deriving DecidableEq

/-- What an action is told and cannot change. -/
structure Context where
  policy : Policy
  now : Instant
  wall : Int

/-- Others may act between two steps, which is why the steps are kept apart. -/
inductive Action (α : Type) : Type 1 where
  | done (answer : α)
  | refuse (refusal : Refusal)
  /-- Opens the unit of work that the steps on the tables belong to, with a copy of the committed tables. -/
  | enter (rest : Action α)
  /-- Looks at the working copy and leaves another in its place. -/
  | touch {β : Type} (f : Tables → β × Tables) (next : β → Action α)
  | draw (wall : Int) (next : Ident → Action α)
  /-- Puts the working copy in the place of the committed tables. -/
  | commit (rest : Action α)

namespace Action

variable {α β : Type}

protected def bind : Action α → (α → Action β) → Action β
  | .done a, k => k a
  | .refuse r, _ => .refuse r
  | .enter rest, k => .enter (rest.bind k)
  | .touch f next, k => .touch f fun b => (next b).bind k
  | .draw wall next, k => .draw wall fun i => (next i).bind k
  | .commit rest, k => .commit (rest.bind k)

instance : Monad Action where
  pure := .done
  bind := Action.bind

theorem bind_done (a : Action α) : a.bind .done = a := by
  induction a with
  | done a => rfl
  | refuse r => rfl
  | enter rest ih => rw [Action.bind, ih]
  | touch f next ih => simp only [Action.bind, ih]
  | draw wall next ih => simp only [Action.bind, ih]
  | commit rest ih => rw [Action.bind, ih]

theorem bind_bind {γ : Type} (a : Action α) (k : α → Action β) (l : β → Action γ) :
    (a.bind k).bind l = a.bind fun x => (k x).bind l := by
  induction a with
  | done a => rfl
  | refuse r => rfl
  | enter rest ih => simp only [Action.bind, ih]
  | touch f next ih => simp only [Action.bind, ih]
  | draw wall next ih => simp only [Action.bind, ih]
  | commit rest ih => simp only [Action.bind, ih]

instance : LawfulMonad Action := LawfulMonad.mk' _ bind_done (fun _ _ => rfl) bind_bind

/-- Takes all the steps, with nobody else in between. -/
def run : Action α → Work → EStateM.Result Refusal Work α
  | .done a, w => .ok a w
  | .refuse r, w => .error r w
  | .enter rest, w => rest.run { w with tables := w.committed }
  | .touch f next, w => (next (f w.tables).1).run { w with tables := (f w.tables).2 }
  | .draw wall next, w => (next (w.ids.next wall).1).run { w with ids := (w.ids.next wall).2 }
  | .commit rest, w => rest.run { w with committed := w.tables }

def openUnit : Action Unit := .enter (.done ())

def commitUnit : Action Unit := .commit (.done ())

def fail (f : Failure) : Action α := .refuse (.failed f)

def see (look : Tables → α) : Action α := .touch (fun t => (look t, t)) .done

def demand (look : Tables → Option α) (otherwise : Failure) : Action α := do
  match ← see look with
  | some row => return row
  | none => fail otherwise

def write (insertion : Tables → Except Failure Tables) : Action Unit :=
  .touch
    (fun t => match insertion t with
      | .ok u => (none, u)
      | .error f => (some f, t))
    (fun
      | none => .done ()
      | some f => fail f)

/-- A change of a row that may be missing; answers the row after it. -/
def revise (edit : Tables → Option (α × Tables)) : Action (Option α) :=
  .touch
    (fun t => match edit t with
      | some (a, u) => (some a, u)
      | none => (none, t))
    .done

/-- A change of a row that may be missing; answers whether it was there. -/
def change (edit : Tables → Option Tables) : Action Bool :=
  .touch
    (fun t => match edit t with
      | some u => (true, u)
      | none => (false, t))
    .done

def changeOr (edit : Tables → Option Tables) (otherwise : Failure) : Action Unit := do
  if ← change edit then return () else fail otherwise

def tally (edit : Tables → Nat × Tables) : Action Nat := .touch edit .done

def freshIdent (c : Context) : Action Ident := .draw c.wall .done

def check (ps : List Request.Problem) : Action Unit :=
  if ps = [] then return () else .refuse (Request.refusal ps)

def permit : Option Violation → Action Unit
  | none => return ()
  | some v => fail (.violation v)

def demandSpace (id : Ident) : Action Space := demand (·.space? .live id) (.spaceNotFound id)

def demandChannel (id : Ident) : Action Channel := demand (·.channel? .live id) (.channelNotFound id)

def demandUser (id : Ident) : Action User := demand (·.user? id) (.userNotFound id)

def demandMessage (v : Visibility) (id : Ident) : Action Message :=
  demand (·.message? v id) (.messageNotFound id)

def demandOpenChannel (id : Ident) : Action ChannelInSpace :=
  demand (fun t => (t.channelInSpace? .live id).filter (·.spaceIsLive)) (.channelNotFound id)

@[simp] theorem run_pure (a : α) (w : Work) : (pure a : Action α).run w = .ok a w := rfl

theorem run_bind (a : Action α) (k : α → Action β) (w : Work) :
    (a >>= k).run w = match a.run w with
      | .ok x v => (k x).run v
      | .error r v => .error r v := by
  change (a.bind k).run w = _
  induction a generalizing w with
  | done a => rfl
  | refuse r => rfl
  | enter rest ih | commit rest ih => exact ih _
  | touch f next ih | draw wall next ih => exact ih _ _

theorem run_map (f : α → β) (a : Action α) (w : Work) :
    (f <$> a).run w = match a.run w with
      | .ok x v => .ok (f x) v
      | .error r v => .error r v := by
  rw [← bind_pure_comp, run_bind]
  rfl

@[simp] theorem run_openUnit (w : Work) : openUnit.run w = .ok () { w with tables := w.committed } := rfl

@[simp] theorem run_commitUnit (w : Work) : commitUnit.run w = .ok () { w with committed := w.tables } := rfl

@[simp] theorem run_see (look : Tables → α) (w : Work) : (see look).run w = .ok (look w.tables) w := rfl

@[simp] theorem run_fail (f : Failure) (w : Work) : (fail f : Action α).run w = .error (.failed f) w := rfl

theorem run_demand (look : Tables → Option α) (otherwise : Failure) (w : Work) :
    (demand look otherwise).run w = match look w.tables with
      | some row => .ok row w
      | none => .error (.failed otherwise) w := by
  rw [demand, run_bind, run_see]
  cases look w.tables <;> rfl

theorem run_write (insertion : Tables → Except Failure Tables) (w : Work) :
    (write insertion).run w = match insertion w.tables with
      | .ok t => .ok () { w with tables := t }
      | .error f => .error (.failed f) w := by
  rw [write, run]
  cases insertion w.tables <;> rfl

theorem run_change (edit : Tables → Option Tables) (w : Work) :
    (change edit).run w = match edit w.tables with
      | some t => .ok true { w with tables := t }
      | none => .ok false w := by
  rw [change, run]
  cases edit w.tables <;> rfl

@[simp] theorem run_tally (edit : Tables → Nat × Tables) (w : Work) :
    (tally edit).run w = .ok (edit w.tables).1 { w with tables := (edit w.tables).2 } := rfl

@[simp] theorem run_freshIdent (c : Context) (w : Work) :
    (freshIdent c).run w = .ok (w.ids.next c.wall).1 { w with ids := (w.ids.next c.wall).2 } := rfl

theorem run_check (ps : List Request.Problem) (w : Work) :
    (check ps).run w = if ps = [] then .ok () w else .error (Request.refusal ps) w := by
  unfold check
  split <;> rfl

theorem run_permit (v : Option Violation) (w : Work) :
    (permit v).run w = match v with
      | none => .ok () w
      | some v => .error (.failed (.violation v)) w := by
  cases v <;> rfl

end Action

def isModerator (t : Tables) (space user : Ident) : Bool :=
  (t.spaceMember? space user).any (·.canModerate)

def requireModerator (space user : Ident) : Action Unit := do
  if ← Action.see (isModerator · space user) then return ()
  else Action.fail (.violation (.notSpaceModerator space))

end ChatSpaces.Service
