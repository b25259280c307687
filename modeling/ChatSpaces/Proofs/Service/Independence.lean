import ChatSpaces.Proofs.Service.History
import ChatSpaces.Proofs.Tables.Personal

/-!
# Calls for different users

The calls that make, change and end memberships and restraints are each for one user, and they are personal to that
user: step by step they look at nothing and change nothing that belongs to another. So calls for different users can
be taken in either order, and sequences of them can be interleaved in any way, without anybody being told anything
else or the tables coming out differently.
-/

namespace ChatSpaces.Service

open Tables (Personal Inserts)

/-- The user whose memberships or restraints a call makes, changes or ends. -/
def Call.target? : Call → Option Ident
  | addSpaceMember _ user _ | addChannelMember _ user | removeMember _ user | setSpaceRole _ user _
  | restrain _ user _ _ | revokeRestraint _ user => some user
  | _ => none

def Call.Apart (x y : Call) : Prop := ∃ user other, x.target? = some user ∧ y.target? = some other ∧ user ≠ other

theorem Call.Apart.symm {x y : Call} (h : x.Apart y) : y.Apart x := by
  obtain ⟨user, other, first, second, apart⟩ := h
  exact ⟨other, user, second, first, apart.symm⟩

inductive Interleaving {α : Type} : List α → List α → List α → Prop
  | nil : Interleaving [] [] []
  | left {x xs ys zs} : Interleaving xs ys zs → Interleaving (x :: xs) ys (x :: zs)
  | right {y xs ys zs} : Interleaving xs ys zs → Interleaving xs (y :: ys) (y :: zs)

namespace Action

variable {α β : Type} {user : Ident}

/-- Every step of the action is personal to the user, and no identifier is drawn. -/
def About (user : Ident) : Action α → Prop
  | .done _ => True
  | .refuse _ => True
  | .enter rest => rest.About user
  | .touch f next => Personal user f ∧ ∀ b, (next b).About user
  | .draw _ _ => False
  | .commit rest => rest.About user

theorem About.personal {a : Action α} (h : a.About user) :
    ∃ f : Tables → Except Refusal α × Tables, Personal user f ∧
      ∀ {l t o u}, a.Yields l t o u → l = [] ∧ o = (f t).1 ∧ u = (f t).2 := by
  induction a with
  | done x => exact ⟨fun t => (.ok x, t), .look fun _ => rfl, id⟩
  | refuse r => exact ⟨fun t => (.error r, t), .look fun _ => rfl, id⟩
  | enter rest ih | commit rest ih => exact ih h
  | touch f next ih =>
    choose g personal ends using fun b => ih b (h.2 b)
    exact ⟨fun t => g (f t).1 (f t).2, h.1.bind personal, fun yields => ends _ yields⟩
  | draw wall next ih => exact h.elim

theorem about_bind {a : Action α} {k : α → Action β} (first : a.About user) (second : ∀ x, (k x).About user) :
    (a >>= k).About user := by
  change (a.bind k).About user
  induction a with
  | done x => exact second x
  | refuse r => trivial
  | enter rest ih => exact ih first
  | touch f next ih => exact ⟨first.1, fun b => ih b (first.2 b)⟩
  | draw wall next ih => exact first.elim
  | commit rest ih => exact ih first

theorem about_map {f : α → β} {a : Action α} (h : a.About user) : (f <$> a).About user := by
  rw [← bind_pure_comp]
  exact about_bind h fun _ => trivial

theorem about_openUnit : openUnit.About user := trivial

theorem about_answer {x : α} : (commitUnit >>= fun _ => pure x).About user := trivial

theorem about_see {look : Tables → α} (same : ∀ {t u : Tables}, t.SameFor user u → look u = look t) :
    (see look).About user := ⟨.look same, fun _ => trivial⟩

theorem about_demand {look : Tables → Option α} {otherwise : Failure}
    (same : ∀ {t u : Tables}, t.SameFor user u → look u = look t) : (demand look otherwise).About user := by
  refine about_bind (about_see same) fun found => ?_
  cases found with
  | none => trivial
  | some row => trivial

theorem about_write {insertion : Tables → Except Failure Tables} (inserts : Inserts user insertion) :
    (write insertion).About user := by
  constructor
  · constructor
    · intro t u h
      have together := inserts.together h
      generalize insertion t = first at together ⊢
      generalize insertion u = second at together ⊢
      cases together <;> rfl
    · intro t u h
      have together := inserts.together h
      generalize insertion t = first at together ⊢
      generalize insertion u = second at together ⊢
      cases together with
      | failed f => exact h
      | done same => exact same
    · intro other t apart
      cases done : insertion t with
      | error f => exact .refl other t
      | ok u => exact inserts.others done apart
  · intro failure
    cases failure with
    | none => trivial
    | some f => trivial

theorem about_change {edit : Tables → Option Tables}
    (personal : Personal user fun t => ((edit t).isSome, (edit t).getD t)) : (change edit).About user := by
  refine ⟨personal.congr fun t => ?_, fun _ => trivial⟩
  cases edit t with
  | none => rfl
  | some u => rfl

theorem about_revise {edit : Tables → Option (α × Tables)}
    (personal : Personal user fun t => ((edit t).map Prod.fst, ((edit t).map Prod.snd).getD t)) :
    (revise edit).About user := by
  refine ⟨personal.congr fun t => ?_, fun _ => trivial⟩
  cases edit t with
  | none => rfl
  | some found => rfl

theorem about_tally {edit : Tables → Nat × Tables} (personal : Personal user edit) : (tally edit).About user :=
  ⟨personal, fun _ => trivial⟩

theorem about_check {ps : List Request.Problem} : (check ps).About user := by
  unfold check
  split
  · trivial
  · trivial

end Action

section Calls

open Service.Action

variable {c : Context} {user : Ident}

theorem about_demandUser {id : Ident} : (demandUser id).About user :=
  about_demand fun h => by rw [Tables.user?, Tables.user?, h.users]

theorem about_demandSpace {id : Ident} : (demandSpace id).About user :=
  about_demand fun h => by rw [Tables.space?, Tables.space?, h.spaces]

theorem about_demandChannel {id : Ident} : (demandChannel id).About user :=
  about_demand fun h => by rw [Tables.channel?, Tables.channel?, h.channels]

theorem about_demandScope {scope : Scope} : (demandScope scope).About user := by
  cases scope with
  | space id => exact about_bind about_demandSpace fun _ => trivial
  | channel id => exact about_bind about_demandChannel fun _ => trivial

theorem about_addSpaceMember {space : Ident} {role : Role} : (addSpaceMember c space user role).About user :=
  about_bind about_openUnit fun _ => about_bind about_demandSpace fun _ => about_bind about_demandUser fun _ =>
    about_bind (about_write (Tables.inserts_insertSpaceMember ⟨space, user, role, c.now⟩)) fun _ => about_answer

theorem about_addChannelMember {channel : Ident} : (addChannelMember c channel user).About user := by
  refine about_bind about_openUnit fun _ => about_bind about_demandChannel fun ch =>
    about_bind about_demandUser fun _ => about_bind (about_see fun h => h.spaceMembers ch.space) fun member => ?_
  split
  · trivial
  · exact about_bind (about_write (Tables.inserts_insertChannelMember ⟨channel, user, c.now⟩)) fun _ => about_answer

theorem about_endMembership {scope : Scope} : (endMembership user scope).About user := by
  cases scope with
  | space id =>
    exact about_bind (about_change (Tables.personal_removeSpaceMember? id user)) fun _ =>
      about_bind (about_tally (Tables.personal_removeChannelMembersIn id user)) fun _ => trivial
  | channel id => exact about_change (Tables.personal_removeChannelMember? id user)

theorem about_removeMember {scope : Scope} : (removeMember scope user).About user :=
  about_bind about_openUnit fun _ => about_bind about_endMembership fun _ => about_answer

theorem about_setSpaceRole {space : Ident} {role : Role} : (setSpaceRole space user role).About user := by
  refine about_bind about_openUnit fun _ => about_bind about_demandSpace fun _ =>
    about_bind (about_revise (Tables.personal_setRole? space user role)) fun found => ?_
  cases found with
  | none => trivial
  | some m => exact about_answer

theorem about_restrain {scope : Scope} {issuedBy : Ident} {r : Restrain} :
    (restrain c scope user issuedBy r).About user := by
  let made : Restraint := ⟨scope, user, r.kind, r.expiresAt, issuedBy, c.now, r.reason⟩
  exact about_bind about_check fun _ => about_bind about_openUnit fun _ => about_bind about_demandScope fun _ =>
    about_bind about_demandUser fun _ => about_bind (about_write (Tables.inserts_putRestraint made)) fun _ => trivial

theorem about_revokeRestraint {scope : Scope} : (revokeRestraint scope user).About user :=
  about_bind about_openUnit fun _ =>
    about_bind (about_change (Tables.personal_removeRestraint? scope user)) fun _ => about_answer

theorem about_perform {call : Call} (target : call.target? = some user) : (call.perform c).About user := by
  cases call with
  | addSpaceMember =>
    cases target
    exact about_map about_addSpaceMember
  | addChannelMember =>
    cases target
    exact about_map about_addChannelMember
  | removeMember =>
    cases target
    exact about_map about_removeMember
  | setSpaceRole =>
    cases target
    exact about_map about_setSpaceRole
  | restrain =>
    cases target
    exact about_map about_restrain
  | revokeRestraint =>
    cases target
    exact about_map about_revokeRestraint
  | _ => cases target

end Calls

namespace Deployment

variable {user : Ident} {x y : Call}

theorem not_isRead_of_target {c : Call} (target : c.target? = some user) : c.isRead = false := by
  cases c with
  | addSpaceMember | addChannelMember | removeMember | setSpaceRole | restrain | revokeRestraint => rfl
  | _ => cases target

theorem personal_call (d : Deployment) {c : Call} (target : c.target? = some user) :
    ∃ f : Tables → Except Refusal Answer × Tables, Personal user f ∧
      ∀ t, ({ d with tables := t } : Deployment).call c = ((f t).1, { d with tables := (f t).2 }) := by
  obtain ⟨f, personal, ends⟩ := (about_perform (c := d.context) target).personal
  refine ⟨_, personal.settle, fun t => ?_⟩
  have writes : c.isRead = false := not_isRead_of_target target
  obtain ⟨u, yields, left⟩ := ({ d with tables := t } : Deployment).call_spec c
  obtain ⟨undrawn, answer, rfl⟩ := ends yields
  have still := Generator.afterDraws_of_draws_eq_nil undrawn
  refine Prod.ext answer (left.trans ?_)
  simp only [answer, writes, and_true, still]

theorem call_commute (d : Deployment) (apart : x.Apart y) :
    ((d.call x).2.call y).1 = (d.call y).1 ∧ ((d.call y).2.call x).1 = (d.call x).1 ∧
      ((d.call x).2.call y).2 = ((d.call y).2.call x).2 := by
  obtain ⟨user, other, target, target', different⟩ := apart
  obtain ⟨f, personal, first⟩ := d.personal_call target
  obtain ⟨g, personal', second⟩ := d.personal_call target'
  have here : d.call x = ((f d.tables).1, { d with tables := (f d.tables).2 }) := first d.tables
  have there : d.call y = ((g d.tables).1, { d with tables := (g d.tables).2 }) := second d.tables
  obtain ⟨answer, answer', tables⟩ := personal.commute personal' different d.tables
  rw [here, there, second, first, answer, answer', tables]
  exact ⟨rfl, rfl, rfl⟩

/-- A call that is made before others, which are for other users, is not noticed by these, and could as well be made
after them. -/
theorem after_commute (d : Deployment) {ys : List Call} (apart : ∀ y ∈ ys, x.Apart y) :
    (d.call x).2.history (ys.map .call) = d.history (ys.map .call) ∧
      (d.call x).2.after (ys.map .call) = ((d.after (ys.map .call)).call x).2 := by
  induction ys generalizing d with
  | nil => exact ⟨rfl, rfl⟩
  | cons y ys ih =>
    obtain ⟨answer, -, swap⟩ := d.call_commute (apart y (.head ys))
    obtain ⟨told, left⟩ := ih (d.call y).2 fun z mem => apart z (.tail y mem)
    have now : (d.call x).2.now = d.now := congrArg Context.now (context_call d x)
    constructor
    · change .call (d.call x).2.now y _ :: ((d.call x).2.call y).2.history _ = _ :: (d.call y).2.history _
      rw [answer, now, swap, told]
    · change ((d.call x).2.call y).2.after _ = _
      rw [swap, left]
      rfl

theorem after_interleaving {xs ys zs : List Call} (interleaving : Interleaving xs ys zs) (d : Deployment)
    (apart : ∀ x ∈ xs, ∀ y ∈ ys, x.Apart y) :
    Interleaving (d.history (xs.map .call)) (d.history (ys.map .call)) (d.history (zs.map .call)) ∧
      d.after (zs.map .call) = d.after ((xs ++ ys).map .call) := by
  induction interleaving generalizing d with
  | nil => exact ⟨.nil, rfl⟩
  | @left x xs ys zs _ ih =>
    obtain ⟨told, left⟩ := ih (d.call x).2 fun z mem => apart z (.tail x mem)
    rw [(d.after_commute (apart x (.head xs))).1] at told
    exact ⟨.left told, left⟩
  | @right y xs ys zs _ ih =>
    obtain ⟨told, left⟩ := ih (d.call y).2 fun z mem w mem' => apart z mem w (.tail y mem')
    have others : ∀ z ∈ xs, y.Apart z := fun z mem => (apart z mem y (.head ys)).symm
    have unseen := d.after_commute others
    rw [unseen.1] at told
    refine ⟨.right told, left.trans ?_⟩
    simp only [after, List.map_append, List.foldl_append] at unseen ⊢
    rw [unseen.2]
    rfl

/-- Calls that make, change or end the memberships and restraints of different users are independent. Whatever is stored
and whatever the time is, either of two such calls is answered as if the other were not made, and both orders leave the
same behind. So sequences of them may be interleaved in any way: each is told what it would be told alone, and what is
left is what the one sequence and then the other would leave. -/
theorem different_users_are_independent (d : Deployment) :
    (∀ x y : Call, x.Apart y →
      ((d.call x).2.call y).1 = (d.call y).1 ∧ ((d.call y).2.call x).1 = (d.call x).1 ∧
        ((d.call x).2.call y).2 = ((d.call y).2.call x).2) ∧
      ∀ xs ys zs : List Call, (∀ x ∈ xs, ∀ y ∈ ys, x.Apart y) → Interleaving xs ys zs →
        Interleaving (d.history (xs.map .call)) (d.history (ys.map .call)) (d.history (zs.map .call)) ∧
          d.after (zs.map .call) = d.after ((xs ++ ys).map .call) :=
  ⟨fun _ _ apart => d.call_commute apart, fun _ _ _ apart interleaving => after_interleaving interleaving d apart⟩

/-- User 2 joins space 3 and its channel 4, while user 1, who owns the space, is banned there and leaves it. -/
theorem different_users_are_independent_joining :
    let d := Deployment.blank.after [.call (.createUser ⟨"ann", none⟩), .call (.createUser ⟨"bob", none⟩),
      .call (.createSpace ⟨1⟩ ⟨"home", none⟩), .call (.createChannel ⟨3⟩ ⟨"news"⟩),
      .call (.addChannelMember ⟨4⟩ ⟨1⟩)]
    let enter := Call.addSpaceMember ⟨3⟩ ⟨2⟩ .member
    let listen := Call.addChannelMember ⟨4⟩ ⟨2⟩
    let ban := Call.restrain (.space ⟨3⟩) ⟨1⟩ ⟨2⟩ ⟨.ban, none, none⟩
    let leave := Call.removeMember (.space ⟨3⟩) ⟨1⟩
    enter.Apart leave ∧ ((d.call leave).2.call enter).1 = (d.call enter).1 ∧
      Interleaving [enter, listen] [ban, leave] [ban, enter, leave, listen] ∧
      (d.after [.call ban, .call enter, .call leave, .call listen]).tables.channelMembers.entries.map (·.1) =
        [(⟨4⟩, ⟨2⟩)] := by
  intro d enter listen ban leave
  have apart : ∀ x ∈ [enter, listen], ∀ y ∈ [ban, leave], x.Apart y := by
    intro x mem y mem'
    have target : ∀ x ∈ [enter, listen], x.target? = some ⟨2⟩ := by decide
    have target' : ∀ y ∈ [ban, leave], y.target? = some ⟨1⟩ := by decide
    exact ⟨⟨2⟩, ⟨1⟩, target x mem, target' y mem', by decide⟩
  have interleaving : Interleaving [enter, listen] [ban, leave] [ban, enter, leave, listen] :=
    .right (.left (.right (.left .nil)))
  obtain ⟨either, any⟩ := different_users_are_independent d
  have different : enter.Apart leave := apart enter (.head _) leave (.tail _ (.head _))
  have left : d.after [.call ban, .call enter, .call leave, .call listen] =
      d.after [.call enter, .call listen, .call ban, .call leave] := (any _ _ _ apart interleaving).2
  refine ⟨different, (either _ _ different).2.1, interleaving, ?_⟩
  rw [left]
  decide

end Deployment

end ChatSpaces.Service
