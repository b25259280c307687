import ChatSpaces.Restraint

/-!
# Which restraints deny posting

A policy is a set of restraint kinds. Its list of kinds is sorted by name and names each once, so two
policies that deny the same kinds are the same.
-/

namespace ChatSpaces

structure Policy where
  denying : List Restraint.Kind
deriving DecidableEq, Repr

namespace Policy

def insertKind (k : Restraint.Kind) : List Restraint.Kind → List Restraint.Kind
  | [] => [k]
  | l :: ls => if k = l then l :: ls else if k.rank < l.rank then k :: l :: ls else l :: insertKind k ls

def ofKinds (ks : List Restraint.Kind) : Policy := ⟨ks.foldr insertKind []⟩

/-- Every kind denies posting unless the settings say otherwise. -/
def default : Policy := ofKinds Restraint.Kind.all

def denies (p : Policy) (k : Restraint.Kind) : Bool := p.denying.contains k

theorem mem_insertKind {k l : Restraint.Kind} {ls : List Restraint.Kind} :
    k ∈ insertKind l ls ↔ k = l ∨ k ∈ ls := by
  induction ls with
  | nil => simp [insertKind]
  | cons m ls ih =>
    unfold insertKind
    split
    · simp_all
    · split
      · simp
      · simp only [List.mem_cons, ih]
        grind

theorem mem_ofKinds {k : Restraint.Kind} {ks : List Restraint.Kind} :
    k ∈ (ofKinds ks).denying ↔ k ∈ ks := by
  induction ks with
  | nil => simp [ofKinds]
  | cons l ks ih =>
    simp only [ofKinds, List.foldr_cons] at ih ⊢
    rw [mem_insertKind, ih, List.mem_cons]

@[simp] theorem denies_ofKinds (k : Restraint.Kind) (ks : List Restraint.Kind) :
    (ofKinds ks).denies k = true ↔ k ∈ ks := by
  simp [denies, mem_ofKinds]

end Policy

end ChatSpaces
