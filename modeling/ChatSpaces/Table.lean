import ChatSpaces.Scope

/-!
# Tables

A table maps keys to rows. It is a list of pairs in strictly increasing order of the keys, so a key
occurs once and equal contents are equal tables: `Table.ext` reads a table off its lookups. Every
operation is described by what a lookup finds after it.
-/

namespace ChatSpaces

/-- Keys that an integer orders and tells apart. -/
class Key (κ : Type) where
  rank : κ → Int
  rank_inj : ∀ {a b : κ}, rank a = rank b → a = b

instance : Key Ident where
  rank := Ident.toInt
  rank_inj := Ident.toInt_inj.mp

instance : Key (Ident × Ident) where
  rank p := p.1.toInt * 18446744073709551616 + p.2.toInt
  rank_inj := by
    rintro ⟨a, b⟩ ⟨c, d⟩ h
    have := b.le_toInt
    have := b.toInt_le
    have := d.le_toInt
    have := d.toInt_le
    simp only [Prod.mk.injEq, ← Ident.toInt_inj]
    simp only at h
    omega

def Scope.Kind.rank : Scope.Kind → Int
  | .space => 0
  | .channel => 1

/-- Spaces before channels, then by identifier, then by user. -/
instance : Key (Scope × Ident) where
  rank p := (p.1.kind.rank * 36893488147419103232 + p.1.id.toInt) * 18446744073709551616 + p.2.toInt
  rank_inj := by
    rintro ⟨s, b⟩ ⟨t, d⟩ h
    have := b.le_toInt
    have := b.toInt_le
    have := d.le_toInt
    have := d.toInt_le
    have := s.id.le_toInt
    have := s.id.toInt_le
    have := t.id.le_toInt
    have := t.id.toInt_le
    rw [Prod.mk.injEq, ← Ident.toInt_inj, ← Scope.ofParts_kind_id s, ← Scope.ofParts_kind_id t]
    simp only at h
    cases hs : s.kind <;> cases ht : t.kind <;> simp only [hs, ht, Scope.Kind.rank] at h
    · exact ⟨by rw [Ident.toInt_inj.mp (by omega : s.id.toInt = t.id.toInt)], by omega⟩
    · omega
    · omega
    · exact ⟨by rw [Ident.toInt_inj.mp (by omega : s.id.toInt = t.id.toInt)], by omega⟩

namespace Key

variable {κ : Type} [Key κ]

theorem rank_eq_iff {a b : κ} : rank a = rank b ↔ a = b := ⟨rank_inj, congrArg rank⟩

instance (priority := low) decEq : DecidableEq κ := fun _ _ => decidable_of_iff _ rank_eq_iff

end Key

def Ascending {κ α : Type} [Key κ] (entries : List (κ × α)) : Prop :=
  entries.Pairwise (fun a b => Key.rank a.1 < Key.rank b.1)

structure Table (κ α : Type) [Key κ] where
  entries : List (κ × α)
  ascending : Ascending entries

namespace Table

open Key (rank rank_eq_iff)

variable {κ α : Type} [Key κ]

def empty : Table κ α := ⟨[], List.Pairwise.nil⟩

instance : EmptyCollection (Table κ α) := ⟨empty⟩

instance [DecidableEq α] : DecidableEq (Table κ α) := fun t u =>
  @decidable_of_iff _ (t.entries = u.entries)
    ⟨fun h => by cases t; cases u; simpa using h, congrArg entries⟩
    (@instDecidableEqList _ (@instDecidableEqProd _ _ Key.decEq inferInstance) _ _)

def rows (t : Table κ α) : List α := t.entries.map Prod.snd

def size (t : Table κ α) : Nat := t.entries.length

def findIn (k : κ) : List (κ × α) → Option α
  | [] => none
  | (l, a) :: es => if rank k = rank l then some a else findIn k es

def get? (t : Table κ α) (k : κ) : Option α := findIn k t.entries

def contains (t : Table κ α) (k : κ) : Bool := (t.get? k).isSome

def insertIn (k : κ) (a : α) : List (κ × α) → List (κ × α)
  | [] => [(k, a)]
  | (l, b) :: es =>
    if rank k = rank l then (k, a) :: es
    else if rank k < rank l then (k, a) :: (l, b) :: es
    else (l, b) :: insertIn k a es

theorem rank_of_mem_insertIn {k : κ} {a : α} {es : List (κ × α)} {e : κ × α}
    (h : e ∈ insertIn k a es) : rank e.1 = rank k ∨ e ∈ es := by
  induction es with
  | nil => simp_all [insertIn]
  | cons x es ih =>
    unfold insertIn at h
    split at h
    · grind
    · split at h <;> grind

theorem ascending_insertIn (k : κ) (a : α) {es : List (κ × α)} (h : Ascending es) :
    Ascending (insertIn k a es) := by
  unfold Ascending at *
  induction es with
  | nil => simp [insertIn]
  | cons x es ih =>
    obtain ⟨hx, hes⟩ := List.pairwise_cons.mp h
    unfold insertIn
    split
    · next eq => exact List.pairwise_cons.mpr ⟨fun e he => eq ▸ hx e he, hes⟩
    · split
      · next lt =>
        refine List.pairwise_cons.mpr ⟨fun e he => ?_, h⟩
        rcases List.mem_cons.mp he with rfl | he
        · exact lt
        · exact Int.lt_trans lt (hx e he)
      · next ne nlt =>
        refine List.pairwise_cons.mpr ⟨fun e he => ?_, ih hes⟩
        rcases rank_of_mem_insertIn he with eq | he
        · simp only at ne nlt ⊢
          omega
        · exact hx e he

def insert (t : Table κ α) (k : κ) (a : α) : Table κ α :=
  ⟨insertIn k a t.entries, ascending_insertIn k a t.ascending⟩

def filter (t : Table κ α) (p : κ → α → Bool) : Table κ α :=
  ⟨t.entries.filter (fun e => p e.1 e.2), t.ascending.filter _⟩

def erase (t : Table κ α) (k : κ) : Table κ α := t.filter (fun l _ => rank l ≠ rank k)

def erase? (t : Table κ α) (k : κ) : Option (Table κ α) := if t.contains k then some (t.erase k) else none

/-- The rows whose keys lie between two keys, both included, in order. -/
def between (t : Table κ α) (low high : κ) : List α :=
  (((t.entries.dropWhile (fun e => rank e.1 < rank low)).takeWhile (fun e => rank e.1 ≤ rank high))).map
    Prod.snd

/-- The rows whose keys lie below a key, greatest key first. -/
def below (t : Table κ α) (high : κ) : List α :=
  ((t.entries.takeWhile (fun e => rank e.1 < rank high)).map Prod.snd).reverse

theorem findIn_eq_some_iff {k : κ} {a : α} {es : List (κ × α)} (h : Ascending es) :
    findIn k es = some a ↔ (k, a) ∈ es := by
  unfold Ascending at h
  induction es with
  | nil => simp [findIn]
  | cons x es ih =>
    obtain ⟨l, b⟩ := x
    obtain ⟨hx, hes⟩ := List.pairwise_cons.mp h
    unfold findIn
    split
    · next eq =>
      cases rank_eq_iff.mp eq
      simp only [Option.some.injEq, List.mem_cons, Prod.mk.injEq, true_and]
      constructor
      · rintro rfl
        exact .inl rfl
      · rintro (rfl | mem)
        · rfl
        · exact absurd (hx _ mem) (Int.lt_irrefl _)
    · next ne =>
      rw [ih hes]
      simp only [List.mem_cons, Prod.mk.injEq]
      constructor
      · exact .inr
      · rintro (⟨rfl, rfl⟩ | mem)
        · exact absurd rfl ne
        · exact mem

theorem get?_eq_some_iff {t : Table κ α} {k : κ} {a : α} : t.get? k = some a ↔ (k, a) ∈ t.entries :=
  findIn_eq_some_iff t.ascending

theorem mem_rows_iff {t : Table κ α} {a : α} : a ∈ t.rows ↔ ∃ k, t.get? k = some a := by
  simp only [rows, List.mem_map, Prod.exists, exists_eq_right, get?_eq_some_iff]

theorem contains_eq_true_iff {t : Table κ α} {k : κ} :
    t.contains k = true ↔ ∃ a, t.get? k = some a := Option.isSome_iff_exists

theorem findIn_insertIn (k l : κ) (a : α) (es : List (κ × α)) :
    findIn l (insertIn k a es) = if l = k then some a else findIn l es := by
  simp only [← rank_eq_iff]
  induction es with
  | nil => simp [insertIn, findIn]
  | cons x es ih =>
    unfold insertIn
    split
    · grind [findIn]
    · split <;> grind [findIn]

theorem get?_insert (t : Table κ α) (k l : κ) (a : α) :
    (t.insert k a).get? l = if l = k then some a else t.get? l :=
  findIn_insertIn k l a t.entries

@[simp] theorem get?_insert_self (t : Table κ α) (k : κ) (a : α) : (t.insert k a).get? k = some a := by
  simp [get?_insert]

theorem get?_filter (t : Table κ α) (p : κ → α → Bool) (k : κ) :
    (t.filter p).get? k = (t.get? k).filter (p k) := by
  apply Option.ext
  intro a
  simp only [get?_eq_some_iff, filter, List.mem_filter, Option.filter_eq_some_iff]

theorem get?_erase (t : Table κ α) (k l : κ) :
    (t.erase k).get? l = if l = k then none else t.get? l := by
  rw [erase, get?_filter]
  simp only [← rank_eq_iff]
  split <;> cases t.get? l <;> simp_all [Option.filter]

@[simp] theorem get?_erase_self (t : Table κ α) (k : κ) : (t.erase k).get? k = none := by
  simp [get?_erase]

theorem eq_of_mem_iff {es fs : List (κ × α)} (he : Ascending es) (hf : Ascending fs)
    (h : ∀ e, e ∈ es ↔ e ∈ fs) : es = fs := by
  unfold Ascending at *
  induction es generalizing fs with
  | nil =>
    cases fs with
    | nil => rfl
    | cons y fs => exact absurd ((h y).mpr (by simp)) (by simp)
  | cons x es ih =>
    cases fs with
    | nil => exact absurd ((h x).mp (by simp)) (by simp)
    | cons y fs =>
      obtain ⟨hx, hes⟩ := List.pairwise_cons.mp he
      obtain ⟨hy, hfs⟩ := List.pairwise_cons.mp hf
      have xy : x = y := by
        rcases List.mem_cons.mp ((h x).mp (by simp)) with rfl | mem
        · rfl
        · rcases List.mem_cons.mp ((h y).mpr (by simp)) with rfl | mem'
          · rfl
          · exact absurd (Int.lt_trans (hx _ mem') (hy _ mem)) (Int.lt_irrefl _)
      subst xy
      congr 1
      refine ih hes hfs fun e => ⟨fun mem => ?_, fun mem => ?_⟩
      · rcases List.mem_cons.mp ((h e).mp (List.mem_cons_of_mem _ mem)) with rfl | m
        · exact absurd (hx _ mem) (Int.lt_irrefl _)
        · exact m
      · rcases List.mem_cons.mp ((h e).mpr (List.mem_cons_of_mem _ mem)) with rfl | m
        · exact absurd (hy _ mem) (Int.lt_irrefl _)
        · exact m

theorem ext {t u : Table κ α} (h : ∀ k, t.get? k = u.get? k) : t = u := by
  obtain ⟨es, he⟩ := t
  obtain ⟨fs, hf⟩ := u
  have : es = fs := eq_of_mem_iff he hf fun e => by
    rw [← findIn_eq_some_iff he, ← findIn_eq_some_iff hf]
    exact iff_of_eq (congrArg (· = some e.2) (h e.1))
  subst this
  rfl

end Table

end ChatSpaces
