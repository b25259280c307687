import ChatSpaces.Table

/-!
# More about tables

Which keys and rows a table contains after each operation, and two properties of whole tables: every row lies
under its own key, and every row mentions a key of another table. The rows below a key are those whose own keys
are.
-/

namespace ChatSpaces

namespace Table

variable {κ ν α β : Type} [Key κ] [Key ν]

def KeyedBy (key : α → κ) (t : Table κ α) : Prop := ∀ k a, t.get? k = some a → key a = k

def Refers (ref : α → ν) (t : Table κ α) (target : Table ν β) : Prop :=
  ∀ k a, t.get? k = some a → target.contains (ref a) = true

theorem contains_insert {t : Table κ α} {k l : κ} {a : α} :
    (t.insert k a).contains l = true ↔ l = k ∨ t.contains l = true := by
  simp only [contains, get?_insert]
  split <;> simp_all

theorem contains_of_get? {t : Table κ α} {k : κ} {a : α} (h : t.get? k = some a) : t.contains k = true :=
  contains_eq_true_iff.mpr ⟨a, h⟩

theorem get?_eq_none_of_contains {t : Table κ α} {k : κ} (h : t.contains k = false) : t.get? k = none := by
  simpa [contains] using h

theorem contains_erase {t : Table κ α} {k l : κ} :
    (t.erase k).contains l = true ↔ l ≠ k ∧ t.contains l = true := by
  simp only [contains, get?_erase]
  split <;> simp_all

theorem contains_insert_of_ne {t : Table κ α} {k l : κ} (a : α) (other : l ≠ k) :
    (t.insert k a).contains l = t.contains l := by
  rw [contains, get?_insert, if_neg other, contains]

theorem contains_erase_of_ne {t : Table κ α} {k l : κ} (other : l ≠ k) :
    (t.erase k).contains l = t.contains l := by
  rw [contains, get?_erase, if_neg other, contains]

@[simp] theorem contains_erase_self {t : Table κ α} {k : κ} : (t.erase k).contains k = false := by
  rw [contains, get?_erase_self]
  rfl

theorem contains_filter_key {t : Table κ α} {p : κ → Bool} {k : κ} :
    (t.filter fun l _ => p l).contains k = (t.contains k && p k) := by
  rw [contains, contains, get?_filter]
  cases t.get? k with
  | none => rfl
  | some a =>
    rw [Option.filter_some]
    cases p k <;> rfl

theorem erase_eq_self {t : Table κ α} {k : κ} (h : t.contains k = false) : t.erase k = t := by
  apply ext
  intro l
  rw [get?_erase]
  split
  · next eq => rw [eq, get?_eq_none_of_contains h]
  · rfl

theorem insert_eq_self {t : Table κ α} {k : κ} {a : α} (found : t.get? k = some a) : t.insert k a = t := by
  apply ext
  intro l
  rw [get?_insert]
  split
  · next eq => rw [eq, found]
  · rfl

/-- Under one key a row has given way to another, and the rest of the table is as it was. -/
structure Replaces (t u : Table κ α) (k : κ) (before after : α) : Prop where
  found : t.get? k = some before
  left : u.get? k = some after
  rest : ∀ l, l ≠ k → u.get? l = t.get? l

theorem replaces_insert {t : Table κ α} {k : κ} {a : α} (found : t.get? k = some a) (b : α) :
    t.Replaces (t.insert k b) k a b where
  found := found
  left := get?_insert_self t k b
  rest l other := by rw [get?_insert, if_neg other]

theorem exists_insertIn_eq {k : κ} (a : α) {es : List (κ × α)} (free : findIn k es = none) :
    ∃ front back, es = front ++ back ∧ insertIn k a es = front ++ (k, a) :: back := by
  induction es with
  | nil => exact ⟨[], [], rfl, rfl⟩
  | cons e es ih =>
    obtain ⟨l, b⟩ := e
    unfold findIn at free
    unfold insertIn
    split at free
    · cases free
    · next other =>
      rw [if_neg other]
      split
      · exact ⟨[], (l, b) :: es, rfl, rfl⟩
      · obtain ⟨front, back, whole, put⟩ := ih free
        exact ⟨(l, b) :: front, back, congrArg _ whole, congrArg _ put⟩

/-- A row under a new key is put among the others, and these stay in their order. -/
theorem exists_rows_insert_eq {t : Table κ α} {k : κ} (a : α) (free : t.contains k = false) :
    ∃ front back, t.rows = front ++ back ∧ (t.insert k a).rows = front ++ a :: back := by
  obtain ⟨front, back, whole, put⟩ := exists_insertIn_eq a (get?_eq_none_of_contains free)
  refine ⟨front.map Prod.snd, back.map Prod.snd, ?_, ?_⟩
  · rw [rows, whole, List.map_append]
  · change (insertIn k a t.entries).map Prod.snd = _
    rw [put, List.map_append, List.map_cons]

theorem perm_rows_insert {t : Table κ α} {k : κ} (a : α) (free : t.contains k = false) :
    (t.insert k a).rows.Perm (a :: t.rows) := by
  obtain ⟨front, back, whole, put⟩ := exists_rows_insert_eq a free
  rw [put, whole]
  exact List.perm_middle

theorem get?_of_get?_filter {t : Table κ α} {p : κ → α → Bool} {k : κ} {a : α}
    (h : (t.filter p).get? k = some a) : t.get? k = some a := by
  rw [get?_filter] at h
  exact (Option.filter_eq_some_iff.mp h).1

theorem KeyedBy.empty (key : α → κ) : KeyedBy key (∅ : Table κ α) := fun _ _ h => nomatch h

theorem KeyedBy.insert {key : α → κ} {t : Table κ α} (h : t.KeyedBy key) {k : κ} {a : α} (own : key a = k) :
    (t.insert k a).KeyedBy key := by
  intro l b found
  rw [get?_insert] at found
  split at found
  · next eq =>
    cases found
    rw [own, eq]
  · exact h l b found

theorem KeyedBy.replace {key : α → κ} {t : Table κ α} (h : t.KeyedBy key) {k : κ} {a b : α}
    (found : t.get? k = some a) (same : key b = key a) : (t.insert k b).KeyedBy key :=
  h.insert (same.trans (h k a found))

theorem KeyedBy.filter {key : α → κ} {t : Table κ α} (h : t.KeyedBy key) (p : κ → α → Bool) :
    (t.filter p).KeyedBy key := fun k a found => h k a (get?_of_get?_filter found)

theorem KeyedBy.erase {key : α → κ} {t : Table κ α} (h : t.KeyedBy key) (k : κ) : (t.erase k).KeyedBy key :=
  h.filter _

theorem KeyedBy.pairwise_rows {key : α → κ} {t : Table κ α} (h : t.KeyedBy key) :
    t.rows.Pairwise fun a b => Key.rank (key a) < Key.rank (key b) := by
  rw [rows, List.pairwise_map]
  refine t.ascending.imp_of_mem ?_
  rintro ⟨k, a⟩ ⟨l, b⟩ first second before
  rw [h k a (get?_eq_some_iff.mpr first), h l b (get?_eq_some_iff.mpr second)]
  exact before

section Beginnings

variable {es : List (κ × α)} {p : κ × α → Bool}

/-- In a list in order, what holds of an entry only if it holds of all before it holds of the first ones. -/
theorem takeWhile_eq_filter (h : Ascending es)
    (earlier : ∀ e f, Key.rank e.1 < Key.rank f.1 → p f = true → p e = true) : es.takeWhile p = es.filter p := by
  induction es with
  | nil => rfl
  | cons e es ih =>
    obtain ⟨first, rest⟩ := List.pairwise_cons.mp h
    by_cases holds : p e = true
    · rw [List.takeWhile_cons_of_pos holds, List.filter_cons_of_pos holds, ih rest]
    · have none_after : es.filter p = [] :=
        List.filter_eq_nil_iff.mpr fun f mem later => holds (earlier e f (first f mem) later)
      rw [List.takeWhile_cons_of_neg holds, List.filter_cons_of_neg holds, none_after]

theorem dropWhile_eq_filter (h : Ascending es)
    (earlier : ∀ e f, Key.rank e.1 < Key.rank f.1 → p f = true → p e = true) :
    es.dropWhile p = es.filter fun e => !p e := by
  induction es with
  | nil => rfl
  | cons e es ih =>
    obtain ⟨first, rest⟩ := List.pairwise_cons.mp h
    by_cases holds : p e = true
    · rw [List.dropWhile_cons_of_pos holds, List.filter_cons_of_neg (by simp [holds]), ih rest]
    · have all : ∀ f ∈ e :: es, (!p f) = true := by
        refine List.forall_mem_cons.mpr ⟨by simp [holds], fun f mem => ?_⟩
        rw [Bool.not_eq_true']
        exact Bool.eq_false_iff.mpr fun later => holds (earlier e f (first f mem) later)
      rw [List.dropWhile_cons_of_neg holds, List.filter_eq_self.mpr all]

end Beginnings

theorem KeyedBy.map_filter_entries {key : α → κ} {t : Table κ α} (h : t.KeyedBy key) (p : κ → Bool) :
    (t.entries.filter fun e => p e.1).map Prod.snd = t.rows.filter fun a => p (key a) := by
  rw [rows, List.filter_map]
  congr 1
  apply List.filter_congr
  rintro ⟨k, a⟩ mem
  rw [Function.comp_apply, h k a (get?_eq_some_iff.mpr mem)]

theorem KeyedBy.below_eq {key : α → κ} {t : Table κ α} (h : t.KeyedBy key) (high : κ) :
    t.below high = (t.rows.filter fun a => Key.rank (key a) < Key.rank high).reverse := by
  have first : t.entries.takeWhile (fun e => Key.rank e.1 < Key.rank high) =
      t.entries.filter fun e => Key.rank e.1 < Key.rank high :=
    takeWhile_eq_filter t.ascending fun e f before low => by
      simp only [decide_eq_true_eq] at low ⊢
      omega
  rw [below, first, h.map_filter_entries fun k => decide (Key.rank k < Key.rank high)]

theorem KeyedBy.between_eq {key : α → κ} {t : Table κ α} (h : t.KeyedBy key) (low high : κ) :
    t.between low high =
      t.rows.filter fun a => Key.rank low ≤ Key.rank (key a) ∧ Key.rank (key a) ≤ Key.rank high := by
  have start : t.entries.dropWhile (fun e => Key.rank e.1 < Key.rank low) =
      t.entries.filter fun e => !decide (Key.rank e.1 < Key.rank low) :=
    dropWhile_eq_filter t.ascending fun e f before below => by
      simp only [decide_eq_true_eq] at below ⊢
      omega
  have stop : (t.entries.filter fun e => !decide (Key.rank e.1 < Key.rank low)).takeWhile
      (fun e => Key.rank e.1 ≤ Key.rank high) =
        (t.entries.filter fun e => !decide (Key.rank e.1 < Key.rank low)).filter
          fun e => Key.rank e.1 ≤ Key.rank high :=
    takeWhile_eq_filter (t.ascending.filter _) fun e f before within => by
      simp only [decide_eq_true_eq] at within ⊢
      omega
  rw [between, start, stop, List.filter_filter,
    ← h.map_filter_entries fun k => decide (Key.rank low ≤ Key.rank k ∧ Key.rank k ≤ Key.rank high)]
  congr 1
  apply List.filter_congr
  intro e _
  rw [Bool.eq_iff_iff, Bool.and_eq_true, Bool.not_eq_true', decide_eq_true_eq, decide_eq_false_iff_not,
    decide_eq_true_eq]
  omega

theorem mem_rows_of_mem_below {t : Table κ α} {high : κ} {a : α} (h : a ∈ t.below high) : a ∈ t.rows := by
  rw [below, List.mem_reverse] at h
  exact ((List.takeWhile_sublist _).map Prod.snd).subset h

theorem length_below_le (t : Table κ α) (high : κ) : (t.below high).length ≤ t.size := by
  rw [below, List.length_reverse, List.length_map]
  exact (List.takeWhile_sublist _).length_le

theorem takeWhile_insertIn {k high : κ} (a : α) (above : Key.rank high ≤ Key.rank k) (es : List (κ × α)) :
    (insertIn k a es).takeWhile (fun e => Key.rank e.1 < Key.rank high) =
      es.takeWhile (fun e => Key.rank e.1 < Key.rank high) := by
  have stops (fs : List (κ × α)) : ((k, a) :: fs).takeWhile (fun e => Key.rank e.1 < Key.rank high) = [] :=
    List.takeWhile_cons_of_neg (by simpa using above)
  induction es with
  | nil => exact stops []
  | cons e es ih =>
    obtain ⟨l, b⟩ := e
    unfold insertIn
    split
    · next same =>
      rw [stops, List.takeWhile_cons_of_neg (by simpa [← same] using above)]
    · split
      · next before =>
        rw [stops, List.takeWhile_cons_of_neg (by simp only [decide_eq_true_eq]; omega)]
      · rw [List.takeWhile_cons, List.takeWhile_cons, ih]

theorem below_insert (t : Table κ α) {k high : κ} (a : α) (above : Key.rank high ≤ Key.rank k) :
    (t.insert k a).below high = t.below high := by
  rw [below, insert, takeWhile_insertIn a above, below]

theorem Refers.empty (ref : α → ν) (target : Table ν β) : Refers ref (∅ : Table κ α) target :=
  fun _ _ h => nomatch h

theorem Refers.insert {ref : α → ν} {t : Table κ α} {target : Table ν β} (h : t.Refers ref target) {k : κ}
    {a : α} (there : target.contains (ref a) = true) : (t.insert k a).Refers ref target := by
  intro l b found
  rw [get?_insert] at found
  split at found
  · cases found
    exact there
  · exact h l b found

theorem Refers.filter {ref : α → ν} {t : Table κ α} {target : Table ν β} (h : t.Refers ref target)
    (p : κ → α → Bool) : (t.filter p).Refers ref target :=
  fun k a found => h k a (get?_of_get?_filter found)

theorem Refers.erase {ref : α → ν} {t : Table κ α} {target : Table ν β} (h : t.Refers ref target) (k : κ) :
    (t.erase k).Refers ref target := h.filter _

theorem Refers.grow {ref : α → ν} {t : Table κ α} {target : Table ν β} (h : t.Refers ref target) (l : ν)
    (b : β) : t.Refers ref (target.insert l b) :=
  fun k a found => contains_insert.mpr (.inr (h k a found))

end Table

end ChatSpaces
