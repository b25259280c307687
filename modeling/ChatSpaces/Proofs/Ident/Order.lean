import ChatSpaces.Ident.Generator

/-!
# The order of identifiers

While the packed word and the clock stay within their bits, the word after a word is the next number or the
one that the clock shows, whichever is greater, and a greater word makes a greater identifier. Whatever the
clock shows, the identifiers that a single thread draws increase, and none of them is the greatest one.
-/

namespace ChatSpaces.Generator

/-- Below it a packed word leaves room for the ten bits of the worker. -/
def wordLimit : Int := Nat.pow 2 53

/-- Before it the milliseconds beyond the epoch have at most forty-one bits. -/
def wallLimit : Int := Ident.epoch + Nat.pow 2 41

theorem wordLimit_eq : wordLimit = 9007199254740992 := rfl

theorem wallLimit_eq : wallLimit = Ident.epoch + 2199023255552 := rfl

theorem wrap_eq_self {n : Int} (low : -9223372036854775808 ≤ n) (high : n < 9223372036854775808) :
    wrap n = n :=
  Int.bmod_eq_of_le (by omega) (by omega)

theorem sinceEpoch_lt {wall : Int} (early : wall < wallLimit) : sinceEpoch wall < 2199023255552 := by
  simp only [sinceEpoch, wallLimit_eq, Ident.epoch] at *
  omega

section Successor

variable {last now : Int}

/-- Within one millisecond, at its end and after a step back of the clock, the word is counted up; else it
starts the millisecond that the clock shows. -/
theorem successor_eq_max (start : 0 ≤ last) (room : last < wordLimit) (early : now < 2199023255552) :
    successor last now = max (last + 1) (now * 4096) := by
  rw [wordLimit_eq] at room
  unfold successor
  split
  · next ahead =>
    rw [wrap_eq_self (by omega) (by omega)]
    omega
  · next behind =>
    split
    · rw [wrap_eq_self (by omega) (by omega)]
      omega
    · next full =>
      -- A full sequence number carries into the millisecond, which is to count up by one.
      rw [wrap_eq_self (by omega) (by omega)]
      omega

theorem lt_successor (start : 0 ≤ last) (room : last < wordLimit) (early : now < 2199023255552) :
    last < successor last now := by
  rw [successor_eq_max start room early]
  omega

end Successor

section IdentOf

variable {worker : Worker} {p q : Int}

theorem toInt_identOf (start : 0 ≤ p) (room : p < wordLimit) :
    (identOf worker p).toInt = p / 4096 * 4194304 + worker * 4096 + p % 4096 := by
  rw [wordLimit_eq] at room
  have bound := worker.isLt
  unfold identOf
  rw [wrap_eq_self (by omega) (by omega)]
  apply Ident.toInt_ofInt
  constructor <;> simp only [Number.Word.minSigned, Number.Word.maxSigned] <;> omega

/-- The bits of the worker stand between those of the word and do not disturb their order. -/
theorem identOf_lt_identOf (start : 0 ≤ p) (lt : p < q) (room : q < wordLimit) :
    identOf worker p < identOf worker q := by
  change (identOf worker p).toInt < (identOf worker q).toInt
  rw [toInt_identOf start (Int.lt_trans lt room), toInt_identOf (by omega) room]
  have millis : p / 4096 ≤ q / 4096 := Int.ediv_le_ediv (by decide) (Int.le_of_lt lt)
  omega

end IdentOf

section Draws

variable {g : Generator} {wall : Int} {walls : List Int}

def afterDraws (g : Generator) (walls : List Int) : Generator :=
  walls.foldl (fun h wall => (h.next wall).2) g

def words (g : Generator) : List Int → List Int
  | [] => []
  | wall :: rest => (g.next wall).2.last :: (g.next wall).2.words rest

def draws (g : Generator) : List Int → List Ident
  | [] => []
  | wall :: rest => (g.next wall).1 :: (g.next wall).2.draws rest

theorem draws_eq_map_words (g : Generator) (walls : List Int) :
    g.draws walls = (g.words walls).map (identOf g.worker) := by
  induction walls generalizing g with
  | nil => rfl
  | cons wall rest ih =>
    rw [draws, words, List.map_cons, ih]
    rfl

theorem words_append (g : Generator) (walls walls' : List Int) :
    g.words (walls ++ walls') = g.words walls ++ (g.afterDraws walls).words walls' := by
  induction walls generalizing g with
  | nil => rfl
  | cons wall rest ih =>
    rw [List.cons_append, words, words, ih]
    rfl

theorem words_concat (g : Generator) (walls : List Int) (wall : Int) :
    g.words (walls ++ [wall]) = g.words walls ++ [((g.afterDraws walls).next wall).2.last] := words_append g walls [wall]

theorem afterDraws_concat (g : Generator) (walls : List Int) (wall : Int) :
    g.afterDraws (walls ++ [wall]) = ((g.afterDraws walls).next wall).2 := by
  rw [afterDraws, List.foldl_append]
  rfl

theorem draws_append (g : Generator) (walls walls' : List Int) :
    g.draws (walls ++ walls') = g.draws walls ++ (g.afterDraws walls).draws walls' := by
  induction walls generalizing g with
  | nil => rfl
  | cons wall rest ih =>
    rw [List.cons_append, draws, draws, ih]
    rfl

theorem afterDraws_append (g : Generator) (walls walls' : List Int) :
    g.afterDraws (walls ++ walls') = (g.afterDraws walls).afterDraws walls' := List.foldl_append

@[simp] theorem length_draws (g : Generator) (walls : List Int) : (g.draws walls).length = walls.length := by
  induction walls generalizing g with
  | nil => rfl
  | cons wall rest ih => rw [draws, List.length_cons, ih, List.length_cons]

theorem afterDraws_of_draws_eq_nil (none : g.draws walls = []) : g.afterDraws walls = g := by
  cases walls with
  | nil => rfl
  | cons wall rest => cases none

@[simp] theorem worker_afterDraws (g : Generator) (walls : List Int) : (g.afterDraws walls).worker = g.worker := by
  induction walls generalizing g with
  | nil => rfl
  | cons wall rest ih => exact ih (g.next wall).2

theorem last_afterDraws_mem (g : Generator) (walls : List Int) :
    (g.afterDraws walls).last ∈ g.last :: g.words walls := by
  induction walls generalizing g with
  | nil => exact List.mem_cons_self ..
  | cons wall rest ih => exact List.mem_cons_of_mem _ (ih (g.next wall).2)

theorem draws_replicate (g : Generator) (wall : Int) (n : Nat) :
    g.draws (List.replicate n wall) = (g.take wall n).1 := by
  induction n generalizing g with
  | zero => rfl
  | succ n ih => rw [List.replicate_succ, draws, take_succ, ih]

theorem pairwise_words (start : 0 ≤ g.last) (early : ∀ wall ∈ walls, wall < wallLimit)
    (room : ∀ p ∈ g.last :: g.words walls, p < wordLimit) :
    (g.last :: g.words walls).Pairwise (· < ·) := by
  induction walls generalizing g with
  | nil => exact List.pairwise_singleton _ _
  | cons wall rest ih =>
    have forward : g.last < (g.next wall).2.last :=
      lt_successor start (room _ (List.mem_cons_self ..)) (sinceEpoch_lt (early _ (List.mem_cons_self ..)))
    have later : ((g.next wall).2.last :: (g.next wall).2.words rest).Pairwise (· < ·) := by
      apply ih
      · omega
      · exact fun w mem => early w (List.mem_cons_of_mem _ mem)
      · exact fun p mem => room p (List.mem_cons_of_mem _ mem)
    rw [words]
    refine List.pairwise_cons.mpr ⟨fun p mem => ?_, later⟩
    rcases List.mem_cons.mp mem with rfl | mem
    · exact forward
    · exact Int.lt_trans forward ((List.pairwise_cons.mp later).1 p mem)

theorem pairwise_draws (start : 0 ≤ g.last) (early : ∀ wall ∈ walls, wall < wallLimit)
    (room : ∀ p ∈ g.last :: g.words walls, p < wordLimit) : (g.draws walls).Pairwise (· < ·) := by
  obtain ⟨above, increasing⟩ := List.pairwise_cons.mp (pairwise_words start early room)
  rw [draws_eq_map_words, List.pairwise_map]
  refine increasing.imp_of_mem fun mem mem' lt => ?_
  exact identOf_lt_identOf (by have := above _ mem; omega) lt (room _ (List.mem_cons_of_mem _ mem'))

end Draws

def latest (g : Generator) : Ident := identOf g.worker g.last

/-- While identifiers are drawn at the readings, the clock and the packed word stay within their bits. The last
word of all is left out: with it a worker would come to the greatest identifier. -/
structure Within (g : Generator) (walls : List Int) : Prop where
  start : 0 ≤ g.last
  early : ∀ wall ∈ walls, wall < wallLimit
  room : ∀ p ∈ g.last :: g.words walls, p < wordLimit - 1

namespace Within

variable {g : Generator} {walls walls' : List Int} {wall : Int}

theorem of_append (h : g.Within (walls ++ walls')) : g.Within walls where
  start := h.start
  early wall mem := h.early wall (List.mem_append_left _ mem)
  room p mem := by
    apply h.room
    rw [words_append, ← List.cons_append]
    exact List.mem_append_left _ mem

theorem bounds (h : g.Within walls) :
    0 ≤ (g.afterDraws walls).last ∧ (g.afterDraws walls).last < wordLimit - 1 := by
  have there := last_afterDraws_mem g walls
  have wide : ∀ p ∈ g.last :: g.words walls, p < wordLimit := fun p mem => Int.lt_trans (h.room p mem) (by omega)
  refine ⟨?_, h.room _ there⟩
  rcases List.mem_cons.mp there with first | later
  · exact first ▸ h.start
  · exact Int.le_trans h.start
      (Int.le_of_lt ((List.pairwise_cons.mp (pairwise_words h.start h.early wide)).1 _ later))

theorem latest_lt (h : g.Within (walls ++ [wall])) :
    (g.afterDraws walls).latest < ((g.afterDraws walls).next wall).2.latest := by
  obtain ⟨start, room⟩ := h.of_append.bounds
  obtain ⟨-, room'⟩ := h.bounds
  rw [afterDraws_concat] at room'
  refine identOf_lt_identOf start ?_ (by omega)
  exact lt_successor start (by omega) (sinceEpoch_lt (h.early wall (List.mem_append_right _ (.head _))))

theorem latest_lt_greatest (h : g.Within walls) : (g.afterDraws walls).latest < .greatest := by
  obtain ⟨start, room⟩ := h.bounds
  have bound := (g.afterDraws walls).worker.isLt
  have top : Ident.greatest.toInt = 9223372036854775807 := rfl
  change (identOf _ _).toInt < _
  rw [toInt_identOf start (by omega), top]
  rw [wordLimit_eq] at room
  omega

end Within

end ChatSpaces.Generator
