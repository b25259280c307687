import ChatSpaces.Proofs.Ident.Order

/-!
# What an identifier tells

The worker is read back from every identifier, also where the time before it has lost its upper bits. While the
packed word and the clock stay within their bits the time is read back as well. It is never before the latest
time that the clock has shown, and gets ahead of it by one millisecond for every 4096 identifiers at most: a
counted up word borrows from the milliseconds to come, and a clock that catches up takes the debt away.
-/

namespace ChatSpaces.Generator

section Fields

variable {worker : Worker} {p : Int}

/-- A time that is moved to its place keeps its lower forty-two bits. -/
theorem wrap_shifted (n : Int) : wrap (n * 4194304) = n.bmod 4398046511104 * 4194304 := by
  simp only [wrap, Int.bmod_def]
  split <;> split <;> omega

theorem shifted_bounds (n : Int) : -2199023255552 ≤ n.bmod 4398046511104 ∧ n.bmod 4398046511104 < 2199023255552 :=
  ⟨Int.le_bmod (by decide), Int.bmod_lt (by decide)⟩

/-- The three fields of an identifier do not overlap, whatever the packed word. -/
theorem toInt_identOf_shifted (worker : Worker) (p : Int) :
    (identOf worker p).toInt = (p / 4096).bmod 4398046511104 * 4194304 + worker * 4096 + p % 4096 := by
  obtain ⟨low, high⟩ := shifted_bounds (p / 4096)
  have bound := worker.isLt
  unfold identOf
  rw [wrap_shifted]
  apply Ident.toInt_ofInt
  constructor <;> simp only [Number.Word.minSigned, Number.Word.maxSigned] <;> omega

theorem workerId_identOf (worker : Worker) (p : Int) : (identOf worker p).workerId = worker := by
  have bound := worker.isLt
  rw [Ident.workerId, toInt_identOf_shifted]
  omega

theorem timestamp_identOf (start : 0 ≤ p) (room : p < wordLimit) :
    (identOf worker p).timestamp = p / 4096 + Ident.epoch := by
  have bound := worker.isLt
  rw [Ident.timestamp, toInt_identOf start room]
  omega

theorem identOf_pos (start : 0 < p) (room : p < wordLimit) : 0 < (identOf worker p).toInt := by
  rw [toInt_identOf (Int.le_of_lt start) room]
  omega

end Fields

def highest (walls : List Int) : Int := walls.foldl max Ident.epoch

/-- After `n` draws up to the time `high` the packed word has not fallen behind that time, and is ahead of it by
no more than one for each draw. -/
structure Drift (g : Generator) (high : Int) (n : Nat) : Prop where
  epoch_le : Ident.epoch ≤ high
  caught_up : (high - Ident.epoch) * 4096 ≤ g.last
  ahead : g.last ≤ (high - Ident.epoch) * 4096 + n

namespace Drift

variable {g : Generator} {high : Int} {n : Nat} {wall : Int} {walls : List Int}

theorem new (worker : Worker) : Drift (.new worker) Ident.epoch 0 := by
  constructor <;> simp [Generator.new]

/-- A reading beyond the word brings the two together, any other one counts the word up. -/
theorem next (h : Drift g high n) (early : wall < wallLimit) (room : g.last < wordLimit) :
    Drift (g.next wall).2 (max high wall) (n + 1) := by
  obtain ⟨epoch_le, caught_up, ahead⟩ := h
  have successor_eq : (g.next wall).2.last = max (g.last + 1) (sinceEpoch wall * 4096) :=
    successor_eq_max (by omega) room (sinceEpoch_lt early)
  simp only [sinceEpoch] at successor_eq
  have after_1970 : 0 < Ident.epoch := by decide
  constructor <;> omega

theorem afterDraws (h : Drift g high n) (early : ∀ wall ∈ walls, wall < wallLimit)
    (room : ∀ p ∈ g.last :: g.words walls, p < wordLimit) :
    Drift (g.afterDraws walls) (walls.foldl max high) (n + walls.length) := by
  induction walls generalizing g high n with
  | nil => exact h
  | cons wall rest ih =>
    have one := h.next (early wall (List.mem_cons_self ..)) (room _ (List.mem_cons_self ..))
    have rest_of := ih one (fun w mem => early w (List.mem_cons_of_mem _ mem))
      (fun p mem => room p (List.mem_cons_of_mem _ mem))
    rw [Nat.add_assoc, Nat.add_comm 1] at rest_of
    exact rest_of

end Drift

section Draws

variable {g : Generator} {walls : List Int} {i : Nat} {p : Int} {id : Ident}

theorem words_take (g : Generator) (walls : List Int) (n : Nat) : g.words (walls.take n) = (g.words walls).take n := by
  induction walls generalizing g n with
  | nil => simp [words]
  | cons wall rest ih =>
    cases n with
    | zero => rfl
    | succ n => rw [List.take_succ_cons, words, words, List.take_succ_cons, ih]

theorem last_afterDraws_take (drawn : (g.words walls)[i]? = some p) : (g.afterDraws (walls.take (i + 1))).last = p := by
  induction walls generalizing g i with
  | nil => simp [words] at drawn
  | cons wall rest ih =>
    cases i with
    | zero => simpa [words, afterDraws] using drawn
    | succ i => exact ih (by simpa [words] using drawn)

theorem workerId_of_mem_draws (drawn : id ∈ g.draws walls) : id.workerId = g.worker := by
  rw [draws_eq_map_words] at drawn
  obtain ⟨p, -, rfl⟩ := List.mem_map.mp drawn
  exact workerId_identOf g.worker p

/-- Of a new generator the `i`-th identifier, counted from zero, names the worker, is positive, and has a time
between the latest one that the clock has shown so far and `(i + 1) / 4096` milliseconds after that. The readings
may go in any direction. Generators of different workers have no identifier in common, from wherever they start
and whatever their clocks show. -/
theorem draws_tell_worker_and_time :
    (∀ (worker : Worker) (walls : List Int), (∀ wall ∈ walls, wall < wallLimit) →
      (∀ p ∈ (new worker).words walls, p < wordLimit) →
      ∀ i id, ((new worker).draws walls)[i]? = some id →
        id.workerId = (worker : Nat) ∧ 0 < id.toInt ∧ highest (walls.take (i + 1)) ≤ id.timestamp ∧
          id.timestamp ≤ highest (walls.take (i + 1)) + ((i + 1) / 4096 : Nat)) ∧
    ∀ g h : Generator, g.worker ≠ h.worker → ∀ walls walls', ∀ id ∈ g.draws walls, id ∉ h.draws walls' := by
  constructor
  · intro worker walls early room i id drawn
    rw [draws_eq_map_words, List.getElem?_map] at drawn
    obtain ⟨p, word, rfl⟩ := Option.map_eq_some_iff.mp drawn
    have below : p < wordLimit := room p (List.mem_of_getElem? word)
    have roomy : ∀ q ∈ (new worker).last :: (new worker).words walls, q < wordLimit :=
      List.forall_mem_cons.mpr ⟨(by decide : (0 : Int) < wordLimit), room⟩
    have positive : 0 < p :=
      (List.pairwise_cons.mp (pairwise_words (Int.le_refl 0) early roomy)).1 p (List.mem_of_getElem? word)
    have drift : Drift ((new worker).afterDraws (walls.take (i + 1))) (highest (walls.take (i + 1)))
        (0 + (walls.take (i + 1)).length) := by
      apply (Drift.new worker).afterDraws
      · exact fun wall mem => early wall (List.mem_of_mem_take mem)
      · rw [words_take, ← List.take_succ_cons]
        exact fun q mem => roomy q (List.mem_of_mem_take mem)
    obtain ⟨-, caught_up, ahead⟩ := drift
    rw [last_afterDraws_take word] at caught_up ahead
    have count : (walls.take (i + 1)).length ≤ i + 1 := List.length_take_le ..
    refine ⟨workerId_identOf worker p, identOf_pos positive below, ?_, ?_⟩
    · rw [timestamp_identOf (Int.le_of_lt positive) below]
      omega
    · rw [timestamp_identOf (Int.le_of_lt positive) below]
      omega
  · intro g h different walls walls' id mine yours
    apply different
    apply Fin.ext
    rw [← workerId_of_mem_draws mine, ← workerId_of_mem_draws yours]

/-- The clock of worker 7 shows five milliseconds beyond the epoch, steps back to 1970, and shows a time before it.
Its third identifier still tells the latest time, and is none that worker 8 makes, even with a word that is about
to wrap and a clock that is far beyond its bits. -/
theorem draws_tell_worker_and_time_stepping_back :
    let walls := [1704067200005, 0, -5]
    let ids := (new 7).draws walls
    (∀ wall ∈ walls, wall < wallLimit) ∧ (∀ p ∈ (new 7).words walls, p < wordLimit) ∧
      ids = [⟨21000192⟩, ⟨21000193⟩, ⟨21000194⟩] ∧
      (∃ id, ids[2]? = some id ∧ id.workerId = 7 ∧ id.timestamp = 1704067200005) ∧
      ∀ id ∈ ids, id ∉ (⟨8, 9223372036854775807⟩ : Generator).draws [0, Nat.pow 10 30] := by
  intro walls ids
  have early : ∀ wall ∈ walls, wall < wallLimit := by decide
  have room : ∀ p ∈ (new 7).words walls, p < wordLimit := by decide
  have drawn : ids = [⟨21000192⟩, ⟨21000193⟩, ⟨21000194⟩] := by decide
  obtain ⟨own, -, low, high⟩ := draws_tell_worker_and_time.1 7 walls early room 2 ⟨21000194⟩ (by decide)
  have latest : highest (walls.take 3) = 1704067200005 := by decide
  refine ⟨early, room, drawn, ⟨⟨21000194⟩, by rw [drawn]; rfl, own, ?_⟩, ?_⟩
  · rw [latest] at low high
    omega
  · exact draws_tell_worker_and_time.2 (new 7) ⟨8, 9223372036854775807⟩ (by decide) walls _

end Draws

end ChatSpaces.Generator
