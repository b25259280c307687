import ChatSpaces.Proofs.Ident.Order
import Mathlib.Data.List.Nodup
import Mathlib.Logic.Function.Basic

/-!
# Threads that share a generator

Any number of threads draw identifiers from one generator without a lock. A thread loads the packed word,
reads the clock, works out the word after the one that it saw, and puts it in place if the one that it saw is
still there. If not, and sometimes without a reason, it starts over from the word that it finds.

In every interleaving the identifiers are, in the order of the exchanges that succeed, those that a single
thread draws at some of the readings.
-/

namespace ChatSpaces.Generator

open Function (update)

inductive Phase where
  | idle
  | loaded (seen : Int)
  | ready (seen wanted : Int)
deriving DecidableEq

structure Thread where
  phase : Phase
  drawn : List Ident
deriving DecidableEq

structure Shared (ι : Type) where
  ids : Generator
  threads : ι → Thread

inductive Event (ι : Type) where
  | load (thread : ι)
  | readClock (thread : ι) (wall : Int)
  /-- The exchange succeeds, and the word is in its place. -/
  | exchange (thread : ι) (word : Int)
  | retry (thread : ι)

namespace Event

variable {ι : Type}

def wall? : Event ι → Option Int
  | .readClock _ wall => some wall
  | _ => none

def word? : Event ι → Option Int
  | .exchange _ word => some word
  | _ => none

def issued? (worker : Worker) : Event ι → Option (ι × Ident)
  | .exchange i word => some (i, identOf worker word)
  | _ => none

end Event

namespace Shared

variable {ι : Type}

def start (worker : Worker) : Shared ι := ⟨.new worker, fun _ => ⟨.idle, []⟩⟩

section Steps

variable [DecidableEq ι]

def moveTo (s : Shared ι) (i : ι) (phase : Phase) : Shared ι :=
  ⟨s.ids, update s.threads i ⟨phase, (s.threads i).drawn⟩⟩

def put (s : Shared ι) (i : ι) (word : Int) : Shared ι :=
  ⟨⟨s.ids.worker, word⟩, update s.threads i ⟨.idle, (s.threads i).drawn ++ [identOf s.ids.worker word]⟩⟩

/-- A thread that has got an identifier may ask for another one, or never again. -/
inductive Step (s : Shared ι) : Event ι → Shared ι → Prop
  | load {i} (idle : (s.threads i).phase = .idle) : Step s (.load i) (s.moveTo i (.loaded s.ids.last))
  | readClock {i seen} (loaded : (s.threads i).phase = .loaded seen) (wall : Int) :
      Step s (.readClock i wall) (s.moveTo i (.ready seen (successor seen (sinceEpoch wall))))
  | exchange {i wanted} (ready : (s.threads i).phase = .ready s.ids.last wanted) :
      Step s (.exchange i wanted) (s.put i wanted)
  /-- The exchange fails, whether the word has changed or not. -/
  | retry {i seen wanted} (ready : (s.threads i).phase = .ready seen wanted) :
      Step s (.retry i) (s.moveTo i (.loaded s.ids.last))

inductive Run (worker : Worker) : List (Event ι) → Shared ι → Prop
  | nil : Run worker [] (start worker)
  | snoc {es s e u} : Run worker es s → Step s e u → Run worker (es ++ [e]) u

section Threads

variable {s : Shared ι} {i j : ι} {phase : Phase} {word : Int}

theorem moveTo_self : (s.moveTo i phase).threads i = ⟨phase, (s.threads i).drawn⟩ := Function.update_self ..

theorem moveTo_of_ne (other : j ≠ i) : (s.moveTo i phase).threads j = s.threads j :=
  Function.update_of_ne other ..

theorem put_self : (s.put i word).threads i = ⟨.idle, (s.threads i).drawn ++ [identOf s.ids.worker word]⟩ :=
  Function.update_self ..

theorem put_of_ne (other : j ≠ i) : (s.put i word).threads j = s.threads j :=
  Function.update_of_ne other ..

end Threads

end Steps

def readings (es : List (Event ι)) : List Int := es.filterMap Event.wall?

def exchanged (es : List (Event ι)) : List Int := es.filterMap Event.word?

def issued (worker : Worker) (es : List (Event ι)) : List (ι × Ident) := es.filterMap (Event.issued? worker)

theorem map_issued (worker : Worker) (es : List (Event ι)) :
    (issued worker es).map Prod.snd = (exchanged es).map (identOf worker) := by
  rw [issued, exchanged, List.map_filterMap, List.map_filterMap]
  congr
  funext e
  cases e <;> rfl

variable [DecidableEq ι]

/-- The run does what a single thread does that draws at the readings `walls`, which are among those that the
threads have seen. A thread that is about to exchange wants the word after the one that it saw. -/
structure Linear (worker : Worker) (es : List (Event ι)) (s : Shared ι) (walls : List Int) : Prop where
  seen : ∀ wall ∈ walls, wall ∈ readings es
  words : exchanged es = (Generator.new worker).words walls
  ids : s.ids = (Generator.new worker).afterDraws walls
  wanted : ∀ i seen wanted, (s.threads i).phase = .ready seen wanted →
    ∃ wall ∈ readings es, wanted = successor seen (sinceEpoch wall)
  drawn : ∀ i, (s.threads i).drawn = ((issued worker es).filter (·.1 = i)).map Prod.snd

namespace Linear

variable {worker : Worker} {es : List (Event ι)} {s u : Shared ι} {walls : List Int} {e : Event ι}

theorem start : Linear worker ([] : List (Event ι)) (Shared.start worker) [] where
  seen wall mem := by cases mem
  words := rfl
  ids := rfl
  wanted i seen wanted ready := by cases ready
  drawn i := rfl

/-- A step that puts no word in place leaves the generator alone, and its thread keeps what it has drawn. -/
theorem moveTo (h : Linear worker es s walls) {i : ι} {phase : Phase} (word : e.word? = none)
    (issues : e.issued? worker = none)
    (ready : ∀ seen wanted, phase = .ready seen wanted →
      ∃ wall ∈ readings (es ++ [e]), wanted = successor seen (sinceEpoch wall)) :
    Linear worker (es ++ [e]) (s.moveTo i phase) walls where
  seen wall mem := by
    rw [readings, List.filterMap_append]
    exact List.mem_append_left _ (h.seen wall mem)
  words := by
    rw [exchanged, List.filterMap_append, List.filterMap_cons_none word, List.filterMap_nil, List.append_nil]
    exact h.words
  ids := h.ids
  wanted j seen wanted about_to := by
    by_cases same : j = i
    · subst same
      rw [moveTo_self] at about_to
      exact ready seen wanted about_to
    · rw [moveTo_of_ne same] at about_to
      obtain ⟨wall, read, eq⟩ := h.wanted j seen wanted about_to
      refine ⟨wall, ?_, eq⟩
      rw [readings, List.filterMap_append]
      exact List.mem_append_left _ read
  drawn j := by
    rw [issued, List.filterMap_append, List.filterMap_cons_none issues, List.filterMap_nil, List.append_nil]
    by_cases same : j = i
    · subst same
      rw [moveTo_self]
      exact h.drawn j
    · rw [moveTo_of_ne same]
      exact h.drawn j

/-- The exchange is the moment at which the thread draws: the word that it saw is the one that is there, so
the word that it wants is the one that a single thread would come to. -/
theorem exchange (h : Linear worker es s walls) {i : ι} {wanted : Int}
    (ready : (s.threads i).phase = .ready s.ids.last wanted) :
    ∃ wall, Linear worker (es ++ [.exchange i wanted]) (s.put i wanted) (walls ++ [wall]) := by
  obtain ⟨wall, read, rfl⟩ := h.wanted i _ _ ready
  have own : s.ids.worker = worker := by rw [h.ids, worker_afterDraws, new]
  have next : ((Generator.new worker).afterDraws walls).next wall =
      (identOf s.ids.worker (successor s.ids.last (sinceEpoch wall)),
        ⟨s.ids.worker, successor s.ids.last (sinceEpoch wall)⟩) := by
    rw [← h.ids, Generator.next]
  generalize successor s.ids.last (sinceEpoch wall) = wanted at ready next
  have same_readings : readings (es ++ [.exchange i wanted]) = readings es := by
    rw [readings, List.filterMap_append, List.filterMap_cons_none rfl, List.filterMap_nil, List.append_nil,
      readings]
  have one_more : issued worker (es ++ [.exchange i wanted]) =
      issued worker es ++ [(i, identOf worker wanted)] := List.filterMap_append ..
  refine ⟨wall, ?_, ?_, ?_, ?_, ?_⟩
  · intro w mem
    rw [same_readings]
    rcases List.mem_append.mp mem with mem | mem
    · exact h.seen w mem
    · rw [List.mem_singleton.mp mem]
      exact read
  · rw [words_concat, next, ← h.words]
    exact List.filterMap_append ..
  · rw [afterDraws_concat, next, put]
  · intro j seen wanted' about_to
    rw [same_readings]
    by_cases same : j = i
    · subst same
      rw [put_self] at about_to
      cases about_to
    · rw [put_of_ne same] at about_to
      exact h.wanted j seen wanted' about_to
  · intro j
    rw [one_more, List.filter_append, List.map_append, ← h.drawn j]
    by_cases same : j = i
    · subst same
      rw [put_self, own]
      simp
    · rw [put_of_ne same]
      simp [Ne.symm same]

theorem step (h : Linear worker es s walls) (step : Step s e u) : ∃ walls', Linear worker (es ++ [e]) u walls' := by
  cases step with
  | load idle => exact ⟨walls, h.moveTo rfl rfl fun _ _ ready => nomatch ready⟩
  | @readClock i seen loaded wall =>
    refine ⟨walls, h.moveTo rfl rfl ?_⟩
    rintro _ _ ⟨⟩
    refine ⟨wall, ?_, rfl⟩
    rw [readings, List.filterMap_append]
    exact List.mem_append_right _ (List.mem_singleton_self wall)
  | exchange ready =>
    obtain ⟨wall, linear⟩ := h.exchange ready
    exact ⟨_, linear⟩
  | retry ready => exact ⟨walls, h.moveTo rfl rfl fun _ _ ready => nomatch ready⟩

end Linear

theorem Run.linear {worker : Worker} {es : List (Event ι)} {s : Shared ι} (run : Run worker es s) :
    ∃ walls, Linear worker es s walls := by
  induction run with
  | nil => exact ⟨[], .start⟩
  | snoc _ step ih =>
    obtain ⟨walls, linear⟩ := ih
    exact linear.step step

/-- However the threads interleave, each identifier is above all those of earlier exchanges, so that nobody
gets what another has got, and each thread sees its own increase. This holds as long as the clock and the word
stay within their bits; the clock may stand still or go backwards. If it stands still throughout, the
identifiers are those that a single thread would get. -/
theorem idents_increase_across_threads {worker : Worker} {es : List (Event ι)} {s : Shared ι}
    (run : Run worker es s) (early : ∀ wall ∈ readings es, wall < wallLimit)
    (room : ∀ word ∈ exchanged es, word < wordLimit) :
    ((issued worker es).map Prod.snd).Pairwise (· < ·) ∧
      ((issued worker es).map Prod.snd).Nodup ∧
      (∀ i, (s.threads i).drawn = ((issued worker es).filter (·.1 = i)).map Prod.snd ∧
        (s.threads i).drawn.Pairwise (· < ·)) ∧
      (∀ i j id, id ∈ (s.threads i).drawn → id ∈ (s.threads j).drawn → i = j) ∧
      ∀ wall, (∀ reading ∈ readings es, reading = wall) →
        (issued worker es).map Prod.snd = ((Generator.new worker).take wall (issued worker es).length).1 := by
  obtain ⟨walls, linear⟩ := run.linear
  have drawn : (issued worker es).map Prod.snd = (Generator.new worker).draws walls := by
    rw [map_issued, linear.words, draws_eq_map_words]
    rfl
  have increasing : ((issued worker es).map Prod.snd).Pairwise (· < ·) := by
    rw [drawn]
    refine pairwise_draws (Int.le_refl 0) (fun wall mem => early wall (linear.seen wall mem)) ?_
    intro word mem
    rcases List.mem_cons.mp mem with rfl | mem
    · exact (by decide : (0 : Int) < wordLimit)
    · exact room word (linear.words ▸ mem)
  have distinct : ((issued worker es).map Prod.snd).Nodup :=
    increasing.imp fun {a b} (lt : a.toInt < b.toInt) eq => Int.lt_irrefl _ (eq ▸ lt)
  refine ⟨increasing, distinct, fun i => ⟨linear.drawn i, ?_⟩, ?_, ?_⟩
  · rw [linear.drawn i]
    exact increasing.sublist (List.filter_sublist.map _)
  · intro i j id mine yours
    rw [linear.drawn, List.mem_map] at mine yours
    obtain ⟨x, x_mem, rfl⟩ := mine
    obtain ⟨y, y_mem, same⟩ := yours
    obtain ⟨x_mem, x_of⟩ := List.mem_filter.mp x_mem
    obtain ⟨y_mem, y_of⟩ := List.mem_filter.mp y_mem
    have one := List.inj_on_of_nodup_map distinct y_mem x_mem same
    rw [← of_decide_eq_true x_of, ← of_decide_eq_true y_of, one]
  · intro wall still
    have all : walls = List.replicate (issued worker es).length wall := by
      rw [List.eq_replicate_iff]
      refine ⟨?_, fun w mem => still w (linear.seen w mem)⟩
      rw [← length_draws (Generator.new worker) walls, ← drawn, List.length_map]
    rw [drawn, all, draws_replicate]

/-- Thread 1 loses the race for the fifth millisecond, finds the clock before 1970, fails without a reason, and
takes the next number of that millisecond. -/
theorem idents_increase_across_threads_of_two :
    let es : List (Event Nat) := [.load 0, .load 1, .readClock 0 1704067200005, .readClock 1 1704067200003,
      .exchange 0 20480, .retry 1, .readClock 1 (-1), .retry 1, .readClock 1 0, .exchange 1 20481]
    ∃ s, Run 7 es s ∧ (s.threads 0).drawn = [⟨21000192⟩] ∧ (s.threads 1).drawn = [⟨21000193⟩] ∧
      (∀ wall ∈ readings es, wall < wallLimit) ∧ (∀ word ∈ exchanged es, word < wordLimit) ∧
      ((issued 7 es).map Prod.snd).Pairwise (· < ·) ∧ ((issued 7 es).map Prod.snd).Nodup := by
  intro es
  have run := (Run.nil : Run 7 ([] : List (Event Nat)) _)
    |>.snoc (e := .load 0) (.load rfl)
    |>.snoc (e := .load 1) (.load rfl)
    |>.snoc (e := .readClock 0 1704067200005) (.readClock rfl _)
    |>.snoc (e := .readClock 1 1704067200003) (.readClock rfl _)
    |>.snoc (e := .exchange 0 20480) (.exchange (by decide))
    |>.snoc (e := .retry 1) (.retry rfl)
    |>.snoc (e := .readClock 1 (-1)) (.readClock rfl _)
    |>.snoc (e := .retry 1) (.retry rfl)
    |>.snoc (e := .readClock 1 0) (.readClock rfl _)
    |>.snoc (e := .exchange 1 20481) (.exchange (by decide))
  have early : ∀ wall ∈ readings es, wall < wallLimit := by decide
  have room : ∀ word ∈ exchanged es, word < wordLimit := by decide
  obtain ⟨increasing, distinct, -⟩ := idents_increase_across_threads run early room
  exact ⟨_, run, by decide, by decide, early, room, increasing, distinct⟩

end Shared

end ChatSpaces.Generator
