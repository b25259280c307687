import ChatSpaces.Document.Json
import ChatSpaces.Proofs.Text.Decimal

/-!
# Documents that are written and read

A document without floating point numbers is read as what it was written from. The proof follows the reader, which
goes by fuel: two steps for each character are more than it takes.
-/

namespace ChatSpaces.Document

mutual

/-- No floating point number is part of the document. -/
def RealFree : Document → Prop
  | .null | .bool _ | .whole _ | .text _ => True
  | .real _ => False
  | .list items => RealFreeItems items
  | .record fields => RealFreeFields fields

def RealFreeItems : List Document → Prop
  | [] => True
  | d :: ds => d.RealFree ∧ RealFreeItems ds

def RealFreeFields : List (String × Document) → Prop
  | [] => True
  | (_, d) :: fs => d.RealFree ∧ RealFreeFields fs

end

namespace Json

open Text (Denotes denotes_toDigits toList_toString_natCast toList_toString_neg)

section Characters

variable {c : Char} {cs rest seen : List Char} {fuel : Nat}

theorem skipGaps_cons (plain : isGap c = false) : skipGaps (c :: cs) = c :: cs :=
  List.dropWhile_cons_of_neg (by rw [plain]; exact Bool.false_ne_true)

theorem unit?_hexDigit : ∀ n < 32, unit? '0' '0' (hexDigit (n / 16)) (hexDigit n) = some n := by decide

theorem quoted_escaped (fuel : Nat) (seen : List Char) (c : Char) (rest : List Char) :
    quoted (fuel + 1) seen (escaped c ++ rest) = quoted fuel (c :: seen) rest := by
  unfold escaped
  split
  · next quote =>
    subst quote
    rfl
  split
  · next backslash =>
    subst backslash
    rfl
  split
  · next control =>
    have spelled := unit?_hexDigit c.toNat control
    simp only [List.cons_append, List.nil_append, quoted, spelled]
    rw [if_neg (by omega), if_neg (by omega), Char.ofNat_toNat]
  · next quote backslash control =>
    rw [List.singleton_append]
    conv_lhs => unfold quoted
    split
    · next same => exact absurd (List.cons.inj same).1 quote
    · next same => exact absurd (List.cons.inj same).1 backslash
    · next same => exact absurd (List.cons.inj same).1 backslash
    · next same =>
      cases same
      rw [if_neg control]
    · next same => cases same

theorem quoted_flatMap_escaped (enough : cs.length < fuel) :
    quoted fuel seen (cs.flatMap escaped ++ '"' :: rest) = some (String.ofList (seen.reverse ++ cs), rest) := by
  induction cs generalizing fuel seen with
  | nil =>
    obtain ⟨fuel, rfl⟩ := Nat.exists_eq_add_one_of_ne_zero (Nat.ne_of_gt enough)
    rw [List.append_nil]
    rfl
  | cons c cs ih =>
    obtain ⟨fuel, rfl⟩ := Nat.exists_eq_add_one_of_ne_zero (Nat.ne_of_gt (Nat.zero_lt_of_lt enough))
    rw [List.flatMap_cons, List.append_assoc, quoted_escaped, ih (Nat.lt_of_succ_lt_succ enough), List.reverse_cons,
      List.append_assoc, List.singleton_append]

end Characters

section Numbers

variable {ds cs rest : List Char} {n : Nat}

/-- What follows a number does not go on with it. -/
def Ends (rest : List Char) : Prop := ∀ c, rest.head? = some c → isNumberChar c = false

theorem isNumberChar_of_isDigit {c : Char} (digit : c.isDigit = true) : isNumberChar c = true := by
  simp [isNumberChar, digit]

theorem takeWhile_append_of_stop {p : Char → Bool} (inside : ∀ c ∈ cs, p c = true)
    (stop : ∀ c, rest.head? = some c → p c = false) :
    (cs ++ rest).takeWhile p = cs ∧ (cs ++ rest).dropWhile p = rest := by
  rw [List.takeWhile_append_of_pos inside, List.dropWhile_append_of_pos inside]
  cases rest with
  | nil => exact ⟨List.append_nil cs, rfl⟩
  | cons c rest =>
    have stop : ¬ p c = true := by rw [stop c rfl]; exact Bool.false_ne_true
    rw [List.takeWhile_cons_of_neg stop, List.dropWhile_cons_of_neg stop]
    exact ⟨List.append_nil cs, rfl⟩

theorem takeWhile_digits (denotes : Denotes ds n) : ds.takeWhile Char.isDigit = ds := by
  have all : (ds ++ []).takeWhile Char.isDigit = ds := (takeWhile_append_of_stop denotes.digits (by rintro c ⟨⟩)).1
  rwa [List.append_nil] at all

theorem number?_digits (denotes : Denotes ds n) (lead : ds.head? = some '0' → ds = ['0']) :
    number? ds = some (.whole n) := by
  have unsigned : ds.head? ≠ some '-' := by
    intro sign
    exact absurd (denotes.digits '-' (List.mem_of_mem_head? sign)) (by decide)
  have part : IsWholePart ds := by
    by_cases zero : ds.head? = some '0'
    · exact .inl (lead zero)
    · exact .inr ⟨denotes.nonempty, zero⟩
  have spelled : Text.spelled ds 0 = n := denotes.value
  simp [number?, unsigned, takeWhile_digits denotes, part, spelled]

theorem number?_minus (denotes : Denotes ds n) (lead : ds.head? ≠ some '0') :
    number? ('-' :: ds) = some (.whole (-n)) := by
  have part : IsWholePart ds := .inr ⟨denotes.nonempty, lead⟩
  have positive : ds ≠ ['0'] := by
    rintro rfl
    exact lead rfl
  have spelled : Text.spelled ds 0 = n := denotes.value
  simp [number?, takeWhile_digits denotes, part, positive, spelled]

theorem number?_toString (z : Int) :
    (∀ c ∈ (toString z).toList, isNumberChar c = true) ∧ number? (toString z).toList = some (.whole z) := by
  generalize text : (toString z).toList = cs
  have canonical : Text.Canonical z cs := Text.canonical_iff.mpr text.symm
  cases canonical with
  | plain denotes lead =>
    exact ⟨fun c mem => isNumberChar_of_isDigit (denotes.digits c mem), number?_digits denotes lead⟩
  | minus denotes lead =>
    refine ⟨?_, number?_minus denotes lead⟩
    intro c mem
    rcases List.mem_cons.mp mem with rfl | digit
    · rfl
    · exact isNumberChar_of_isDigit (denotes.digits c digit)

theorem isGap_of_isNumberChar {c : Char} (number : isNumberChar c = true) : isGap c = false := by
  rw [← Bool.not_eq_true]
  intro gap
  have white : c = ' ' ∨ c = '\n' ∨ c = '\r' ∨ c = '\t' := by simpa [isGap, or_assoc] using gap
  rcases white with rfl | rfl | rfl | rfl <;> cases number

theorem value_of_isNumberChar (fuel : Nat) {c : Char} (number : isNumberChar c = true) :
    value (fuel + 1) (c :: cs) = (number? ((c :: cs).takeWhile isNumberChar)).map
      ((·, (c :: cs).dropWhile isNumberChar)) := by
  conv_lhs => unfold value
  rw [skipGaps_cons (isGap_of_isNumberChar number)]
  split
  case h_7 => rfl
  all_goals
    next same =>
    cases same
    cases number

theorem value_whole (fuel : Nat) (z : Int) (ends : Ends rest) :
    value (fuel + 1) ((toString z).toList ++ rest) = some (.whole z, rest) := by
  obtain ⟨inside, read⟩ := number?_toString z
  obtain ⟨taken, dropped⟩ := takeWhile_append_of_stop inside ends
  cases text : (toString z).toList with
  | nil =>
    rw [text] at read
    cases read
  | cons c cs =>
    rw [text] at inside read taken dropped
    rw [List.cons_append] at taken dropped ⊢
    rw [value_of_isNumberChar fuel (inside c (.head _)), taken, dropped, read, Option.map_some]

end Numbers

section Values

variable {rest : List Char} {fuel : Nat}

def joined (ts : List String) : List Char := (",".intercalate ts).toList

def more : List String → List Char
  | [] => []
  | t :: ts => ',' :: joined (t :: ts)

theorem joined_cons (t : String) (ts : List String) : joined (t :: ts) = t.toList ++ more ts := by
  cases ts with
  | nil => rw [joined, String.intercalate_singleton, more, List.append_nil]
  | cons u us =>
    rw [joined, String.intercalate_cons_cons, String.toList_append, String.toList_append, List.append_assoc]
    rfl

theorem ends_more (ts : List String) {c : Char} (stop : isNumberChar c = false) : Ends (more ts ++ c :: rest) := by
  rintro d head
  cases ts with
  | nil =>
    cases head
    exact stop
  | cons t ts =>
    cases head
    rfl

theorem toList_quote (s : String) : (quote s).toList = '"' :: (s.toList.flatMap escaped ++ ['"']) := by
  simp [quote]

theorem length_lt_quote (s : String) : s.toList.length + 1 < (quote s).toList.length := by
  have single (c : Char) : 1 ≤ (escaped c).length := by
    unfold escaped
    split_ifs <;> exact Nat.le_add_left 1 _
  have every : s.toList.length ≤ (s.toList.flatMap escaped).length := by
    induction s.toList with
    | nil => exact Nat.le_refl 0
    | cons c cs ih =>
      have := single c
      rw [List.flatMap_cons, List.length_append, List.length_cons]
      omega
  rw [toList_quote, List.length_cons, List.length_append, List.length_singleton]
  omega

theorem value_quote {s : String} (enough : s.toList.length < fuel) :
    value (fuel + 1) ((quote s).toList ++ rest) = some (.text s, rest) := by
  rw [toList_quote, List.cons_append, List.append_assoc, List.singleton_append]
  unfold value
  rw [skipGaps_cons rfl]
  simp only [quoted_flatMap_escaped enough, Option.map_some, List.reverse_nil, List.nil_append, String.ofList_toList]

/-- A document starts with a character of its own, which ends no list. -/
theorem exists_head_write {d : Document} (free : d.RealFree) :
    ∃ c cs, (write d).toList = c :: cs ∧ isGap c = false ∧ c ≠ ']' := by
  cases d with
  | null => exact ⟨_, _, rfl, rfl, by decide⟩
  | bool b => cases b <;> exact ⟨_, _, rfl, rfl, by decide⟩
  | whole z =>
    obtain ⟨inside, read⟩ := number?_toString z
    rw [write]
    cases text : (toString z).toList with
    | nil =>
      rw [text] at read
      cases read
    | cons c cs =>
      rw [text] at inside
      have number := inside c (.head _)
      refine ⟨c, cs, rfl, isGap_of_isNumberChar number, ?_⟩
      rintro rfl
      cases number
  | real x => cases free
  | text s => exact ⟨_, _, toList_quote s, rfl, by decide⟩
  | list ds => exact ⟨'[', _, by rw [write, String.toList_append, String.toList_append]; rfl, rfl, by decide⟩
  | record fs => exact ⟨'\x7b', _, by rw [write, String.toList_append, String.toList_append]; rfl, rfl, by decide⟩

section Steps

variable {d : Document} {seen : List Document} {fields : List (String × Document)} {name : String} {c : Char}
  {cs : List Char}

theorem items_last (plain : isGap c = false) (inside : c ≠ ']')
    (read : value fuel (c :: cs) = some (d, ']' :: rest)) :
    items (fuel + 1) seen (c :: cs) = some (.list (d :: seen).reverse, rest) := by
  conv_lhs => unfold items
  rw [skipGaps_cons plain]
  split
  · next same => exact absurd (List.cons.inj same).1 inside
  · simp only [read, skipGaps_cons (c := ']') rfl]

theorem items_next (plain : isGap c = false) (inside : c ≠ ']')
    (read : value fuel (c :: cs) = some (d, ',' :: rest)) :
    items (fuel + 1) seen (c :: cs) = items fuel (d :: seen) rest := by
  conv_lhs => unfold items
  rw [skipGaps_cons plain]
  split
  · next same => exact absurd (List.cons.inj same).1 inside
  · simp only [read, skipGaps_cons (c := ',') rfl]

theorem members_last (enough : name.toList.length < fuel) (read : value fuel cs = some (d, '\x7d' :: rest)) :
    members (fuel + 1) fields ((quote name).toList ++ ':' :: cs) =
      some (.record ((name, d) :: fields).reverse, rest) := by
  rw [toList_quote, List.cons_append, List.append_assoc, List.singleton_append]
  conv_lhs => unfold members
  simp only [skipGaps_cons (c := '"') rfl, skipGaps_cons (c := ':') rfl, skipGaps_cons (c := '\x7d') rfl,
    quoted_flatMap_escaped enough, List.reverse_nil, List.nil_append, String.ofList_toList, read]

theorem members_next (enough : name.toList.length < fuel) (read : value fuel cs = some (d, ',' :: rest)) :
    members (fuel + 1) fields ((quote name).toList ++ ':' :: cs) = members fuel ((name, d) :: fields) rest := by
  rw [toList_quote, List.cons_append, List.append_assoc, List.singleton_append]
  conv_lhs => unfold members
  simp only [skipGaps_cons (c := '"') rfl, skipGaps_cons (c := ':') rfl, skipGaps_cons (c := ',') rfl,
    quoted_flatMap_escaped enough, List.reverse_nil, List.nil_append, String.ofList_toList, read]

end Steps

mutual

/-- Whatever follows, if it does not go on with a number. -/
theorem value_write {fuel : Nat} {rest : List Char} (d : Document) (free : d.RealFree)
    (enough : 2 * (write d).toList.length ≤ fuel) (ends : Ends rest) :
    value fuel ((write d).toList ++ rest) = some (d, rest) := by
  obtain ⟨fuel, rfl⟩ : ∃ n, fuel = n + 1 := by
    obtain ⟨c, cs, text, -⟩ := exists_head_write free
    rw [text, List.length_cons] at enough
    exact ⟨fuel - 1, by omega⟩
  -- The bound goes through the cases, so that it speaks of the parts in each of them.
  revert free enough
  match d with
  | .null => exact fun _ _ => rfl
  | .bool true => exact fun _ _ => rfl
  | .bool false => exact fun _ _ => rfl
  | .whole z => exact fun _ _ => value_whole fuel z ends
  | .real x => exact fun free => nomatch free
  | .text s =>
    intro _ enough
    have := length_lt_quote s
    rw [write] at enough ⊢
    exact value_quote (by omega)
  | .list ds =>
    intro free enough
    have text : (write (.list ds)).toList = '[' :: (joined (writeItems ds) ++ [']']) := by
      rw [write, String.toList_append, String.toList_append]
      rfl
    rw [text, List.length_cons, List.length_append, List.length_singleton] at enough
    rw [text, List.cons_append, List.append_assoc, List.singleton_append]
    exact items_writeItems ds free (.inl rfl) (by omega)
  | .record fs =>
    intro free enough
    have text : (write (.record fs)).toList = '\x7b' :: (joined (writeFields fs) ++ ['\x7d']) := by
      rw [write, String.toList_append, String.toList_append]
      rfl
    rw [text, List.length_cons, List.length_append, List.length_singleton] at enough
    rw [text, List.cons_append, List.append_assoc, List.singleton_append]
    exact members_writeFields fs free (.inl rfl) (by omega)

theorem items_writeItems {fuel : Nat} {rest : List Char} {seen : List Document} (ds : List Document)
    (free : RealFreeItems ds) (begun : seen = [] ∨ ds ≠ []) (enough : 2 * (joined (writeItems ds)).length < fuel) :
    items fuel seen (joined (writeItems ds) ++ ']' :: rest) = some (.list (seen.reverse ++ ds), rest) := by
  obtain ⟨fuel, rfl⟩ := Nat.exists_eq_add_one_of_ne_zero (Nat.ne_of_gt (Nat.zero_lt_of_lt enough))
  revert free begun enough
  match ds with
  | [] =>
    intro _ begun _
    have fresh : seen = [] := begun.resolve_right fun more => more rfl
    subst fresh
    rfl
  | d :: ds =>
    intro ⟨free, later⟩ _ enough
    obtain ⟨c, cs, text, plain, inside⟩ := exists_head_write free
    rw [writeItems, joined_cons, List.length_append] at enough
    have read : value fuel ((write d).toList ++ (more (writeItems ds) ++ ']' :: rest)) =
        some (d, more (writeItems ds) ++ ']' :: rest) := value_write d free (by omega) (ends_more _ rfl)
    rw [text, List.cons_append] at read
    rw [writeItems, joined_cons, List.append_assoc, text, List.cons_append]
    -- What comes after the first item is a comma or the end of the list.
    revert later enough read
    match ds with
    | [] =>
      intro _ _ read
      rw [← List.reverse_cons]
      exact items_last plain inside read
    | e :: es =>
      intro later enough read
      have kept : seen.reverse ++ d :: e :: es = (d :: seen).reverse ++ e :: es := by
        rw [List.reverse_cons, List.append_assoc, List.singleton_append]
      rw [writeItems, more, List.length_cons, ← writeItems] at enough
      refine (items_next plain inside read).trans ?_
      rw [kept]
      exact items_writeItems (e :: es) later (.inr (List.cons_ne_nil _ _)) (by omega)

theorem members_writeFields {fuel : Nat} {rest : List Char} {seen : List (String × Document)}
    (fs : List (String × Document)) (free : RealFreeFields fs) (begun : seen = [] ∨ fs ≠ [])
    (enough : 2 * (joined (writeFields fs)).length < fuel) :
    members fuel seen (joined (writeFields fs) ++ '\x7d' :: rest) = some (.record (seen.reverse ++ fs), rest) := by
  obtain ⟨fuel, rfl⟩ := Nat.exists_eq_add_one_of_ne_zero (Nat.ne_of_gt (Nat.zero_lt_of_lt enough))
  revert free begun enough
  match fs with
  | [] =>
    intro _ begun _
    have fresh : seen = [] := begun.resolve_right fun more => more rfl
    subst fresh
    rfl
  | (name, d) :: fs =>
    intro ⟨free, later⟩ _ enough
    have text : (quote name ++ ":" ++ write d).toList = (quote name).toList ++ ':' :: (write d).toList := by
      rw [String.toList_append, String.toList_append, List.append_assoc]
      rfl
    have short := length_lt_quote name
    rw [writeFields, joined_cons, text, List.length_append, List.length_append, List.length_cons] at enough
    have read : value fuel ((write d).toList ++ (more (writeFields fs) ++ '\x7d' :: rest)) =
        some (d, more (writeFields fs) ++ '\x7d' :: rest) := value_write d free (by omega) (ends_more _ rfl)
    rw [writeFields, joined_cons, text, List.append_assoc, List.append_assoc, List.cons_append]
    revert later enough read
    match fs with
    | [] =>
      intro _ _ read
      rw [← List.reverse_cons]
      exact members_last (by omega) read
    | (other, e) :: es =>
      intro later enough read
      have kept : seen.reverse ++ (name, d) :: (other, e) :: es = ((name, d) :: seen).reverse ++ (other, e) :: es := by
        rw [List.reverse_cons, List.append_assoc, List.singleton_append]
      rw [writeFields, more, List.length_cons, ← writeFields] at enough
      refine (members_next (by omega) read).trans ?_
      rw [kept]
      exact members_writeFields ((other, e) :: es) later (.inr (List.cons_ne_nil _ _)) (by omega)

end

theorem read?_write {d : Document} (free : d.RealFree) : read? (write d) = some d := by
  have read : value (2 * (write d).toList.length + 2) ((write d).toList ++ []) = some (d, []) :=
    value_write d free (by omega) (by rintro c ⟨⟩)
  rw [List.append_nil] at read
  simp only [read?, read]
  rfl

end Values

end Json

end ChatSpaces.Document
