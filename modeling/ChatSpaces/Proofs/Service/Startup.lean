import ChatSpaces.Proofs.Ident.Fields
import ChatSpaces.Proofs.Restraint
import ChatSpaces.Proofs.Service.Drawing

/-!
# Starting from settings

The settings are checked before the services are wired from them, and each looks at the settings for itself. The two
agree: what has passed the checks is wired. Of settings that do not pass, the first fault is reported.
-/

namespace ChatSpaces

namespace Settings

open Restraint (Kind)

variable {s : Settings} {raw : String} {raws : List String} {kind : Kind} {kinds : List Kind} {unknown : Kind.Unknown}
  {fault : Fault} {policy : Policy}

section ReadKinds

theorem readKinds_cons_ok (read : Kind.read raw = .ok kind) :
    readKinds (raw :: raws) = (readKinds raws).map (kind :: ·) := by
  rw [readKinds, read]

theorem readKinds_cons_error (read : Kind.read raw = .error unknown) : readKinds (raw :: raws) = .error unknown := by
  rw [readKinds, read]

theorem readKinds_eq_ok_iff : readKinds raws = .ok kinds ↔ raws.map Kind.read = kinds.map .ok := by
  induction raws generalizing kinds with
  | nil => cases kinds <;> simp [readKinds]
  | cons raw rest ih =>
    rw [List.map_cons]
    cases read : Kind.read raw with
    | error unknown =>
      rw [readKinds_cons_error read]
      cases kinds <;> simp
    | ok kind =>
      rw [readKinds_cons_ok read]
      cases kinds with
      | nil => cases readKinds rest <;> simp [Except.map]
      | cons k ks =>
        rw [List.map_cons, List.cons.injEq, ← ih]
        cases readKinds rest <;> simp [Except.map]

theorem mem_of_readKinds (read : readKinds raws = .ok kinds) : kind ∈ kinds ↔ ∃ raw ∈ raws, kind.SpelledBy raw := by
  have named : Except.ok kind ∈ raws.map Kind.read ↔ kind ∈ kinds := by
    simp [readKinds_eq_ok_iff.mp read]
  simp only [← named, List.mem_map, Kind.read_eq_ok_iff_spelledBy]

theorem readKinds_eq_error_iff : readKinds raws = .error unknown ↔
    ∃ before raw after, raws = before ++ raw :: after ∧ (∀ r ∈ before, ∃ k : Kind, k.SpelledBy r) ∧
      Kind.read raw = .error unknown := by
  constructor
  · intro stopped
    induction raws with
    | nil => cases stopped
    | cons raw rest ih =>
      cases read : Kind.read raw with
      | error unread =>
        rw [readKinds_cons_error read] at stopped
        cases stopped
        exact ⟨[], raw, rest, rfl, nofun, read⟩
      | ok kind =>
        rw [readKinds_cons_ok read] at stopped
        cases others : readKinds rest with
        | ok ks =>
          rw [others] at stopped
          cases stopped
        | error later =>
          rw [others] at stopped
          cases stopped
          obtain ⟨before, bad, after, rfl, spelled, refused⟩ := ih others
          have first : ∃ k : Kind, k.SpelledBy raw := ⟨kind, Kind.read_eq_ok_iff_spelledBy.mp read⟩
          exact ⟨raw :: before, bad, after, rfl, List.forall_mem_cons.mpr ⟨first, spelled⟩, refused⟩
  · rintro ⟨before, raw, after, rfl, spelled, refused⟩
    induction before with
    | nil => exact readKinds_cons_error refused
    | cons first before ih =>
      obtain ⟨⟨k, one⟩, others⟩ := List.forall_mem_cons.mp spelled
      rw [List.cons_append, readKinds_cons_ok (Kind.read_eq_ok_iff_spelledBy.mpr one), ih others]
      rfl

end ReadKinds

theorem policy_eq_ok_iff : s.policy = .ok policy ↔ ∃ kinds, readKinds s.denyingKinds = .ok kinds ∧
    Policy.ofKinds kinds = policy := by
  unfold Settings.policy
  split <;> simp_all

theorem policy_eq_error_iff : s.policy = .error fault ↔ ∃ unknown, readKinds s.denyingKinds = .error unknown ∧
    .invalid "moderation.posting_blocked_kinds" unknown.message = fault := by
  unfold Settings.policy
  split <;> simp_all

theorem exists_policy_iff : (∃ policy, s.policy = .ok policy) ↔
    ∀ raw ∈ s.denyingKinds, ∃ k : Kind, k.SpelledBy raw := by
  constructor
  · rintro ⟨policy, described⟩ raw mem
    obtain ⟨kinds, read, -⟩ := policy_eq_ok_iff.mp described
    have named : Kind.read raw ∈ s.denyingKinds.map Kind.read := List.mem_map_of_mem mem
    rw [readKinds_eq_ok_iff.mp read] at named
    obtain ⟨k, -, same⟩ := List.mem_map.mp named
    exact ⟨k, Kind.read_eq_ok_iff_spelledBy.mp same.symm⟩
  · intro spelled
    cases described : s.policy with
    | ok policy => exact ⟨policy, rfl⟩
    | error fault =>
      obtain ⟨unknown, stopped, -⟩ := policy_eq_error_iff.mp described
      obtain ⟨before, raw, after, split, -, refused⟩ := readKinds_eq_error_iff.mp stopped
      obtain ⟨k, one⟩ := spelled raw (split ▸ List.mem_append_right before (List.mem_cons_self ..))
      exact absurd one ((Kind.read_eq_error_iff.mp refused).1 k)

/-- The fault of settings that is found first: what is looked at before it is as it should be. -/
inductive FirstFault (s : Settings) : Fault → Prop where
  | address (blank : Text.trim s.databaseUrl = "") : FirstFault s (.missing "database.url")
  | worker (address : Text.trim s.databaseUrl ≠ "") (beyond : 1024 ≤ s.worker) :
      FirstFault s (.invalid "snowflake.worker_id" (toString s.worker ++ " is not below 1024"))
  | pool (address : Text.trim s.databaseUrl ≠ "") (worker : s.worker < 1024)
      (reversed : s.maxConnections < s.minConnections) :
      FirstFault s (.invalid "database.min_connections" "greater than database.max_connections")
  | kind {before : List String} {raw : String} {after : List String} (address : Text.trim s.databaseUrl ≠ "")
      (worker : s.worker < 1024) (pool : s.minConnections ≤ s.maxConnections)
      (names : s.denyingKinds = before ++ raw :: after) (spelled : ∀ r ∈ before, ∃ k : Kind, k.SpelledBy r)
      (unknown : ∀ k : Kind, ¬ k.SpelledBy raw) :
      FirstFault s (.invalid "moderation.posting_blocked_kinds"
        ("unknown restraint kind: " ++ Text.lower (Text.trim raw)))

theorem fault?_eq_some_iff : s.fault? = some fault ↔ s.FirstFault fault := by
  simp only [fault?, ← Text.trim_eq_empty_iff]
  constructor
  · intro found
    -- One case for each check; in the last one the policy tells which name was the first.
    split at found
    case isTrue blank =>
      cases found
      exact .address blank
    case isFalse address =>
      split at found
      case isTrue beyond =>
        cases found
        exact .worker address beyond
      case isFalse worker =>
        split at found
        case isTrue reversed =>
          cases found
          exact .pool address (Nat.lt_of_not_le worker) reversed
        case isFalse pool =>
          split at found
          case h_1 first described =>
            cases found
            obtain ⟨unknown, stopped, rfl⟩ := policy_eq_error_iff.mp described
            obtain ⟨before, raw, after, names, spelled, refused⟩ := readKinds_eq_error_iff.mp stopped
            obtain ⟨unspelled, rfl⟩ := Kind.read_eq_error_iff.mp refused
            exact .kind address (Nat.lt_of_not_le worker) (Nat.le_of_not_lt pool) names spelled unspelled
          case h_2 => cases found
  · intro first
    cases first with
    | address blank => rw [if_pos blank]
    | worker address beyond => rw [if_neg address, if_pos beyond]
    | pool address worker reversed => rw [if_neg address, if_neg (Nat.not_le_of_lt worker), if_pos reversed]
    | kind address worker pool names spelled unspelled =>
      have described := policy_eq_error_iff.mpr ⟨_, readKinds_eq_error_iff.mpr
        ⟨_, _, _, names, spelled, Kind.read_eq_error_iff.mpr ⟨unspelled, rfl⟩⟩, rfl⟩
      rw [if_neg address, if_neg (Nat.not_le_of_lt worker), if_neg (Nat.not_lt_of_le pool), described]
      rfl

theorem fault?_eq_none_iff : s.fault? = none ↔ Text.trim s.databaseUrl ≠ "" ∧ s.worker < 1024 ∧
    s.minConnections ≤ s.maxConnections ∧ ∃ policy, s.policy = .ok policy := by
  simp only [fault?, ← Text.trim_eq_empty_iff]
  split
  case isTrue blank => simp [blank]
  case isFalse address =>
    split
    case isTrue beyond => simp [Nat.not_lt_of_le beyond]
    case isFalse worker =>
      split
      case isTrue reversed => simp [Nat.not_le_of_lt reversed]
      case isFalse pool => split <;> simp_all

theorem ofTree_eq_error_iff {d : Document} (read : ofDocument? d = some s) :
    ofTree d = .error fault ↔ s.fault? = some fault := by
  simp only [ofTree, read]
  split <;> simp_all

end Settings

namespace Service

/-- What is wired does what the settings say: identifiers name their worker, those that are drawn and those in the
tables after any run, and posting is denied to the kinds that they spell. -/
structure Wiring.Follows (w : Wiring) (s : Settings) : Prop where
  draws : ∀ walls, ∀ id ∈ w.ids.draws walls, id.workerId = s.worker
  rows : ∀ clocks es id, ((Deployment.start w clocks).after es).tables.Uses id → id.workerId = s.worker
  denies : ∀ k, w.policy.denies k = true ↔ ∃ raw ∈ s.denyingKinds, k.SpelledBy raw

namespace Wiring

variable {s : Settings}

theorem exists_of_fault?_eq_none (sound : s.fault? = none) : ∃ w, ofSettings s = .ok w ∧ w.Follows s := by
  obtain ⟨-, worker, -, policy, described⟩ := Settings.fault?_eq_none_iff.mp sound
  obtain ⟨kinds, read, rfl⟩ := Settings.policy_eq_ok_iff.mp described
  refine ⟨⟨.ofKinds kinds, .new ⟨s.worker, worker⟩⟩, ?_, ?_, ?_, fun k => ?_⟩
  · rw [ofSettings, described]
    simp only [ofWorker, Generator.ofWorker?, dif_pos worker]
  · exact fun _ _ drawn => Generator.workerId_of_mem_draws drawn
  · intro clocks es id used
    rcases Deployment.uses_after used with before | drawn
    · exact absurd before (Tables.not_uses_empty id)
    · exact Generator.workerId_of_mem_draws drawn
  · rw [Policy.denies_ofKinds, Settings.mem_of_readKinds read]

/-- For every tree of settings: if they are taken, services are wired from them without being refused and without a
number that is none of a worker's, and do what the settings say. If they can be read, they are refused exactly when the
address of the database is blank, the worker is not below 1024, more connections are kept than may be opened, or a name
spells no kind of restraint. What is reported then is the first of these in this order, and of the names the first that
spells none. -/
theorem checked_settings_are_wired (d : Document) :
    (∀ s, Settings.ofTree d = .ok s → ∃ w, ofSettings s = .ok w ∧ w.Follows s) ∧
      ∀ s, Settings.ofDocument? d = some s →
        ((∃ fault, Settings.ofTree d = .error fault) ↔
          Text.trim s.databaseUrl = "" ∨ 1024 ≤ s.worker ∨ s.maxConnections < s.minConnections ∨
            ∃ raw ∈ s.denyingKinds, ∀ k : Restraint.Kind, ¬ k.SpelledBy raw) ∧
        ∀ fault, Settings.ofTree d = .error fault ↔ s.FirstFault fault := by
  refine ⟨fun s taken => ?_, fun s read => ⟨?_, fun fault => ?_⟩⟩
  · exact exists_of_fault?_eq_none (Settings.ofTree_eq_ok_iff.mp taken).2
  · have sound : (∃ fault, Settings.ofTree d = .error fault) ↔ ¬ s.fault? = none := by
      simp only [Settings.ofTree_eq_error_iff read, Option.ne_none_iff_exists', ← ne_eq]
    rw [sound, Settings.fault?_eq_none_iff, Settings.exists_policy_iff]
    simp only [Classical.not_and_iff_not_or_not, ne_eq, Classical.not_not, Nat.not_lt, Nat.not_le, Classical.not_forall,
      not_exists, exists_prop]
  · rw [Settings.ofTree_eq_error_iff read, Settings.fault?_eq_some_iff]

/-- Worker 7 denies posting to the banned and the muted, and the names may be written in any way. Worker 1024 is refused
before its pool and its kinds are looked at. Worker 1023 is the last one, and is refused for the first name that spells
no kind. -/
theorem checked_settings_are_wired_worker_seven :
    let tree (worker most : Int) (kinds : List String) : Document := .record [
      ("app", .record [("name", .text "spaces"), ("env", .text "staging")]),
      ("database", .record [("url", .text "memory"), ("max_connections", .whole most), ("min_connections", .whole 2),
        ("acquire_timeout_secs", .whole 5)]),
      ("snowflake", .record [("worker_id", .whole worker)]),
      ("moderation", .record [("posting_blocked_kinds", .texts kinds)]),
      ("telemetry", .record [("level", .text "info"), ("json", .bool false)])]
    (∃ s w, Settings.ofTree (tree 7 2 ["\tBAN ", "mute", "ban"]) = .ok s ∧ ofSettings s = .ok w ∧
      (∀ id ∈ w.ids.draws [0, 0, 5], id.workerId = 7) ∧ w.policy.denies .ban = true ∧
      w.policy.denies .timeout = false) ∧
      Settings.ofTree (tree 1024 1 ["jail"]) =
        .error (.invalid "snowflake.worker_id" "1024 is not below 1024") ∧
      Settings.ofTree (tree 1023 2 ["ban", "Jail ", "x"]) =
        .error (.invalid "moderation.posting_blocked_kinds" "unknown restraint kind: jail") := by
  intro tree
  let settings (worker most : Nat) (kinds : List String) : Settings :=
    ⟨"spaces", .staging, "memory", most, 2, 5, worker, kinds, "info", false⟩
  refine ⟨?_, ?_, ?_⟩
  · have taken : Settings.ofTree (tree 7 2 ["\tBAN ", "mute", "ban"]) = .ok (settings 7 2 ["\tBAN ", "mute", "ban"]) :=
      Settings.ofTree_eq_ok_iff.mpr ⟨by decide, by decide⟩
    obtain ⟨w, wired, follows⟩ := (checked_settings_are_wired _).1 _ taken
    refine ⟨_, w, taken, wired, follows.draws _, (follows.denies .ban).mpr (by decide), ?_⟩
    rw [Bool.eq_false_iff, ne_eq, follows.denies]
    decide
  · have first : (settings 1024 1 ["jail"]).FirstFault
        (.invalid "snowflake.worker_id" (toString 1024 ++ " is not below 1024")) := .worker (by decide) (by decide)
    exact (((checked_settings_are_wired _).2 _ (by decide)).2 _).mpr first
  · have first : (settings 1023 2 ["ban", "Jail ", "x"]).FirstFault (.invalid "moderation.posting_blocked_kinds"
        ("unknown restraint kind: " ++ Text.lower (Text.trim "Jail "))) := by
      refine .kind (by decide) (by decide) (by decide) (show _ = ["ban"] ++ "Jail " :: ["x"] from rfl) ?_ ?_
      · exact List.forall_mem_singleton.mpr ⟨.ban, by decide⟩
      · intro k
        cases k <;> decide
    exact (((checked_settings_are_wired _).2 _ (by decide)).2 _).mpr first

end Wiring

end Service

end ChatSpaces
