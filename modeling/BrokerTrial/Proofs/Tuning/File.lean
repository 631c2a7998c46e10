import Mathlib
import BrokerTrial.Proofs.Toml.Distinct
import BrokerTrial.Tuning.File

/-!
# Settings from a file

A tuning file changes the settings that it names and no others. Nothing in it is passed over: a name that is no setting,
or a value of another kind than its setting has, and there is no tuning.
-/

namespace BrokerTrial

namespace Toml

namespace Value

/-- A whole number from zero. -/
def nat? : Value → Option Nat
  | .integer _ n => if 0 ≤ n then some n.toNat else none
  | _ => none

def string? : Value → Option String
  | .text _ s => some s
  | _ => none

def IsTable (v : Value) : Prop := ∃ span origin entries, v = .table span origin entries

/-- What stands in a table; nothing stands in another value. -/
def inside : Value → Entries
  | .table _ _ entries => entries
  | _ => []

end Value

namespace Entries

variable {entries : Entries} {name : String} {v : Value}

/-- What stands in the table of a name. -/
def within (entries : Entries) (table : String) : Entries := ((entries.get? table).map Value.inside).getD []

theorem get?_cons (key : Key) (v : Value) (rest : Entries) (name : String) :
    get? ((key, v) :: rest) name = if key.name = name then some v else rest.get? name := by
  unfold get?
  rw [List.find?_cons]
  by_cases same : key.name = name
  · simp [same]
  · simp [same]

theorem get?_of_mem (distinct : entries.names.Nodup) {key : Key} (member : (key, v) ∈ entries) :
    entries.get? key.name = some v := by
  induction entries with
  | nil => cases member
  | cons first rest ih =>
    obtain ⟨first, w⟩ := first
    obtain ⟨new, distinct⟩ := List.nodup_cons.mp distinct
    rw [get?_cons]
    rcases List.mem_cons.mp member with same | later
    · cases same
      exact if_pos rfl
    · have other : first.name ≠ key.name := by
        intro same
        exact new (List.mem_map.mpr ⟨(key, v), later, same.symm⟩)
      rw [if_neg other]
      exact ih distinct later

theorem forall_named_iff (distinct : entries.names.Nodup) {P : Value → Prop} :
    (∀ x ∈ entries, x.1.name = name → P x.2) ↔ ∀ v, entries.get? name = some v → P v := by
  constructor
  · intro each v given
    obtain ⟨key, rfl, member⟩ := mem_of_get? given
    exact each (key, v) member rfl
  · rintro each ⟨key, v⟩ member rfl
    exact each v (get?_of_mem distinct member)

theorem names_within (tidy : entries.Tidy) : (entries.within name).names.Nodup := by
  unfold within
  cases given : entries.get? name with
  | none => exact List.nodup_nil
  | some v =>
    have tidy := tidy.get? given
    cases tidy with
    | table distinct each => exact distinct
    | text | integer | float | bool | datetime | array | tables => exact List.nodup_nil

end Entries

end Toml

namespace Tuning

open Toml (Entries Value)

variable {α β : Type} {a a' : α} {v : Value} {entries : Entries}

/-! ### Values of a kind -/

theorem count_eq_ok_iff {expected : String} {n : Nat} : count expected v = .ok n ↔ v.nat? = some n := by
  cases v with
  | integer span k =>
    simp only [count, Value.nat?]
    split <;> simp
  | text | float | bool | datetime | array | tables | table => simp [count, refuse, Value.nat?]

theorem string_eq_ok_iff {s : String} : string v = .ok s ↔ v.string? = some s := by
  cases v with
  | text span t => simp [string, Value.string?]
  | integer | float | bool | datetime | array | tables | table => simp [string, refuse, Value.string?]

theorem map_eq_ok_iff {f : β → α} {read : Except Fault β} : f <$> read = .ok a ↔ ∃ b, read = .ok b ∧ f b = a := by
  cases read with
  | error f => exact ⟨nofun, nofun⟩
  | ok b => simp [Functor.map, Except.map]

theorem mapError_eq_ok_iff {f : Fault → β} {read : Except Fault α} : read.mapError f = .ok a ↔ read = .ok a := by
  cases read with
  | error e => exact ⟨nofun, nofun⟩
  | ok b => simp [Except.mapError]

/-! ### Sections -/

namespace Section

variable {s : Section α}

theorem assign_eq_ok_iff {key : Toml.Key} :
    s.assign a (key, v) = .ok a' ↔
      ∃ change, s.settings.find? (·.1 = key.name) = some (key.name, change) ∧ change v a = .ok a' := by
  unfold assign
  dsimp only
  split
  · rename_i name change found
    obtain rfl : name = key.name := by simpa using List.find?_some found
    rw [found, mapError_eq_ok_iff]
    exact ⟨fun made => ⟨change, rfl, made⟩, fun ⟨_, same, made⟩ => by cases same; exact made⟩
  · rename_i none
    rw [none]
    exact ⟨nofun, nofun⟩

/-- The settings of a section take the values of a kind that goes with their name, whatever was set before. -/
structure Takes (s : Section α) (kind : String → Value → Prop) : Prop where
  known : ∀ name v, kind name v → name ∈ s.settings.map Prod.fst
  settings : ∀ x ∈ s.settings, ∀ v a, (∃ a', x.2 v a = .ok a') ↔ kind x.1 v

variable {kind : String → Value → Prop}

theorem Takes.assign (takes : s.Takes kind) (x : Toml.Key × Value) :
    (∃ a', s.assign a x = .ok a') ↔ kind x.1.name x.2 := by
  obtain ⟨key, v⟩ := x
  simp only [assign_eq_ok_iff]
  constructor
  · rintro ⟨a', change, found, made⟩
    exact (takes.settings _ (List.mem_of_find?_eq_some found) v a).mp ⟨a', made⟩
  · intro fits
    obtain ⟨x, member, same⟩ := List.mem_map.mp (takes.known key.name v fits)
    have some : (s.settings.find? (·.1 = key.name)).isSome = true :=
      List.find?_isSome.mpr ⟨x, member, decide_eq_true same⟩
    obtain ⟨⟨name, change⟩, found⟩ := Option.isSome_iff_exists.mp some
    obtain rfl : name = key.name := by simpa using List.find?_some found
    obtain ⟨a', made⟩ := (takes.settings _ (List.mem_of_find?_eq_some found) v a).mpr fits
    exact ⟨a', change, found, made⟩

theorem Takes.ofEntries (takes : s.Takes kind) :
    (∃ a', s.ofEntries a entries = .ok a') ↔ ∀ x ∈ entries, kind x.1.name x.2 := by
  induction entries generalizing a with
  | nil => exact ⟨fun _ => nofun, fun _ => ⟨a, rfl⟩⟩
  | cons x rest ih =>
    have first := takes.assign (a := a) x
    rw [List.forall_mem_cons, ← first]
    cases made : s.assign a x with
    | error f =>
      have failed : s.ofEntries a (x :: rest) = .error f := by
        rw [Section.ofEntries, List.foldlM_cons, made]
        rfl
      rw [failed]
      exact ⟨nofun, fun ⟨⟨_, ok⟩, _⟩ => nomatch ok⟩
    | ok b =>
      have next : s.ofEntries a (x :: rest) = s.ofEntries b rest := by
        rw [Section.ofEntries, List.foldlM_cons, made]
        rfl
      rw [next, ih]
      exact ⟨fun later => ⟨⟨b, rfl⟩, later⟩, And.right⟩

/-- The setting of a name gives a part of the whole its value, and other settings leave that part as it is. -/
def Stores (s : Section α) (name : String) (part : α → β) (read : Value → Except Fault β) : Prop :=
  ∀ x ∈ s.settings, ∀ v a a', x.2 v a = .ok a' →
    if x.1 = name then read v = .ok (part a') else part a' = part a

theorem Stores.assign {name : String} {part : α → β} {read : Value → Except Fault β} (stores : s.Stores name part read)
    {key : Toml.Key} (ok : s.assign a (key, v) = .ok a') :
    if key.name = name then read v = .ok (part a') else part a' = part a := by
  obtain ⟨change, found, made⟩ := assign_eq_ok_iff.mp ok
  exact stores _ (List.mem_of_find?_eq_some found) v a a' made

/-- A part has the value that is given, and if none is given it is as it was. -/
theorem Stores.ofEntries {name : String} {part : α → β} {read : Value → Except Fault β}
    (stores : s.Stores name part read) (distinct : entries.names.Nodup) (ok : s.ofEntries a entries = .ok a') :
    match entries.get? name with
    | some v => read v = .ok (part a')
    | none => part a' = part a := by
  induction entries generalizing a with
  | nil =>
    cases ok
    rfl
  | cons x rest ih =>
    obtain ⟨key, v⟩ := x
    obtain ⟨new, distinct⟩ := List.nodup_cons.mp distinct
    rw [Section.ofEntries, List.foldlM_cons] at ok
    cases made : s.assign a (key, v) with
    | error f =>
      rw [made] at ok
      cases ok
    | ok b =>
      rw [made] at ok
      have first := stores.assign made
      have later := ih distinct ok
      rw [Entries.get?_cons]
      by_cases same : key.name = name
      · subst same
        rw [if_pos rfl] at first ⊢
        rw [Entries.get?_eq_none_iff.mpr new] at later
        exact first.trans (congrArg Except.ok later.symm)
      · rw [if_neg same] at first ⊢
        cases given : Entries.get? rest name with
        | none =>
          rw [given] at later
          exact later.trans first
        | some w =>
          rw [given] at later
          exact later

theorem ofValue_eq_ok_iff (table : v.IsTable) : s.ofValue a v = .ok a' ↔ s.ofEntries a v.inside = .ok a' := by
  obtain ⟨span, origin, entries, rfl⟩ := table
  exact mapError_eq_ok_iff

theorem Takes.within {name : String} (takes : s.Takes kind) (table : ∀ v, entries.get? name = some v → v.IsTable) :
    (∀ v, entries.get? name = some v → ∃ a', s.ofValue a v = .ok a') ↔
      ∀ x ∈ entries.within name, kind x.1.name x.2 := by
  rw [Entries.within]
  cases given : entries.get? name with
  | none => exact ⟨fun _ => nofun, fun _ => nofun⟩
  | some v =>
    have ok : (∃ a', s.ofValue a v = .ok a') ↔ ∀ x ∈ v.inside, kind x.1.name x.2 := by
      simp only [ofValue_eq_ok_iff (table v given)]
      exact takes.ofEntries
    simpa using ok

end Section

/-! ### The sections of a tuning -/

/-- A value for one of some names that stand for whole numbers, or of others that stand for texts. -/
def Kind (counts texts : List String) (name : String) (v : Value) : Prop :=
  name ∈ counts ∧ v.nat?.isSome ∨ name ∈ texts ∧ v.string?.isSome

def Holds (counts texts : List String) (entries : Entries) : Prop :=
  ∀ x ∈ entries, Kind counts texts x.1.name x.2

/-- Everything in a document is a setting, with a value of its kind. -/
structure Fits (entries : Entries) : Prop where
  known : ∀ x ∈ entries, x.1.name ∈ ["message_length", "receive", "collector", "readiness", "http"]
  length : ∀ v, entries.get? "message_length" = some v → v.nat?.isSome
  receive : Holds ["quiescence_window_ms", "join_timeout_ms", "result_timeout_ms"] [] (entries.within "receive")
  collector : Holds ["handoff_timeout_ms"] ["bind_address", "webhook_url"] (entries.within "collector")
  readiness : Holds ["timeout_secs", "poll_interval_ms"] [] (entries.within "readiness")
  http : Holds ["request_timeout_secs", "auth_timeout_secs"] ["auth_realm"] (entries.within "http")

/-- The whole number that is given for a name, or else the default. -/
def natD (entries : Entries) (name : String) (default : Nat) : Nat := ((entries.get? name).bind Value.nat?).getD default

def stringD (entries : Entries) (name : String) (default : String) : String :=
  ((entries.get? name).bind Value.string?).getD default

/-- The defaults, each overridden by what a document gives for it. -/
def overridden (entries : Entries) : Tuning :=
  let d : Tuning := {}
  let receive := entries.within "receive"
  let collector := entries.within "collector"
  let readiness := entries.within "readiness"
  let http := entries.within "http"
  { messageLength := natD entries "message_length" d.messageLength
    receive :=
      { quiescenceWindow := natD receive "quiescence_window_ms" d.receive.quiescenceWindow
        joinTimeout := natD receive "join_timeout_ms" d.receive.joinTimeout
        resultTimeout := natD receive "result_timeout_ms" d.receive.resultTimeout }
    collector :=
      { bindAddress := stringD collector "bind_address" d.collector.bindAddress
        webhookUrl := ((collector.get? "webhook_url").bind Value.string?).or d.collector.webhookUrl
        handoffTimeout := natD collector "handoff_timeout_ms" d.collector.handoffTimeout }
    readiness :=
      { timeoutSecs := natD readiness "timeout_secs" d.readiness.timeoutSecs
        pollInterval := natD readiness "poll_interval_ms" d.readiness.pollInterval }
    http :=
      { requestTimeoutSecs := natD http "request_timeout_secs" d.http.requestTimeoutSecs
        authTimeoutSecs := natD http "auth_timeout_secs" d.http.authTimeoutSecs
        authRealm := stringD http "auth_realm" d.http.authRealm } }

namespace Section.Stores

variable {s : Section α} {name : String}

theorem given {part : α → β} {read : Value → Except Fault β} {own : Value → Option β} (stores : s.Stores name part read)
    (reads : ∀ {v b}, read v = .ok b → own v = some b) (distinct : entries.names.Nodup)
    (ok : s.ofEntries a entries = .ok a') : part a' = ((entries.get? name).bind own).getD (part a) := by
  have stored := stores.ofEntries distinct ok
  cases given : entries.get? name with
  | none =>
    rw [given] at stored
    exact stored
  | some v =>
    rw [given] at stored
    rw [Option.bind_some, reads stored, Option.getD_some]

theorem nat {part : α → Nat} {expected : String} (stores : s.Stores name part (count expected))
    (distinct : entries.names.Nodup) (ok : s.ofEntries a entries = .ok a') :
    part a' = natD entries name (part a) :=
  stores.given count_eq_ok_iff.mp distinct ok

theorem string {part : α → String} (stores : s.Stores name part Tuning.string)
    (distinct : entries.names.Nodup) (ok : s.ofEntries a entries = .ok a') :
    part a' = stringD entries name (part a) :=
  stores.given string_eq_ok_iff.mp distinct ok

end Section.Stores

theorem receive_takes :
    receiveSection.Takes (Kind ["quiescence_window_ms", "join_timeout_ms", "result_timeout_ms"] []) := by
  constructor
  · simp only [receiveSection, Kind]
    grind
  · simp [receiveSection, Kind, map_eq_ok_iff, count_eq_ok_iff, Option.isSome_iff_exists]

theorem collector_takes : collectorSection.Takes (Kind ["handoff_timeout_ms"] ["bind_address", "webhook_url"]) := by
  constructor
  · simp only [collectorSection, Kind]
    grind
  · simp [collectorSection, Kind, map_eq_ok_iff, count_eq_ok_iff, string_eq_ok_iff, Option.isSome_iff_exists]

theorem readiness_takes : readinessSection.Takes (Kind ["timeout_secs", "poll_interval_ms"] []) := by
  constructor
  · simp only [readinessSection, Kind]
    grind
  · simp [readinessSection, Kind, map_eq_ok_iff, count_eq_ok_iff, Option.isSome_iff_exists]

theorem http_takes : httpSection.Takes (Kind ["request_timeout_secs", "auth_timeout_secs"] ["auth_realm"]) := by
  constructor
  · simp only [httpSection, Kind]
    grind
  · simp [httpSection, Kind, map_eq_ok_iff, count_eq_ok_iff, string_eq_ok_iff, Option.isSome_iff_exists]

theorem whole_takes : wholeSection.Takes fun name v =>
    name ∈ ["message_length", "receive", "collector", "readiness", "http"] ∧
    (name = "message_length" → v.nat?.isSome) ∧
    (name = "receive" → ∃ r, receiveSection.ofValue {} v = .ok r) ∧
    (name = "collector" → ∃ c, collectorSection.ofValue {} v = .ok c) ∧
    (name = "readiness" → ∃ r, readinessSection.ofValue {} v = .ok r) ∧
    (name = "http" → ∃ h, httpSection.ofValue {} v = .ok h) := by
  constructor
  · rintro name v ⟨known, -⟩
    exact known
  · simp [wholeSection, map_eq_ok_iff, count_eq_ok_iff, Option.isSome_iff_exists]

theorem receive_parts (distinct : entries.names.Nodup) {start r : ReceiveTuning}
    (ok : receiveSection.ofEntries start entries = .ok r) :
    r = { quiescenceWindow := natD entries "quiescence_window_ms" start.quiescenceWindow
          joinTimeout := natD entries "join_timeout_ms" start.joinTimeout
          resultTimeout := natD entries "result_timeout_ms" start.resultTimeout } := by
  have window : receiveSection.Stores "quiescence_window_ms" (·.quiescenceWindow) (count "u64") := by
    simp [Section.Stores, receiveSection, map_eq_ok_iff]
  have join : receiveSection.Stores "join_timeout_ms" (·.joinTimeout) (count "u64") := by
    simp [Section.Stores, receiveSection, map_eq_ok_iff]
  have result : receiveSection.Stores "result_timeout_ms" (·.resultTimeout) (count "u64") := by
    simp [Section.Stores, receiveSection, map_eq_ok_iff]
  cases r
  rw [ReceiveTuning.mk.injEq]
  exact ⟨window.nat distinct ok, join.nat distinct ok, result.nat distinct ok⟩

theorem collector_parts (distinct : entries.names.Nodup) {start c : CollectorTuning}
    (ok : collectorSection.ofEntries start entries = .ok c) :
    c = { bindAddress := stringD entries "bind_address" start.bindAddress
          webhookUrl := ((entries.get? "webhook_url").bind Value.string?).or start.webhookUrl
          handoffTimeout := natD entries "handoff_timeout_ms" start.handoffTimeout } := by
  have address : collectorSection.Stores "bind_address" (·.bindAddress) string := by
    simp [Section.Stores, collectorSection, map_eq_ok_iff]
  have webhook : collectorSection.Stores "webhook_url" (·.webhookUrl) fun v => some <$> string v := by
    simp [Section.Stores, collectorSection, map_eq_ok_iff]
  have handoff : collectorSection.Stores "handoff_timeout_ms" (·.handoffTimeout) (count "u64") := by
    simp [Section.Stores, collectorSection, map_eq_ok_iff]
  have url : c.webhookUrl = ((entries.get? "webhook_url").bind Value.string?).or start.webhookUrl := by
    have reads {v : Value} {url : Option String} (read : some <$> string v = .ok url) :
        v.string?.map some = some url := by
      obtain ⟨text, made, rfl⟩ := map_eq_ok_iff.mp read
      rw [string_eq_ok_iff.mp made, Option.map_some]
    have stored : c.webhookUrl =
        ((entries.get? "webhook_url").bind fun v => v.string?.map some).getD start.webhookUrl :=
      webhook.given reads distinct ok
    rw [stored]
    cases entries.get? "webhook_url" with
    | none => rfl
    | some v =>
      rw [Option.bind_some, Option.bind_some]
      cases v.string? <;> rfl
  cases c
  rw [CollectorTuning.mk.injEq]
  exact ⟨address.string distinct ok, url, handoff.nat distinct ok⟩

theorem readiness_parts (distinct : entries.names.Nodup) {start r : ReadinessTuning}
    (ok : readinessSection.ofEntries start entries = .ok r) :
    r = { timeoutSecs := natD entries "timeout_secs" start.timeoutSecs
          pollInterval := natD entries "poll_interval_ms" start.pollInterval } := by
  have timeout : readinessSection.Stores "timeout_secs" (·.timeoutSecs) (count "u64") := by
    simp [Section.Stores, readinessSection, map_eq_ok_iff]
  have interval : readinessSection.Stores "poll_interval_ms" (·.pollInterval) (count "u64") := by
    simp [Section.Stores, readinessSection, map_eq_ok_iff]
  cases r
  rw [ReadinessTuning.mk.injEq]
  exact ⟨timeout.nat distinct ok, interval.nat distinct ok⟩

theorem http_parts (distinct : entries.names.Nodup) {start h : HttpTuning}
    (ok : httpSection.ofEntries start entries = .ok h) :
    h = { requestTimeoutSecs := natD entries "request_timeout_secs" start.requestTimeoutSecs
          authTimeoutSecs := natD entries "auth_timeout_secs" start.authTimeoutSecs
          authRealm := stringD entries "auth_realm" start.authRealm } := by
  have request : httpSection.Stores "request_timeout_secs" (·.requestTimeoutSecs) (count "u64") := by
    simp [Section.Stores, httpSection, map_eq_ok_iff]
  have auth : httpSection.Stores "auth_timeout_secs" (·.authTimeoutSecs) (count "u64") := by
    simp [Section.Stores, httpSection, map_eq_ok_iff]
  have realm : httpSection.Stores "auth_realm" (·.authRealm) string := by
    simp [Section.Stores, httpSection, map_eq_ok_iff]
  cases h
  rw [HttpTuning.mk.injEq]
  exact ⟨request.nat distinct ok, auth.nat distinct ok, realm.string distinct ok⟩

/-! ### Documents -/

/-- The sections of a document are tables, where they are there. -/
def Sectioned (entries : Entries) : Prop :=
  ∀ name ∈ ["receive", "collector", "readiness", "http"], ∀ v, entries.get? name = some v → v.IsTable

/-- A part of a tuning that is a section is read from what stands in it, and from nothing if it is not there. -/
theorem part_of_ok {γ : Type} {s : Section γ} {name : String} {part : Tuning → γ} {start t : Tuning}
    (stores : wholeSection.Stores name part (s.ofValue (part start))) (tidy : entries.Tidy)
    (table : ∀ v, entries.get? name = some v → v.IsTable) (ok : wholeSection.ofEntries start entries = .ok t) :
    s.ofEntries (part start) (entries.within name) = .ok (part t) := by
  have stored := stores.ofEntries tidy.distinct ok
  unfold Entries.within
  cases given : entries.get? name with
  | none =>
    rw [given] at stored
    rw [show part t = part start from stored]
    rfl
  | some v =>
    rw [given] at stored
    exact (Section.ofValue_eq_ok_iff (table v given)).mp stored

theorem ofEntries_isOk_iff (tidy : entries.Tidy) (tables : Sectioned entries) :
    (∃ t, ofEntries entries = .ok t) ↔ Fits entries := by
  have named {name : String} {P : Value → Prop} :
      (∀ x ∈ entries, x.1.name = name → P x.2) ↔ ∀ v, entries.get? name = some v → P v :=
    Entries.forall_named_iff tidy.distinct
  have receive := receive_takes.within (a := {}) (tables "receive" (by decide))
  have collector := collector_takes.within (a := {}) (tables "collector" (by decide))
  have readiness := readiness_takes.within (a := {}) (tables "readiness" (by decide))
  have http := http_takes.within (a := {}) (tables "http" (by decide))
  rw [ofEntries, whole_takes.ofEntries]
  constructor
  · intro each
    exact
      { known x member := (each x member).1
        length := named.mp fun x member => (each x member).2.1
        receive := receive.mp (named.mp fun x member => (each x member).2.2.1)
        collector := collector.mp (named.mp fun x member => (each x member).2.2.2.1)
        readiness := readiness.mp (named.mp fun x member => (each x member).2.2.2.2.1)
        http := http.mp (named.mp fun x member => (each x member).2.2.2.2.2) }
  · intro fits x member
    exact ⟨fits.known x member, named.mpr fits.length x member, named.mpr (receive.mpr fits.receive) x member,
      named.mpr (collector.mpr fits.collector) x member, named.mpr (readiness.mpr fits.readiness) x member,
      named.mpr (http.mpr fits.http) x member⟩

theorem ofEntries_eq_overridden (tidy : entries.Tidy) (tables : Sectioned entries) {t : Tuning}
    (ok : ofEntries entries = .ok t) : t = overridden entries := by
  have length : wholeSection.Stores "message_length" (·.messageLength) (count "usize") := by
    simp [Section.Stores, wholeSection, map_eq_ok_iff]
  have receive : wholeSection.Stores "receive" (·.receive) (receiveSection.ofValue {}) := by
    simp [Section.Stores, wholeSection, map_eq_ok_iff]
  have collector : wholeSection.Stores "collector" (·.collector) (collectorSection.ofValue {}) := by
    simp [Section.Stores, wholeSection, map_eq_ok_iff]
  have readiness : wholeSection.Stores "readiness" (·.readiness) (readinessSection.ofValue {}) := by
    simp [Section.Stores, wholeSection, map_eq_ok_iff]
  have http : wholeSection.Stores "http" (·.http) (httpSection.ofValue {}) := by
    simp [Section.Stores, wholeSection, map_eq_ok_iff]
  have receive := part_of_ok receive tidy (tables "receive" (by decide)) ok
  have collector := part_of_ok collector tidy (tables "collector" (by decide)) ok
  have readiness := part_of_ok readiness tidy (tables "readiness" (by decide)) ok
  have http := part_of_ok http tidy (tables "http" (by decide)) ok
  cases t
  rw [overridden, Tuning.mk.injEq]
  exact ⟨length.nat tidy.distinct ok, receive_parts (Entries.names_within tidy) receive,
    collector_parts (Entries.names_within tidy) collector, readiness_parts (Entries.names_within tidy) readiness,
    http_parts (Entries.names_within tidy) http⟩

theorem ofFile_toUTF8 (path text : String) : ofFile path (.ok text.toUTF8) = ofText path text := by
  have decoded : String.fromUTF8? text.toUTF8 = some text := by
    rw [String.fromUTF8?, dif_pos (show text.toUTF8.IsValidUTF8 from text.isValidUTF8)]
    rfl
  rw [ofFile, decoded]

theorem ofText_eq_ok_iff {path text : String} (read : Toml.read text = some entries) {t : Tuning} :
    ofText path text = .ok t ↔ ofEntries entries = .ok t := by
  rw [ofText, read]
  exact mapError_eq_ok_iff

/-- A webhook address is always configured when a file was read. -/
theorem webhookUrl_overridden (entries : Entries) : ∃ url, (overridden entries).collector.webhookUrl = some url := by
  unfold overridden
  dsimp only
  cases ((entries.within "collector").get? "webhook_url").bind Value.string? with
  | none => exact ⟨_, rfl⟩
  | some url => exact ⟨url, rfl⟩

end Tuning

/-- Of the documents whose sections are tables, those that fit are loaded, and they only; what is loaded are the
defaults, each overridden by what the document gives for it, in whatever order. A document of nothing gives the defaults.
The webhook address is left to be derived if and only if the configured one is all white space. -/
theorem tuning_overridden_by_file (path : String) :
    (∀ (text : String) (entries : Toml.Entries), Toml.read text = some entries → Tuning.Sectioned entries →
      ((∃ t, Tuning.ofFile path (.ok text.toUTF8) = .ok t) ↔ Tuning.Fits entries) ∧
      ∀ t, Tuning.ofFile path (.ok text.toUTF8) = .ok t → t = Tuning.overridden entries ∧
        ∃ url, t.collector.webhookUrl = some url ∧
          (t.collector.effectiveUrl = none ↔ ∀ c ∈ url.toList, Text.isSpace c = true)) ∧
    Tuning.ofFile path (.ok "".toUTF8) = .ok {} := by
  refine ⟨fun text entries read tables => ?_, ?_⟩
  · have tidy := Toml.read_tidy read
    simp only [Tuning.ofFile_toUTF8, Tuning.ofText_eq_ok_iff read]
    refine ⟨Tuning.ofEntries_isOk_iff tidy tables, fun t ok => ?_⟩
    have same := Tuning.ofEntries_eq_overridden tidy tables ok
    obtain ⟨url, configured⟩ := Tuning.webhookUrl_overridden entries
    rw [← same] at configured
    refine ⟨same, url, configured, ?_⟩
    rw [CollectorTuning.effectiveUrl, configured, ← Text.isBlank_iff]
    simp [Option.filter]
  · rw [Tuning.ofFile_toUTF8]
    rfl

/-- Sections that give some of their settings, in another order than they are declared in, and one by dots. -/
theorem tuning_overridden_by_file_in_part :
    let text :=
      "http.auth_timeout_secs = 7\n[receive]\njoin_timeout_ms = 40000\n[collector]\nwebhook_url = \"\\u2003\"\n"
    ∃ entries t, Toml.read text = some entries ∧ Tuning.Sectioned entries ∧ Tuning.Fits entries ∧
      Tuning.ofFile "tuning.toml" (.ok text.toUTF8) = .ok t ∧ t.collector.effectiveUrl = none ∧
      t = { http := { authTimeoutSecs := 7 }, receive := { joinTimeout := 40000 }
            collector := { webhookUrl := some "\u2003" } } := by
  intro text
  have facts : (Toml.read text).map (fun entries =>
      (entries.all fun x => match x.2 with
        | .table .. => true
        | _ => false, Tuning.overridden entries)) =
      some (true, { http := { authTimeoutSecs := 7 }, receive := { joinTimeout := 40000 }
                    collector := { webhookUrl := some "\u2003" } }) := by
    decide +kernel
  have loaded : (Tuning.ofText "tuning.toml" text).toOption.isSome = true := by decide +kernel
  obtain ⟨entries, read, facts⟩ := Option.map_eq_some_iff.mp facts
  obtain ⟨tables, values⟩ := Prod.mk.inj facts
  have sectioned : Tuning.Sectioned entries := by
    intro name _ v given
    obtain ⟨key, -, member⟩ := Toml.Entries.mem_of_get? given
    have table := List.all_eq_true.mp tables (key, v) member
    cases v with
    | table span origin inside => exact ⟨span, origin, inside, rfl⟩
    | text | integer | float | bool | datetime | array | tables => cases table
  obtain ⟨always, -⟩ := tuning_overridden_by_file "tuning.toml"
  obtain ⟨fits, loads⟩ := always text entries read sectioned
  cases ok : Tuning.ofFile "tuning.toml" (.ok text.toUTF8) with
  | error e =>
    rw [Tuning.ofFile_toUTF8] at ok
    rw [ok] at loaded
    cases loaded
  | ok t =>
    obtain ⟨same, url, configured, blank⟩ := loads t ok
    rw [values] at same
    subst same
    cases configured
    exact ⟨entries, _, read, sectioned, fits.mp ⟨_, ok⟩, rfl, blank.mpr (Text.isBlank_iff.mp (by decide +kernel)), rfl⟩

end BrokerTrial
