import BrokerTrial.Toml.Excerpt
import BrokerTrial.Toml.Reader
import BrokerTrial.Number.FloatText
import BrokerTrial.Tuning

/-!
# Tuning files

A tuning file is a TOML document that names the settings to change. A section is a table, or an array
of its settings in order. A name that is not a setting is an error, wherever it stands.
-/

namespace BrokerTrial.Tuning

open Toml (Span Value)

/-- A complaint about a value or a key, and where that stands. -/
structure Fault where
  complaint : String
  span : Option Span := none

namespace Fault

/-- A complaint that points nowhere yet points here. -/
def located (f : Fault) (span : Option Span) : Fault := { f with span := f.span <|> span }

end Fault

/-- The kind of a value, with the value if it has no parts. -/
def describe : Value → String
  | .text _ s => "string " ++ Text.quoted s
  | .integer _ n => "integer `" ++ toString n ++ "`"
  | .float _ x => "floating point `" ++ Number.FloatStyle.toml.text x ++ "`"
  | .bool _ b => "boolean `" ++ (if b then "true" else "false") ++ "`"
  | .datetime _ => "map"
  | .array .. | .tables _ => "sequence"
  | .table .. => "map"

def refuse {α : Type} (v : Value) (expected : String) : Except Fault α :=
  .error ⟨"invalid type: " ++ describe v ++ ", expected " ++ expected, v.span?⟩

/-- A whole number from zero; `expected` names its type. -/
def count (expected : String) : Value → Except Fault Nat
  | .integer span n =>
    if 0 ≤ n then .ok n.toNat
    else .error ⟨"invalid value: integer `" ++ toString n ++ "`, expected " ++ expected, some span⟩
  | v => refuse v expected

def string : Value → Except Fault String
  | .text _ s => .ok s
  | v => refuse v "a string"

/-- A section: its name, and its settings in order with how a value changes each. -/
structure Section (α : Type) where
  name : String
  settings : List (String × (Value → α → Except Fault α))

/-- The names that are expected, as a complaint lists them. -/
def alternatives : List String → String
  | [] => "no fields"
  | [a] => "`" ++ a ++ "`"
  | [a, b] => "`" ++ a ++ "` or `" ++ b ++ "`"
  | names => "one of " ++ ", ".intercalate (names.map fun a => "`" ++ a ++ "`")

namespace Section

variable {α : Type}

def assign (s : Section α) (start : α) (entry : Toml.Key × Value) : Except Fault α :=
  let (key, v) := entry
  match s.settings.find? fun (name, _) => name = key.name with
  | some (_, change) => (change v start).mapError (·.located (v.span? <|> some key.span))
  | none =>
    .error ⟨"unknown field `" ++ key.name ++ "`, expected " ++
      alternatives (s.settings.map Prod.fst), some key.span⟩

/-- The settings of a table's entries, one after the other. -/
def ofEntries (s : Section α) (start : α) (entries : Toml.Entries) : Except Fault α :=
  entries.foldlM s.assign start

/-- The settings of an array's items, in order; items after the last setting are ignored. -/
def ofItems (s : Section α) (start : α) (items : List Value) : Except Fault α :=
  (s.settings.zip items).foldlM (fun a ((_, change), v) => change v a) start

def ofValue (s : Section α) (start : α) : Value → Except Fault α
  | .table span _ entries => (s.ofEntries start entries).mapError (·.located span)
  | .array span items => (s.ofItems start items).mapError (·.located (some span))
  | .tables items => (s.ofItems start items.reverse).mapError (·.located (Value.tables items).span?)
  | .datetime span =>
    .error ⟨"unknown field `$__toml_private_datetime`, expected " ++
      alternatives (s.settings.map Prod.fst), some span⟩
  | v => refuse v ("struct " ++ s.name)

end Section

def receiveSection : Section ReceiveTuning where
  name := "ReceiveConfig"
  settings :=
    [("quiescence_window_ms", fun v r => return { r with quiescenceWindow := ← count "u64" v }),
     ("join_timeout_ms", fun v r => return { r with joinTimeout := ← count "u64" v }),
     ("result_timeout_ms", fun v r => return { r with resultTimeout := ← count "u64" v })]

def collectorSection : Section CollectorTuning where
  name := "CollectorConfig"
  settings :=
    [("bind_address", fun v c => return { c with bindAddress := ← string v }),
     ("webhook_url", fun v c => return { c with webhookUrl := some (← string v) }),
     ("handoff_timeout_ms", fun v c => return { c with handoffTimeout := ← count "u64" v })]

def readinessSection : Section ReadinessTuning where
  name := "ReadinessConfig"
  settings :=
    [("timeout_secs", fun v r => return { r with timeoutSecs := ← count "u64" v }),
     ("poll_interval_ms", fun v r => return { r with pollInterval := ← count "u64" v })]

def httpSection : Section HttpTuning where
  name := "HttpConfig"
  settings :=
    [("request_timeout_secs", fun v h => return { h with requestTimeoutSecs := ← count "u64" v }),
     ("auth_timeout_secs", fun v h => return { h with authTimeoutSecs := ← count "u64" v }),
     ("auth_realm", fun v h => return { h with authRealm := ← string v })]

/-- A section that is named starts from its own defaults. -/
def wholeSection : Section Tuning where
  name := "Tuning"
  settings :=
    [("message_length", fun v t => return { t with messageLength := ← count "usize" v }),
     ("receive", fun v t => return { t with receive := ← receiveSection.ofValue {} v }),
     ("collector", fun v t => return { t with collector := ← collectorSection.ofValue {} v }),
     ("readiness", fun v t => return { t with readiness := ← readinessSection.ofValue {} v }),
     ("http", fun v t => return { t with http := ← httpSection.ofValue {} v })]

def ofEntries (entries : Toml.Entries) : Except Fault Tuning :=
  wholeSection.ofEntries {} entries

/-- The tuning that a text holds; `path` is for the complaint. -/
def ofText (path text : String) : Except ConfigError Tuning :=
  match Toml.read text with
  | none => .error (.unparsable path text none)
  | some entries =>
    (ofEntries entries).mapError fun f =>
      .unparsable path text <| some <| match f.span with
        | some span => Toml.excerpt text span f.complaint
        | none => f.complaint ++ "\n"

/-- What is at a path: the bytes of a file, or why there are none. -/
abbrev Contents := Except String ByteArray

def missingFile : String := "No such file or directory (os error 2)"

/-- The reason that what is at a path is not a file. -/
def directory : String := "Is a directory (os error 21)"

def ofFile (path : String) (contents : Contents) : Except ConfigError Tuning :=
  match contents with
  | .error reason => .error (.unreadable path reason)
  | .ok bytes =>
    match String.fromUTF8? bytes with
    | none => .error (.unreadable path "stream did not contain valid UTF-8")
    | some text => ofText path text

end BrokerTrial.Tuning
