/-!
# TOML documents

A document is a table, and a table keeps its entries in the order in which they came. Each value knows
where in the text it stands, so that a complaint about it can point there, and each table knows how it
came about, because that decides what may still be added to it.
-/

namespace BrokerTrial.Toml

/-- A stretch of a text, by what is left of the text at its start and at its end. -/
structure Span where
  start : List Char
  stop : List Char

structure Key where
  name : String
  span : Span

inductive Origin where
  /-- By a header of its own, or as the document itself. -/
  | header
  /-- As a table on the way to one with a header. -/
  | implied
  /-- By a dotted key. -/
  | dotted
  /-- Between braces. -/
  | inline
  /-- By a dotted key between braces. -/
  | inlineDotted
  deriving DecidableEq, Repr

inductive Value where
  | text (span : Span) (s : String)
  | integer (span : Span) (n : Int)
  | float (span : Span) (x : Float)
  | bool (span : Span) (b : Bool)
  | datetime (span : Span)
  | array (span : Span) (items : List Value)
  /-- Tables that share a header of double brackets, latest first. -/
  | tables (items : List Value)
  | table (span : Option Span) (origin : Origin) (entries : List (Key × Value))

abbrev Entries := List (Key × Value)

namespace Entries

def get? (entries : Entries) (name : String) : Option Value :=
  (entries.find? fun (key, _) => key.name = name).map Prod.snd

/-- A new value for a name, in the old one's place if there is one and at the end otherwise. -/
def set (entries : Entries) (key : Key) (v : Value) : Entries :=
  match entries with
  | [] => [(key, v)]
  | (k, old) :: rest => if k.name = key.name then (k, v) :: rest else (k, old) :: set rest key v

def erase (entries : Entries) (name : String) : Entries :=
  entries.filter fun (key, _) => key.name ≠ name

end Entries

namespace Value

/-- Where a value stands, if it stands in one place. -/
def span? : Value → Option Span
  | text s _ | integer s _ | float s _ | bool s _ | datetime s | array s _ => some s
  | table s _ _ => s
  | tables items =>
    match items.getLast?, items.head? with
    | some (table (some first) _ _), some (table (some last) _ _) => some ⟨first.start, last.stop⟩
    | _, _ => none

end Value

end BrokerTrial.Toml
