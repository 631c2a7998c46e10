import BrokerTrial.Toml.Lexeme

/-!
# Reading TOML

Values, and the lines of a document put together to a table. A key is set once, a table is defined
once, and what was written whole is not added to.
-/

namespace BrokerTrial.Toml

/-- How often values nest, and how many parts a key has, at most. -/
def nestingLimit : Nat := 79

/-! ### Adding to tables -/

/-- Change the table at the end of a path, making the tables that are missing on the way, and give what
the change found. `dotted` says whether the path stands before a key or in a header; only a path in a
header goes through tables that have one of their own. -/
def descend {α : Type} (dotted : Bool) (change : Value → Option (Value × α)) :
    List Key → Value → Option (Value × α)
  | [], t => change t
  | key :: path, .table span origin entries => do
    let made := Value.table none (if dotted then .dotted else .implied) []
    let (changed, found) ← match (Entries.get? entries key.name).getD made with
      | .table s o es =>
        if o = .inline ∨ o = .inlineDotted ∨ (dotted ∧ o = .header) then none
        else descend dotted change path (.table s o es)
      | .tables (latest :: items) => do
        let (latest, found) ← descend dotted change path latest
        some (.tables (latest :: items), found)
      | _ => none
    return (.table span origin (Entries.set entries key changed), found)
  | _ :: _, _ => none

/-- Set a key that is not there yet, in a table reached by `dotted` keys or directly. A table that
dotted keys made takes only dotted keys, and others none. -/
def setNew (dotted : Bool) (key : Key) (v : Value) : Value → Option (Value × Unit)
  | .table span origin entries =>
    let byDots := origin = .dotted ∨ origin = .inlineDotted
    if byDots ↔ dotted then
      match Entries.get? entries key.name with
      | none => some (.table span origin (entries ++ [(key, v)]), ())
      | some _ => none
    else none
  | _ => none

/-- Set a key in the table at the end of a path of dotted keys inside braces. -/
def setInline (dotted : Bool) (key : Key) (v : Value) : List Key → Value → Option Value
  | [], t => (setNew dotted key v t).map Prod.fst
  | k :: path, .table span origin entries => do
    let changed ← match Entries.get? entries k.name with
      | none => setInline dotted key v path (.table none .inlineDotted [])
      | some (.table s .inlineDotted es) => setInline dotted key v path (.table s .inlineDotted es)
      | some _ => none
    return .table span origin (Entries.set entries k changed)
  | _ :: _, _ => none

def inlineTable (pairs : List (List Key × Value)) : Option Entries := do
  let table ← pairs.foldlM (fun t (keys, v) =>
    match keys.getLast? with
    | some key => setInline (1 < keys.length) key v keys.dropLast t
    | none => none) (.table none .inline [])
  match table with
  | .table _ _ entries => some entries
  | _ => none

/-! ### Values -/

/-- The items of an array after its bracket. `item` reads one; `fuel` bounds their number. -/
def arrayItems (item : Rest → Option (Value × Rest)) :
    (fuel : Nat) → Rest → List Value → Option (List Value × Rest)
  | 0, _, _ => none
  | fuel + 1, r, out => do
    match ← skipBlank false r with
    | ']' :: r => some (out.reverse, r)
    | r => do
      let (v, r) ← item r
      match ← skipBlank false r with
      | ',' :: r => arrayItems item fuel r (v :: out)
      | ']' :: r => some ((v :: out).reverse, r)
      | _ => none

/-- A key, its sign of equality and its value. -/
def pair (value : Rest → Option (Value × Rest)) (r : Rest) : Option ((List Key × Value) × Rest) := do
  let (keys, r) ← keyParts (nestingLimit) r
  let r ← expect '=' r
  let (v, r) ← value (skipSpaces r)
  return ((keys, v), r)

/-- The pairs of a table between braces, at least one. -/
def inlinePairs (value : Rest → Option (Value × Rest)) :
    (fuel : Nat) → Rest → List (List Key × Value) → Option (List (List Key × Value) × Rest)
  | 0, _, _ => none
  | fuel + 1, r, out => do
    let (p, r) ← pair value r
    match skipSpaces r with
    | ',' :: r => inlinePairs value fuel r (p :: out)
    | '}' :: r => some ((p :: out).reverse, r)
    | _ => none

/-- A value that has no other values in it. -/
def plainValue (r : Rest) : Option (Value × Rest) :=
  match r with
  | 't' :: 'r' :: 'u' :: 'e' :: rest => some (.bool ⟨r, rest⟩ true, rest)
  | 'f' :: 'a' :: 'l' :: 's' :: 'e' :: rest => some (.bool ⟨r, rest⟩ false, rest)
  | _ =>
    match anyString r, datetime r, float r, integer r with
    | some (s, rest), _, _, _ => some (.text ⟨r, rest⟩ s, rest)
    | none, some rest, _, _ => some (.datetime ⟨r, rest⟩, rest)
    | none, none, some (x, rest), _ => some (.float ⟨r, rest⟩ x, rest)
    | none, none, none, some (n, rest) => some (.integer ⟨r, rest⟩ n, rest)
    | none, none, none, none => none

/-- A value; `size` is at least the number of characters left, `depth` the nesting still allowed. -/
def value (size : Nat) : (depth : Nat) → Rest → Option (Value × Rest)
  | 0, r => plainValue r
  | depth + 1, r =>
    match r with
    | '[' :: body => do
      let (items, rest) ← arrayItems (value size depth) (size + 1) body []
      return (.array ⟨r, rest⟩ items, rest)
    | '{' :: body =>
      match skipSpaces body with
      | '}' :: rest => some (.table (some ⟨r, rest⟩) .inline [], rest)
      | body => do
        let (pairs, rest) ← inlinePairs (value size depth) (size + 1) body []
        return (.table (some ⟨r, rest⟩) .inline (← inlineTable pairs), rest)
    | r => plainValue r

/-! ### Documents -/

/-- A document being read: what is finished, and the table that lines are added to. -/
structure Draft where
  root : Value := .table none .header []
  /-- The path of the current table, and whether it is one of several. -/
  path : List Key := []
  several : Bool := false
  current : Value := .table none .header []

namespace Draft

def place (key : Key) (several : Bool) (t : Value) : Value → Option (Value × Unit)
  | .table span origin entries =>
    match several, Entries.get? entries key.name with
    | false, none => some (.table span origin (entries ++ [(key, t)]), ())
    | true, some (.tables items) =>
      some (.table span origin (Entries.set entries key (.tables (t :: items))), ())
    | true, none => some (.table span origin (entries ++ [(key, .tables [t])]), ())
    | _, _ => none
  | _ => none

def finish (d : Draft) : Option Value :=
  match d.path.getLast? with
  | none => some d.current
  | some key => (descend false (place key d.several d.current) d.path.dropLast d.root).map Prod.fst

/-- What a header finds in its parent: the parent without the table that it names, and that table's
entries, which are there already if it was on the way to another. -/
def reopen (key : Key) (several : Bool) : Value → Option (Value × Entries)
  | .table span origin entries =>
    match several, Entries.get? entries key.name with
    | _, none => some (.table span origin entries, [])
    | true, some (.tables _) => some (.table span origin entries, [])
    | false, some (.table _ .implied es) =>
      some (.table span origin (Entries.erase entries key.name), es)
    | _, _ => none
  | _ => none

def header (d : Draft) (keys : List Key) (several : Bool) (span : Span) : Option Draft := do
  let key ← keys.getLast?
  let (root, entries) ← descend false (reopen key several) keys.dropLast (← d.finish)
  return { root, path := keys, several, current := .table (some span) .header entries }

/-- A key is set in the current table, whose span grows to the end of the value. -/
def assign (d : Draft) (keys : List Key) (v : Value) : Option Draft := do
  let key ← keys.getLast?
  let grown : Value := match d.current, v.span? with
    | .table (some span) origin entries, some s => .table (some ⟨span.start, s.stop⟩) origin entries
    | t, _ => t
  let (current, _) ← descend true (setNew (1 < keys.length) key v) keys.dropLast grown
  return { d with current }

end Draft

/-- The lines of a document; `fuel` bounds their number. -/
def lines (size : Nat) : (fuel : Nat) → Draft → Rest → Option Value
  | 0, _, _ => none
  | fuel + 1, d, r =>
    match skipSpaces r with
    | [] => d.finish
    | '\n' :: r => lines size fuel d r
    | '\r' :: '\n' :: r => lines size fuel d r
    | '#' :: r => do lines size fuel d (← lineBreak (skipComment r))
    | '[' :: '[' :: body => do
      let start := skipSpaces r
      let (keys, rest) ← keyParts (nestingLimit) body
      let rest ← expect ']' (← expect ']' rest)
      lines size fuel (← d.header keys true ⟨start, rest⟩) (← endLine rest)
    | '[' :: body => do
      let start := skipSpaces r
      let (keys, rest) ← keyParts (nestingLimit) body
      let rest ← expect ']' rest
      lines size fuel (← d.header keys false ⟨start, rest⟩) (← endLine rest)
    | r => do
      let ((keys, v), rest) ← pair (value size nestingLimit) r
      lines size fuel (← d.assign keys v) (← endLine rest)

/-- The entries of a document; nothing if the text is no TOML document. -/
def read (text : String) : Option Entries :=
  let chars := text.toList
  let body := match chars with
    | '\ufeff' :: r => r
    | r => r
  match lines chars.length (chars.length + 1) {} body with
  | some (.table _ _ entries) => some entries
  | _ => none

end BrokerTrial.Toml
