import BrokerTrial.Toml.Document

/-!
# Lexemes of TOML

Keys and plain values at the head of a text. Each function gives what it found and what is left, or
nothing where the text has no such lexeme.
-/

namespace BrokerTrial.Toml

abbrev Rest := List Char

/-! ### Space and comments -/

def skipSpaces : Rest → Rest
  | ' ' :: r | '\t' :: r => skipSpaces r
  | r => r

/-- A character that may stand in a comment. -/
def isPlain (c : Char) : Bool := c == '\t' || (0x20 ≤ c.toNat && c.toNat != 0x7F)

/-- Past the text of a comment. -/
def skipComment : Rest → Rest
  | [] => []
  | c :: r => if isPlain c then skipComment r else c :: r

/-- Past one line break, which may also be the end of the text. -/
def lineBreak : Rest → Option Rest
  | [] => some []
  | '\n' :: r => some r
  | '\r' :: '\n' :: r => some r
  | _ => none

/-- Past the rest of a line that holds nothing more. -/
def endLine (r : Rest) : Option Rest :=
  match skipSpaces r with
  | '#' :: r => lineBreak (skipComment r)
  | r => lineBreak r

/-- Past spaces, line breaks and comments; `comment` says whether one is open. -/
def skipBlank (comment : Bool) : Rest → Option Rest
  | [] => some []
  | '\n' :: r => skipBlank false r
  | '\r' :: '\n' :: r => skipBlank false r
  | c :: r =>
    if comment then if isPlain c then skipBlank true r else none
    else if c == ' ' || c == '\t' then skipBlank false r
    else if c == '#' then skipBlank true r
    else some (c :: r)

/-! ### Strings -/

def hexDigits : List Char → Option Nat :=
  List.foldlM (fun n c =>
    if c.isDigit then some (n * 16 + (c.toNat - 0x30))
    else if 'a' ≤ c && c ≤ 'f' then some (n * 16 + (c.toNat - 0x57))
    else if 'A' ≤ c && c ≤ 'F' then some (n * 16 + (c.toNat - 0x37))
    else none) 0

/-- The character of a code point that is one. -/
def scalar (digits : List Char) : Option Char := do
  let n ← hexDigits digits
  if n < 0xD800 || (0xDFFF < n && n < 0x110000) then some (Char.ofNat n) else none

/-- The character that a letter after a backslash stands for. -/
def shortEscape : Char → Option Char
  | 'b' => some '\x08'
  | 't' => some '\t'
  | 'n' => some '\n'
  | 'f' => some '\x0c'
  | 'r' => some '\r'
  | '"' => some '"'
  | '\\' => some '\\'
  | _ => none

/-- After the opening quote of a string with escapes; `out` holds its characters, latest first. -/
def basicString : Rest → List Char → Option (String × Rest)
  | '"' :: r, out => some (String.ofList out.reverse, r)
  | '\\' :: 'u' :: a :: b :: c :: d :: r, out => do
    basicString r ((← scalar [a, b, c, d]) :: out)
  | '\\' :: 'U' :: a :: b :: c :: d :: e :: f :: g :: h :: r, out => do
    basicString r ((← scalar [a, b, c, d, e, f, g, h]) :: out)
  | '\\' :: c :: r, out => do basicString r ((← shortEscape c) :: out)
  | c :: r, out => if isPlain c && c != '\\' then basicString r (c :: out) else none
  | [], _ => none

/-- After the opening quote of a string without escapes. -/
def literalString : Rest → List Char → Option (String × Rest)
  | '\'' :: r, out => some (String.ofList out.reverse, r)
  | c :: r, out => if isPlain c then literalString r (c :: out) else none
  | [], _ => none

/-- Up to two more closing quotes belong to a string of several lines. -/
def closeLong (quote : Char) (r : Rest) (out : List Char) : String × Rest :=
  match r with
  | a :: b :: r =>
    if a == quote && b == quote then (String.ofList (b :: a :: out).reverse, r)
    else if a == quote then (String.ofList (a :: out).reverse, b :: r)
    else (String.ofList out.reverse, a :: b :: r)
  | [a] => if a == quote then (String.ofList (a :: out).reverse, []) else (String.ofList out.reverse, [a])
  | [] => (String.ofList out.reverse, [])

/-- Inside a string of several lines with escapes; `joining` while the blanks after a backslash at a
line's end are passed over, with whether the line has ended. -/
def longBasic (joining : Option Bool) : Rest → List Char → Option (String × Rest)
  | '\n' :: r, out =>
    match joining with
    | some _ => longBasic (some true) r out
    | none => longBasic none r ('\n' :: out)
  | '\r' :: '\n' :: r, out =>
    match joining with
    | some _ => longBasic (some true) r out
    | none => longBasic none r ('\n' :: out)
  | c :: r, out =>
    if joining.isSome && (c == ' ' || c == '\t') then longBasic joining r out
    else if joining == some false then none
    else match c, r with
      | '"', '"' :: '"' :: r => some (closeLong '"' r out)
      | '\\', 'u' :: a :: b :: c :: d :: r => do longBasic none r ((← scalar [a, b, c, d]) :: out)
      | '\\', 'U' :: a :: b :: c :: d :: e :: f :: g :: h :: r => do
        longBasic none r ((← scalar [a, b, c, d, e, f, g, h]) :: out)
      | '\\', e :: r =>
        match shortEscape e with
        | some e => longBasic none r (e :: out)
        | none =>
          if e == '\n' then longBasic (some true) r out
          else if e == ' ' || e == '\t' then longBasic (some false) r out
          else if e == '\r' then match r with
            | '\n' :: r => longBasic (some true) r out
            | _ => none
          else none
      | c, r => if isPlain c && c != '\\' then longBasic none r (c :: out) else none
  | [], _ => none

/-- Inside a string of several lines without escapes. -/
def longLiteral : Rest → List Char → Option (String × Rest)
  | '\'' :: '\'' :: '\'' :: r, out => some (closeLong '\'' r out)
  | '\n' :: r, out => longLiteral r ('\n' :: out)
  | '\r' :: '\n' :: r, out => longLiteral r ('\n' :: out)
  | c :: r, out => if isPlain c then longLiteral r (c :: out) else none
  | [], _ => none

/-- A line break right after the opening quotes is not part of the string. -/
def dropBreak : Rest → Rest
  | '\n' :: r => r
  | '\r' :: '\n' :: r => r
  | r => r

def anyString : Rest → Option (String × Rest)
  | '"' :: '"' :: '"' :: r => longBasic none (dropBreak r) []
  | '"' :: r => basicString r []
  | '\'' :: '\'' :: '\'' :: r => longLiteral (dropBreak r) []
  | '\'' :: r => literalString r []
  | _ => none

/-! ### Numbers -/

/-- Digits of a kind, single underscores between them left out. -/
def digitRun (isDigit : Char → Bool) : Rest → List Char → Option (List Char × Rest)
  | '_' :: c :: r, out =>
    if out.isEmpty then none
    else if isDigit c then digitRun isDigit r (c :: out)
    else some (out.reverse, '_' :: c :: r)
  | c :: r, out =>
    if isDigit c then digitRun isDigit r (c :: out)
    else if out.isEmpty then none
    else some (out.reverse, c :: r)
  | [], out => if out.isEmpty then none else some (out.reverse, [])

def takeSign : Rest → Bool × Rest
  | '-' :: r => (true, r)
  | '+' :: r => (false, r)
  | r => (false, r)

/-- Decimal digits without leading zeros. -/
def decimal : Rest → Option (List Char × Rest)
  | '0' :: r => some (['0'], r)
  | r => digitRun Char.isDigit r []

def natOf (base : Nat) (digits : List Char) : Nat :=
  digits.foldl (fun n c => n * base + ((hexDigits [c]).getD 0)) 0

def power (r : Rest) : Option (Int × Rest) :=
  match r with
  | c :: r =>
    if c == 'e' || c == 'E' then do
      let (negative, r) := takeSign r
      let (digits, r) ← digitRun Char.isDigit r []
      let size : Nat := digits.foldl (fun n c => min (n * 10 + (c.toNat - 0x30)) (Nat.pow 2 64)) 0
      return (if negative then -(size : Int) else (size : Int), r)
    else none
  | [] => none

/-- `digits * 10 ^ exponent` rounded to the nearest floating point number. -/
def nearest (digits : List Char) (exponent : Int) : Float :=
  let n := natOf 10 digits
  let top := exponent + (digits.length : Int)
  if n = 0 ∨ top < -400 then 0.0
  else match exponent with
    | .ofNat e => if 400 < top ∧ 400 + digits.length < e then 1.0 / 0.0 else Float.ofScientific n false e
    | .negSucc e => Float.ofScientific n true (e + 1)

/-- A number with a fraction or an exponent, or one of the words for numbers without digits. -/
def float (r : Rest) : Option (Float × Rest) :=
  let (negative, body) := takeSign r
  let signed (x : Float) := if negative then -x else x
  match body with
  | 'i' :: 'n' :: 'f' :: r => some (signed (1.0 / 0.0), r)
  | 'n' :: 'a' :: 'n' :: r => some (0.0 / 0.0, r)
  | _ => do
    let (whole, r) ← decimal body
    let (part, exponent, r) ← match r with
      | '.' :: r => do
        let (part, r) ← digitRun Char.isDigit r []
        match r with
        | c :: _ =>
          if c == 'e' || c == 'E' then do
            let (exponent, r) ← power r
            some (part, exponent, r)
          else some (part, 0, r)
        | [] => some (part, 0, r)
      | r => do
        let (exponent, r) ← power r
        some ([], exponent, r)
    let x := nearest (whole ++ part) (exponent - (part.length : Int))
    if x.isInf && !negative then none else some (signed x, r)

/-- A whole number that fits 64 bits. -/
def integer (r : Rest) : Option (Int × Rest) := do
  let based (base : Nat) (isDigit : Char → Bool) (r : Rest) : Option (Int × Rest) := do
    let (digits, r) ← digitRun isDigit r []
    let n := natOf base digits
    if n < Nat.pow 2 63 then some ((n : Int), r) else none
  match r with
  | '0' :: 'x' :: r => based 16 (fun c => (hexDigits [c]).isSome) r
  | '0' :: 'o' :: r => based 8 (fun c => '0' ≤ c && c ≤ '7') r
  | '0' :: 'b' :: r => based 2 (fun c => c == '0' || c == '1') r
  | r => do
    let (negative, r) := takeSign r
    let (digits, r) ← decimal r
    let n := natOf 10 digits
    if negative then if n ≤ Nat.pow 2 63 then some (-(n : Int), r) else none
    else if n < Nat.pow 2 63 then some ((n : Int), r)
    else none

/-! ### Dates and times -/

/-- `count` digits as a number. -/
def fixedDigits : (count : Nat) → Rest → Nat → Option (Nat × Rest)
  | 0, r, n => some (n, r)
  | count + 1, c :: r, n =>
    if c.isDigit then fixedDigits count r (n * 10 + (c.toNat - 0x30)) else none
  | _ + 1, [], _ => none

/-- Two digits no larger than `most`. -/
def twoDigits (most : Nat) (r : Rest) : Option (Nat × Rest) := do
  let (n, r) ← fixedDigits 2 r 0
  if n ≤ most then some (n, r) else none

def expect (c : Char) : Rest → Option Rest
  | d :: r => if c = d then some r else none
  | [] => none

def daysOf (year month : Nat) : Nat :=
  if month = 2 then
    if year % 4 = 0 ∧ (year % 100 ≠ 0 ∨ year % 400 = 0) then 29 else 28
  else if month = 4 ∨ month = 6 ∨ month = 9 ∨ month = 11 then 30
  else 31

def date (r : Rest) : Option Rest := do
  let (year, r) ← fixedDigits 4 r 0
  let (month, r) ← twoDigits 12 (← expect '-' r)
  let (day, r) ← twoDigits 31 (← expect '-' r)
  if 1 ≤ month ∧ 1 ≤ day ∧ day ≤ daysOf year month then some r else none

def time (r : Rest) : Option Rest := do
  let (_, r) ← twoDigits 23 r
  let (_, r) ← twoDigits 59 (← expect ':' r)
  let (_, r) ← twoDigits 60 (← expect ':' r)
  match r with
  | '.' :: r =>
    let part := r.takeWhile Char.isDigit
    if part.isEmpty then none else some (r.drop part.length)
  | r => some r

def offset (r : Rest) : Option Rest :=
  match r with
  | 'Z' :: r | 'z' :: r => some r
  | '+' :: r | '-' :: r => do
    let (_, r) ← twoDigits 23 r
    let (_, r) ← twoDigits 59 (← expect ':' r)
    return r
  | r => some r

/-- A date, a time of day, or both. -/
def datetime (r : Rest) : Option Rest :=
  match date r with
  | none => time r
  | some r =>
    match r with
    | c :: later =>
      if c == 'T' || c == 't' then time later >>= offset
      else if c == ' ' then
        match time later with
        | some r => offset r
        | none => some r
      else some r
    | [] => some r

/-! ### Keys -/

def isBare (c : Char) : Bool := c.isAlphanum || c == '_' || c == '-'

def keyPart (r : Rest) : Option (Key × Rest) :=
  match r with
  | '"' :: body => (basicString body []).map fun (name, rest) => (⟨name, ⟨r, rest⟩⟩, rest)
  | '\'' :: body => (literalString body []).map fun (name, rest) => (⟨name, ⟨r, rest⟩⟩, rest)
  | r =>
    let name := r.takeWhile isBare
    let rest := r.dropWhile isBare
    if name.isEmpty then none else some (⟨String.ofList name, ⟨r, rest⟩⟩, rest)

/-- The parts of a key with points between them, fewer than `limit`. -/
def keyParts : (limit : Nat) → Rest → Option (List Key × Rest)
  | 0, _ => none
  | limit + 1, r => do
    let (key, r) ← keyPart (skipSpaces r)
    match skipSpaces r with
    | '.' :: r => do
      let (keys, r) ← keyParts limit r
      return (key :: keys, r)
    | r => some ([key], r)

end BrokerTrial.Toml
