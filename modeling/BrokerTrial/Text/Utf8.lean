/-!
# Bytes read as UTF-8

Bytes that need not be text: the characters they encode, with every ill-formed piece kept apart. A
piece is the longest beginning of some encoded character, or a single byte that begins none, so no
ASCII character is ever part of one.
-/

namespace BrokerTrial.Text

/-- What bytes hold: a character, or an ill-formed piece. -/
inductive Symbol where
  | char (c : Char)
  | stray
  deriving DecidableEq, Repr

/-- A character being decoded: the bytes it still owes, the range of the next one, and the code
point so far. -/
structure Decoder where
  owed : Nat := 0
  low : UInt8 := 0x80
  high : UInt8 := 0xBF
  code : Nat := 0
  /-- What is decoded, latest first. -/
  done : List Symbol := []

namespace Decoder

def emit (d : Decoder) (s : Symbol) : Decoder := { done := s :: d.done }

/-- A byte where a character begins. -/
def start (d : Decoder) (b : UInt8) : Decoder :=
  let n := b.toNat
  if n < 0x80 then d.emit (.char (Char.ofNat n))
  else if n < 0xC2 then d.emit .stray
  else if n < 0xE0 then { done := d.done, owed := 1, code := n - 0xC0 }
  else if n == 0xE0 then { done := d.done, owed := 2, low := 0xA0 }
  else if n == 0xED then { done := d.done, owed := 2, high := 0x9F, code := 0x0D }
  else if n < 0xF0 then { done := d.done, owed := 2, code := n - 0xE0 }
  else if n == 0xF0 then { done := d.done, owed := 3, low := 0x90 }
  else if n < 0xF4 then { done := d.done, owed := 3, code := n - 0xF0 }
  else if n == 0xF4 then { done := d.done, owed := 3, high := 0x8F, code := 4 }
  else d.emit .stray

def step (d : Decoder) (b : UInt8) : Decoder :=
  match d.owed with
  | 0 => d.start b
  | owed + 1 =>
    if d.low ≤ b && b ≤ d.high then
      let code := d.code * 64 + (b.toNat - 0x80)
      if owed == 0 then d.emit (.char (Char.ofNat code))
      else { done := d.done, owed, code }
    else (d.emit .stray).start b

def finish (d : Decoder) : List Symbol :=
  (if d.owed == 0 then d.done else .stray :: d.done).reverse

end Decoder

/-- The symbols of some bytes; of valid UTF-8, its characters. -/
def symbols (bytes : ByteArray) : List Symbol :=
  match String.fromUTF8? bytes with
  | some s => s.toList.map .char
  | none => (bytes.foldl Decoder.step {}).finish

/-- The text of some bytes, with U+FFFD in place of each ill-formed piece. -/
def lossy (bytes : ByteArray) : String :=
  String.ofList <| (symbols bytes).map fun
    | .char c => c
    | .stray => '\ufffd'

theorem symbols_toUTF8 (s : String) : symbols s.toUTF8 = s.toList.map .char := by
  have h : String.fromUTF8? s.toUTF8 = some s := by
    unfold String.fromUTF8?
    rw [dif_pos (show s.toUTF8.IsValidUTF8 from s.isValidUTF8)]
    rfl
  simp only [symbols, h]

end BrokerTrial.Text
