import Mathlib
import BrokerTrial.Message

/-!
# Messages are read back

The reader of JSON finds the message that was written, whatever characters its id has.
-/

namespace BrokerTrial

namespace Json

open Text (Symbol)

namespace Reader

/-- The reader after some more characters. -/
def feed (r : Reader) (chars : List Char) : Reader := (chars.map Symbol.char).foldl step r

theorem feed_append (r : Reader) (first second : List Char) :
    r.feed (first ++ second) = (r.feed first).feed second := by
  rw [feed, List.map_append, List.foldl_append]
  rfl

theorem feed_cons (r : Reader) (c : Char) (rest : List Char) :
    r.feed (c :: rest) = (r.step (.char c)).feed rest := rfl

end Reader

theorem hexValue_hexDigit : ∀ n < 16, hexValue (Text.hexDigit n) = some n := by decide

/-- One more character of a string, wherever the string stands. -/
theorem step_text {q after : Quotation} {c : Char} (next : q.step (.char c) = some after)
    (inside : q.escape ≠ .none ∨ c ≠ '"') (stack : List Frame) :
    Reader.step ⟨.text q, stack⟩ (.char c) = ⟨.text after, stack⟩ := by
  have open' : ¬(q.escape = .none ∧ Symbol.char c = .char '"') := by
    rintro ⟨none, same⟩
    cases same
    exact inside.elim (fun escaping => escaping none) (fun other => other rfl)
  simp only [Reader.step, if_neg open', next]

theorem feed_control {c : Char} (control : c.toNat < 0x20) (chars : List Char) (stack : List Frame) :
    Reader.feed ⟨.text { chars }, stack⟩
        ['\\', 'u', '0', '0', Text.hexDigit (c.toNat / 16), Text.hexDigit (c.toNat % 16)] =
      ⟨.text { chars := c :: chars }, stack⟩ := by
  have high : hexValue (Text.hexDigit (c.toNat / 16)) = some (c.toNat / 16) :=
    hexValue_hexDigit _ (by omega)
  have low : hexValue (Text.hexDigit (c.toNat % 16)) = some (c.toNat % 16) := hexValue_hexDigit _ (by omega)
  have third : Quotation.step { chars, escape := .hex 2 0 } (.char (Text.hexDigit (c.toNat / 16))) =
      some { chars, escape := .hex 1 (c.toNat / 16) } := by
    simp [Quotation.step, high]
  have fourth : Quotation.step { chars, escape := .hex 1 (c.toNat / 16) }
      (.char (Text.hexDigit (c.toNat % 16))) = some { chars := c :: chars } := by
    have code : c.toNat / 16 * 16 + c.toNat % 16 = c.toNat := by omega
    have alone : ¬(0xDC00 ≤ c.toNat ∧ c.toNat ≤ 0xDFFF) ∧ ¬(0xD800 ≤ c.toNat ∧ c.toNat ≤ 0xDBFF) := by omega
    simp [Quotation.step, low, code, Quotation.unit, alone.1, alone.2, Quotation.push, Char.ofNat_toNat]
  have begun : Reader.feed ⟨.text { chars }, stack⟩ ['\\', 'u', '0', '0'] =
      ⟨.text { chars, escape := .hex 2 0 }, stack⟩ := rfl
  change Reader.feed (Reader.feed ⟨.text { chars }, stack⟩ ['\\', 'u', '0', '0']) [_, _] = _
  rw [begun, Reader.feed_cons, step_text third (Or.inl nofun), Reader.feed_cons,
    step_text fourth (Or.inl nofun)]
  rfl

theorem feed_escaped (c : Char) (chars : List Char) (stack : List Frame) :
    Reader.feed ⟨.text { chars }, stack⟩ (escaped c) = ⟨.text { chars := c :: chars }, stack⟩ := by
  unfold escaped
  split
  · rfl
  · rfl
  · rfl
  · rfl
  · rfl
  · rfl
  · rfl
  · rename_i quote backslash _ _ _ _ _
    split
    · rename_i control
      exact feed_control control chars stack
    · rename_i visible
      have next : Quotation.step { chars } (.char c) = some { chars := c :: chars } := by
        simp [Quotation.step, visible, Quotation.push]
      exact step_text next (Or.inr quote) stack

theorem feed_flatMap_escaped (s chars : List Char) (stack : List Frame) :
    Reader.feed ⟨.text { chars }, stack⟩ (s.flatMap escaped) =
      ⟨.text { chars := s.reverse ++ chars }, stack⟩ := by
  induction s generalizing chars with
  | nil => rfl
  | cons c rest ih =>
    rw [List.flatMap_cons, Reader.feed_append, feed_escaped, ih, List.reverse_cons, List.append_assoc]
    rfl

/-- A text is read back where a value is due. -/
theorem feed_text (s : String) (stack : List Frame) :
    Reader.feed ⟨.value, stack⟩ (text s).toList = Reader.complete (.text (some s)) stack := by
  have quote : Reader.feed ⟨.value, stack⟩ ['"'] = ⟨.text {}, stack⟩ := rfl
  have chars : (text s).toList = ['"'] ++ s.toList.flatMap escaped ++ ['"'] := by simp [text]
  rw [chars, Reader.feed_append, Reader.feed_append, quote, feed_flatMap_escaped, List.append_nil]
  have value : Quotation.value { chars := s.toList.reverse } = some s := by
    simp [Quotation.value]
  rw [← value]
  rfl

/-- A document is read in full once its characters lead the reader to its end. -/
theorem read_toUTF8 {s : String} {d : Doc} (read : Reader.feed {} s.toList = Reader.complete d []) :
    Json.read s.toUTF8 = ⟨d, true⟩ := by
  rw [Json.read, Text.symbols_toUTF8]
  change (Reader.feed {} _).finish = _
  rw [read]
  rfl

end Json

namespace Message

theorem ofBytes_json (m : Message) : ofBytes m.json.toUTF8 = .ok m := by
  have chars : m.json.toList = "\x7b\"id\":".toList ++ (Json.text m.id).toList ++ ['\x7d'] := by
    have key : Json.text "id" = "\"id\"" := rfl
    simp [json, Json.object, key]
  have opened : Json.Reader.feed {} "\x7b\"id\":".toList = ⟨.value, [.object [] (some "id")]⟩ := rfl
  have read : Json.read m.json.toUTF8 = ⟨.object [(some "id", .text (some m.id))] true, true⟩ := by
    rw [Json.read, Text.symbols_toUTF8, chars]
    change (Json.Reader.feed {} _).finish = _
    rw [Json.Reader.feed_append, Json.Reader.feed_append, opened, Json.feed_text]
    rfl
  rw [ofBytes, read]
  rfl

end Message

end BrokerTrial
