/-!
# Blank text

White space as the Unicode property `White_Space` has it, and texts that hold nothing else.
-/

namespace BrokerTrial.Text

/-- A character of the Unicode property `White_Space`. -/
def isSpace (c : Char) : Bool :=
  let n := c.toNat
  (0x09 ≤ n && n ≤ 0x0D) || n == 0x20 || n == 0x85 || n == 0xA0 || n == 0x1680 ||
    (0x2000 ≤ n && n ≤ 0x200A) || n == 0x2028 || n == 0x2029 || n == 0x202F || n == 0x205F ||
    n == 0x3000

/-- A text of white space alone; the empty text is one. -/
def isBlank (s : String) : Bool := s.toList.all isSpace

theorem isBlank_iff {s : String} : isBlank s = true ↔ ∀ c ∈ s.toList, isSpace c = true := by
  simp [isBlank]

end BrokerTrial.Text
