import BrokerTrial.Generation

/-!
# The keyspace in words

The check for enough different byte strings as it is made in words of 64 bits. A shift that leaves the word
has no value.
-/

namespace BrokerTrial.Generation

def shiftedOne (places : UInt64) : Option UInt64 := if places < 64 then some (1 <<< places) else none

/-- `keyspaceFits` for words. -/
def keyspaceFitsWord (count byteLength : UInt64) : Option Bool :=
  if 8 ≤ byteLength then some true
  else (shiftedOne (8 * byteLength)).map fun keyspace => decide (count ≤ keyspace)

end BrokerTrial.Generation
