/-!
# Bytes in base 64

Three bytes become four characters; what is missing at the end is filled up with equals signs.
-/

namespace BrokerTrial.Text.Base64

def alphabet : List Char := "ABCDEFGHIJKLMNOPQRSTUVWXYZabcdefghijklmnopqrstuvwxyz0123456789+/".toList

/-- The character at a place of four in a number of three bytes. -/
def digit (n place : Nat) : Char := alphabet.getD (n / Nat.pow 64 (3 - place) % 64) '='

def encode : List UInt8 → List Char
  | a :: b :: c :: rest =>
    let n := a.toNat * 65536 + b.toNat * 256 + c.toNat
    [digit n 0, digit n 1, digit n 2, digit n 3] ++ encode rest
  | [a, b] =>
    let n := a.toNat * 65536 + b.toNat * 256
    [digit n 0, digit n 1, digit n 2, '=']
  | [a] =>
    let n := a.toNat * 65536
    [digit n 0, digit n 1, '=', '=']
  | [] => []

end BrokerTrial.Text.Base64
