/-!
Bytes as text with 64 letters, three bytes in four letters. The last letters of a rest of one or two
bytes are replaced by a filler.
-/
namespace BuildingWorkflow

namespace Base64

def letters : List Char :=
  "ABCDEFGHIJKLMNOPQRSTUVWXYZabcdefghijklmnopqrstuvwxyz0123456789+/".toList

/-- The letter of six bits. -/
def letter (bits : Nat) : Char := letters.getD (bits % 64) '='

def encode : List UInt8 → List Char
  | [] => []
  | [a] => [letter (a.toNat / 4), letter (a.toNat * 16), '=', '=']
  | [a, b] =>
      [letter (a.toNat / 4), letter (a.toNat * 16 + b.toNat / 16), letter (b.toNat * 4), '=']
  | a :: b :: c :: rest =>
      letter (a.toNat / 4) :: letter (a.toNat * 16 + b.toNat / 16) ::
        letter (b.toNat * 4 + c.toNat / 64) :: letter c.toNat :: encode rest

end Base64

end BuildingWorkflow
