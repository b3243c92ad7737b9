/-!
# Hexadecimal digits

Numbers are written in small digits without leading zeros, octets in two digits each.  Capital digits are read like
small ones.
-/
namespace DirectoryAccess.Text

/-- The value of a hexadecimal digit. -/
def hexValue? (c : Char) : Option Nat :=
  if '0' ≤ c ∧ c ≤ '9' then some (c.toNat - '0'.toNat)
  else if 'a' ≤ c ∧ c ≤ 'f' then some (c.toNat - 'a'.toNat + 10)
  else if 'A' ≤ c ∧ c ≤ 'F' then some (c.toNat - 'A'.toNat + 10)
  else none

def hexDigits (n : Nat) : List Char := Nat.toDigits 16 n

/-- The digits of an octet, the high one first. -/
def hexPair (b : UInt8) : List Char := [Nat.digitChar (b.toNat / 16), Nat.digitChar (b.toNat % 16)]

def hexText (bs : List UInt8) : String := String.ofList (bs.flatMap hexPair)

/-- The octets that pairs of digits stand for. -/
def hexOctets? : List Char → Option (List UInt8)
  | [] => some []
  | [_] => none
  | a :: b :: cs =>
    match hexValue? a, hexValue? b with
    | some high, some low => (hexOctets? cs).map (UInt8.ofNat (high * 16 + low) :: ·)
    | _, _ => none

end DirectoryAccess.Text
