/-!
# Octets of a text

A text travels as its UTF-8 octets.  `octets` writes them; `Utf8.units` reads any octets as a list of units, each a
character or `none` for a broken sequence.  A broken sequence is the longest start of a character that the octets
hold, or one octet that starts none; reading goes on right after it.

`decode?` accepts octets without a broken sequence, `decodeLossy` puts the replacement character for each.
-/
namespace DirectoryAccess.Text

def octetsOf (cs : List Char) : List UInt8 := cs.flatMap String.utf8EncodeChar

def octets (s : String) : List UInt8 := octetsOf s.toList

namespace Utf8

/-- A character read in part: how many octets are missing, the bounds of the next one, the bits so far. -/
structure Partial where
  missing : Nat
  low : Nat
  high : Nat
  bits : Nat
deriving DecidableEq

/-- What the octets read so far leave to be completed. -/
abbrev State := Option Partial

/-- The first octet of a character. -/
def start (b : Nat) : List (Option Char) × State :=
  if b < 0x80 then ([some (Char.ofNat b)], none)
  else if b < 0xC2 then ([none], none)
  else if b < 0xE0 then ([], some ⟨1, 0x80, 0xBF, b - 0xC0⟩)
  else if b < 0xF0 then
    ([], some ⟨2, if b = 0xE0 then 0xA0 else 0x80, if b = 0xED then 0x9F else 0xBF, b - 0xE0⟩)
  else if b < 0xF5 then
    ([], some ⟨3, if b = 0xF0 then 0x90 else 0x80, if b = 0xF4 then 0x8F else 0xBF, b - 0xF0⟩)
  else ([none], none)

/-- One octet more: it continues the character begun, or breaks it off and starts anew. -/
def step : State → Nat → List (Option Char) × State
  | none, b => start b
  | some p, b =>
    if p.low ≤ b ∧ b ≤ p.high then
      let bits := p.bits * 64 + (b - 0x80)
      if p.missing ≤ 1 then ([some (Char.ofNat bits)], none) else ([], some ⟨p.missing - 1, 0x80, 0xBF, bits⟩)
    else (none :: (start b).1, (start b).2)

def unitsFrom : State → List UInt8 → List (Option Char)
  | none, [] => []
  | some _, [] => [none]
  | s, b :: bs => (step s b.toNat).1 ++ unitsFrom (step s b.toNat).2 bs

def units (bs : List UInt8) : List (Option Char) := unitsFrom none bs

end Utf8

def decodeChars? (bs : List UInt8) : Option (List Char) := (Utf8.units bs).mapM id

def decode? (bs : List UInt8) : Option String := (decodeChars? bs).map String.ofList

/-- The character that stands for a broken sequence. -/
def replacement : Char := '\uFFFD'

def decodeLossyChars (bs : List UInt8) : List Char := (Utf8.units bs).map (·.getD replacement)

def decodeLossy (bs : List UInt8) : String := String.ofList (decodeLossyChars bs)

/-- Octets in the order of their first difference; a proper start comes first. -/
def octetsBefore : List UInt8 → List UInt8 → Bool
  | _, [] => false
  | [], _ :: _ => true
  | a :: as, b :: bs => decide (a < b) || (a == b && octetsBefore as bs)

end DirectoryAccess.Text
