import DirectoryAccess.Text.Blank
/-!
# Whole numbers as text

Numbers are written in decimal with a minus sign where negative.  They are read with at most one sign, digits of ASCII
only, any number of leading zeros, and are refused outside 64 bits.
-/
namespace DirectoryAccess.Text

def decimal (n : Int64) : String := toString n.toInt

def readDigits (cs : List Char) : Option Nat :=
  if !cs.isEmpty && cs.all Char.isDigit then some (Nat.ofDigitChars 10 cs 0) else none

def readInteger : List Char → Option Int
  | '-' :: cs => (readDigits cs).map (fun n => -(n : Int))
  | '+' :: cs => (readDigits cs).map Int.ofNat
  | cs => (readDigits cs).map Int.ofNat

/-- The number as 64 bits with sign, if it fits. -/
def fit64 (n : Int) : Option Int64 :=
  if Int64.minValue.toInt ≤ n ∧ n ≤ Int64.maxValue.toInt then some (Int64.ofInt n) else none

def readInt64 (cs : List Char) : Option Int64 := (readInteger cs).bind fit64

/-- Blanks around the number are set aside. -/
def readInt64Trimmed (s : String) : Option Int64 := readInt64 (trimChars s.toList)

end DirectoryAccess.Text
