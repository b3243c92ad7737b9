import DirectoryAccess.Text.Ranges
/-!
# Blanks around a text

A blank is a character of white space in the wide sense: the ASCII blanks, the next-line character and the spaces of
other scripts.  `trim` removes the blanks at both ends of a text and keeps those inside it; what it leaves neither
starts nor ends with one, and a text that neither starts nor ends with one is left as it is.
-/
namespace DirectoryAccess.Text

def blanks : Ranges :=
  [(0x9, 0xd), (0x20, 0x20), (0x85, 0x85), (0xa0, 0xa0), (0x1680, 0x1680), (0x2000, 0x200a), (0x2028, 0x2029),
   (0x202f, 0x202f), (0x205f, 0x205f), (0x3000, 0x3000)]

def isBlank (c : Char) : Bool := blanks.has c

def trimChars (cs : List Char) : List Char := ((cs.dropWhile isBlank).reverse.dropWhile isBlank).reverse

def trim (s : String) : String := String.ofList (trimChars s.toList)

/-- A text without content: nothing is left of it once its blanks are gone. -/
def isVoid (s : String) : Bool := (trimChars s.toList).isEmpty

@[simp] theorem toList_trim (s : String) : (trim s).toList = trimChars s.toList := by simp [trim]

@[simp] theorem trimChars_nil : trimChars [] = [] := rfl

end DirectoryAccess.Text
