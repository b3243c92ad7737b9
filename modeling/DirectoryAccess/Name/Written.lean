import DirectoryAccess.Name
/-!
# The written form of names

Parts are written `type=value` with commas between them.  In a value, the characters that mean something in a name
follow a backslash, the null character is `\00`, a blank at either end is `\20` and a number sign in front is `\23`;
types are written as they are.
-/
namespace DirectoryAccess

/-- Characters of a value that are written after a backslash wherever they stand. -/
def isNameSpecial (c : Char) : Bool :=
  c = ',' || c = '+' || c = '"' || c = '\\' || c = '<' || c = '>' || c = ';' || c = '='

def escapeValueChar (isFirst isLast : Bool) (c : Char) : List Char :=
  if isNameSpecial c then ['\\', c]
  else if c.toNat = 0 then ['\\', '0', '0']
  else if c = ' ' && (isFirst || isLast) then ['\\', '2', '0']
  else if c = '#' && isFirst then ['\\', '2', '3']
  else [c]

/-- The written form of the rest of a value. -/
def escapeValueFrom (isFirst : Bool) : List Char → List Char
  | [] => []
  | c :: cs => escapeValueChar isFirst cs.isEmpty c ++ escapeValueFrom false cs

def escapeValueChars (cs : List Char) : List Char := escapeValueFrom true cs

def escapeValue (s : String) : String := String.ofList (escapeValueChars s.toList)

def Rdn.chars (r : Rdn) : List Char := r.type.toList ++ '=' :: escapeValueChars r.value.toList

def Rdn.text (r : Rdn) : String := String.ofList r.chars

namespace Name

def chars (n : Name) : List Char := [','].intercalate (n.rdns.map Rdn.chars)

def text (n : Name) : String := String.ofList n.chars

/-- The written form in which equal names agree: types in small ASCII letters, values in lower case. -/
def normalized (n : Name) : String :=
  text ⟨n.rdns.map (fun r => ⟨Text.fold r.type, Text.lower r.value⟩)⟩

@[simp] theorem text_root : root.text = "" := rfl

end Name
end DirectoryAccess
