import DirectoryAccess.Name
import DirectoryAccess.Text.Blank
import DirectoryAccess.Text.Hexadecimal
import DirectoryAccess.Text.Octets
/-!
# Reading names

The blanks around the whole text are dropped; what is left is split at the commas that no backslash precedes, and each
piece is read as one part.  Nothing at all is the root.

A part is a type, an equals sign and a value.  Blanks around the type are dropped.  The value is a row of tokens: a
character that stands for itself, a backslash and two hexadecimal digits for an octet, or a backslash and any other
character for that character.  Plain spaces at both ends are dropped, escaped ones are not, and the octets of the
remaining tokens have to be a text.  The first fault from the left is the one reported.
-/
namespace DirectoryAccess

/-- Why a text is not a name. -/
inductive NameFault where
  | noEquals
  | emptyType
  | severalValues
  | danglingEscape
  | malformedHex
  | notText
deriving DecidableEq

def NameFault.message : NameFault → String
  | .noEquals => "expected 'attribute=value'"
  | .emptyType => "empty attribute type"
  | .severalValues => "multi-valued RDNs are not supported"
  | .danglingEscape => "dangling escape"
  | .malformedHex => "malformed hex escape"
  | .notText => "value is not valid UTF-8"

namespace Name

/-! ## Parts -/

/-- Puts `front` before the first of the pieces. -/
def glue (front : List Char) : List (List Char) → List (List Char)
  | [] => [front]
  | piece :: pieces => (front ++ piece) :: pieces

/-- The pieces between commas; a comma right after a backslash does not count. -/
def pieces : List Char → List (List Char)
  | [] => [[]]
  | ',' :: cs => [] :: pieces cs
  | '\\' :: c :: cs => glue ['\\', c] (pieces cs)
  | c :: cs => glue [c] (pieces cs)

/-- The type of a part, and what follows its equals sign. -/
def readType : List Char → Except NameFault (List Char × List Char)
  | [] => .error .noEquals
  | c :: cs =>
    if c = '=' then .ok ([], cs)
    else if c = ',' || c = '+' || c = '\\' then .error .noEquals
    else (readType cs).map (fun p => (c :: p.1, p.2))

/-! ## Values -/

/-- A token of a value. -/
inductive Token where
  | literal (c : Char)
  | escaped (c : Char)
  | octet (b : UInt8)
deriving DecidableEq

namespace Token

def octets : Token → List UInt8
  | .literal c => String.utf8EncodeChar c
  | .escaped c => String.utf8EncodeChar c
  | .octet b => [b]

/-- A plain space. -/
def isPad : Token → Bool
  | .literal c => c = ' '
  | _ => false

end Token

/-- The tokens of a value. -/
def tokens : List Char → Except NameFault (List Token)
  | [] => .ok []
  | c :: cs =>
    if c = '+' then .error .severalValues
    else if c = '\\' then
      match cs with
      | [] => .error .danglingEscape
      | d :: cs =>
        match Text.hexValue? d with
        | none => (tokens cs).map (.escaped d :: ·)
        | some high =>
          match cs with
          | [] => .error .malformedHex
          | e :: cs =>
            match Text.hexValue? e with
            | none => .error .malformedHex
            | some low => (tokens cs).map (.octet (UInt8.ofNat (high * 16 + low)) :: ·)
    else (tokens cs).map (.literal c :: ·)

/-- The tokens without the plain spaces at both ends. -/
def trimTokens (ts : List Token) : List Token :=
  ((ts.dropWhile Token.isPad).reverse.dropWhile Token.isPad).reverse

/-- The value that tokens stand for. -/
def valueOf? (ts : List Token) : Option String := Text.decode? ((trimTokens ts).flatMap Token.octets)

def readRdn (cs : List Char) : Except NameFault Rdn := do
  let (type, rest) ← readType cs
  let type := Text.trimChars type
  if type.isEmpty then
    throw .emptyType
  let ts ← tokens rest
  match valueOf? ts with
  | some value => return ⟨String.ofList type, value⟩
  | none => throw .notText

/-! ## Whole names -/

/-- The name that the text stands for. -/
def read (s : String) : Except NameFault Name :=
  match Text.trimChars s.toList with
  | [] => .ok root
  | c :: cs => ((pieces (c :: cs)).mapM readRdn).map Name.mk

end Name
end DirectoryAccess
