import DirectoryAccess.Document
import DirectoryAccess.Text.Hexadecimal
/-!
# The text of a document

One line without blanks.  Inside a text, quotes, backslashes and controls are escaped and every other character stands
for itself.
-/
namespace DirectoryAccess.Document

/-- Four hexadecimal digits. -/
def hex4 (n : Nat) : List Char :=
  let ds := Text.hexDigits n
  List.replicate (4 - ds.length) '0' ++ ds

def writeChar (c : Char) : List Char :=
  if c = '"' then ['\\', '"']
  else if c = '\\' then ['\\', '\\']
  else if c.toNat < 0x20 then ['\\', 'u'] ++ hex4 c.toNat
  else [c]

def writeText (s : String) : String := "\"" ++ String.ofList (s.toList.flatMap writeChar) ++ "\""

mutual

def write : Document → String
  | .null => "null"
  | .boolean b => if b then "true" else "false"
  | .integer n => toString n
  | .fraction literal => literal
  | .text s => writeText s
  | .list ds => "[" ++ ",".intercalate (writeItems ds) ++ "]"
  | .object fs => "\x7b" ++ ",".intercalate (writeFields fs) ++ "\x7d"

def writeItems : List Document → List String
  | [] => []
  | d :: ds => write d :: writeItems ds

def writeFields : List (String × Document) → List String
  | [] => []
  | (name, d) :: fs => (writeText name ++ ":" ++ write d) :: writeFields fs

end

end DirectoryAccess.Document
