import DirectoryAccess.Text.Quoted
/-!
# Descriptions

What values look like in logs and to developers: words, quoted texts, calls with arguments, records with named fields,
rows and sets.  A record that shows only some of its fields says so with two dots.
-/
namespace DirectoryAccess

inductive Description where
  | word (w : String)
  | quoted (s : String)
  | call (name : String) (args : List Description)
  | record (name : String) (fields : List (String × Description)) (complete : Bool)
  | row (items : List Description)
  | set (items : List Description)

namespace Description

/-- All fields of a record. -/
def whole (name : String) (fields : List (String × Description)) : Description := .record name fields true

/-- Some of the fields of a record. -/
def partly (name : String) (fields : List (String × Description)) : Description := .record name fields false

def boolean (b : Bool) : Description := .word (if b then "true" else "false")

def nat (n : Nat) : Description := .word (toString n)

def quotedRow (ss : List String) : Description := .row (ss.map .quoted)

def ofOption {α : Type} (describe : α → Description) : Option α → Description
  | none => .word "None"
  | some a => .call "Some" [describe a]

/-! ## Text -/

def commaSeparated (items : List String) : String := ", ".intercalate items

/-- Items between curly brackets, set apart from them by blanks. -/
def braced (items : List String) : String := "\x7b " ++ commaSeparated items ++ " \x7d"

mutual

def text : Description → String
  | .word w => w
  | .quoted s => Text.quoted s
  | .call name args => name ++ "(" ++ commaSeparated (texts args) ++ ")"
  | .record name fields complete =>
    name ++ " " ++ braced (fieldTexts fields ++ if complete then [] else [".."])
  | .row items => "[" ++ commaSeparated (texts items) ++ "]"
  | .set items => "\x7b" ++ commaSeparated (texts items) ++ "\x7d"

def texts : List Description → List String
  | [] => []
  | d :: ds => text d :: texts ds

def fieldTexts : List (String × Description) → List String
  | [] => []
  | (name, d) :: fs => (name ++ ": " ++ text d) :: fieldTexts fs

end

end Description
end DirectoryAccess
