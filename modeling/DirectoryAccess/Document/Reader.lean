import DirectoryAccess.Document
import DirectoryAccess.Text.Hexadecimal
/-!
# Reading the text of a document

A reader takes characters and gives what it read together with the characters after it, or nothing.  `value` counts
down a bound on the number of nodes still to be read; the length of the text is always enough, since every node takes
a character, so `read?` starts it there.

Of two fields with one name the later one stands.  A number is an integer when it is written without a point and
without an exponent; minus zero is not one.
-/
namespace DirectoryAccess.Document.Reader

def isGap (c : Char) : Bool := c = ' ' || c = '\t' || c = '\n' || c = '\r'

def skip (cs : List Char) : List Char := cs.dropWhile isGap

/-- The rest of `cs` after `word`. -/
def after? : List Char → List Char → Option (List Char)
  | [], cs => some cs
  | _ :: _, [] => none
  | w :: ws, c :: cs => if w = c then after? ws cs else none

/-! ## Texts -/

def hex4? : List Char → Option (Nat × List Char)
  | a :: b :: c :: d :: cs => do
    let a ← Text.hexValue? a
    let b ← Text.hexValue? b
    let c ← Text.hexValue? c
    let d ← Text.hexValue? d
    return (((a * 16 + b) * 16 + c) * 16 + d, cs)
  | _ => none

def shortEscape? : Char → Option Char
  | '"' => some '"'
  | '\\' => some '\\'
  | '/' => some '/'
  | 'b' => some '\x08'
  | 'f' => some '\x0c'
  | 'n' => some '\n'
  | 'r' => some '\r'
  | 't' => some '\t'
  | _ => none

/-- A code point, or the first half of one written as two. -/
def codePoint? (cs : List Char) : Option (Char × List Char) :=
  match hex4? cs with
  | none => none
  | some (n, rest) =>
    if n < 0xD800 ∨ 0xDFFF < n then some (Char.ofNat n, rest)
    else
      match rest with
      | '\\' :: 'u' :: more =>
        match hex4? more with
        | some (m, rest) =>
          if n < 0xDC00 ∧ 0xDC00 ≤ m ∧ m ≤ 0xDFFF then
            some (Char.ofNat (0x10000 + (n - 0xD800) * 0x400 + (m - 0xDC00)), rest)
          else none
        | none => none
      | _ => none

/-- One character of a text: `none` at its closing quote. -/
def textChar? : List Char → Option (Option Char × List Char)
  | [] => none
  | '"' :: cs => some (none, cs)
  | '\\' :: 'u' :: cs => (codePoint? cs).map (fun (c, r) => (some c, r))
  | '\\' :: c :: cs => (shortEscape? c).map (fun c => (some c, cs))
  | '\\' :: [] => none
  | c :: cs => if c.toNat < 0x20 then none else some (some c, cs)

/-- The rest of a text, up to its closing quote. -/
def textRest : Nat → List Char → Option (List Char × List Char)
  | 0, _ => none
  | n + 1, cs =>
    match textChar? cs with
    | none => none
    | some (none, r) => some ([], r)
    | some (some c, r) => (textRest n r).map (fun (cs, r) => (c :: cs, r))

def textAfterQuote? (cs : List Char) : Option (String × List Char) :=
  (textRest (cs.length + 1) cs).map (fun (cs, r) => (String.ofList cs, r))

/-! ## Numbers -/

def isNumberChar (c : Char) : Bool := c.isDigit || c = '-' || c = '+' || c = '.' || c = 'e' || c = 'E'

/-- Digits, not with a zero in front of another. -/
def plainDigits? (cs : List Char) : Option Nat :=
  if cs.isEmpty || !cs.all Char.isDigit || (cs.head? == some '0' && decide (1 < cs.length)) then none
  else some (Nat.ofDigitChars 10 cs 0)

def exponent? : List Char → Bool
  | '+' :: ds => !ds.isEmpty && ds.all Char.isDigit
  | '-' :: ds => !ds.isEmpty && ds.all Char.isDigit
  | ds => !ds.isEmpty && ds.all Char.isDigit

/-- A number with a point or an exponent, its sign taken off. -/
def isFraction (cs : List Char) : Bool :=
  let whole := cs.takeWhile Char.isDigit
  let rest := cs.dropWhile Char.isDigit
  (plainDigits? whole).isSome &&
    match rest with
    | '.' :: more =>
      !(more.takeWhile Char.isDigit).isEmpty &&
        match more.dropWhile Char.isDigit with
        | [] => true
        | e :: ds => (e = 'e' || e = 'E') && exponent? ds
    | e :: ds => (e = 'e' || e = 'E') && exponent? ds
    | [] => true

def number? (cs : List Char) : Option Document :=
  let literal := Document.fraction (String.ofList cs)
  match cs with
  | '-' :: ds =>
    match plainDigits? ds with
    | some 0 => some literal
    | some n => some (.integer (-(n : Int)))
    | none => if isFraction ds then some literal else none
  | ds =>
    match plainDigits? ds with
    | some n => some (.integer n)
    | none => if isFraction ds then some literal else none

/-! ## Values -/

/-- A field in front of those that follow it, unless one of them has its name. -/
def addField (name : String) (d : Document) (fields : List (String × Document)) : List (String × Document) :=
  if fields.any (·.1 == name) then fields else (name, d) :: fields

mutual

def value : Nat → List Char → Option (Document × List Char)
  | 0, _ => none
  | n + 1, cs =>
    match skip cs with
    | [] => none
    | '"' :: r => (textAfterQuote? r).map (fun (s, r) => (.text s, r))
    | '[' :: r =>
      match skip r with
      | ']' :: r => some (.list [], r)
      | r => (items n r).map (fun (ds, r) => (.list ds, r))
    | '\x7b' :: r =>
      match skip r with
      | '\x7d' :: r => some (.object [], r)
      | r => (fields n r).map (fun (fs, r) => (.object fs, r))
    | 'n' :: r => (after? ['u', 'l', 'l'] r).map (fun r => (.null, r))
    | 't' :: r => (after? ['r', 'u', 'e'] r).map (fun r => (.boolean true, r))
    | 'f' :: r => (after? ['a', 'l', 's', 'e'] r).map (fun r => (.boolean false, r))
    | r => (number? (r.takeWhile isNumberChar)).map (fun d => (d, r.dropWhile isNumberChar))

/-- The members of a list that has some. -/
def items : Nat → List Char → Option (List Document × List Char)
  | 0, _ => none
  | n + 1, cs =>
    match value n cs with
    | none => none
    | some (d, r) =>
      match skip r with
      | ']' :: r => some ([d], r)
      | ',' :: r => (items n r).map (fun (ds, r) => (d :: ds, r))
      | _ => none

/-- The fields of an object that has some. -/
def fields : Nat → List Char → Option (List (String × Document) × List Char)
  | 0, _ => none
  | n + 1, cs =>
    match skip cs with
    | '"' :: r =>
      match textAfterQuote? r with
      | none => none
      | some (name, r) =>
        match skip r with
        | ':' :: r =>
          match value n r with
          | none => none
          | some (d, r) =>
            match skip r with
            | '\x7d' :: r => some ([(name, d)], r)
            | ',' :: r => (fields n r).map (fun (fs, r) => (addField name d fs, r))
            | _ => none
        | _ => none
    | _ => none

end

end DirectoryAccess.Document.Reader

namespace DirectoryAccess.Document

/-- The document that `s` is the text of. -/
def read? (s : String) : Option Document :=
  match Reader.value (s.length + 1) s.toList with
  | some (d, r) => if (Reader.skip r).isEmpty then some d else none
  | none => none

end DirectoryAccess.Document
