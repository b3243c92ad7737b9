import DirectoryAccess.Text.Case
import DirectoryAccess.Text.Numeral
import DirectoryAccess.Text.Octets
/-!
# Attribute values

What an attribute holds: nothing, a text, a 64-bit integer, a truth value, octets, or a list of such values, nested to
any depth.

A directory itself knows only rows of octets, and filters compare texts.  So every value has two flat views, `octetRows`
as it travels and `texts` as filters see it, and the second is the first read as UTF-8 with replacement characters.
Null and empty lists are empty in both.
-/
namespace DirectoryAccess

inductive Value where
  | null
  | text (s : String)
  | integer (n : Int64)
  | boolean (b : Bool)
  | binary (octets : List UInt8)
  | list (items : List Value)

namespace Value

/-! ## Equality -/

mutual

def eqv : Value → Value → Bool
  | .null, .null => true
  | .text s, .text t => s == t
  | .integer m, .integer n => m == n
  | .boolean b, .boolean c => b == c
  | .binary bs, .binary cs => bs == cs
  | .list vs, .list ws => eqvAll vs ws
  | _, _ => false

def eqvAll : List Value → List Value → Bool
  | [], [] => true
  | v :: vs, w :: ws => eqv v w && eqvAll vs ws
  | _, _ => false

end

mutual

theorem eqv_iff : ∀ v w : Value, eqv v w = true ↔ v = w
  | .null, w => by cases w <;> simp [eqv]
  | .text _, w => by cases w <;> simp [eqv]
  | .integer _, w => by cases w <;> simp [eqv]
  | .boolean _, w => by cases w <;> simp [eqv]
  | .binary _, w => by cases w <;> simp [eqv]
  | .list vs, w => by cases w <;> simp [eqv, eqvAll_iff vs]

theorem eqvAll_iff : ∀ vs ws : List Value, eqvAll vs ws = true ↔ vs = ws
  | [], ws => by cases ws <;> simp [eqvAll]
  | v :: vs, ws => by cases ws <;> simp [eqvAll, eqv_iff v, eqvAll_iff vs]

end

instance : DecidableEq Value := fun v w => decidable_of_iff (eqv v w = true) (eqv_iff v w)

/-- Nothing, or the value of what is there. -/
def ofOption {α : Type} (write : α → Value) : Option α → Value
  | none => .null
  | some a => write a

/-! ## Reading a value -/

def isNull : Value → Bool
  | .null => true
  | _ => false

def isList : Value → Bool
  | .list _ => true
  | _ => false

def text? : Value → Option String
  | .text s => some s
  | _ => none

/-- The text itself, or those members of a list that are texts. -/
def plainTexts : Value → List String
  | .text s => [s]
  | .list vs => vs.filterMap text?
  | _ => []

/-- An integer, or a text that is the numeral of one. -/
def integer? : Value → Option Int64
  | .integer n => some n
  | .text s => Text.readInt64Trimmed s
  | _ => none

/-- A truth value, or the word for one in any case. -/
def boolean? : Value → Option Bool
  | .boolean b => some b
  | .text s =>
    if Text.sameName s "true" then some true
    else if Text.sameName s "false" then some false
    else none
  | _ => none

def items? : Value → Option (List Value)
  | .list vs => some vs
  | _ => none

/-! ## Flat views -/

def booleanText (b : Bool) : String := if b then "TRUE" else "FALSE"

mutual

/-- Every value inside, as text. -/
def texts : Value → List String
  | .null => []
  | .text s => [s]
  | .integer n => [Text.decimal n]
  | .boolean b => [booleanText b]
  | .binary bs => [Text.decodeLossy bs]
  | .list vs => textsOfAll vs

def textsOfAll : List Value → List String
  | [] => []
  | v :: vs => texts v ++ textsOfAll vs

end

mutual

/-- Every value inside, as the octets it travels in. -/
def octetRows : Value → List (List UInt8)
  | .null => []
  | .text s => [Text.octets s]
  | .integer n => [Text.octets (Text.decimal n)]
  | .boolean b => [Text.octets (booleanText b)]
  | .binary bs => [bs]
  | .list vs => octetRowsOfAll vs

def octetRowsOfAll : List Value → List (List UInt8)
  | [] => []
  | v :: vs => octetRows v ++ octetRowsOfAll vs

end

theorem textsOfAll_eq : ∀ vs : List Value, textsOfAll vs = vs.flatMap texts
  | [] => rfl
  | v :: vs => by simp [textsOfAll, textsOfAll_eq vs]

theorem octetRowsOfAll_eq : ∀ vs : List Value, octetRowsOfAll vs = vs.flatMap octetRows
  | [] => rfl
  | v :: vs => by simp [octetRowsOfAll, octetRowsOfAll_eq vs]

@[simp] theorem texts_list (vs : List Value) : (Value.list vs).texts = vs.flatMap texts := by
  simp [texts, textsOfAll_eq]

@[simp] theorem octetRows_list (vs : List Value) : (Value.list vs).octetRows = vs.flatMap octetRows := by
  simp [octetRows, octetRowsOfAll_eq]

end Value
end DirectoryAccess
