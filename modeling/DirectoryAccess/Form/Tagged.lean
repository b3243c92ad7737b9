import DirectoryAccess.Entry
import DirectoryAccess.Form.Value
import DirectoryAccess.Name.Written
import DirectoryAccess.Text.Hexadecimal
/-!
# The tagged form of values and entries

The stored form with one difference: octets are an object with their hexadecimal digits in the field `bin`.  So no list
is taken for octets, and every value has a form of its own.  Attribute sets are objects when they are written, and lists
of pairs that are set one after another when they are read.
-/
namespace DirectoryAccess

/-- A list of a name and something else. -/
def Document.pair? {α : Type} (read : Document → Option α) : Document → Option (String × α)
  | .list [.text name, d] => (read d).map (fun a => (name, a))
  | _ => none

/-- The octets in the field `bin`. -/
def Document.tagged? (d : Document) : Option (List UInt8) :=
  ((d.field? "bin").bind Document.text?).bind (fun s => Text.hexOctets? s.toList)

def Document.tagged (bs : List UInt8) : Document := .object [("bin", Text.hexText bs)]

namespace Value

mutual

def toTagged : Value → Document
  | .null => .null
  | .text s => s
  | .integer n => .integer n.toInt
  | .boolean b => b
  | .binary bs => .tagged bs
  | .list vs => .list (toTaggedAll vs)

def toTaggedAll : List Value → List Document
  | [] => []
  | v :: vs => toTagged v :: toTaggedAll vs

end

mutual

def ofTagged? : Document → Option Value
  | .null => some .null
  | .text s => some (.text s)
  | .integer n => (Text.fit64 n).map .integer
  | .boolean b => some (.boolean b)
  | .list ds => (ofTaggedAll? ds).map .list
  | .object fs => (Document.tagged? (.object fs)).map .binary
  | .fraction _ => none

def ofTaggedAll? : List Document → Option (List Value)
  | [] => some []
  | d :: ds =>
    match ofTagged? d with
    | none => none
    | some v => (ofTaggedAll? ds).map (v :: ·)

end

end Value

def Attributes.toTagged (as : Attributes) : Document := .object (as.pairs.map (fun p => (p.1, p.2.toTagged)))

def Attributes.ofTagged? (d : Document) : Option Attributes :=
  (d.listOf? (Document.pair? Value.ofTagged?)).map Attributes.ofPairs

def Entry.toTagged (e : Entry) : Document := .object [("dn", e.name.text), ("attrs", e.attributes.toTagged)]

end DirectoryAccess
