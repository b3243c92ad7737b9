import DirectoryAccess.Attribute.Value
import DirectoryAccess.Document
/-!
# The stored form of values

Null, texts, integers and truth values are nodes of a document, a list is a list, and octets are a list of the integers
they are.  So a list of small integers reads as octets, and so does the empty list.
-/
namespace DirectoryAccess.Value

mutual

def toDocument : Value → Document
  | .null => .null
  | .text s => .text s
  | .integer n => .integer n.toInt
  | .boolean b => .boolean b
  | .binary bs => .list (bs.map (fun b => .nat b.toNat))
  | .list vs => .list (toDocuments vs)

def toDocuments : List Value → List Document
  | [] => []
  | v :: vs => toDocument v :: toDocuments vs

end

/-- The octets that a list of small integers stands for. -/
def octetsOf? (ds : List Document) : Option (List UInt8) := ds.mapM (fun d => (d.natBelow? 256).map UInt8.ofNat)

mutual

def ofDocument? : Document → Option Value
  | .null => some .null
  | .text s => some (.text s)
  | .integer n => (Text.fit64 n).map .integer
  | .boolean b => some (.boolean b)
  | .list ds =>
    match octetsOf? ds with
    | some bs => some (.binary bs)
    | none => (ofDocuments? ds).map .list
  | .fraction _ => none
  | .object _ => none

def ofDocuments? : List Document → Option (List Value)
  | [] => some []
  | d :: ds =>
    match ofDocument? d with
    | none => none
    | some v => (ofDocuments? ds).map (v :: ·)

end

end DirectoryAccess.Value
