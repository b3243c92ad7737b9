import DirectoryAccess.Document
import DirectoryAccess.Listing
/-!
# The stored form of order and pages

Without a direction an order ascends, and without keys there is none.
-/
namespace DirectoryAccess

def Direction.word : Direction → String
  | .ascending => "asc"
  | .descending => "desc"

def Direction.toDocument (d : Direction) : Document := .text d.word

def Direction.ofDocument? (d : Document) : Option Direction :=
  d.text?.bind (fun w => if w = "asc" then some .ascending else if w = "desc" then some .descending else none)

def SortKey.toDocument (k : SortKey) : Document :=
  .object [("property", .text k.property), ("direction", k.direction.toDocument)]

def SortKey.ofDocument? (d : Document) : Option SortKey := do
  let property ← d.required "property" Document.text?
  let direction ← d.fieldOr "direction" .ascending Direction.ofDocument?
  return { property, direction }

def Sorting.toDocument (s : Sorting) : Document := .object [("orders", .list (s.keys.map SortKey.toDocument))]

def Sorting.ofDocument? (d : Document) : Option Sorting := do
  let _ ← d.fields?
  let keys ← d.fieldOr "orders" [] (Document.listOf? SortKey.ofDocument?)
  return { keys }

def Page.toDocument (p : Page) : Document :=
  .object [("page", .nat p.number.toNat), ("size", .nat p.size.toNat), ("sort", p.sorting.toDocument)]

def Page.ofDocument? (d : Document) : Option Page := do
  let number ← d.required "page" (Document.natBelow? UInt32.size)
  let size ← d.required "size" (Document.natBelow? UInt32.size)
  let sorting ← d.fieldOr "sort" {} Sorting.ofDocument?
  return { number := UInt32.ofNat number, size := UInt32.ofNat size, sorting }

end DirectoryAccess
