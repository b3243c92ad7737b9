import DirectoryAccess.Fault
/-!
# Order and pages

How a caller would like a long result to be ordered and cut into pages.  Directories do neither, so every operation that
is asked to refuses; these types say what was asked.
-/
namespace DirectoryAccess

inductive Direction where
  | ascending
  | descending
deriving DecidableEq

structure SortKey where
  property : String
  direction : Direction := .ascending
deriving DecidableEq

/-- Keys in order of precedence. -/
structure Sorting where
  keys : List SortKey := []
deriving DecidableEq

def Sorting.isSorted (s : Sorting) : Bool := !s.keys.isEmpty

/-- A page by its number, from zero, and its size. -/
structure Page where
  number : UInt32
  size : UInt32
  sorting : Sorting := {}
deriving DecidableEq

namespace Page

/-- An empty page is no page. -/
def of (number size : UInt32) : Except Fault Page :=
  if size = 0 then .error (.invalidArgument .emptyPage) else .ok { number, size }

/-- How many results stand before the page. -/
def offset (p : Page) : Nat := p.number.toNat * p.size.toNat

def isSorted (p : Page) : Bool := p.sorting.isSorted

end Page
end DirectoryAccess
