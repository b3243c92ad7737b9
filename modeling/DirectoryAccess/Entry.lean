import DirectoryAccess.Attribute.Set
import DirectoryAccess.Name
/-!
# Entries

An entry is a name and its attributes.  Among these, `objectClass` says what kind of entry it is; the case of a class
does not matter.
-/
namespace DirectoryAccess

/-- The attribute that holds the classes of an entry. -/
def classAttribute : String := "objectClass"

structure Entry where
  name : Name
  attributes : Attributes
deriving DecidableEq

namespace Entry

def classes (e : Entry) : List String := (e.attributes.plainTexts? classAttribute).getD []

def hasClass (e : Entry) (cls : String) : Bool := e.classes.any (fun c => Text.sameName c cls)

end Entry
end DirectoryAccess
