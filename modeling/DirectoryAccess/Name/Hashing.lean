import DirectoryAccess.Name
import DirectoryAccess.Text.Octets
/-!
# Hashing names

A hasher is given what decides whether names are equal: how many parts there are, then of each part the type in small
ASCII letters and the value in lower case.  A text is given as its octets and one octet after them that no text has.
-/
namespace DirectoryAccess

/-- What a hasher is given in one call. -/
inductive HashItem where
  | size (n : Nat)
  | octets (bs : List UInt8)
  | octet (b : UInt8)
deriving DecidableEq

/-- The octets that are mixed in; a size has eight, the low ones first. -/
def HashItem.mixed : HashItem → List UInt8
  | .size n => (List.range 8).map (fun i => UInt8.ofNat (n >>> (8 * i)))
  | .octets bs => bs
  | .octet b => [b]

def Text.hashItems (s : String) : List HashItem := [.octets (Text.octets s), .octet 0xFF]

def Rdn.hashItems (r : Rdn) : List HashItem := Text.hashItems (Text.fold r.type) ++ Text.hashItems (Text.lower r.value)

namespace Name

def hashItems (n : Name) : List HashItem := .size n.size :: n.rdns.flatMap Rdn.hashItems

def hashOctets (n : Name) : List UInt8 := n.hashItems.flatMap HashItem.mixed

end Name
end DirectoryAccess
