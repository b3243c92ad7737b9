import DirectoryAccess.Form.Value
/-!
# Values of a stated kind

The stored form leaves it to the document what kind of value it is; here the caller says so.  A document of another kind
is refused and nothing is converted: the numeral `"5"` is no integer, and null is a value only where one may be missing.
-/
namespace DirectoryAccess

/-- What kind of value a document is to be. -/
inductive Kind where
  | text
  /-- An integer with sign, of at most so many bits. -/
  | integer (bits : Nat)
  | boolean
  | octets
  | option (k : Kind)
  | list (k : Kind)
deriving DecidableEq

def Value.ofKind? : Kind → Document → Option Value
  | .text, d => d.text?.map .text
  | .integer bits, d =>
    d.integer?.bind (fun n => if -2 ^ (bits - 1) ≤ n ∧ n < 2 ^ (bits - 1) then (Text.fit64 n).map .integer else none)
  | .boolean, d => d.boolean?.map .boolean
  | .octets, d => (d.list?.bind Value.octetsOf?).map .binary
  | .option k, d => if d matches .null then some .null else ofKind? k d
  | .list k, d => (d.listOf? (ofKind? k)).map .list

end DirectoryAccess
