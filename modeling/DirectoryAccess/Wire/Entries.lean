import DirectoryAccess.Entry
import DirectoryAccess.Wire
/-!
# Entries over the wire

What is sent to add an entry, what is sent to write one onto another, and what is made of an entry that was received.

Values are sent as sets of rows.  An attribute without any is not added, and one that is to have none is deleted, if it
is there; attributes go in the order of their names.  Rows that are all text are received as texts, any others as
octets; a single row is one value and several are a list.
-/
namespace DirectoryAccess

/-- The rows that a value is sent as. -/
def Value.wire (v : Value) : List Octets := rowSet v.octetRows

namespace Attributes

/-- The rows under a name: none without the attribute. -/
def wireOf (as : Attributes) (name : String) : List Octets :=
  match as.find? name with
  | some v => v.wire
  | none => []

/-- The names in order. -/
def sortedNames (as : Attributes) : List String := as.names.mergeSort (fun a b => !decide (b < a))

/-- The attributes of an entry to be added. -/
def additions (as : Attributes) : List (String × List Octets) :=
  as.sortedNames.filterMap (fun name =>
    match as.wireOf name with
    | [] => none
    | rows => some (name, rows))

/-- What has to be sent so that an entry that has `current` gets `desired` written onto it. -/
def changesTo (current desired : Attributes) : List Change :=
  desired.sortedNames.filterMap (fun name =>
    match desired.wireOf name with
    | [] => if current.has name then some (.delete name) else none
    | rows => some (.replace name rows))

end Attributes

/-! ## Received -/

/-- An entry as it is read from a response: the attributes that are text throughout, and all others. -/
structure FoundEntry where
  name : String
  texts : List (String × List String)
  binaries : List (String × List Octets)
deriving DecidableEq

/-- One value, or a list of several. -/
def Value.ofMany {α : Type} (write : α → Value) : List α → Option Value
  | [] => none
  | [a] => some (write a)
  | as => some (.list (as.map write))

namespace FoundEntry

/-- The attribute, if it has a value. -/
def pairOf? {α : Type} (write : α → Value) (p : String × List α) : Option (String × Value) :=
  (Value.ofMany write p.2).map (fun v => (p.1, v))

def pairs (f : FoundEntry) : List (String × Value) :=
  f.texts.filterMap (pairOf? .text) ++ f.binaries.filterMap (pairOf? .binary)

def entry (f : FoundEntry) : Except Fault Entry :=
  match Name.read f.name with
  | .ok n => .ok ⟨n, .ofPairs f.pairs⟩
  | .error fault => .error (.mapping (.serverName f.name fault))

end FoundEntry

namespace RawEntry

/-- The texts of an attribute of which every row is one. -/
def textsOf? (p : String × List Octets) : Option (String × List String) :=
  (p.2.mapM Text.decode?).map (fun texts => (p.1, texts))

/-- What reading a response makes of an entry: an attribute with a row that is no text is octets in all its rows. -/
def found (raw : RawEntry) : FoundEntry where
  name := raw.name
  texts := raw.attributes.filterMap textsOf?
  binaries := raw.attributes.filter (fun p => (textsOf? p).isNone)

def entry (raw : RawEntry) : Except Fault Entry := raw.found.entry

end RawEntry
end DirectoryAccess
