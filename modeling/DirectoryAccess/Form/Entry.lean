import DirectoryAccess.Entry
import DirectoryAccess.Form.Value
import DirectoryAccess.Name.Reader
import DirectoryAccess.Name.Written
/-!
# The stored form of names and entries

A name is its text, an attribute set is an object whose fields are the attributes, and an entry is an object of both.
-/
namespace DirectoryAccess

def Name.toDocument (n : Name) : Document := .text n.text

def Name.ofDocument? (d : Document) : Option Name := d.text?.bind (fun s => (Name.read s).toOption)

def Attributes.toDocument (as : Attributes) : Document := .object (as.pairs.map (fun p => (p.1, p.2.toDocument)))

def Attributes.ofDocument? (d : Document) : Option Attributes := do
  let pairs ← (← d.fields?).mapM (fun p => (Value.ofDocument? p.2).map (fun v => (p.1, v)))
  return Attributes.ofPairs pairs

def Entry.toDocument (e : Entry) : Document :=
  .object [("dn", e.name.toDocument), ("attributes", e.attributes.toDocument)]

def Entry.ofDocument? (d : Document) : Option Entry := do
  let name ← d.required "dn" Name.ofDocument?
  let attributes ← d.required "attributes" Attributes.ofDocument?
  return { name, attributes }

end DirectoryAccess
