import DirectoryAccess.Form.Tagged
import DirectoryAccess.Wire.Script
/-!
# The form of what goes over the wire

Requests as they are shown, and replies as a script has them.  A row of octets is the text that it is, or in the tagged
form where it is none.
-/
namespace DirectoryAccess

/-- The form of a row of octets. -/
def rowDocument (row : Octets) : Document :=
  match Text.decode? row with
  | some s => s
  | none => .tagged row

def rowOfDocument? : Document → Option Octets
  | .text s => some (Text.octets s)
  | d => d.tagged?

def rowsDocument (rows : List Octets) : Document := .list (rows.map rowDocument)

def Change.toDocument : Change → Document
  | .replace attr rows => .list ["replace", attr, rowsDocument rows]
  | .delete attr => .list ["delete", attr, .list []]

def Request.toDocument : Request → Document
  | .bind name password => .object [("request", "bind"), ("dn", name), ("password", password)]
  | .unbind => .object [("request", "unbind")]
  | .search base scope limit filter attributes =>
    .object
      [("request", "search"), ("base", base), ("scope", scope.word), ("size_limit", limit), ("filter", filter),
        ("attributes", .texts attributes)]
  | .add name attributes =>
    .object
      [("request", "add"), ("dn", name), ("attrs", .list (attributes.map (fun p => .list [p.1, rowsDocument p.2])))]
  | .modify name changes =>
    .object [("request", "modify"), ("dn", name), ("changes", .list (changes.map Change.toDocument))]
  | .delete name => .object [("request", "delete"), ("dn", name)]
  | .extended oid => .object [("request", "extended"), ("oid", oid)]

def RawEntry.ofDocument? (d : Document) : Option RawEntry := do
  let name ← d.required "dn" Document.text?
  let attributes ← d.required "attrs" (Document.listOf? (Document.pair? (Document.listOf? rowOfDocument?)))
  return { name, attributes }

def Reply.ofDocument? (d : Document) : Option Reply := do
  if (d.field? "disconnect").isSome then
    return .hangUp
  let code ← d.fieldOr "rc" 0 (Document.natBelow? UInt32.size)
  let matched ← d.fieldOr "matched" "" Document.text?
  let text ← d.fieldOr "text" "" Document.text?
  let entries ← d.fieldOr "entries" [] (Document.listOf? RawEntry.ofDocument?)
  return .respond { code := UInt32.ofNat code, matched, text, entries }

end DirectoryAccess
