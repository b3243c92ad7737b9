import DirectoryAccess.Document
import DirectoryAccess.Fault
/-!
# The form of faults

A fault is shown as its kind and its message, with the result code of the server and a note that it has a source where
there are such.  Faults of a caller's own are read from an object that names their kind in the field `kind`.
-/
namespace DirectoryAccess.Fault

def fields (f : Fault) : List (String × Document) :=
  ("error", f.code) :: ("message", f.message)
    :: (Document.present "rc" (fun c => .nat c.toNat) f.resultCode?
      ++ Document.present "has_source" (fun _ => .boolean true) f.source?)

/-- The form of a result or of the fault in its place. -/
def outcome {α : Type} (write : α → Document) : Except Fault α → Document
  | .ok a => .object [("ok", write a)]
  | .error f => .object f.fields

/-- The form of a check of settings. -/
def checked (r : Except SettingsFault Unit) : Document := outcome (fun _ => .null) (r.mapError invalidSettings)

/-- A fault and what can be asked of it. -/
def summary (f : Fault) : Document :=
  let source :=
    match f.source? with
    | some (.described s) => some s
    | _ => none
  .object
    [("code", f.code), ("display", f.message), ("transient", f.transient), ("permanent", !f.transient),
      ("not_found", f.notFound?), ("source", .ofOption .text source)]

/-- A name in a field, or what is wrong with it. -/
def nameIn? (d : Document) (name : String) : Option (Except Fault Name) :=
  d.required name (fun x => x.text?.map Name.parse)

/-- The fault that an object stands for; a field that should be a name and is none is a fault too. -/
def ofDocument? (d : Document) : Option (Except Fault Fault) := do
  let kind ← d.required "kind" Document.text?
  let message ← d.fieldOr "message" "" Document.text?
  let source ← d.optional "source" Document.text?
  match kind with
  | "invalid_argument" => return .ok (.invalidArgument (.other message))
  | "unsupported" => return .ok (.unsupported message)
  | "not_found" => return (← nameIn? d "dn").map .notFound
  | "already_exists" => return (← nameIn? d "dn").map .alreadyExists
  | "empty_result" => return .ok .emptyResult
  | "result_cardinality" =>
    let bound := UInt64.size
    return .ok (.cardinality (← d.required "expected" (Document.natBelow? bound))
      (← d.required "actual" (Document.natBelow? bound)))
  | "mapping" => return .ok (.mapping (.other message))
  | "connection_failed" => return .ok (.connection (.other message source))
  | "authentication_failed" => return .ok .authentication
  | "operation_failed" =>
    if source.isSome then return .ok (.operation (.other message none source))
    else
      let code ← d.required "rc" (Document.natBelow? UInt32.size)
      return .ok (.operation (.other message (some (UInt32.ofNat code)) none))
  | "invalid_configuration" => return .ok (.invalidSettings (.other message))
  | "internal" => return .ok (.internal message)
  | _ => none

end DirectoryAccess.Fault
