import ImageVault.EventLog.Extra
import ImageVault.EventLog.Record

/-!
# Events

Three things are worth a record of their own: an upload that was stored, one that failed,
and a download. Each has required arguments; all other arguments become fields. A failed
upload is a warning, or an error when it asks for a traceback; the traceback is attached if
there is a failure at hand.
-/
namespace ImageVault.EventLog

inductive EventKind where
  | uploaded
  | uploadFailed
  | downloaded
  deriving DecidableEq, Repr

namespace EventKind

def name : EventKind → String
  | uploaded => "image_uploaded"
  | uploadFailed => "image_upload_failed"
  | downloaded => "image_downloaded"

def required : EventKind → List String
  | uploaded => ["image_id", "user_id", "filename", "size"]
  | uploadFailed => ["user_id", "reason", "error"]
  | downloaded => ["filename", "size"]

/-- Arguments that are not passed on as fields. -/
def switches : EventKind → List String
  | uploadFailed => ["include_traceback"]
  | _ => []

end EventKind

/-- Why an event cannot be recorded. -/
inductive EventFault where
  | repeatedLogger
  | missing (names : List String)
  | extra (fault : ExtraFault)

/-- What a logger is asked to write: severity, message, fields, and whether to attach a
traceback. -/
structure Entry where
  severity : Severity
  message : String
  extra : Json.Members
  traced : Bool

/-- The text of an argument that is there. -/
def shown (arguments : Json.Members) (name : String) : String :=
  ((arguments.lookup name).getD .null).display

def isSwitchedOn (arguments : Json.Members) (name : String) : Bool :=
  (arguments.lookup name).any (·.isTruthy)

/-- The fields of an event. The error of a failed upload is kept as text. -/
def EventKind.fields (kind : EventKind) (arguments : Json.Members) :
    Except EventFault Json.Members := do
  let given := arguments.filter fun member => !kind.switches.contains member.1
  let given :=
    if kind = .uploadFailed then
      given.map fun (name, value) => if name = "error" then (name, asText value) else (name, value)
    else given
  if (given.lookup "event").isSome then throw (.extra .repeatedEvent)
  (extraFields (.string kind.name) given).mapError .extra

def EventKind.message (kind : EventKind) (arguments : Json.Members) : String :=
  match kind with
  | .uploaded => "Image uploaded: " ++ shown arguments "filename"
  | .downloaded => "Image downloaded: " ++ shown arguments "filename"
  | .uploadFailed =>
    "Image upload failed: " ++ shown arguments "reason" ++ " - " ++ shown arguments "error"

/-- The entry for an event, given whether a failure is at hand. -/
def EventKind.entry (kind : EventKind) (arguments : Json.Members) (failing : Bool) :
    Except EventFault Entry := do
  if (arguments.lookup "logger").isSome then throw .repeatedLogger
  let missing := kind.required.filter fun name => (arguments.lookup name).isNone
  if !missing.isEmpty then throw (.missing missing)
  let extra ← kind.fields arguments
  let serious := kind = .uploadFailed && isSwitchedOn arguments "include_traceback"
  let severity :=
    if serious then .error else if kind = .uploadFailed then .warning else .info
  return ⟨severity, kind.message arguments, extra, serious && failing⟩

end ImageVault.EventLog
