import ImageVault.Json.Display
import ImageVault.Number.Rounding

/-!
# Extra fields of event records

Every event record names its event. Owner, image and filename are added when they are given
and not empty, a duration when it is given; any other fields are passed on. A field that is
written again keeps its place and takes the new value. Durations are rounded to hundredths;
whole durations stay whole.
-/
namespace ImageVault.EventLog

/-- Why the fields of an event cannot be put together. -/
inductive ExtraFault where
  | missingEvent
  | repeatedEvent
  | noNumber (duration : Json)

/-- Writes a field, in its place if it is there already. -/
def setField (name : String) (value : Json) : Json.Members → Json.Members
  | [] => [(name, value)]
  | (key, old) :: rest =>
    if key = name then (key, value) :: rest else (key, old) :: setField name value rest

/-- Truth values count as the numbers zero and one. -/
def roundDuration : Json → Except ExtraFault Json
  | .int value => .ok (.int value)
  | .bool value => .ok (.int (if value then 1 else 0))
  | .float value => .ok (.float (Number.roundPlaces 2 value))
  | value => .error (.noNumber value)

/-- Adds a field when its value counts as given. -/
def addGiven (name : String) (value : Option Json) (write : Json → Json)
    (fields : Json.Members) : Json.Members :=
  match value with
  | some value => if value.isTruthy then setField name (write value) fields else fields
  | none => fields

def asText (value : Json) : Json :=
  .string value.display

/-- The fields with a meaning of their own. -/
def ownNames : List String :=
  ["event", "user_id", "image_id", "filename", "duration_ms"]

/-- The fields of an event: its name, the fields passed on, and those with a meaning. -/
def extraFields (event : Json) (given : Json.Members) : Except ExtraFault Json.Members := do
  let others := given.filter fun member => !ownNames.contains member.1
  let fields := ("event", event) :: others
  let fields := addGiven "user_id" (given.lookup "user_id") asText fields
  let fields := addGiven "image_id" (given.lookup "image_id") asText fields
  let fields := addGiven "image_filename" (given.lookup "filename") id fields
  match given.lookup "duration_ms" with
  | none => return fields
  | some .null => return fields
  | some duration => return setField "duration_ms" (← roundDuration duration) fields

/-- The event itself may be among the given fields. -/
def extraOf (given : Json.Members) : Except ExtraFault Json.Members :=
  match given.lookup "event" with
  | some event => extraFields event given
  | none => .error .missingEvent

end ImageVault.EventLog
