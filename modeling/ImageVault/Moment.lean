import ImageVault.Json.Basic
import ImageVault.Number.Decimal
import ImageVault.Uuid.Basic

/-!
# Moments

What an operation takes from its surroundings: the identifier of a new row, a fresh token,
the time, and two readings of a clock, in seconds, at its beginning and its end.
-/
namespace ImageVault

/-- Clocks may count whole seconds. -/
inductive Reading where
  | whole (seconds : Int)
  | real (seconds : Float)

namespace Reading

def toFloat : Reading → Float
  | whole seconds => Number.floatOfInt seconds
  | real seconds => seconds

/-- The milliseconds between two readings; they are whole between whole readings. -/
def milliseconds (start finish : Reading) : Json :=
  match start, finish with
  | whole start, whole finish => .int ((finish - start) * 1000)
  | start, finish => .float ((finish.toFloat - start.toFloat) * 1000.0)

end Reading

structure Moment where
  rowId : Uuid
  token : Uuid
  nanoseconds : Int
  start : Reading
  finish : Reading

/-- The duration of the operation in milliseconds. -/
def Moment.duration (moment : Moment) : Json :=
  moment.start.milliseconds moment.finish

end ImageVault
