import ImageVault.EventLog.Event
import ImageVault.Text.UpperCase

/-!
# Configuring the log

Until the first successful configuration nothing is written, and the threshold is that of
warnings. A configuration first takes over the name of the service, then replaces the
output, then sets the threshold, and last makes the output stamp each line with the name of
the service. It can fail at the threshold; the steps before that remain. After a success
further configurations change nothing.

Threshold names are looked up in upper case. Names that are unknown stand for the usual
threshold; two names stand for things that are no thresholds, a layout and the list of
layouts, and are refused.
-/
namespace ImageVault.EventLog

/-- The least severity that is written; none writes everything. -/
abbrev Threshold := Option Severity

def Threshold.name : Threshold → String
  | none => "NOTSET"
  | some severity => severity.name

/-- Whether the output is there, and whether it stamps lines. -/
inductive Output where
  | absent
  | plain
  | stamping
  deriving DecidableEq

structure Setup where
  service : Json
  output : Output
  threshold : Threshold
  configured : Bool

inductive SetupFault where
  | layout
  | layoutList
  | noText (value : Json)

def Setup.initial : Setup :=
  ⟨.null, .absent, some .warning, false⟩

/-- What a name in upper case stands for. -/
def thresholdNamed (name : String) : Except SetupFault Threshold :=
  match name with
  | "CRITICAL" => .ok (some .critical)
  | "FATAL" => .ok (some .critical)
  | "ERROR" => .ok (some .error)
  | "WARNING" => .ok (some .warning)
  | "WARN" => .ok (some .warning)
  | "INFO" => .ok (some .info)
  | "DEBUG" => .ok (some .debug)
  | "NOTSET" => .ok none
  | "BASIC_FORMAT" => .error .layout
  | "_STYLES" => .error .layoutList
  | _ => .ok (some .info)

def thresholdOf (level : Json) : Except SetupFault Threshold :=
  match level with
  | .string name => thresholdNamed (String.ofList (Text.upperPlain name.toList))
  | value => .error (.noText value)

namespace Setup

/-- Configures the log; gives the new setup and what went wrong. -/
def configure (setup : Setup) (service level : Json) : Setup × Option SetupFault :=
  if setup.configured then (setup, none)
  else
    let begun := { setup with service, output := .plain }
    match thresholdOf level with
    | .error fault => (begun, some fault)
    | .ok threshold => ({ begun with threshold, output := .stamping, configured := true }, none)

def isEnabled (setup : Setup) (severity : Severity) : Bool :=
  match setup.threshold with
  | none => true
  | some least => least.rank ≤ severity.rank

/-- Fields that every record has by itself; no extra field may have such a name. -/
def recordFields : List String :=
  ["name", "msg", "args", "levelname", "levelno", "pathname", "filename", "module", "exc_info",
   "exc_text", "stack_info", "lineno", "funcName", "created", "msecs", "relativeCreated",
   "thread", "threadName", "processName", "process", "message", "asctime"]

/-- Extra fields that are written: not the time, and none that starts with an underscore. -/
def isWritten (name : String) : Bool :=
  name ≠ "timestamp" && name.toList.head? ≠ some '_'

/-- The line for an entry, as an object, without its time. -/
def line (setup : Setup) (logger : String) (entry : Entry) : Json :=
  let fields := entry.extra.filter fun member => isWritten member.1
  let fields :=
    if setup.output = .stamping then setField "service" setup.service fields else fields
  .object ([("levelname", .string entry.severity.name), ("name", .string logger),
      ("message", .string entry.message)] ++ fields
    ++ if entry.traced then [("exc_info", .bool true)] else [])

/-- The lines that an entry writes, or the extra field whose name is taken. -/
def write (setup : Setup) (logger : String) (entry : Entry) : Except String (List Json) :=
  if !setup.isEnabled entry.severity then .ok []
  else
    match entry.extra.find? fun member => recordFields.contains member.1 with
    | some member => .error member.1
    | none => .ok (if setup.output = .absent then [] else [setup.line logger entry])

end Setup

end ImageVault.EventLog
