import ImageVault.EventLog.Setup

/-!
# Calls on the log

The log is asked to be configured, to write an entry, and to record an event. A configuration
takes the name of the service and that of a threshold, which may be left out. Only the setup is
carried from one call to the next.
-/
namespace ImageVault.EventLog

inductive Call where
  | configure (arguments : List Json)
  | write (logger : String) (entry : Entry)
  | record (logger : String) (kind : EventKind) (arguments : Json.Members) (failing : Bool)

/-- Why a call fails. -/
inductive CallFault where
  | serviceMissing
  | surplus (count : Nat)
  | setup (fault : SetupFault)
  | event (fault : EventFault)
  | taken (field : String)

/-- The lines that a call writes, or why it fails. -/
abbrev Answer := Except CallFault (List Json)

/-- The threshold of a configuration that names none. -/
def usualLevel : Json :=
  .string "INFO"

/-- The service and the threshold that the arguments of a configuration name. -/
def named : List Json → Except CallFault (Json × Json)
  | [] => .error .serviceMissing
  | [service] => .ok (service, usualLevel)
  | [service, level] => .ok (service, level)
  | more => .error (.surplus more.length)

namespace Setup

def answer (setup : Setup) (logger : String) (entry : Entry) : Answer :=
  (setup.write logger entry).mapError .taken

def perform (setup : Setup) : Call → Setup × Answer
  | .configure arguments =>
    match named arguments with
    | .error fault => (setup, .error fault)
    | .ok (service, level) =>
      match setup.configure service level with
      | (next, none) => (next, .ok [])
      | (next, some fault) => (next, .error (.setup fault))
  | .write logger entry => (setup, setup.answer logger entry)
  | .record logger kind arguments failing =>
    match kind.entry arguments failing with
    | .error fault => (setup, .error (.event fault))
    | .ok entry => (setup, setup.answer logger entry)

/-- Performs the calls in their order. -/
def run (setup : Setup) : List Call → Setup × List Answer
  | [] => (setup, [])
  | call :: rest =>
    let (setup, answer) := setup.perform call
    let (setup, answers) := setup.run rest
    (setup, answer :: answers)

end Setup

end ImageVault.EventLog
