import ImageVault.EventLog.Record
import ImageVault.Fault

/-!
# Outcomes

An operation ends with a value or a fault, and on the way it writes log records. Steps in
a row stop at the first fault and keep the records of all steps up to it.
-/
namespace ImageVault

structure Outcome (α : Type) where
  logs : List LogRecord
  result : Except Fault α

namespace Outcome

variable {α β : Type}

def value (value : α) : Outcome α :=
  ⟨[], .ok value⟩

def fault (fault : Fault) : Outcome α :=
  ⟨[], .error fault⟩

def failure (failure : Failure) : Outcome α :=
  fault (.failure failure)

def ofFaulty (result : Except Fault α) : Outcome α :=
  ⟨[], result⟩

/-- Records in front of an outcome. -/
def after (logs : List LogRecord) (outcome : Outcome α) : Outcome α :=
  { outcome with logs := logs ++ outcome.logs }

/-- Records behind an outcome. -/
def thenLog (outcome : Outcome α) (logs : List LogRecord) : Outcome α :=
  { outcome with logs := outcome.logs ++ logs }

def andThen (outcome : Outcome α) (next : α → Outcome β) : Outcome β :=
  match outcome.result with
  | .ok value => (next value).after outcome.logs
  | .error fault => ⟨outcome.logs, .error fault⟩

instance : Monad Outcome where
  pure := value
  bind := andThen

end Outcome

end ImageVault
