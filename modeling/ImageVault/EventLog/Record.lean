import ImageVault.Json.Basic

/-!
# Log records

A record names the part of the system that speaks, says one sentence and carries extra
fields for machines.
-/
namespace ImageVault

inductive Severity where
  | debug
  | info
  | warning
  | error
  | critical
  deriving DecidableEq, Repr

namespace Severity

def name : Severity → String
  | debug => "DEBUG"
  | info => "INFO"
  | warning => "WARNING"
  | error => "ERROR"
  | critical => "CRITICAL"

def rank : Severity → Nat
  | debug => 10
  | info => 20
  | warning => 30
  | error => 40
  | critical => 50

end Severity

/-- The parts of the system that write log records. -/
inductive LogSource where
  | intake
  | validation
  | repository
  | service
  | database
  deriving DecidableEq, Repr

def LogSource.name : LogSource → String
  | intake => "mediahub.services.ingest"
  | validation => "mediahub.services.validation"
  | repository => "mediahub.repositories.image_repository"
  | service => "mediahub.services.image_service"
  | database => "mediahub.database"

structure LogRecord where
  severity : Severity
  source : LogSource
  message : String
  extra : Json.Members
  traced : Bool

/-- A record without extra fields. -/
def LogRecord.plain (severity : Severity) (source : LogSource) (message : String) : LogRecord :=
  ⟨severity, source, message, [], false⟩

end ImageVault
