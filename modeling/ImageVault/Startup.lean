import ImageVault.EventLog.Setup
import ImageVault.Store.Table

/-!
# Startup

At startup the log is configured and the tables are made, which is recorded. A threshold
that is refused ends the startup before there are tables.
-/
namespace ImageVault.Startup

structure Started where
  setup : EventLog.Setup
  tables : List Table
  logs : List LogRecord

def serviceName : String :=
  "mediahub-api"

def ensured : LogRecord :=
  .plain .info .database "Database tables ensured"

def run (logLevel : Json) : Except EventLog.SetupFault Started :=
  match EventLog.Setup.initial.configure (.string serviceName) logLevel with
  | (_, some fault) => .error fault
  | (setup, none) => .ok ⟨setup, Table.all, [ensured]⟩

end ImageVault.Startup
