import ImageVault.Number.Lenient
import ImageVault.Settings
import ImageVault.Settings.DatabaseUrl
import ImageVault.Text.Blank
import ImageVault.Text.DecimalDigit

/-!
# Connection pools

The settings determine a pool of connections. Two drivers can be used. The one for files
refuses hosts and users, and a database that lives in memory has no pool to be sized.
-/
namespace ImageVault

/-- What is known of a connection pool before any connection is made. -/
structure Pool where
  driver : String
  user : Option String
  host : Option String
  port : Option Int
  database : Option String
  size : Int
  overflow : Int

namespace Pool

inductive Fault where
  | unreadable
  | portNumber (text : List Char)
  | portMissing
  | unknownDriver (driver : List Char)
  | localOnly (address : DatabaseUrl)
  | noPool

/-- Digits of all scripts count, and blanks around them do not. -/
def readPortNumber (text : List Char) : Except Fault Int :=
  let plain := (Text.trim text).map fun c =>
    match Text.decimalValue? c with
    | some value => Text.hexDigit value
    | none => c
  match Number.lenientInt? plain with
  | some port => .ok port
  | none => .error (if text.isEmpty then .portMissing else .portNumber text)

def portOf (address : DatabaseUrl) : Except Fault (Option Int) :=
  match address.port with
  | none => .ok none
  | some text => (readPortNumber text).map some

inductive Driver where
  | server
  | file

def driverNamed (name : List Char) : Except Fault Driver :=
  match String.ofList name with
  | "postgresql+asyncpg" => .ok .server
  | "sqlite+aiosqlite" => .ok .file
  | _ => .error (.unknownDriver name)

def isInMemory (address : DatabaseUrl) : Bool :=
  let database := address.database.getD []
  database.isEmpty || database = ":memory:".toList
    || address.option? "mode".toList = some "memory".toList

def isLocal (address : DatabaseUrl) : Bool :=
  let isGiven (part : Option (List Char)) := part.any (!·.isEmpty)
  !isGiven address.user && !isGiven address.password && !isGiven address.host
    && address.port.isNone

/-- Whether an address suits its driver. -/
def checkPlace (address : DatabaseUrl) : Driver → Except Fault Unit
  | .server => .ok ()
  | .file =>
    if !isLocal address then .error (.localOnly address)
    else if isInMemory address then .error .noPool
    else .ok ()

/-- A pool of size zero has no bound. -/
def overflowOf (settings : Settings) : Int :=
  if settings.poolSize = 0 then -1 else settings.maxOverflow

def ofSettings (settings : Settings) : Except Fault Pool := do
  let some address := DatabaseUrl.parse? settings.databaseUrl.toList | throw .unreadable
  let port ← portOf address
  checkPlace address (← driverNamed address.driver)
  return {
    driver := String.ofList address.driver
    user := address.user.map String.ofList
    host := address.host.map String.ofList
    port := port
    database := address.database.map String.ofList
    size := settings.poolSize
    overflow := overflowOf settings }

end Pool

end ImageVault
