import ImageVault.EventLog.Record
import ImageVault.Failure
import ImageVault.Number.Decimal
import ImageVault.Text.Hex
import ImageVault.Text.Quoted

/-!
# Receiving an upload

An upload arrives in chunks and may break off after the last one. Chunks are pulled one by
one and the running total is compared with the limit after each, so the first chunk that
exceeds it is also the last that is pulled.
-/
namespace ImageVault

/-- Ways in which the source of a stream can break that are no failures of the pipeline. -/
inductive SystemFault where
  | io
  | connectionReset
  | invalidValue
  | runtime
  | missingKey
  | timeout
  | endOfFile
  | overflow
  | outOfMemory
  | other (name : String)
  deriving DecidableEq, Repr

/-- What ends a stream early. -/
inductive Interruption where
  | failure (failure : Failure)
  | system (fault : SystemFault) (message : String)

namespace Interruption

/-- The text of a missing key is the key in quotes. -/
def text : Interruption → String
  | .failure given => given.message
  | .system .missingKey message => String.ofList (Text.quoted message.toList)
  | .system _ message => message

/-- The failed read that an interruption is, if it is one; an oversized payload is one too. -/
def failedRead? : Interruption → Option Failure
  | .failure given => if given.kind.refines.contains .read then some given else none
  | .system _ _ => none

end Interruption

structure ChunkStream where
  chunks : List Bytes
  interruption : Option Interruption

/-- The outcome of receiving a stream: what was pulled and what came of it. -/
structure Intake where
  consumed : Nat
  outcome : Except Failure Bytes
  cause : Option Interruption
  logs : List LogRecord

namespace ChunkStream

/-- How many chunks it takes to exceed the limit, after `total` bytes. -/
def firstExcess? (limit : Int) : Nat → List Bytes → Option Nat
  | _, [] => none
  | total, chunk :: rest =>
    let total := total + chunk.length
    if limit < total then some 1 else (firstExcess? limit total rest).map (· + 1)

def tooLarge (limit : Int) : Failure :=
  .of .payloadTooLarge
    (String.ofList ("Upload exceeds the ".toList ++ Number.intText limit ++ " byte limit".toList))
    [("max_size", .int limit)]

def interruptionWarning (received : Nat) (interruption : Interruption) : LogRecord :=
  .plain .warning .intake
    (String.ofList ("Upload stream failed after ".toList ++ Number.natText received)
      ++ " bytes: " ++ interruption.text)

def brokenOff (interruption : Interruption) : Failure :=
  .of .read ("Failed to read upload: " ++ interruption.text) []

/-- A failed read stays what it is; anything else becomes a failed read. -/
def interrupted (consumed received : Nat) (interruption : Interruption) : Intake :=
  match interruption.failedRead? with
  | some failure => ⟨consumed, .error failure, none, []⟩
  | none =>
    ⟨consumed, .error (brokenOff interruption), some interruption,
      [interruptionWarning received interruption]⟩

/-- The end of a stream whose chunks all arrived. -/
def finish (stream : ChunkStream) : Intake :=
  let content := stream.chunks.flatten
  match stream.interruption with
  | some interruption => interrupted stream.chunks.length content.length interruption
  | none => ⟨stream.chunks.length, .ok content, none, []⟩

def receive (limit : Option Int) (stream : ChunkStream) : Intake :=
  match limit with
  | none => stream.finish
  | some limit =>
    match firstExcess? limit 0 stream.chunks with
    | some count => ⟨count, .error (tooLarge limit), none, []⟩
    | none => stream.finish

end ChunkStream

end ImageVault
