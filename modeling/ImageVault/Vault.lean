import ImageVault.EventLog.Event
import ImageVault.Filename
import ImageVault.Identification
import ImageVault.Metrics
import ImageVault.Moment
import ImageVault.PublicAddress
import ImageVault.Store
import ImageVault.Upload

/-!
# The vault

The vault holds the store and the metrics. An upload runs through receiving, identifying,
naming, addressing and storing; the first failure ends it, is counted under its code and
leaves an event record, as does a success. What is no failure of the pipeline ends an upload
without a trace. Downloads are counted and recorded when they succeed.
-/
namespace ImageVault

structure Vault where
  store : Store
  metrics : Metrics

/-- What an installation decides: its address and the largest upload. -/
structure Policy where
  serverUrl : Option String
  sizeLimit : Option Int

namespace Vault

def empty (condition : Condition) : Vault :=
  ⟨.empty condition, .zero⟩

def imagesPath : String :=
  "api/v1/images"

/-- The record of an event, if its arguments allow one. -/
def eventRecords (kind : EventLog.EventKind) (arguments : Json.Members) : List LogRecord :=
  match kind.entry arguments true with
  | .ok entry => [⟨entry.severity, .service, entry.message, entry.extra, entry.traced⟩]
  | .error _ => []

/-- An upload that is received and identified, and has a name and an address. -/
def draft (policy : Policy) (stream : ChunkStream) (declared : Option String)
    (moment : Moment) : Outcome NewImage := do
  let mime := MediaType.normalize declared
  let intake := stream.receive policy.sizeLimit
  let content ← Outcome.after intake.logs (.ofFaulty (intake.outcome.mapError .failure))
  let found ← Outcome.ofFaulty (Identification.identify content mime)
  let filename := Filename.ofType moment.token content.length found.type moment.nanoseconds
  let url ← Outcome.after found.logs
    (.ofFaulty (PublicAddress.resolve policy.serverUrl (imagesPath ++ "/" ++ filename)))
  return {
    height := some found.picture.extent.height
    width := some found.picture.extent.width
    mime := some mime
    filename := some filename
    url := some url
    content := content }

def save (vault : Vault) (id owner : Uuid) (image : NewImage) : Vault × Outcome StoredImage :=
  let (store, saved) := vault.store.save id owner image
  ({ vault with store }, saved)

/-- The draft, and then the row that it becomes. -/
def persist (vault : Vault) (owner : Uuid) (moment : Moment) (drafted : Outcome NewImage) :
    Vault × Outcome StoredImage :=
  match drafted.result with
  | .error fault => (vault, ⟨drafted.logs, .error fault⟩)
  | .ok image =>
    let (vault, saved) := vault.save moment.rowId owner image
    (vault, saved.after drafted.logs)

def uploadedRecords (owner : Uuid) (moment : Moment) (image : StoredImage) : List LogRecord :=
  eventRecords .uploaded
    [("image_id", .string image.id.text), ("user_id", .string owner.text),
     ("filename", .string image.filename), ("size", .int image.size),
     ("duration_ms", moment.duration)]

def failedRecords (owner : Uuid) (moment : Moment) (failure : Failure) : List LogRecord :=
  eventRecords .uploadFailed
    [("user_id", .string owner.text), ("reason", .string failure.code),
     ("error", .string failure.message), ("duration_ms", moment.duration),
     ("include_traceback", .bool failure.kind.isServerSide)]

/-- Counts and records how an upload ended. -/
def account (vault : Vault) (owner : Uuid) (moment : Moment) (ended : Outcome StoredImage) :
    Vault × Outcome StoredImage :=
  match ended.result with
  | .ok image =>
    ({ vault with metrics := vault.metrics.uploaded image.mime image.size },
      ended.thenLog (uploadedRecords owner moment image))
  | .error (.failure failure) =>
    ({ vault with metrics := vault.metrics.uploadFailed failure.code },
      ended.thenLog (failedRecords owner moment failure))
  | .error _ => (vault, ended)

def upload (vault : Vault) (policy : Policy) (stream : ChunkStream) (declared : Option String)
    (owner : Uuid) (moment : Moment) : Vault × Outcome StoredImage :=
  let (vault, ended) := vault.persist owner moment (draft policy stream declared moment)
  vault.account owner moment ended

def downloadedRecords (filename : String) (moment : Moment) (image : StoredImage) :
    List LogRecord :=
  eventRecords .downloaded
    [("filename", .string filename), ("size", .int image.size), ("duration_ms", moment.duration)]

def download (vault : Vault) (filename : String) (moment : Moment) :
    Vault × Outcome StoredImage :=
  let found := vault.store.download filename
  match found.result with
  | .ok image =>
    ({ vault with metrics := vault.metrics.downloaded },
      found.thenLog (downloadedRecords filename moment image))
  | .error _ => (vault, found)

def info (vault : Vault) (id : Uuid) : Outcome ImageInfo :=
  vault.store.info id

end Vault

end ImageVault
