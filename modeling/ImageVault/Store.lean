import ImageVault.Outcome
import ImageVault.Store.Image

/-!
# The store

The store is a table of images to which rows are only ever added. A row has to be complete
and its identifier and its filename new; filenames are compared character by character. The
database may be out of reach or without tables, and then every access fails.
-/
namespace ImageVault

inductive Condition where
  | ready
  | withoutTables
  | unreachable
  deriving DecidableEq, Repr

structure Store where
  condition : Condition
  rows : List StoredImage

namespace Store

def empty (condition : Condition) : Store :=
  ⟨condition, []⟩

def isReady (store : Store) : Bool :=
  store.condition = .ready

/-- Whole numbers in the table have 64 bits. -/
def fits (number : Int) : Bool :=
  -0x8000000000000000 ≤ number && number < 0x8000000000000000

def hasFilename (store : Store) (filename : String) : Bool :=
  store.rows.any (·.filename = filename)

/-- Identifiers are the keys of the table. -/
def hasId (store : Store) (id : Uuid) : Bool :=
  store.rows.any (·.id = id)

/-- The store with one more row behind the others. -/
def add (store : Store) (row : StoredImage) : Store :=
  { store with rows := store.rows ++ [row] }

def filenameDetail (image : NewImage) : Json.Members :=
  [("filename", match image.filename with
    | some filename => .string filename
    | none => .null)]

/-- The end of the message, which names the file and the cause, is elided. -/
def refusal (message record : String) (image : NewImage) : Outcome StoredImage :=
  ⟨[.plain .error .repository record],
    .error (.failure (.of .persistence message (filenameDetail image)))⟩

def notStored (image : NewImage) : Outcome StoredImage :=
  refusal "Unable to store image" "Failed to store *" image

def violated (image : NewImage) : Outcome StoredImage :=
  refusal "Image violates a storage constraint" "Constraint violation storing *" image

/-- The row that an image becomes, if it is complete and its identifier and filename are new. -/
def newRow? (store : Store) (id owner : Uuid) (image : NewImage) : Option StoredImage := do
  let row ← StoredImage.ofNew? id owner image
  if store.hasId row.id || store.hasFilename row.filename then none else some row

/-- Adds one row; nothing changes unless the outcome is the row. -/
def save (store : Store) (id owner : Uuid) (image : NewImage) : Store × Outcome StoredImage :=
  if !store.isReady then (store, notStored image)
  else if !(image.height.all fits && image.width.all fits) then (store, .fault .integerRange)
  else
    match store.newRow? id owner image with
    | some row => (store.add row, .value row)
    | none => (store, violated image)

def notLoaded {α : Type} (message : String) : Outcome α :=
  .failure (.of .persistence message [])

def notFound {α : Type} (wanted name : String) : Outcome α :=
  .failure (.of .notFound ("Image " ++ wanted ++ " not found") [(name, .string wanted)])

/-- The row with exactly this filename. -/
def download (store : Store) (filename : String) : Outcome StoredImage :=
  if !store.isReady then notLoaded "Unable to load image"
  else
    match store.rows.find? (·.filename = filename) with
    | some row => .value row
    | none => notFound filename "filename"

/-- The information of the row with this identifier. -/
def info (store : Store) (id : Uuid) : Outcome ImageInfo :=
  if !store.isReady then notLoaded "Unable to load image metadata"
  else
    match store.rows.find? (·.id = id) with
    | some row => .value row.info
    | none => notFound id.text "image_id"

def count (store : Store) : Nat :=
  store.rows.length

end Store

end ImageVault
