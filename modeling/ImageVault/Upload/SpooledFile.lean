import ImageVault.Upload

/-!
# Files of a form

A file that comes with a form is kept in memory while it is small and on disk beyond that. It
is read in pieces of one size until a read gives nothing, and so arrives as a stream of chunks.

Not every size can be read. A size has to fit a machine word. In memory any negative size
means whatever is left; on disk only minus one does. A read from disk also makes room for all
the bytes it is asked for, however few there are, and fails if it cannot.
-/
namespace ImageVault

/-- A file that comes with a form: what is left to read of it, and where it is kept. -/
structure SpooledFile where
  rest : Bytes
  onDisk : Bool

namespace SpooledFile

/-- Bytes of a file that is kept in memory, at most. -/
def spoolLimit : Nat := 1048576

def ofContent (content : Bytes) : SpooledFile :=
  ⟨content, spoolLimit < content.length⟩

/-- The largest machine word with a sign. -/
def wordLimit : Int := 9223372036854775807

/-- The head of an object takes some of the bytes that it can have. -/
def headSize : Int := 33

/-- What becomes of a read of some size that fails, where `room` bytes can be had at a time. -/
def refusal? (room : Nat) (size : Int) (file : SpooledFile) : Option Interruption :=
  if size < -wordLimit - 1 || wordLimit < size then
    some (.system .overflow "cannot fit 'int' into an index-sized integer")
  -- What is kept in memory is handed out as it is, so no size is too large for it.
  else if !file.onDisk then none
  else if size < -1 then
    some (.system .invalidValue "read length must be non-negative or -1")
  -- From here on an object of this size is made before the end of the file is known.
  else if wordLimit - headSize < size then some (.system .overflow "byte string is too large")
  else if room < size then some (.system .outOfMemory "")
  else none

/-- What a read takes off a file, and the file behind it. -/
def read (room : Nat) (size : Int) (file : SpooledFile) :
    Except Interruption (Bytes × SpooledFile) :=
  match file.refusal? room size with
  | some interruption => .error interruption
  | none =>
    -- The only negative size that is left for a file on disk is minus one.
    if size < 0 then .ok (file.rest, { file with rest := [] })
    else .ok (file.rest.take size.toNat, { file with rest := file.rest.drop size.toNat })

/-- Reads until a read gives nothing or fails. Every read but the last takes a byte or more. -/
def readPieces (room : Nat) (size : Int) : Nat → SpooledFile → ChunkStream
  | 0, _ => ⟨[], none⟩
  | fuel + 1, file =>
    match file.read room size with
    | .error interruption => ⟨[], some interruption⟩
    | .ok (piece, left) =>
      if piece.isEmpty then ⟨[], none⟩
      else
        let later := readPieces room size fuel left
        ⟨piece :: later.chunks, later.interruption⟩

/-- The file as a stream of pieces. -/
def stream (room : Nat) (size : Int) (file : SpooledFile) : ChunkStream :=
  readPieces room size (file.rest.length + 1) file

end SpooledFile

/-- What a file that comes with a form arrives as. -/
def Upload.stream (room : Nat) (size : Int) (content : Bytes) : ChunkStream :=
  (SpooledFile.ofContent content).stream room size

end ImageVault
