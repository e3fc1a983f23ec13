import ImageVault.Raster.Inflate
import ImageVault.Raster.Png.Metadata

/-!
# Pixel data

The inflated pixel data is a sequence of rows, each a filter byte and the packed pixels. An
interlaced image has up to seven passes with rows of their own. Compressed data arrives in
feeds; within a feed rows are completed as long as input is left. The image is whole when
its last row is, or when the stream ends together with a row.
-/
namespace ImageVault.Raster.Png

/-- Rows of one length: their bytes without the filter byte, and how many there are. -/
structure RowGroup where
  bytes : Nat
  count : Nat

/-- One pass over every `step`-th pixel from `start` on, in each direction. -/
structure InterlacePass where
  columnStart : Nat
  columnStep : Nat
  rowStart : Nat
  rowStep : Nat

def interlacePasses : List InterlacePass :=
  [⟨0, 8, 0, 8⟩, ⟨4, 8, 0, 8⟩, ⟨0, 4, 4, 8⟩, ⟨2, 4, 0, 4⟩, ⟨0, 2, 2, 4⟩, ⟨1, 2, 0, 2⟩,
   ⟨0, 1, 1, 2⟩]

/-- How many of `total` places a pass visits. -/
def visited (total start step : Nat) : Nat :=
  (total + step - 1 - start) / step

def packed (pixels bits : Nat) : Nat :=
  (pixels * bits + 7) / 8

/-- The rows of a region in the order of the data; passes without pixels have none. -/
def rowGroups (region : Region) (bits : Nat) (interlaced : Bool) : List RowGroup :=
  let groups :=
    if interlaced then
      interlacePasses.map fun pass =>
        ⟨packed (visited region.width pass.columnStart pass.columnStep) bits,
          visited region.height pass.rowStart pass.rowStep⟩
    else [⟨packed region.width bits, region.height⟩]
  groups.filter fun group => 0 < group.bytes && 0 < group.count

/-- Where the reader stands: the rows not yet complete, the bytes that the current part of
a row lacks, and whether that part is the filter byte or the pixels. -/
structure RowState where
  groups : List RowGroup
  missing : Nat
  inPixels : Bool

namespace RowState

def start (groups : List RowGroup) : RowState :=
  ⟨groups, 1, false⟩

/-- The pixels that follow a filter byte. -/
def pixels (state : RowState) : RowState :=
  { state with missing := (state.groups.head?.map (·.bytes)).getD 0, inPixels := true }

/-- The state after a complete row. -/
def next (state : RowState) : RowState :=
  match state.groups with
  | [] => start []
  | group :: rest =>
    if group.count ≤ 1 then start rest else start (⟨group.bytes, group.count - 1⟩ :: rest)

def rowCount (state : RowState) : Nat :=
  state.groups.foldl (fun total group => total + group.count) 0

end RowState

/-- What a feed leads to. -/
inductive Fed where
  | whole
  | broken
  | hungry (machine : Inflater) (state : RowState)

def filterCount : UInt8 := 5

/-- Completes rows from the input at hand. -/
def completeRows : Nat → Inflater → RowState → Fed
  | 0, machine, state => .hungry machine state
  | fuel + 1, machine, state =>
    match machine.fill state.missing with
    | (.broken, _, _) => .broken
    | (stop, machine, missing) =>
      if missing ≠ 0 then
        if stop = .finished then .broken else .hungry machine { state with missing }
      else if !state.inPixels then
        if filterCount ≤ machine.output.back 1 then .broken
        else
          match stop with
          | .full => completeRows fuel machine state.pixels
          | .finished => .broken
          | _ => .hungry machine state.pixels
      else
        let state := state.next
        if state.groups.isEmpty || stop = .finished then .whole
        else if stop = .starved || machine.reader.rest.isEmpty then .hungry machine state
        else completeRows fuel machine state

/-- Feeds compressed bytes. -/
def feedRows (machine : Inflater) (state : RowState) (input : Bytes) : Fed :=
  completeRows (2 * state.rowCount + 2) (machine.feed input) state

end ImageVault.Raster.Png
