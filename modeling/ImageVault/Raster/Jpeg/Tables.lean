import ImageVault.Raster.Jpeg.Segment

/-!
# Tables

Quantisation tables and entropy codes are defined by segments and used by scans. Only which
quantisation tables there are matters here. An entropy code gives, for each word length from
one to sixteen, how many words it has, and all symbols in the order of their words. Files of
the older motion format leave the usual codes out, so that sequential scans find them
predefined.
-/
namespace ImageVault.Raster.Jpeg

structure EntropyTable where
  counts : List Nat
  symbols : List Nat

/-- Codes for block means and for the waves within blocks, four places each, and the
quantisation tables there are. -/
structure Tables where
  direct : List (Option EntropyTable)
  alternating : List (Option EntropyTable)
  quantisation : List Nat

namespace EntropyTable

/-- Words of one length must not use up all that are left, the one of ones included. The
first word of the length is `code`; lengths before the first used one do not count. -/
def wordsFit (started : Bool) (code : Nat) (limit : Nat) : List Nat → Bool
  | [] => true
  | count :: counts =>
    if !started && count = 0 then wordsFit false code (2 * limit) counts
    else if counts.all (· = 0) && count = 0 then true
    else
      let next := code + count
      next < limit && wordsFit true (2 * next) (2 * limit) counts

/-- A code for block means has no symbol above fifteen. -/
def isUsable (isDirect : Bool) (table : EntropyTable) : Bool :=
  wordsFit false 0 2 table.counts && (!isDirect || table.symbols.all (· ≤ 15))

/-- The usual code for the mean of a brightness block. -/
def usualDirect : EntropyTable :=
  ⟨[0, 1, 5, 1, 1, 1, 1, 1, 1, 0, 0, 0, 0, 0, 0, 0],
    [0x00, 0x01, 0x02, 0x03, 0x04, 0x05, 0x06, 0x07, 0x08, 0x09, 0x0A, 0x0B]⟩

/-- The usual code for the waves of a brightness block. -/
def usualAlternating : EntropyTable :=
  ⟨[0, 2, 1, 3, 3, 2, 4, 3, 5, 5, 4, 4, 0, 0, 1, 125],
    [0x01, 0x02, 0x03, 0x00, 0x04, 0x11, 0x05, 0x12, 0x21, 0x31, 0x41, 0x06, 0x13, 0x51, 0x61,
     0x07, 0x22, 0x71, 0x14, 0x32, 0x81, 0x91, 0xA1, 0x08, 0x23, 0x42, 0xB1, 0xC1, 0x15, 0x52,
     0xD1, 0xF0, 0x24, 0x33, 0x62, 0x72, 0x82, 0x09, 0x0A, 0x16, 0x17, 0x18, 0x19, 0x1A, 0x25,
     0x26, 0x27, 0x28, 0x29, 0x2A, 0x34, 0x35, 0x36, 0x37, 0x38, 0x39, 0x3A, 0x43, 0x44, 0x45,
     0x46, 0x47, 0x48, 0x49, 0x4A, 0x53, 0x54, 0x55, 0x56, 0x57, 0x58, 0x59, 0x5A, 0x63, 0x64,
     0x65, 0x66, 0x67, 0x68, 0x69, 0x6A, 0x73, 0x74, 0x75, 0x76, 0x77, 0x78, 0x79, 0x7A, 0x83,
     0x84, 0x85, 0x86, 0x87, 0x88, 0x89, 0x8A, 0x92, 0x93, 0x94, 0x95, 0x96, 0x97, 0x98, 0x99,
     0x9A, 0xA2, 0xA3, 0xA4, 0xA5, 0xA6, 0xA7, 0xA8, 0xA9, 0xAA, 0xB2, 0xB3, 0xB4, 0xB5, 0xB6,
     0xB7, 0xB8, 0xB9, 0xBA, 0xC2, 0xC3, 0xC4, 0xC5, 0xC6, 0xC7, 0xC8, 0xC9, 0xCA, 0xD2, 0xD3,
     0xD4, 0xD5, 0xD6, 0xD7, 0xD8, 0xD9, 0xDA, 0xE1, 0xE2, 0xE3, 0xE4, 0xE5, 0xE6, 0xE7, 0xE8,
     0xE9, 0xEA, 0xF1, 0xF2, 0xF3, 0xF4, 0xF5, 0xF6, 0xF7, 0xF8, 0xF9, 0xFA]⟩

/-- The usual code for the mean of a colour block. -/
def usualDirectColour : EntropyTable :=
  ⟨[0, 3, 1, 1, 1, 1, 1, 1, 1, 1, 1, 0, 0, 0, 0, 0],
    [0x00, 0x01, 0x02, 0x03, 0x04, 0x05, 0x06, 0x07, 0x08, 0x09, 0x0A, 0x0B]⟩

/-- The usual code for the waves of a colour block. -/
def usualAlternatingColour : EntropyTable :=
  ⟨[0, 2, 1, 2, 4, 4, 3, 4, 7, 5, 4, 4, 0, 1, 2, 119],
    [0x00, 0x01, 0x02, 0x03, 0x11, 0x04, 0x05, 0x21, 0x31, 0x06, 0x12, 0x41, 0x51, 0x07, 0x61,
     0x71, 0x13, 0x22, 0x32, 0x81, 0x08, 0x14, 0x42, 0x91, 0xA1, 0xB1, 0xC1, 0x09, 0x23, 0x33,
     0x52, 0xF0, 0x15, 0x62, 0x72, 0xD1, 0x0A, 0x16, 0x24, 0x34, 0xE1, 0x25, 0xF1, 0x17, 0x18,
     0x19, 0x1A, 0x26, 0x27, 0x28, 0x29, 0x2A, 0x35, 0x36, 0x37, 0x38, 0x39, 0x3A, 0x43, 0x44,
     0x45, 0x46, 0x47, 0x48, 0x49, 0x4A, 0x53, 0x54, 0x55, 0x56, 0x57, 0x58, 0x59, 0x5A, 0x63,
     0x64, 0x65, 0x66, 0x67, 0x68, 0x69, 0x6A, 0x73, 0x74, 0x75, 0x76, 0x77, 0x78, 0x79, 0x7A,
     0x82, 0x83, 0x84, 0x85, 0x86, 0x87, 0x88, 0x89, 0x8A, 0x92, 0x93, 0x94, 0x95, 0x96, 0x97,
     0x98, 0x99, 0x9A, 0xA2, 0xA3, 0xA4, 0xA5, 0xA6, 0xA7, 0xA8, 0xA9, 0xAA, 0xB2, 0xB3, 0xB4,
     0xB5, 0xB6, 0xB7, 0xB8, 0xB9, 0xBA, 0xC2, 0xC3, 0xC4, 0xC5, 0xC6, 0xC7, 0xC8, 0xC9, 0xCA,
     0xD2, 0xD3, 0xD4, 0xD5, 0xD6, 0xD7, 0xD8, 0xD9, 0xDA, 0xE2, 0xE3, 0xE4, 0xE5, 0xE6, 0xE7,
     0xE8, 0xE9, 0xEA, 0xF2, 0xF3, 0xF4, 0xF5, 0xF6, 0xF7, 0xF8, 0xF9, 0xFA]⟩

end EntropyTable

namespace Tables

def empty : Tables :=
  ⟨List.replicate 4 none, List.replicate 4 none, []⟩

/-- A table by its number. -/
def entropy? (tables : Tables) (isDirect : Bool) (index : Nat) : Option EntropyTable :=
  ((if isDirect then tables.direct else tables.alternating)[index]?).join

/-- A usable table by its number. -/
def usable? (tables : Tables) (isDirect : Bool) (index : Nat) : Option EntropyTable :=
  (tables.entropy? isDirect index).filter (·.isUsable isDirect)

def setEntropy (tables : Tables) (isDirect : Bool) (index : Nat) (table : EntropyTable) : Tables :=
  if isDirect then { tables with direct := tables.direct.set index (some table) }
  else { tables with alternating := tables.alternating.set index (some table) }

/-- Fills places with the usual codes that no segment has defined. -/
def withUsual (tables : Tables) : Tables :=
  let fill := fun (places : List (Option EntropyTable)) first second =>
    match places with
    | a :: b :: rest => a.or (some first) :: b.or (some second) :: rest
    | places => places
  { tables with
    direct := fill tables.direct .usualDirect .usualDirectColour
    alternating := fill tables.alternating .usualAlternating .usualAlternatingColour }

/-- Entropy codes, one after the other, up to the end of the segment. -/
def readEntropy : Nat → Nat → Tables → Bytes → Except Halt (Tables × Bytes)
  | 0, _, _, _ => .error .refused
  | fuel + 1, left, tables, content =>
    if left ≤ 16 then do
      require (left = 0)
      return (tables, content)
    else do
      let (index, rest) ← readByte content
      let (counts, rest) ← readBytes 16 rest
      let total := counts.foldl (· + ·) 0
      require (total ≤ 256 && total + 17 ≤ left)
      let (symbols, rest) ← readBytes total rest
      let isDirect := index / 16 % 2 = 0
      let place := if isDirect then index else index - 16
      require (place < 4)
      readEntropy fuel (left - 17 - total) (tables.setEntropy isDirect place ⟨counts, symbols⟩) rest

def readQuantisation : Nat → Nat → Tables → Bytes → Except Halt (Tables × Bytes)
  | 0, _, _, _ => .error .refused
  | fuel + 1, left, tables, content =>
    if left = 0 then .ok (tables, content)
    else do
      let (head, rest) ← readByte content
      require (head % 16 < 4)
      let length := if head < 16 then 64 else 128
      let (_, rest) ← readBytes length rest
      require (length + 1 ≤ left)
      readQuantisation fuel (left - 1 - length)
        { tables with quantisation := head % 16 :: tables.quantisation } rest

/-- Parameters of arithmetic codes: the lower bound must not exceed the upper one. -/
def readConditioning : Nat → Nat → Bytes → Except Halt Bytes
  | 0, _, _ => .error .refused
  | fuel + 1, left, content =>
    if left = 0 then .ok content
    else do
      let (index, rest) ← readByte content
      let (value, rest) ← readByte rest
      require (index < 32 && 2 ≤ left && (16 ≤ index || value % 16 ≤ value / 16))
      readConditioning fuel (left - 2) rest

/-- Reads the length of a table segment. -/
def readLength (content : Bytes) : Except Halt (Nat × Bytes) := do
  let (length, rest) ← readWord content
  require (2 ≤ length)
  return (length - 2, rest)

end Tables

end ImageVault.Raster.Jpeg
