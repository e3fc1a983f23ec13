import Mathlib.Algebra.Group.Nat.Defs
import ImageVault.Proofs.Number.Lenient
import ImageVault.Proofs.Raster.Decode
import ImageVault.Proofs.Text.Utf8

/-!
# Raw files of the portable any-map family

## Main result

`raw_file_decodes_exactly`: a file that is written with a plain header decodes exactly if its
header does not ask for too many pixels and the samples of all rows are there; then the picture
has the extent that was written. What follows the samples does not matter.

## Proof strategy

The header is read back token by token: a number is read as itself, unless it has more digits
than a token may have (`readInt_natText`). So opening a file that was written gives what was
written (`openFile_file`), unless a side is so long that the picture has too many pixels anyway.
Loading compares the length of the body with the rows (`load_eq_demand`).
-/

namespace ImageVault.Raster

namespace Pnm

/-- Raw files of bits, of one byte for each pixel, and of three. -/
inductive RawKind where
  | bitmap
  | graymap
  | pixmap

namespace RawKind

def kind : RawKind → Kind
  | bitmap => ⟨"P4", .rawBits, 1⟩
  | graymap => ⟨"P5", .rawSamples, 1⟩
  | pixmap => ⟨"P6", .rawSamples, 3⟩

/-- How many bytes a row takes; the last bits of a row are padded to a byte. -/
def rowLength (width : Nat) : RawKind → Nat
  | bitmap => (width + 7) / 8
  | graymap => width
  | pixmap => 3 * width

def maximum : RawKind → Nat
  | bitmap => 1
  | graymap => 255
  | pixmap => 255

/-- The greatest sample value on a line of its own; bits need none. -/
def maximumLine (raw : RawKind) : List Char :=
  match raw with
  | bitmap => []
  | graymap => Number.natText raw.maximum ++ ['\n']
  | pixmap => Number.natText raw.maximum ++ ['\n']

def header (raw : RawKind) (extent : Extent) : List Char :=
  raw.kind.magic.toList ++ '\n' :: (Number.natText extent.width ++ ' ' ::
    (Number.natText extent.height ++ '\n' :: raw.maximumLine))

/-- A file with a plain header, whether or not its samples are complete. -/
def file (raw : RawKind) (extent : Extent) (body : Bytes) : Bytes :=
  Text.toUtf8 (raw.header extent) ++ body

end RawKind

/-! ### Tokens -/

/-- A token that a blank ends is read as it stands, as far as tokens may reach. -/
theorem readToken_append {token before content : Bytes} {blank : UInt8}
    (solid : ∀ byte ∈ token, isBlank byte = false ∧ startsComment byte = false)
    (ends : isBlank blank = true) (started : before ++ token ≠ [])
    (short : before.length ≤ tokenLimit) :
    readToken before false (token ++ blank :: content) =
      if before.length + token.length ≤ tokenLimit then .ok (before.reverse ++ token, content)
      else .error .badValue := by
  -- The part of the token that has been read grows, so it is kept general.
  induction token generalizing before with
  | nil =>
    have nonempty : before.isEmpty = false := by simpa using started
    simp [readToken, ends, nonempty, short]
  | cons byte rest ih =>
    obtain ⟨⟨unblank, uncommented⟩, others⟩ := List.forall_mem_cons.mp solid
    rw [List.cons_append, readToken, if_neg (by simp), if_neg (by simp [unblank]),
      if_neg (by simp [uncommented])]
    -- A token that is full already is refused with its next character.
    by_cases full : before.length = tokenLimit
    · rw [if_pos full, if_neg (by simp [full])]
    · have room : (byte :: before).length ≤ tokenLimit := by
        rw [List.length_cons]
        omega
      rw [if_neg full, ih others (by simp) room]
      simp [Nat.add_comm, Nat.add_left_comm]

theorem latinText_map_toUInt8 {text : List Char} (plain : ∀ c ∈ text, c.toNat < 256) :
    latinText (text.map Char.toUInt8) = text := by
  rw [latinText, List.map_map]
  have each : ∀ c ∈ text, Char.ofNat c.toUInt8.toNat = c := by
    intro c member
    have kept : c.toUInt8.toNat = c.toNat := Nat.mod_eq_of_lt (plain c member)
    rw [kept, Char.ofNat_toNat]
  exact (List.map_congr_left each).trans (List.map_id text)

theorem digit_solid {c : Char} (digit : c.isDigit = true) :
    isBlank c.toUInt8 = false ∧ startsComment c.toUInt8 = false := by
  have each : ∀ n < 10, isBlank (Char.ofNat (48 + n)).toUInt8 = false ∧
      startsComment (Char.ofNat (48 + n)).toUInt8 = false := by decide
  obtain ⟨low, high⟩ : 48 ≤ c.toNat ∧ c.toNat ≤ 57 := Char.isDigit_iff_toNat.mp digit
  have solid := each (c.toNat - 48) (by omega)
  rwa [Nat.add_sub_cancel' low, Char.ofNat_toNat] at solid

theorem readInt_natText (n : Nat) (blank : UInt8) (ends : isBlank blank = true)
    (content : Bytes) :
    readInt ((Number.natText n).map Char.toUInt8 ++ blank :: content) =
      if n < 10 ^ tokenLimit then .ok (n, content) else .error .badValue := by
  have digits : ∀ c ∈ Number.natText n, c.isDigit = true := fun _ => Number.isDigit_of_mem_natText
  have solid : ∀ byte ∈ (Number.natText n).map Char.toUInt8,
      isBlank byte = false ∧ startsComment byte = false := by
    simp only [List.forall_mem_map]
    exact fun c member => digit_solid (digits c member)
  have started : [] ++ (Number.natText n).map Char.toUInt8 ≠ [] := by
    simp [Number.natText]
  have latin : latinText ((Number.natText n).map Char.toUInt8) = Number.natText n := by
    refine latinText_map_toUInt8 fun c member => ?_
    have bounds : c.toNat ≤ 57 := (Char.isDigit_iff_toNat.mp (digits c member)).2
    omega
  have digitsFit : (Number.natText n).length ≤ tokenLimit ↔ n < 10 ^ tokenLimit :=
    Nat.length_toDigits_le_iff (by decide) (by decide)
  rw [readInt, readToken_append solid ends started (Nat.zero_le tokenLimit)]
  simp only [List.length_nil, List.length_map, Nat.zero_add, digitsFit]
  split
  · simp [latin, Number.lenientInt?_natText, orDefect]
  · rfl

/-! ### Headers -/

theorem RawKind.header_plain (raw : RawKind) (extent : Extent) :
    ∀ c ∈ raw.header extent, c.toNat < 128 := by
  have digits : ∀ n, ∀ c ∈ Number.natText n, c.toNat < 128 := by
    intro n c member
    have bounds : c.toNat ≤ 57 :=
      (Char.isDigit_iff_toNat.mp (Number.isDigit_of_mem_natText member)).2
    omega
  have fixed : (raw.kind.magic.toList ++ raw.maximumLine).all (·.toNat < 128) = true := by
    cases raw <;> decide
  simp only [List.all_eq_true, List.mem_append, decide_eq_true_eq] at fixed
  intro c member
  simp only [header, List.mem_append, List.mem_cons] at member
  rcases member with word | rfl | width | rfl | height | rfl | last
  · exact fixed c (Or.inl word)
  · decide
  · exact digits _ c width
  · decide
  · exact digits _ c height
  · decide
  · exact fixed c (Or.inr last)

/-- The parts of a file, each followed by the blank that ends it. -/
theorem RawKind.file_eq (raw : RawKind) (extent : Extent) (body : Bytes) :
    raw.file extent body = raw.kind.magic.toList.map Char.toUInt8 ++ 0x0A ::
      ((Number.natText extent.width).map Char.toUInt8 ++ 0x20 ::
        ((Number.natText extent.height).map Char.toUInt8 ++ 0x0A ::
          (raw.maximumLine.map Char.toUInt8 ++ body))) := by
  rw [file, Text.toUtf8_of_plain (raw.header_plain extent), header]
  simp only [List.map_append, List.map_cons, List.append_assoc, List.cons_append]
  rfl

example : RawKind.pixmap.file ⟨3, 20⟩ [7] = "P6\n3 20\n255\n".toUTF8.toList ++ [7] := by
  decide +kernel

theorem readMagic_raw (raw : RawKind) (rest : Bytes) :
    readMagic 6 (raw.kind.magic.toList.map Char.toUInt8 ++ 0x0A :: rest) =
      (raw.kind.magic.toList.map Char.toUInt8, rest) := by
  cases raw <;> rfl

theorem find?_raw (raw : RawKind) :
    kinds.find? (fun kind =>
        kind.magic.toList == latinText (raw.kind.magic.toList.map Char.toUInt8)) =
      some raw.kind := by
  cases raw <;> rfl

theorem readSampleHeader_raw (raw : RawKind) (body : Bytes) :
    readSampleHeader raw.kind.encoding (raw.maximumLine.map Char.toUInt8 ++ body) =
      .ok (raw.maximum, body) := by
  have read : readMaximum ((Number.natText 255).map Char.toUInt8 ++ 0x0A :: body) =
      .ok (255, body) := by
    rw [readMaximum, readInt_natText 255 _ rfl]
    rfl
  cases raw with
  | bitmap => rfl
  | graymap => exact read
  | pixmap => exact read

/-- What was written is what is read, unless the text of a side is too long for a token. -/
theorem openFile_file (raw : RawKind) (extent : Extent) (body : Bytes) :
    openFile (raw.file extent body) =
      if extent.width < 10 ^ tokenLimit ∧ extent.height < 10 ^ tokenLimit then
        .ok ⟨extent, raw.kind, raw.maximum, body⟩
      else .error .badValue := by
  rw [raw.file_eq, openFile, readMagic_raw]
  simp only [find?_raw, orDefect, ok_bind]
  rw [readInt_natText extent.width 0x20 rfl]
  -- A width that is too long is refused before the height is looked at, in the same way.
  by_cases narrow : extent.width < 10 ^ tokenLimit
  · rw [if_pos narrow, ok_bind, readInt_natText extent.height 0x0A rfl]
    by_cases low : extent.height < 10 ^ tokenLimit
    · rw [if_pos low, if_pos ⟨narrow, low⟩, ok_bind, readSampleHeader_raw]
      rfl
    · rw [if_neg low, if_neg fun both => low both.2]
      rfl
  · rw [if_neg narrow, if_neg fun both => narrow both.1]
    rfl

theorem load_eq_demand (raw : RawKind) (extent : Extent) (body : Bytes) :
    load ⟨extent, raw.kind, raw.maximum, body⟩ =
      demand .broken (extent.height * raw.rowLength extent.width ≤ body.length) := by
  cases raw with
  | bitmap => rfl
  | graymap =>
    -- A sample of at most 255 takes one byte.
    have samples : extent.width * extent.height * 1 * 1 = extent.height * extent.width := by
      rw [Nat.mul_one, Nat.mul_one, Nat.mul_comm]
    rw [RawKind.rowLength, ← samples]
    rfl
  | pixmap =>
    have samples : extent.width * extent.height * 3 * 1 =
        extent.height * (3 * extent.width) := by
      rw [Nat.mul_one, Nat.mul_comm extent.width, Nat.mul_assoc, Nat.mul_comm extent.width]
    rw [RawKind.rowLength, ← samples]
    rfl

/-! ### Files that are decoded -/

/-- No other format starts with the first byte, and the second one tells the kind. -/
theorem ofSignature?_of_magic {digit : UInt8} (known : digit ∈ [0x34, 0x35, 0x36])
    (rest : Bytes) : Format.ofSignature? (0x50 :: digit :: rest) = some .pnm := by
  -- Other signatures are given as texts, so their bytes are evaluated first.
  have texts : "GIF87a".toUTF8.toList = [0x47, 0x49, 0x46, 0x38, 0x37, 0x61] ∧
      "GIF89a".toUTF8.toList = [0x47, 0x49, 0x46, 0x38, 0x39, 0x61] ∧
      "BM".toUTF8.toList = [0x42, 0x4D] ∧ ∀ digit ∈ [0x34, 0x35, 0x36],
        "0123456fy".toUTF8.toList.contains digit = true := by decide +kernel
  obtain ⟨older, newer, initials, digits⟩ := texts
  have png : Format.png.accepts (0x50 :: digit :: rest) = false := rfl
  have jpeg : Format.jpeg.accepts (0x50 :: digit :: rest) = false := rfl
  have gif : Format.gif.accepts (0x50 :: digit :: rest) = false := by
    rw [Format.accepts, older, newer]
    rfl
  have bmp : Format.bmp.accepts (0x50 :: digit :: rest) = false := by
    rw [Format.accepts, initials]
    rfl
  have pnm : Format.pnm.accepts (0x50 :: digit :: rest) = true := digits digit known
  simp only [Format.ofSignature?, Format.all, List.find?, png, jpeg, gif, bmp, pnm]

theorem ofSignature?_file (raw : RawKind) (extent : Extent) (body : Bytes) :
    Format.ofSignature? (raw.file extent body) = some .pnm := by
  rw [raw.file_eq]
  cases raw with
  | bitmap => exact ofSignature?_of_magic (by decide) _
  | graymap => exact ofSignature?_of_magic (by decide) _
  | pixmap => exact ofSignature?_of_magic (by decide) _

end Pnm

/-- A file that was written is decoded as what was written, or not at all. -/
theorem decode_file_eq_ok_iff (raw : Pnm.RawKind) (extent : Extent) (body : Bytes)
    (picture : Picture) :
    decode (raw.file extent body) = .ok picture ↔
      picture = ⟨extent, .pnm⟩ ∧ extent.hasPixels = true ∧ extent.isWithinLimit = true ∧
        extent.height * raw.rowLength extent.width ≤ body.length := by
  rw [decode_eq_ok_iff, read, Pnm.ofSignature?_file]
  simp only [orDefect, ok_bind, bind_eq_ok_iff, openFile_eq_ok_iff, Format.openFile, map_eq_ok_iff,
    Pnm.openFile_file]
  constructor
  · rintro ⟨-, ⟨⟨written, opened, rfl⟩, pixels, few⟩, done, loaded, ended⟩
    -- The file was opened, so no side was too long.
    split at opened
    next =>
      cases opened
      cases ended
      rw [Pnm.load_eq_demand, demand_eq_ok_iff, decide_eq_true_iff] at loaded
      exact ⟨rfl, pixels, few, loaded⟩
    next => cases opened
  · rintro ⟨rfl, pixels, few, complete⟩
    obtain ⟨wide, high⟩ := extent.hasPixels_iff.mp pixels
    obtain ⟨narrow, low⟩ := Extent.sides_le wide high (of_decide_eq_true few)
    -- A picture that is loaded has at most nine digits on each side.
    have short : pixelLimit < 10 ^ Pnm.tokenLimit := by decide
    refine ⟨_, ⟨⟨_, if_pos ⟨by omega, by omega⟩, rfl⟩, pixels, few⟩, (), ?_, rfl⟩
    rw [Pnm.load_eq_demand, demand_eq_ok_iff, decide_eq_true_iff]
    exact complete

/-- A raw file of an extent with pixels is decoded, with this extent and as a file of the any-map
family, if there are not too many pixels and the body holds all rows; there may be more in it.
In every other case decoding fails, so no file is accepted that was cut off within its rows. -/
theorem raw_file_decodes_exactly (raw : Pnm.RawKind) (extent : Extent) (body : Bytes)
    (wide : 0 < extent.width) (high : 0 < extent.height) :
    let needed := extent.height * raw.rowLength extent.width
    let fails (content : Bytes) : Prop :=
      ∃ failure, decode content = .error (.failure failure) ∧ failure.kind = .decode
    (extent.width * extent.height ≤ 178956970 → needed ≤ body.length →
      ∃ picture, decode (raw.file extent body) = .ok picture ∧ picture.extent = extent ∧
        picture.format.name = "PPM") ∧
    (178956970 < extent.width * extent.height ∨ body.length < needed →
      fails (raw.file extent body)) ∧
    ∀ count < needed, fails (raw.file extent (body.take count)) := by
  intro needed fails
  have failing : ∀ body : Bytes,
      178956970 < extent.width * extent.height ∨ body.length < needed →
        fails (raw.file extent body) := by
    intro body short
    rcases decode_cases (raw.file extent body) with ⟨picture, decoded⟩ | failed
    · obtain ⟨-, -, few, complete⟩ := (decode_file_eq_ok_iff raw extent body picture).mp decoded
      have few : extent.width * extent.height ≤ 178956970 := of_decide_eq_true few
      omega
    · exact ⟨undecodable, failed, rfl⟩
  refine ⟨fun few complete => ?_, failing body, fun count cut => failing _ (Or.inr ?_)⟩
  · have decoded := (decode_file_eq_ok_iff raw extent body ⟨extent, .pnm⟩).mpr
      ⟨rfl, extent.hasPixels_iff.mpr ⟨wide, high⟩, decide_eq_true few, complete⟩
    exact ⟨_, decoded, rfl, rfl⟩
  · rw [List.length_take]
    omega

/-- Two rows of nine bits take two bytes each, and a fifth byte is ignored. -/
theorem padded_bitmap_decodes :
    let extent : Extent := ⟨9, 2⟩
    let body : Bytes := [0xFF, 0x80, 0x00, 0x00, 0x0A]
    0 < extent.width ∧ 0 < extent.height ∧
      (∃ picture, decode (Pnm.RawKind.bitmap.file extent body) = .ok picture ∧
        picture.extent = extent ∧ picture.format.name = "PPM") ∧
      ∃ failure, decode (Pnm.RawKind.bitmap.file extent (body.take 3)) =
        .error (.failure failure) ∧ failure.kind = .decode := by
  intro extent body
  have wide : 0 < extent.width := by decide
  have high : 0 < extent.height := by decide
  obtain ⟨whole, -, cut⟩ := raw_file_decodes_exactly .bitmap extent body wide high
  exact ⟨wide, high, whole (by decide) (by decide), cut 3 (by decide)⟩

end ImageVault.Raster
