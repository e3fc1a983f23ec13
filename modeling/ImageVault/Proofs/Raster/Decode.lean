import ImageVault.Proofs.Raster.Png
import ImageVault.Raster.Decode

/-!
# What decoding promises

## Main result

`decode_extent_or_failure`: whatever the file is, decoding ends with an extent that is neither
empty nor too large, or with the one decoding failure.

## Proof strategy

Every reader is bounded by what its phase deals with: a file that is opened by `mayOpen`, of
which opening forgives the part that decoding is not prepared for, and one that is loaded by
what decoding is prepared for (`read_raises`). So no defect passes. The extent was checked when
the file was opened.
-/

namespace ImageVault.Raster

/-! ### Readers of one format -/

theorem Jpeg.Description.walk_raises (fuel : Nat) (description : Description) (content : Bytes) :
    Raises Defect.mayOpen (walk fuel description content) := by
  induction fuel generalizing description content with
  | zero => simp [walk]
  | succ fuel ih =>
    simp [walk, takeSegment, readFrame, readApplication, ih]

theorem Jpeg.openFile_raises (content : Bytes) : Raises Defect.mayOpen (openFile content) := by
  simp [openFile, Description.extentOf, Description.walk_raises]

theorem Jpeg.load_raises (content : Bytes) : Raises Defect.isForeseen (load content) := by
  simp [load]

theorem Gif.checkControl_raises (block : Bytes) :
    Raises Defect.mayOpen (checkControl block) := by
  cases block <;> simp [checkControl]

theorem Gif.skipExtension_raises (content : Bytes) :
    Raises Defect.mayOpen (skipExtension content) := by
  unfold skipExtension
  split
  next => simp
  next label content =>
    dsimp only
    split <;> simp [checkControl_raises]

theorem Gif.findImage_raises (fuel : Nat) (content : Bytes) :
    Raises Defect.mayOpen (findImage fuel content) := by
  induction fuel generalizing content with
  | zero => simp [findImage]
  | succ fuel ih =>
    cases content with
    | nil => simp [findImage]
    | cons byte rest => simp [findImage, skipExtension_raises, ih]

theorem Gif.openFile_raises (content : Bytes) : Raises Defect.mayOpen (openFile content) := by
  simp [openFile, findImage_raises]

theorem Gif.load_raises (picture : Picture) : Raises Defect.isForeseen (load picture) := by
  simp [load]

theorem Bmp.openFile_raises (content : Bytes) : Raises Defect.mayOpen (openFile content) := by
  have headed : Raises Defect.mayOpen (readHeader content) := by simp [readHeader]
  have stored : ∀ count size palette,
      Raises Defect.mayOpen (paletteStorage count size palette) := by
    intro count size palette
    simp [paletteStorage]
  simp [openFile, headed, stored]

theorem Bmp.load_raises (picture : Picture) : Raises Defect.isForeseen (load picture) := by
  simp [load]

theorem Pnm.readToken_raises (token : Bytes) (inComment : Bool) (content : Bytes) :
    Raises Defect.mayOpen (readToken token inComment content) := by
  induction content generalizing token inComment with
  | nil => simp [readToken]
  | cons byte rest ih => simp [readToken, ih]

theorem Pnm.readSampleHeader_raises (encoding : Encoding) (content : Bytes) :
    Raises Defect.mayOpen (readSampleHeader encoding content) := by
  cases encoding <;>
    simp [readSampleHeader, readMaximum, readInt, skipScale, readToken_raises]

theorem Pnm.openFile_raises (content : Bytes) : Raises Defect.mayOpen (openFile content) := by
  simp [openFile, readInt, readToken_raises, readSampleHeader_raises]

theorem Pnm.load_raises (picture : Picture) : Raises Defect.isForeseen (load picture) := by
  unfold load
  dsimp only
  split <;> simp

/-! ### The two phases -/

theorem Format.openFile_raises (format : Format) (content : Bytes) :
    Raises Defect.mayOpen (format.openFile content) := by
  cases format with
  | png => simpa [Format.openFile] using Png.openFile_raises content
  | jpeg => simpa [Format.openFile] using Jpeg.openFile_raises content
  | gif => simpa [Format.openFile] using Gif.openFile_raises content
  | bmp => simpa [Format.openFile] using Bmp.openFile_raises content
  | pnm => simpa [Format.openFile] using Pnm.openFile_raises content

/-- Whichever reader has opened a file loads it. -/
theorem Format.openFile_load_raises {format : Format} {content : Bytes} {file : OpenedFile}
    (opened : format.openFile content = .ok file) : Raises Defect.isForeseen (file.load ()) := by
  cases format with
  | png =>
    obtain ⟨start, -, rfl⟩ := (map_eq_ok_iff _ _ file).mp opened
    exact Png.load_raises start
  | jpeg =>
    obtain ⟨extent, -, rfl⟩ := (map_eq_ok_iff _ _ file).mp opened
    exact Jpeg.load_raises content
  | gif =>
    obtain ⟨picture, -, rfl⟩ := (map_eq_ok_iff _ _ file).mp opened
    exact Gif.load_raises picture
  | bmp =>
    obtain ⟨picture, -, rfl⟩ := (map_eq_ok_iff _ _ file).mp opened
    exact Bmp.load_raises picture
  | pnm =>
    obtain ⟨picture, -, rfl⟩ := (map_eq_ok_iff _ _ file).mp opened
    exact Pnm.load_raises picture

theorem openFile_raises (format : Format) (content : Bytes) :
    Raises Defect.isForeseen (openFile format content) := by
  have forgiven : Raises Defect.isForeseen
      (recover Defect.isForgivenAtOpening (.error .unidentified) do
        let file ← format.openFile content
        demand .malformed file.extent.hasPixels
        return file) := by
    refine Raises.recover ?_ ((raises_error_iff _).mpr rfl)
    refine (raises_bind_iff _).mpr ⟨format.openFile_raises content, fun file _ => ?_⟩
    simp
  unfold openFile
  refine (raises_bind_iff _).mpr ⟨forgiven, fun file _ => ?_⟩
  exact (raises_bind_iff _).mpr ⟨raises_demand rfl _, fun _ _ => raises_ok file⟩

theorem openFile_eq_ok_iff (format : Format) (content : Bytes) (file : OpenedFile) :
    openFile format content = .ok file ↔
      format.openFile content = .ok file ∧ file.extent.hasPixels = true ∧
        file.extent.isWithinLimit = true := by
  simp only [openFile, bind_eq_ok_iff, recover_error_eq_ok_iff, demand_eq_ok_iff, pure_eq_ok,
    Except.ok.injEq]
  grind

/-- Of all that may come up, decoding sees only what it is prepared for. -/
theorem read_raises (content : Bytes) : Raises Defect.isForeseen (read content) := by
  unfold read
  refine (raises_bind_iff _).mpr ⟨raises_orDefect rfl _, fun format _ => ?_⟩
  refine (raises_bind_iff _).mpr ⟨openFile_raises format content, fun file opened => ?_⟩
  have ⟨opened, _⟩ := (openFile_eq_ok_iff format content file).mp opened
  have loads := Format.openFile_load_raises opened
  exact (raises_bind_iff _).mpr ⟨loads, fun _ _ => raises_ok _⟩

theorem read_eq_ok {content : Bytes} {picture : Picture} (whole : read content = .ok picture) :
    picture.extent.hasPixels = true ∧ picture.extent.isWithinLimit = true := by
  simp only [read, bind_eq_ok_iff, pure_eq_ok, Except.ok.injEq] at whole
  obtain ⟨format, -, file, opened, -, -, rfl⟩ := whole
  exact ((openFile_eq_ok_iff format content file).mp opened).2

/-! ### Decoding -/

/-- Decoding never finds that the picture is empty: no such file is opened. -/
theorem decode_eq_ok_iff (content : Bytes) (picture : Picture) :
    decode content = .ok picture ↔ read content = .ok picture := by
  unfold decode
  cases whole : read content with
  | ok found => simp [(read_eq_ok whole).1]
  | error defect => simp

/-- There is only one way in which decoding fails. -/
theorem decode_cases (content : Bytes) :
    (∃ picture, decode content = .ok picture) ∨
      decode content = .error (.failure undecodable) := by
  cases whole : read content with
  | ok picture => exact Or.inl ⟨picture, (decode_eq_ok_iff content picture).mpr whole⟩
  | error defect =>
    have foreseen : defect.isForeseen = true := read_raises content defect whole
    exact Or.inr (by simp only [decode, whole, foreseen, if_true])

theorem Extent.hasPixels_iff (extent : Extent) :
    extent.hasPixels = true ↔ 0 < extent.width ∧ 0 < extent.height := by
  simp [hasPixels]

/-- Each side of an extent with pixels is at most the number of pixels. -/
theorem Extent.sides_le {extent : Extent} {limit : Nat} (wide : 0 < extent.width)
    (high : 0 < extent.height) (few : extent.width * extent.height ≤ limit) :
    extent.width ≤ limit ∧ extent.height ≤ limit :=
  ⟨Nat.le_trans (Nat.le_mul_of_pos_right _ high) few,
    Nat.le_trans (Nat.le_mul_of_pos_left _ wide) few⟩

/-- A picture that comes out of the decoder has pixels, and not too many of them. -/
theorem decode_extent {content : Bytes} {picture : Picture}
    (decoded : decode content = .ok picture) :
    0 < picture.extent.width ∧ 0 < picture.extent.height ∧
      picture.extent.width * picture.extent.height ≤ pixelLimit := by
  obtain ⟨some_pixels, few⟩ := read_eq_ok ((decode_eq_ok_iff content picture).mp decoded)
  obtain ⟨wide, high⟩ := picture.extent.hasPixels_iff.mp some_pixels
  exact ⟨wide, high, of_decide_eq_true few⟩

theorem decode_sides_le {content : Bytes} {picture : Picture}
    (decoded : decode content = .ok picture) :
    picture.extent.width ≤ pixelLimit ∧ picture.extent.height ≤ pixelLimit := by
  obtain ⟨wide, high, few⟩ := decode_extent decoded
  exact Extent.sides_le wide high few

/-- No format has an empty signature. -/
theorem decode_nil : decode [] = .error (.failure undecodable) := by
  have unsigned : Format.ofSignature? [] = none := by decide +kernel
  simp [decode, read, orDefect, unsigned]

/-- A bitmap of one pixel. -/
def smallestBitmap : Bytes :=
  [0x50, 0x34, 0x0A, 0x31, 0x20, 0x31, 0x0A, 0x80]

theorem smallestBitmap_decodes : ∃ picture, decode smallestBitmap = .ok picture := by
  have accepted : (decode smallestBitmap).toOption.isSome = true := by decide +kernel
  rcases decode_cases smallestBitmap with decoded | garbled
  · exact decoded
  · rw [garbled] at accepted
    cases accepted

/-- Decoding untrusted bytes ends in one of two ways. Either the picture has pixels, and not
    too many, or the failure is the one of decoding: no defect of a file passes. -/
theorem decode_extent_or_failure (content : Bytes) :
    (∃ picture, decode content = .ok picture ∧
      0 < picture.extent.width ∧ 0 < picture.extent.height ∧
      picture.extent.width * picture.extent.height ≤ 178956970) ∨
    ∃ failure, decode content = .error (.failure failure) ∧ failure.kind = .decode := by
  rcases decode_cases content with ⟨picture, decoded⟩ | failed
  · exact Or.inl ⟨picture, decoded, decode_extent decoded⟩
  · exact Or.inr ⟨undecodable, failed, rfl⟩

end ImageVault.Raster
