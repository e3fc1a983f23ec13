import ImageVault.Proofs.Raster.Defect
import ImageVault.Raster.Png

/-!
# Which defects the chunks of a file end with

Descriptions may stand in front of the pixel data or behind it, so their readers end with
defects that decoding is prepared for only: text that does not inflate is caught where it is
read, and a chunk is asked for its length before its fields. What does come up besides is a
chunk header that cannot be told. It is forgiven in front of the pixel data, where the file is
being opened; within the data it says that the file breaks off (`moreData_raises`); and behind
it the file ends there (`nextHeader?_raises`).
-/

namespace ImageVault.Raster.Png

/-! ### Descriptions -/

namespace Metadata

variable (metadata : Metadata) (data : Bytes)

theorem addText_raises (length : Nat) : Raises Defect.isForeseen (metadata.addText length) := by
  simp [addText]

theorem textBytes_raises (text : InflatedText) :
    Raises (fun defect => isNotInflatable defect || defect.isForeseen) (textBytes text) := by
  cases text <;> simp [textBytes, isNotInflatable]

theorem inflate_raises :
    Raises (fun defect => isNotInflatable defect || defect.isForeseen) (inflate data) :=
  textBytes_raises (inflateText data)

theorem readHeader_raises : Raises Defect.isForeseen (metadata.readHeader data) := by
  simp [readHeader]

theorem readProfile_raises : Raises Defect.isForeseen (metadata.readProfile data) := by
  unfold readProfile
  split
  next => simp
  next method body _ =>
    refine (raises_bind_iff _).mpr ⟨raises_demand rfl _, fun _ _ => ?_⟩
    refine Raises.recover ?_ (raises_ok metadata)
    exact (raises_bind_iff _).mpr ⟨inflate_raises body, fun _ _ => raises_ok metadata⟩

theorem readText_raises : Raises Defect.isForeseen (metadata.readText data) := by
  simp [readText, addText_raises]

theorem compressedLength_raises : Raises Defect.isForeseen (compressedLength data) := by
  unfold compressedLength
  split
  next => exact raises_ok 0
  next method body =>
    refine (raises_bind_iff _).mpr ⟨raises_demand rfl _, fun _ _ => ?_⟩
    exact Raises.recover ((raises_map_iff _).mpr (inflate_raises body)) (raises_ok 0)

theorem readCompressedText_raises : Raises Defect.isForeseen (metadata.readCompressedText data) := by
  simp [readCompressedText, compressedLength_raises, addText_raises]

theorem addInternationalText_raises (language translated : Bytes) (text : ByteArray) :
    Raises Defect.isForeseen (metadata.addInternationalText language translated text) := by
  unfold addInternationalText
  split
  · exact metadata.addText_raises _
  · exact raises_ok metadata

theorem readInternationalText_raises :
    Raises Defect.isForeseen (metadata.readInternationalText data) := by
  have caught : ∀ (language translated body : Bytes), Raises Defect.isForeseen
      (recover isNotInflatable (.ok metadata)
        (inflate body >>= metadata.addInternationalText language translated)) := by
    intro language translated body
    refine Raises.recover ?_ (raises_ok metadata)
    refine (raises_bind_iff _).mpr ⟨inflate_raises body, fun text _ => ?_⟩
    exact (metadata.addInternationalText_raises _ _ text).catching isNotInflatable
  unfold readInternationalText
  repeat' split
  all_goals first
    | exact raises_ok metadata
    | exact metadata.addInternationalText_raises _ _ _
    | exact caught _ _ _

theorem readAnimation_raises : Raises Defect.isForeseen (metadata.readAnimation data) := by
  simp [readAnimation]

theorem readFrame_raises : Raises Defect.isForeseen (metadata.readFrame data) := by
  simp [readFrame]

theorem readFrameNumber_raises : Raises Defect.isForeseen (metadata.readFrameNumber data) := by
  simp [readFrameNumber]

/-- Whatever chunk is read, text that does not inflate is caught. -/
theorem read_raises (name : String) : Raises Defect.isForeseen (metadata.read name data) := by
  unfold read
  split
  next => exact metadata.readHeader_raises data
  next => exact raises_ok _
  next => simp [requireLength]
  next => exact metadata.readProfile_raises data
  next => exact metadata.readText_raises data
  next => exact metadata.readCompressedText_raises data
  next => exact metadata.readInternationalText_raises data
  next => exact metadata.readAnimation_raises data
  next => exact metadata.readFrame_raises data
  next => simp [requireLength]
  next => simp [requireLength]
  next => simp [requireLength]
  next => simp [requireLength]
  next => exact raises_ok _

theorem pixelRegion_raises : Raises Defect.isForeseen metadata.pixelRegion := by
  simp [pixelRegion]

end Metadata

/-! ### Chunks -/

theorem readChunkHeader_raises (content : Bytes) : Raises endsFile (readChunkHeader content) := by
  simp [readChunkHeader, endsFile]

theorem takeData_raises (length : Nat) (content : Bytes) :
    Raises Defect.isForeseen (takeData length content) := by
  simp [takeData]

theorem verify_raises (name : String) (data content : Bytes) :
    Raises Defect.isForeseen (verify name data content) := by
  simp [verify]

/-! ### In front of the pixel data -/

theorem mayOpen_of_endsFile (defect : Defect) (ends : endsFile defect = true) :
    defect.mayOpen = true := by
  cases defect <;> simp_all [endsFile]

theorem findData_raises (fuel : Nat) (metadata : Metadata) (content : Bytes) :
    Raises Defect.mayOpen (findData fuel metadata content) := by
  induction fuel generalizing metadata content with
  | zero => simp [findData]
  | succ fuel ih =>
    have headed := (readChunkHeader_raises content).mono mayOpen_of_endsFile
    -- Of all steps only the header of a chunk can end with a defect that opening has to forgive.
    simp [findData, headed, (takeData_raises _ _).opens, (Metadata.read_raises _ _ _).opens,
      (Metadata.readFrameNumber_raises _ _).opens, (verify_raises _ _ _).opens, ih]

theorem openFile_raises (content : Bytes) : Raises Defect.mayOpen (openFile content) :=
  findData_raises _ _ _

/-! ### Within the pixel data -/

/-- What may befall the search for the next data chunk: a header that is cut short is the one
defect for which decoding is not prepared. -/
def mayBreakOff (defect : Defect) : Bool :=
  defect.isTruncation || defect.isForeseen

theorem mayBreakOff_of_endsFile (defect : Defect) (ends : endsFile defect = true) :
    mayBreakOff defect = true := by
  cases defect <;> simp_all [endsFile, mayBreakOff]

theorem nextData_raises (fuel : Nat) (start : DataStart) :
    Raises mayBreakOff (nextData fuel start) := by
  induction fuel generalizing start with
  | zero => simp [nextData, mayBreakOff]
  | succ fuel ih =>
    have headed := (readChunkHeader_raises (start.rest.drop 4)).mono mayBreakOff_of_endsFile
    have numbered : ∀ data, Raises mayBreakOff (start.metadata.readFrameNumber data) :=
      fun data => (start.metadata.readFrameNumber_raises data).catching Defect.isTruncation
    have others : mayBreakOff .badValue = true ∧ mayBreakOff .broken = true := by decide
    simp [nextData, headed, numbered, others, ih]

/-- This is where a file may break off: the guard stands around the search for data only. -/
theorem moreData_raises (start : DataStart) : Raises Defect.isForeseen (moreData start) :=
  Raises.recover (nextData_raises _ start) ((raises_error_iff _).mpr rfl)

theorem decodePixels_raises (fuel : Nat) (start : DataStart) (machine : Inflater)
    (state : RowState) : Raises Defect.isForeseen (decodePixels fuel start machine state) := by
  induction fuel generalizing start machine state with
  | zero => simp [decodePixels]
  | succ fuel ih =>
    unfold decodePixels
    refine (raises_bind_iff _).mpr ⟨moreData_raises start, fun start _ => ?_⟩
    refine (raises_bind_iff _).mpr ⟨raises_demand rfl _, fun _ _ => ?_⟩
    -- Only a decoder that wants more goes on.
    split
    next => exact raises_ok _
    next => exact (raises_error_iff _).mpr rfl
    next machine state _ => exact ih _ machine state

/-! ### Behind the pixel data -/

theorem nextHeader?_raises (content : Bytes) :
    Raises Defect.isForeseen (nextHeader? content) := by
  refine Raises.recover ?_ (raises_ok none)
  refine ((raises_map_iff _).mpr (readChunkHeader_raises _)).mono fun defect ends => ?_
  rw [ends, Bool.true_or]

theorem passChunk_raises (metadata : Metadata) (header : ChunkHeader) (content : Bytes) :
    Raises Defect.isForeseen (passChunk metadata header content) := by
  simp [passChunk, takeData_raises, Metadata.read_raises, Metadata.readFrameNumber_raises]

theorem finish_raises (fuel : Nat) (animated : Bool) (metadata : Metadata) (content : Bytes) :
    Raises Defect.isForeseen (finish fuel animated metadata content) := by
  induction fuel generalizing metadata content with
  | zero => simp [finish]
  | succ fuel ih =>
    unfold finish
    refine (raises_bind_iff _).mpr ⟨nextHeader?_raises content, fun found _ => ?_⟩
    cases found with
    | none => exact raises_ok ()
    | some next => simp [passChunk_raises, ih]

theorem load_raises (start : DataStart) : Raises Defect.isForeseen (load start) := by
  simp [load, Metadata.pixelRegion_raises, decodePixels_raises, finish_raises]

end ImageVault.Raster.Png
