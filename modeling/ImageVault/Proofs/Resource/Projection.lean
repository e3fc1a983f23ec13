import ImageVault.Proofs.Resource
import ImageVault.Proofs.Schema.Checked

/-!
# Resources, and the information in them

## Main result

`resources_hold_their_information`: a resource that was read is sound, is read back from its own
attributes, and holds the information that is read from the same attributes. Attributes that are
refused are told once about each field that is missing or not acceptable on its own, whatever
the other fields are.

## Proof strategy

Attributes are acceptable exactly if each field gives its value (`validate_eq_valid_iff`), so
that reading back, and reading less, come down to single fields. Both checks judge by rules
(`validate_judges`), whose names are distinct.
-/

namespace ImageVault

open Schema (Checked Rule Gives JudgesEach)

/-! ### Bounded numbers -/

namespace Schema

theorem bounded_eq_ok_iff (value : Json) (holds : Int → Prop) [DecidablePred holds]
    (defect : Defect) (number : Int) :
    (do
      let found ← integer value
      if holds found then return found else throw defect : Except Defect Int) = .ok number ↔
      integer value = .ok number ∧ holds number := by
  rw [bind_eq_ok_iff]
  constructor
  · rintro ⟨found, read, returned⟩
    split at returned
    next bounded =>
      cases returned
      exact ⟨read, bounded⟩
    next => cases returned
  · rintro ⟨read, bounded⟩
    exact ⟨number, read, if_pos bounded⟩

theorem positive_eq_ok_iff (value : Json) (number : Int) :
    positive value = .ok number ↔ integer value = .ok number ∧ 0 < number :=
  bounded_eq_ok_iff value (0 < ·) .notAbove number

theorem nonNegative_eq_ok_iff (value : Json) (number : Int) :
    nonNegative value = .ok number ↔ integer value = .ok number ∧ 0 ≤ number :=
  bounded_eq_ok_iff value (0 ≤ ·) .below number

/-- A field with a bound is one without it whose value keeps the bound. -/
theorem gives_bounded_iff {bounded read : Json → Except Defect Int} {holds : Int → Prop}
    (eq_ok_iff : ∀ value number,
      bounded value = .ok number ↔ read value = .ok number ∧ holds number)
    (members : Json.Members) (name : String) (number : Int) :
    Gives members name bounded number ↔ Gives members name read number ∧ holds number := by
  simp only [Gives, eq_ok_iff, ← and_assoc, exists_and_right]

end Schema

/-! ### Resources -/

namespace ImageResource

/-- What is asked of the fields of a resource. -/
def rules : List Rule :=
  [.reads "id" Schema.uuid, .reads "owner_id" Schema.uuid, .reads "height" Schema.positive,
   .reads "width" Schema.positive, .reads "mime" Schema.text, .reads "filename" Schema.text,
   .reads "url" Schema.text, .reads "size" Schema.nonNegative]

/-- The information in a resource. -/
def info (resource : ImageResource) : ImageInfo :=
  { height := resource.height
    width := resource.width
    mime := resource.mime
    filename := resource.filename
    size := resource.size
    ownerId := resource.ownerId }

theorem validate_judges (attributes : Json.Members) :
    (validate attributes).Judges rules attributes :=
  ((((((((Checked.judges_field ..).map _).seq (Checked.judges_field ..)).seq
    (Checked.judges_field ..)).seq (Checked.judges_field ..)).seq (Checked.judges_field ..)).seq
    (Checked.judges_field ..)).seq (Checked.judges_field ..)).seq (Checked.judges_field ..)

theorem validate_eq_valid_iff (attributes : Json.Members) (resource : ImageResource) :
    validate attributes = .valid resource ↔
      Gives attributes "id" Schema.uuid resource.id ∧
      Gives attributes "owner_id" Schema.uuid resource.ownerId ∧
      Gives attributes "height" Schema.positive resource.height ∧
      Gives attributes "width" Schema.positive resource.width ∧
      Gives attributes "mime" Schema.text resource.mime ∧
      Gives attributes "filename" Schema.text resource.filename ∧
      Gives attributes "url" Schema.text resource.url ∧
      Gives attributes "size" Schema.nonNegative resource.size := by
  cases resource
  simp only [validate, Checked.seq_eq_valid_iff, Checked.map_eq_valid_iff,
    Checked.field_eq_valid_iff]
  simp [and_assoc]

end ImageResource

/-! ### Information -/

namespace ImageInfo

/-- What is asked of the fields of information. -/
def rules : List Rule :=
  [.reads "height" Schema.integer, .reads "width" Schema.integer, .reads "mime" Schema.text,
   .reads "filename" Schema.text, .reads "size" Schema.integer, .reads "owner_id" Schema.uuid]

theorem validate_judges (attributes : Json.Members) :
    (validate attributes).Judges rules attributes :=
  ((((((Checked.judges_field ..).map _).seq (Checked.judges_field ..)).seq
    (Checked.judges_field ..)).seq (Checked.judges_field ..)).seq (Checked.judges_field ..)).seq
    (Checked.judges_field ..)

theorem validate_eq_valid_iff (attributes : Json.Members) (info : ImageInfo) :
    validate attributes = .valid info ↔
      Gives attributes "height" Schema.integer info.height ∧
      Gives attributes "width" Schema.integer info.width ∧
      Gives attributes "mime" Schema.text info.mime ∧
      Gives attributes "filename" Schema.text info.filename ∧
      Gives attributes "size" Schema.integer info.size ∧
      Gives attributes "owner_id" Schema.uuid info.ownerId := by
  cases info
  simp only [validate, Checked.seq_eq_valid_iff, Checked.map_eq_valid_iff,
    Checked.field_eq_valid_iff]
  simp [and_assoc]

end ImageInfo

/-! ### Both -/

/-- Whatever attributes a resource is read from, its sides are positive, its size is not
negative, it is read back from its own attributes, and the attributes give the information that
is in it. Information is read back from its attributes as well. Each field is judged on its own:
attributes are refused exactly if a field is missing or not acceptable, and then each such field
is reported once and no other one. -/
theorem resources_hold_their_information :
    (∀ attributes resource, ImageResource.validate attributes = .valid resource →
      0 < resource.height ∧ 0 < resource.width ∧ 0 ≤ resource.size ∧
      ImageResource.validate resource.attributes = .valid resource ∧
      ImageInfo.validate attributes = .valid resource.info) ∧
    (∀ attributes info, ImageInfo.validate attributes = .valid info →
      ImageInfo.validate info.attributes = .valid info) ∧
    JudgesEach ImageResource.rules ImageResource.validate ∧
    JudgesEach ImageInfo.rules ImageInfo.validate := by
  refine ⟨?_, fun _ info _ => info.validate_attributes, ?_, ?_⟩
  · intro attributes resource valid
    obtain ⟨-, owner, height, width, mime, filename, -, size⟩ :=
      (ImageResource.validate_eq_valid_iff attributes resource).mp valid
    obtain ⟨height, high⟩ := (Schema.gives_bounded_iff Schema.positive_eq_ok_iff ..).mp height
    obtain ⟨width, wide⟩ := (Schema.gives_bounded_iff Schema.positive_eq_ok_iff ..).mp width
    obtain ⟨size, sized⟩ := (Schema.gives_bounded_iff Schema.nonNegative_eq_ok_iff ..).mp size
    -- Information asks for less of the same fields.
    have projected := (ImageInfo.validate_eq_valid_iff attributes resource.info).mpr
      ⟨height, width, mime, filename, size, owner⟩
    exact ⟨high, wide, sized, ImageResource.validate_attributes high wide sized, projected⟩
  · exact Schema.judgesEach_of_judges ImageResource.validate_judges (by decide)
  · exact Schema.judgesEach_of_judges ImageInfo.validate_judges (by decide)

/-- Attributes in any order, with coercions, and with one that no resource has. -/
def spelledAttributes : Json.Members :=
  [("size", .string "1_0.0"), ("id", .string "3FA85F6457174562B3FC2C963F66AFA6"),
   ("owner_id", .string "urn:uuid:00000001-0000-4000-a000-000000000001"),
   ("height", .string " +05 "), ("width", .bool true), ("mime", .string "image/png"),
   ("filename", .string "0123456789abcdef.png"), ("url", .string "http://localhost/x"),
   ("image", .null)]

theorem spelled_attributes_agree :
    ∃ resource, ImageResource.validate spelledAttributes = .valid resource ∧
      resource.height = 5 ∧ resource.width = 1 ∧ resource.size = 10 ∧
      resource.ownerId.text = "00000001-0000-4000-a000-000000000001" ∧
      ImageInfo.validate spelledAttributes = .valid resource.info := by
  have read : ImageResource.validate spelledAttributes = .valid
      { id := ⟨0x3FA85F6457174562B3FC2C963F66AFA6⟩
        ownerId := ⟨0x0000000100004000A000000000000001⟩
        height := 5
        width := 1
        mime := "image/png"
        filename := "0123456789abcdef.png"
        url := "http://localhost/x"
        size := 10 } := rfl
  obtain ⟨-, -, -, -, projected⟩ := resources_hold_their_information.1 _ _ read
  exact ⟨_, read, rfl, rfl, rfl, by decide +kernel, projected⟩

end ImageVault
