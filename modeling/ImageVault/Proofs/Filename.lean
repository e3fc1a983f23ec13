import ImageVault.Filename
import ImageVault.Proofs.Digest
import ImageVault.Proofs.Text.Hex
import ImageVault.Proofs.Url.Join

/-!
# Generated filenames

A generated filename is one segment of a path and fits into a header as it is. It has always
the same form: the digits of eight bytes, a point, and the extension of its media type.
-/

namespace ImageVault.Filename

variable (token : Uuid) (size : Int) (type : ImageType) (nanoseconds : Int)

/-- Digits of the digest, the point, and the letters of the extension. -/
theorem mem_ofType {c : Char} (member : c ∈ (ofType token size type nanoseconds).toList) :
    (∃ digit < 16, c = Text.hexDigit digit) ∨ c = '.' ∨ c ∈ type.extension.toList := by
  rw [ofType, String.toList_ofList, List.mem_append, List.mem_cons] at member
  exact member.imp_left Text.mem_hexOfBytes

theorem mem_ofType_plain {c : Char}
    (member : c ∈ (ofType token size type nanoseconds).toList) : c ≠ '/' ∧ c.toNat < 256 := by
  rcases mem_ofType token size type nanoseconds member with ⟨digit, small, rfl⟩ | rfl | letter
  · exact (Text.hexDigit_separates_nothing small).2
  · decide
  · have letters : type.extension.toList.all (fun c => c ≠ '/' && c.toNat < 256) = true := by
      cases type <;> rfl
    simpa using List.all_eq_true.mp letters c letter

theorem slash_not_mem_ofType : '/' ∉ (ofType token size type nanoseconds).toList :=
  fun member => (mem_ofType_plain token size type nanoseconds member).1 rfl

theorem digestText_length (seed : List Char) : (digestText seed).length = 16 := by
  rw [digestText, Text.hexOfBytes_length, Digest.blake2b_length (by decide)]

theorem mem_digestText {seed : List Char} {c : Char} (member : c ∈ digestText seed) :
    c ∈ "0123456789abcdef".toList := by
  have lower : ∀ digit < 16, Text.hexDigit digit ∈ "0123456789abcdef".toList := by decide
  obtain ⟨digit, small, rfl⟩ := Text.mem_hexOfBytes member
  exact lower digit small

/-- Sixteen hexadecimal digits in lower case, a point, and the extension of the type. -/
def HasForm (type : ImageType) (filename : String) : Prop :=
  ∃ digits : List Char, digits.length = 16 ∧
    (∀ c ∈ digits, c ∈ "0123456789abcdef".toList) ∧
    filename = String.ofList (digits ++ '.' :: type.extension.toList)

theorem sample_form : HasForm .png "0123456789abcdef.png" :=
  ⟨"0123456789abcdef".toList, rfl, fun _ member => member, rfl⟩

/-- The form that all generated names have. -/
theorem ofType_form : HasForm type (ofType token size type nanoseconds) :=
  ⟨_, digestText_length _, fun _ => mem_digestText, rfl⟩

theorem ofType_ne_nil : (ofType token size type nanoseconds).toList ≠ [] := by
  simp [ofType]

/-! ### Names as segments of a path -/

/-- The segments of the path under which an image is found. -/
def imagePath (filename : String) : List (List Char) :=
  ["api".toList, "v1".toList, "images".toList, filename.toList]

namespace HasForm

variable {type : ImageType} {filename : String}

theorem isPlainSegment (form : HasForm type filename) :
    Url.IsPlainSegment filename.toList := by
  obtain ⟨digits, sixteen, lower, rfl⟩ := form
  rw [String.toList_ofList]
  have long : 16 < (digits ++ '.' :: type.extension.toList).length := by
    simp [sixteen]
  refine ⟨?_, ?_, ?_, ?_⟩
  · rintro same
    rw [same] at long
    exact absurd long (by decide)
  · intro same
    rw [same] at long
    exact absurd long (by decide)
  · intro same
    rw [same] at long
    exact absurd long (by decide)
  · intro c member
    have plainDigits : "0123456789abcdef".toList.all Url.isPathChar = true := by decide
    have plainLetters : type.extension.toList.all Url.isPathChar = true := by
      cases type <;> decide
    rcases List.mem_append.mp member with digit | ending
    · exact List.all_eq_true.mp plainDigits c (lower c digit)
    · rcases List.mem_cons.mp ending with rfl | letter
      · decide
      · exact List.all_eq_true.mp plainLetters c letter

theorem imagePath_plain (form : HasForm type filename) :
    Url.IsPlainPath (imagePath filename) := by
  refine ⟨List.cons_ne_nil _ _, fun segment member => ?_⟩
  simp only [imagePath, List.mem_cons, List.not_mem_nil, or_false] at member
  rcases member with rfl | rfl | rfl | rfl
  · exact ⟨by decide, by decide, by decide, List.all_eq_true.mp (by decide)⟩
  · exact ⟨by decide, by decide, by decide, List.all_eq_true.mp (by decide)⟩
  · exact ⟨by decide, by decide, by decide, List.all_eq_true.mp (by decide)⟩
  · exact form.isPlainSegment

end HasForm

end ImageVault.Filename
