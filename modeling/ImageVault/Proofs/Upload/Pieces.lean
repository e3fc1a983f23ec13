import ImageVault.Proofs.Upload.Reading
import ImageVault.Upload.SpooledFile

/-!
# Reading a file in pieces

A file is read piece by piece until a read gives nothing or fails. Whether a read fails is a
matter of its size and of where the file is kept, and neither changes on the way: either the
first read fails, or none does. In the second case the pieces hold the whole file, if their size
is not zero, and what is received of them under a limit depends on the file alone: the limit is
looked at after each piece, but no piece gives back what an earlier one took, so it is exceeded
on the way exactly if the whole file exceeds it.
-/

namespace ImageVault

namespace SpooledFile

variable {room : Nat} {size : Int} {file left : SpooledFile} {piece : Bytes}

/-! ### One read -/

theorem read_eq_error_iff (interruption : Interruption) :
    file.read room size = .error interruption ↔ file.refusal? room size = some interruption := by
  unfold read
  cases file.refusal? room size with
  | some other => simp
  | none => by_cases negative : size < 0 <;> simp [negative]

/-- All that a read can do if it does not fail. The file is kept where it was. -/
theorem read_cases (taken : file.read room size = .ok (piece, left)) :
    file.refusal? room size = none ∧ left.onDisk = file.onDisk ∧
      (size < 0 ∧ piece = file.rest ∧ left.rest = [] ∨
        0 ≤ size ∧ piece = file.rest.take size.toNat ∧
          left.rest = file.rest.drop size.toNat) := by
  unfold read at taken
  split at taken
  next => cases taken
  next accepted =>
    split at taken
    next negative =>
      cases taken
      exact ⟨accepted, rfl, Or.inl ⟨negative, rfl, rfl⟩⟩
    next nonnegative =>
      cases taken
      exact ⟨accepted, rfl, Or.inr ⟨Int.not_lt.mp nonnegative, rfl, rfl⟩⟩

/-- What is read is the front of what was left. -/
theorem append_of_read (taken : file.read room size = .ok (piece, left)) :
    piece ++ left.rest = file.rest := by
  obtain ⟨-, -, ⟨-, rfl, nothing⟩ | ⟨-, rfl, behind⟩⟩ := read_cases taken
  · rw [nothing, List.append_nil]
  · rw [behind, List.take_append_drop]

/-- If reads take something at all, only the end of the file reads as nothing. -/
theorem rest_eq_nil_of_read (nonzero : size ≠ 0) (taken : file.read room size = .ok ([], left)) :
    file.rest = [] := by
  obtain ⟨-, -, ⟨-, all, -⟩ | ⟨nonnegative, front, -⟩⟩ := read_cases taken
  · exact all.symm
  · have either := List.take_eq_nil_iff.mp front.symm
    exact either.resolve_left (by omega)

/-- A piece that is shorter than the size leaves nothing behind. -/
theorem length_of_read (positive : 0 < size) (taken : file.read room size = .ok (piece, left)) :
    (piece.length : Int) ≤ size ∧ (left.rest ≠ [] → (piece.length : Int) = size) := by
  obtain ⟨-, -, ⟨negative, -⟩ | ⟨-, rfl, behind⟩⟩ := read_cases taken
  · omega
  · rw [List.length_take]
    refine ⟨by omega, fun something => ?_⟩
    have longer := List.length_pos_iff.mpr something
    rw [behind, List.length_drop] at longer
    omega

/-! ### Reading to the end -/

/-- Reading a file ends with these pieces, and with a failed read if there was one. -/
inductive ReadsTo (room : Nat) (size : Int) :
    SpooledFile → List Bytes → Option Interruption → Prop
  | done {file left : SpooledFile} :
      file.read room size = .ok ([], left) → ReadsTo room size file [] none
  | failed {file : SpooledFile} {interruption : Interruption} :
      file.read room size = .error interruption → ReadsTo room size file [] (some interruption)
  | more {file left : SpooledFile} {piece : Bytes} {pieces : List Bytes}
      {ending : Option Interruption} :
      file.read room size = .ok (piece, left) → piece ≠ [] →
      ReadsTo room size left pieces ending → ReadsTo room size file (piece :: pieces) ending

variable {pieces : List Bytes} {ending : Option Interruption}

/-- How reading ends is determined by the file. -/
theorem ReadsTo.unique {others : List Bytes} {otherEnding : Option Interruption}
    (these : ReadsTo room size file pieces ending)
    (those : ReadsTo room size file others otherEnding) :
    pieces = others ∧ ending = otherEnding := by
  induction these generalizing others otherEnding with
  | done nothing =>
    cases those with
    | done => exact ⟨rfl, rfl⟩
    | failed fails => cases nothing.symm.trans fails
    | more taken something =>
      cases nothing.symm.trans taken
      exact absurd rfl something
  | failed fails =>
    cases those with
    | done nothing => cases fails.symm.trans nothing
    | failed again =>
      cases fails.symm.trans again
      exact ⟨rfl, rfl⟩
    | more taken => cases fails.symm.trans taken
  | more taken something _ ih =>
    cases those with
    | done nothing =>
      cases taken.symm.trans nothing
      exact absurd rfl something
    | failed fails => cases taken.symm.trans fails
    | more again _ later =>
      cases taken.symm.trans again
      obtain ⟨rfl, rfl⟩ := ih later
      exact ⟨rfl, rfl⟩

/-- As many reads as there are bytes find the end, since each takes one at least. -/
theorem readPieces_readsTo (fuel : Nat) (file : SpooledFile) (enough : file.rest.length < fuel) :
    ReadsTo room size file (readPieces room size fuel file).chunks
      (readPieces room size fuel file).interruption := by
  -- One of the fuel is spent on each read, and the file is a byte or more shorter after it.
  induction fuel generalizing file with
  | zero => omega
  | succ fuel ih =>
    unfold readPieces
    cases taken : file.read room size with
    | error interruption => exact .failed taken
    | ok result =>
      obtain ⟨piece, left⟩ := result
      dsimp only
      split
      next empty =>
        rw [List.isEmpty_iff.mp empty] at taken
        exact .done taken
      next present =>
        have something : piece ≠ [] := by simpa using present
        have shorter : left.rest.length < fuel := by
          have whole := congrArg List.length (append_of_read taken)
          have counted := List.length_pos_iff.mpr something
          rw [List.length_append] at whole
          omega
        exact .more taken something (ih left shorter)

theorem readsTo_stream (room : Nat) (size : Int) (file : SpooledFile) :
    ReadsTo room size file (file.stream room size).chunks
      (file.stream room size).interruption :=
  readPieces_readsTo _ file (Nat.lt_succ_self _)

/-- Reading a file ends, in one way, and so the file is a stream. -/
theorem readsTo_iff (room : Nat) (size : Int) (file : SpooledFile) (pieces : List Bytes)
    (ending : Option Interruption) :
    ReadsTo room size file pieces ending ↔ file.stream room size = ⟨pieces, ending⟩ := by
  constructor
  · intro reads
    obtain ⟨rfl, rfl⟩ := reads.unique (readsTo_stream room size file)
    rfl
  · intro same
    have reads := readsTo_stream room size file
    rw [same] at reads
    exact reads

/-! ### What the pieces are like -/

/-- Only the first read may fail, for the other ones are like it. -/
theorem ReadsTo.ending_eq (reads : ReadsTo room size file pieces ending) :
    ending = file.refusal? room size := by
  induction reads with
  | done nothing => exact (read_cases nothing).1.symm
  | failed fails => exact ((read_eq_error_iff _).mp fails).symm
  | more taken _ _ ih =>
    rw [ih, refusal?, refusal?, (read_cases taken).2.1]

theorem ReadsTo.ne_nil (reads : ReadsTo room size file pieces ending) :
    ∀ piece ∈ pieces, piece ≠ [] := by
  induction reads with
  | done => simp
  | failed => simp
  | more _ something _ ih => exact List.forall_mem_cons.mpr ⟨something, ih⟩

/-- Pieces of any size but zero hold the whole file. -/
theorem ReadsTo.flatten (nonzero : size ≠ 0) (reads : ReadsTo room size file pieces ending)
    (uninterrupted : ending = none) : pieces.flatten = file.rest := by
  induction reads with
  | done nothing => rw [List.flatten_nil, rest_eq_nil_of_read nonzero nothing]
  | failed => cases uninterrupted
  | more taken _ _ ih => rw [List.flatten_cons, ih uninterrupted, append_of_read taken]

/-- Only the last piece may be shorter than the size. -/
theorem ReadsTo.length_eq (positive : 0 < size) (reads : ReadsTo room size file pieces ending) :
    (∀ piece ∈ pieces.dropLast, (piece.length : Int) = size) ∧
      ∀ piece ∈ pieces, (piece.length : Int) ≤ size := by
  induction reads with
  | done => simp
  | failed => simp
  | @more file left piece pieces ending taken something rest ih =>
    obtain ⟨short, full⟩ := length_of_read positive taken
    refine ⟨?_, List.forall_mem_cons.mpr ⟨short, ih.2⟩⟩
    cases rest with
    | done => simp
    | failed => simp
    | @more _ _ next _ _ again present later =>
      rw [List.dropLast_cons_cons]
      refine List.forall_mem_cons.mpr ⟨full fun nothing => ?_, ih.1⟩
      -- Where nothing is left there is no next piece.
      have whole := append_of_read again
      rw [nothing] at whole
      exact present (List.append_eq_nil_iff.mp whole).1

/-- A negative size gives the whole file as its only piece. -/
theorem ReadsTo.eq_rest (negative : size < 0) (reads : ReadsTo room size file pieces ending) :
    ∀ piece ∈ pieces, piece = file.rest := by
  cases reads with
  | done => simp
  | failed => simp
  | @more _ left first _ _ taken _ later =>
    have all : first = file.rest ∧ left.rest = [] := by
      obtain ⟨-, -, ⟨-, all, nothing⟩ | ⟨nonnegative, -⟩⟩ := read_cases taken
      · exact ⟨all, nothing⟩
      · omega
    obtain ⟨rfl, nothing⟩ := all
    -- The second read finds the end of the file, so there is no second piece.
    cases later with
    | done => simp
    | failed => simp
    | more again present =>
      have whole := append_of_read again
      rw [nothing] at whole
      exact absurd (List.append_eq_nil_iff.mp whole).1 present

/-! ### Sizes that a file accepts -/

/-- A read that fails is no failure of the pipeline. -/
theorem refusal?_ne_failure {interruption : Interruption}
    (found : file.refusal? room size = some interruption) (failure : Failure) :
    interruption ≠ .failure failure := by
  rintro rfl
  unfold refusal? at found
  repeat' split at found
  all_goals cases found

/-- A size by which a content can be read: it fits a machine word, and what is kept on disk is
    read all at once or by a size that there is room for. -/
structure Accepts (room : Nat) (content : Bytes) (size : Int) : Prop where
  word : -9223372036854775808 ≤ size ∧ size ≤ 9223372036854775807
  onDisk : 1048576 < content.length → -1 ≤ size ∧ size ≤ 9223372036854775774 ∧ size ≤ room

/-- What fits in memory can be read by any machine word. -/
theorem Accepts.of_short {room : Nat} {content : Bytes} {size : Int}
    (short : content.length ≤ 1048576)
    (word : -9223372036854775808 ≤ size ∧ size ≤ 9223372036854775807) :
    Accepts room content size :=
  ⟨word, fun long => absurd short (Nat.not_le.mpr long)⟩

theorem some_else_eq_none_iff {α : Type} (condition : Prop) [Decidable condition] (value : α)
    (other : Option α) :
    (if condition then some value else other) = none ↔ ¬condition ∧ other = none := by
  split <;> simp_all

theorem refusal?_eq_none_iff (room : Nat) (content : Bytes) (size : Int) :
    (ofContent content).refusal? room size = none ↔ Accepts room content size := by
  have spooled : (ofContent content).onDisk = decide (1048576 < content.length) := rfl
  have most : wordLimit = 9223372036854775807 := rfl
  have head : headSize = 33 := rfl
  unfold refusal?
  rw [spooled, most, head, some_else_eq_none_iff, Bool.or_eq_true, decide_eq_true_eq,
    decide_eq_true_eq]
  by_cases long : 1048576 < content.length
  · simp only [decide_eq_true long, Bool.not_true, Bool.false_eq_true, if_false,
      some_else_eq_none_iff]
    constructor
    · rintro ⟨word, whole, narrow, fits, -⟩
      exact ⟨by omega, fun _ => by omega⟩
    · rintro ⟨word, onDisk⟩
      obtain ⟨whole, narrow, fits⟩ := onDisk long
      exact ⟨by omega, by omega, by omega, by omega, trivial⟩
  · -- In memory nothing but the word counts.
    simp only [decide_eq_false long, Bool.not_false, if_true, and_true]
    constructor
    · intro word
      exact .of_short (Nat.not_lt.mp long) (by omega)
    · intro accepts
      have word := accepts.word
      omega

end SpooledFile

namespace Upload

open SpooledFile (Accepts ReadsTo)

variable {room : Nat} {content : Bytes} {size : Int}

/-- A file that accepts the size arrives whole, if the size is not zero. -/
theorem stream_of_accepts (accepts : Accepts room content size) :
    (stream room size content).interruption = none ∧
      (size ≠ 0 → (stream room size content).chunks.flatten = content) := by
  have reads := SpooledFile.readsTo_stream room size (SpooledFile.ofContent content)
  have whole : (stream room size content).interruption = none :=
    reads.ending_eq.trans ((SpooledFile.refusal?_eq_none_iff room content size).mpr accepts)
  exact ⟨whole, fun nonzero => reads.flatten nonzero whole⟩

/-- Reads of no bytes are taken for the end of the file. -/
theorem stream_zero (accepts : Accepts room content 0) :
    stream room 0 content = ⟨[], none⟩ := by
  have accepted := (SpooledFile.refusal?_eq_none_iff room content 0).mpr accepts
  have nothing : (SpooledFile.ofContent content).read room 0 =
      .ok ([], SpooledFile.ofContent content) := by
    rw [SpooledFile.read, accepted]
    rfl
  exact (SpooledFile.readsTo_iff _ _ _ _ _).mp (.done nothing)

/-- A file that does not accept the size breaks off before it has begun. -/
theorem stream_of_not_accepts (refused : ¬Accepts room content size) :
    ∃ interruption,
      (SpooledFile.ofContent content).refusal? room size = some interruption ∧
      stream room size content = ⟨[], some interruption⟩ := by
  have fails := mt (SpooledFile.refusal?_eq_none_iff room content size).mp refused
  obtain ⟨interruption, found⟩ := Option.ne_none_iff_exists'.mp fails
  have reads : ReadsTo room size (SpooledFile.ofContent content) [] (some interruption) :=
    .failed ((SpooledFile.read_eq_error_iff interruption).mpr found)
  exact ⟨interruption, found, (SpooledFile.readsTo_iff _ _ _ _ _).mp reads⟩

theorem interruption_ne_failure (room : Nat) (size : Int) (content : Bytes) (failure : Failure) :
    (stream room size content).interruption ≠ some (.failure failure) := by
  intro failed
  have reads := SpooledFile.readsTo_stream room size (SpooledFile.ofContent content)
  exact SpooledFile.refusal?_ne_failure (reads.ending_eq.symm.trans failed) failure rfl

/-- Only an empty file has no pieces. -/
theorem chunks_eq_nil_iff (accepts : Accepts room content size) (nonzero : size ≠ 0) :
    (stream room size content).chunks = [] ↔ content = [] := by
  have whole := (stream_of_accepts accepts).2 nonzero
  constructor
  · intro none
    rw [none] at whole
    exact whole.symm
  · rintro rfl
    have nonempty := (SpooledFile.readsTo_stream room size (SpooledFile.ofContent [])).ne_nil
    refine List.eq_nil_iff_forall_not_mem.mpr fun piece member => nonempty piece member ?_
    exact List.flatten_eq_nil_iff.mp whole piece member

end Upload

namespace ChunkStream

/-! ### Receiving the pieces -/

/-- A limit is exceeded on the way exactly if it is exceeded at the end of the stream. -/
theorem within_iff (limit : Option Int) (chunks : List Bytes) :
    Within limit chunks ↔
      ∀ bound, limit = some bound → chunks = [] ∨ (chunks.flatten.length : Int) ≤ bound := by
  constructor
  · intro within bound limited
    by_cases empty : chunks = []
    · exact Or.inl empty
    · right
      have fits := within bound limited chunks.length
      unfold Exceeds at fits
      rw [List.take_length] at fits
      have present := List.length_pos_iff.mpr empty
      omega
  · rintro fits bound limited count ⟨positive, few, exceeds⟩
    rcases fits bound limited with rfl | short
    · rw [List.length_nil] at few
      omega
    · -- What the first chunks hold is part of what all of them hold.
      have split := congrArg List.length
        (congrArg List.flatten (List.take_append_drop count chunks))
      rw [List.flatten_append, List.length_append] at split
      omega

/-- A file is too large under a limit that its length exceeds. An empty file is read without
    looking at the limit. -/
def IsTooLarge (limit : Option Int) (content : Bytes) : Prop :=
  ∃ bound, limit = some bound ∧ content ≠ [] ∧ bound < content.length

theorem isTooLarge_iff_of_nonneg {bound : Int} (nonneg : 0 ≤ bound) (content : Bytes) :
    IsTooLarge (some bound) content ↔ bound < content.length := by
  constructor
  · rintro ⟨other, same, -, longer⟩
    cases same
    exact longer
  · intro longer
    refine ⟨bound, rfl, ?_, longer⟩
    rintro rfl
    rw [List.length_nil] at longer
    omega

section

open SpooledFile (Accepts)

variable {room : Nat} {content : Bytes} {size : Int}

/-- What is received of a file that is read in pieces, whatever their size. -/
theorem receive_stream (accepts : Accepts room content size) (nonzero : size ≠ 0)
    (limit : Option Int) :
    (¬IsTooLarge limit content →
      (Upload.stream room size content).receive limit =
        ⟨(Upload.stream room size content).chunks.length, .ok content, none, []⟩) ∧
    (∀ bound, limit = some bound → IsTooLarge limit content →
      ∃ count, (Upload.stream room size content).receive limit =
        ⟨count, .error (tooLarge bound), none, []⟩) := by
  obtain ⟨uninterrupted, flattened⟩ := Upload.stream_of_accepts accepts
  have whole := flattened nonzero
  have empty : (Upload.stream room size content).chunks = [] ↔ content = [] :=
    Upload.chunks_eq_nil_iff accepts nonzero
  have fits : Within limit (Upload.stream room size content).chunks ↔
      ¬IsTooLarge limit content := by
    rw [within_iff, whole, empty]
    simp only [IsTooLarge, not_exists, not_and, Int.not_lt]
    constructor
    · intro short bound limited present
      exact (short bound limited).resolve_left present
    · intro short bound limited
      by_cases absent : content = []
      · exact Or.inl absent
      · exact Or.inr (short bound limited absent)
  constructor
  · intro small
    rw [receive_of_within (fits.mpr small), uninterrupted, whole]
    rfl
  · rintro bound rfl large
    obtain ⟨intake, reads⟩ := exists_reads (some bound) (Upload.stream room size content)
    have same := reads.eq_receive
    -- Nothing interrupts the file, so of the rules only the one for excess is left.
    cases reads with
    | exceeded limited =>
      cases limited
      exact ⟨_, same⟩
    | refused within => exact absurd large (fits.mp within)
    | broken within => exact absurd large (fits.mp within)
    | whole within => exact absurd large (fits.mp within)

/-- Of a file that does not accept the size nothing is received, whatever the limit is. -/
theorem receive_stream_of_not_accepts (refused : ¬Accepts room content size)
    (limit : Option Int) :
    ∃ interruption,
      (SpooledFile.ofContent content).refusal? room size = some interruption ∧
      (Upload.stream room size content).receive limit =
        ⟨0, .error (brokenOff interruption), some interruption,
          [interruptionWarning 0 interruption]⟩ := by
  obtain ⟨interruption, found, same⟩ := Upload.stream_of_not_accepts refused
  have within : Within limit [] := (within_iff limit []).mpr fun _ _ => Or.inl rfl
  have broken : Reads limit ⟨[], some interruption⟩
      ⟨0, .error (brokenOff interruption), some interruption,
        [interruptionWarning 0 interruption]⟩ :=
    .broken within rfl fun failure failed =>
      absurd failed (SpooledFile.refusal?_ne_failure found failure)
  refine ⟨interruption, found, ?_⟩
  rw [same]
  exact broken.eq_receive

/-- Two sizes of pieces differ in nothing but the number of pieces that are pulled. -/
theorem receive_stream_alike {first second : Int} (firstAccepts : Accepts room content first)
    (secondAccepts : Accepts room content second) (firstNonzero : first ≠ 0)
    (secondNonzero : second ≠ 0) (limit : Option Int) :
    let one := (Upload.stream room first content).receive limit
    let other := (Upload.stream room second content).receive limit
    one.outcome = other.outcome ∧ one.cause = other.cause ∧ one.logs = other.logs := by
  obtain ⟨firstWhole, firstExcess⟩ := receive_stream firstAccepts firstNonzero limit
  obtain ⟨secondWhole, secondExcess⟩ := receive_stream secondAccepts secondNonzero limit
  by_cases large : IsTooLarge limit content
  · have ⟨bound, limited, _⟩ := large
    obtain ⟨firstCount, firstEnds⟩ := firstExcess bound limited large
    obtain ⟨secondCount, secondEnds⟩ := secondExcess bound limited large
    rw [firstEnds, secondEnds]
    exact ⟨rfl, rfl, rfl⟩
  · rw [firstWhole large, secondWhole large]
    exact ⟨rfl, rfl, rfl⟩

end

end ChunkStream

end ImageVault
