import Mathlib.Order.Nat
import ImageVault.Proofs.Upload

/-!
# Reading a stream chunk by chunk

## Main result

`receive_reads_exactly`: what comes of a stream is told by the rules of `Reads`, down to the
number of chunks that are pulled, the failure, its cause and the warning that is logged.

## Proof strategy

Receiving is a loop that pulls a chunk, adds it to a buffer and looks at the limit
(`receive_eq_readFrom`). Before each turn the buffer holds what was pulled so far, and no
earlier prefix of the stream exceeded the limit. One turn preserves this or stops at the first
prefix that is too long (`readFrom_pulled_cons`), so by induction on the chunks that are left
the loop stops there (`readFrom_of_exceeds`) or comes to the end (`readFrom_of_within`).
-/

namespace ImageVault.ChunkStream

/-! ### What is to come of a stream -/

/-- The first `count` chunks are longer than the limit. -/
def Exceeds (limit : Int) (chunks : List Bytes) (count : Nat) : Prop :=
  1 ≤ count ∧ count ≤ chunks.length ∧ limit < (chunks.take count).flatten.length

/-- No number of chunks exceeds the limit, if there is one. -/
def Within (limit : Option Int) (chunks : List Bytes) : Prop :=
  ∀ bound, limit = some bound → ∀ count, ¬Exceeds bound chunks count

/-- What comes of a stream. A limit counts before an interruption, which counts before the
    content. -/
inductive Reads (limit : Option Int) (stream : ChunkStream) : Intake → Prop
  | exceeded {bound : Int} {count : Nat} :
      limit = some bound →
      IsLeast {count | Exceeds bound stream.chunks count} count →
      Reads limit stream ⟨count, .error (tooLarge bound), none, []⟩
  | refused {failure : Failure} :
      Within limit stream.chunks →
      stream.interruption = some (.failure failure) →
      failure.kind = .read ∨ failure.kind = .payloadTooLarge →
      Reads limit stream ⟨stream.chunks.length, .error failure, none, []⟩
  | broken {interruption : Interruption} :
      Within limit stream.chunks →
      stream.interruption = some interruption →
      (∀ failure, interruption = .failure failure →
        failure.kind ≠ .read ∧ failure.kind ≠ .payloadTooLarge) →
      Reads limit stream
        ⟨stream.chunks.length, .error (brokenOff interruption), some interruption,
          [interruptionWarning stream.chunks.flatten.length interruption]⟩
  | whole :
      Within limit stream.chunks →
      stream.interruption = none →
      Reads limit stream ⟨stream.chunks.length, .ok stream.chunks.flatten, none, []⟩

/-! ### The loop -/

/-- The end of the chunks, after so many of them that make up the buffer. -/
def readEnd (interruption : Option Interruption) (consumed : Nat) (buffer : Bytes) : Intake :=
  match interruption with
  | some interruption => interrupted consumed buffer.length interruption
  | none => ⟨consumed, .ok buffer, none, []⟩

/-- Pulls the chunks that are left. Each one is added to the buffer before the limit is
    looked at, so the chunk that is too much has been pulled. -/
def readFrom (limit : Option Int) (interruption : Option Interruption) (consumed : Nat)
    (buffer : Bytes) : List Bytes → Intake
  | [] => readEnd interruption consumed buffer
  | chunk :: rest =>
    match limit with
    | none => readFrom none interruption (consumed + 1) (buffer ++ chunk) rest
    | some bound =>
      if bound < (buffer ++ chunk).length then
        ⟨consumed + 1, .error (tooLarge bound), none, []⟩
      else readFrom (some bound) interruption (consumed + 1) (buffer ++ chunk) rest

variable (limit : Option Int) (interruption : Option Interruption)

theorem readFrom_none (consumed : Nat) (buffer : Bytes) (rest : List Bytes) :
    readFrom none interruption consumed buffer rest =
      readEnd interruption (consumed + rest.length) (buffer ++ rest.flatten) := by
  induction rest generalizing consumed buffer with
  | nil => simp [readFrom]
  | cons chunk rest ih =>
    have counted : consumed + 1 + rest.length = consumed + (chunk :: rest).length := by
      rw [List.length_cons]
      omega
    rw [readFrom, ih, counted, List.append_assoc, List.flatten_cons]

/-- The loop finds the first chunk that is too much by looking at the length of its buffer. -/
theorem readFrom_some (bound : Int) (consumed : Nat) (buffer : Bytes) (rest : List Bytes) :
    readFrom (some bound) interruption consumed buffer rest =
      match firstExcess? bound buffer.length rest with
      | some count => ⟨consumed + count, .error (tooLarge bound), none, []⟩
      | none => readEnd interruption (consumed + rest.length) (buffer ++ rest.flatten) := by
  -- The count and the buffer differ from turn to turn, so the induction is for all of them.
  induction rest generalizing consumed buffer with
  | nil => simp [readFrom, firstExcess?]
  | cons chunk rest ih =>
    simp only [readFrom, firstExcess?, List.length_append]
    split
    · rfl
    · rw [ih, List.length_append]
      cases firstExcess? bound (buffer.length + chunk.length) rest with
      | none =>
        have counted : consumed + 1 + rest.length = consumed + (chunk :: rest).length := by
          rw [List.length_cons]
          omega
        simp only [Option.map_none, counted, List.append_assoc, List.flatten_cons]
      | some count =>
        have counted : consumed + 1 + count = consumed + (count + 1) := by omega
        simp only [Option.map_some, counted]

/-- Receiving a stream is running the loop with nothing in its buffer. -/
theorem receive_eq_readFrom (stream : ChunkStream) :
    stream.receive limit = readFrom limit stream.interruption 0 [] stream.chunks := by
  have finished : stream.finish =
      readEnd stream.interruption stream.chunks.length stream.chunks.flatten := rfl
  cases limit with
  | none => rw [readFrom_none, Nat.zero_add, List.nil_append, ← finished, receive]
  | some bound =>
    rw [readFrom_some, Nat.zero_add, List.nil_append, ← finished, receive, List.length_nil]
    cases firstExcess? bound 0 stream.chunks with
    | none => rfl
    | some count => simp only [Nat.zero_add]

/-! ### One turn -/

theorem flatten_concat (pulled : List Bytes) (chunk : Bytes) :
    (pulled ++ [chunk]).flatten = pulled.flatten ++ chunk := by
  rw [List.flatten_append, List.flatten_singleton]

/-- The chunks up to the one that is pulled next. -/
theorem exceeds_next_iff (bound : Int) (pulled : List Bytes) (chunk : Bytes)
    (rest : List Bytes) :
    Exceeds bound (pulled ++ chunk :: rest) (pulled.length + 1) ↔
      bound < (pulled ++ [chunk]).flatten.length := by
  have next : (pulled ++ chunk :: rest).take (pulled.length + 1) = pulled ++ [chunk] := by
    rw [List.take_length_add_append, List.take_succ_cons, List.take_zero]
  unfold Exceeds
  rw [next, List.length_append, List.length_cons]
  constructor
  · exact fun exceeds => exceeds.2.2
  · exact fun exceeds => ⟨by omega, by omega, exceeds⟩

/-- A turn of the loop, with what was pulled in the buffer: it stops if the chunks up to this
    one exceed the limit, and otherwise goes on with one chunk more in the buffer. -/
theorem readFrom_pulled_cons (pulled : List Bytes) (chunk : Bytes) (rest : List Bytes) :
    (∀ bound, limit = some bound →
      Exceeds bound (pulled ++ chunk :: rest) (pulled.length + 1) →
      readFrom limit interruption pulled.length pulled.flatten (chunk :: rest) =
        ⟨pulled.length + 1, .error (tooLarge bound), none, []⟩) ∧
    ((∀ bound, limit = some bound →
      ¬Exceeds bound (pulled ++ chunk :: rest) (pulled.length + 1)) →
      readFrom limit interruption pulled.length pulled.flatten (chunk :: rest) =
        readFrom limit interruption (pulled ++ [chunk]).length (pulled ++ [chunk]).flatten
          rest) := by
  have counted : (pulled ++ [chunk]).length = pulled.length + 1 := by
    rw [List.length_append, List.length_singleton]
  constructor
  · rintro bound rfl exceeds
    rw [exceeds_next_iff, flatten_concat] at exceeds
    rw [readFrom, if_pos exceeds]
  · intro within
    cases limit with
    | none => rw [readFrom, counted, flatten_concat]
    | some bound =>
      have fits := within bound rfl
      rw [exceeds_next_iff, flatten_concat] at fits
      rw [readFrom, if_neg fits, counted, flatten_concat]

/-! ### The whole loop -/

variable {limit interruption}

theorem readFrom_of_exceeds {bound : Int} {count : Nat} (pulled rest : List Bytes)
    (least : IsLeast {count | Exceeds bound (pulled ++ rest) count} count)
    (ahead : pulled.length < count) :
    readFrom (some bound) interruption pulled.length pulled.flatten rest =
      ⟨count, .error (tooLarge bound), none, []⟩ := by
  induction rest generalizing pulled with
  | nil =>
    -- The first excess is still ahead, but no chunk is left for it.
    have reached : count ≤ (pulled ++ []).length := least.1.2.1
    rw [List.append_nil] at reached
    omega
  | cons chunk rest ih =>
    by_cases now : count = pulled.length + 1
    · subst now
      exact (readFrom_pulled_cons (some bound) interruption pulled chunk rest).1 bound rfl least.1
    · -- The first excess comes later, so this chunk still fits.
      have later : pulled.length + 1 < count := by omega
      have fits : ¬Exceeds bound (pulled ++ chunk :: rest) (pulled.length + 1) := by
        intro exceeds
        have first : count ≤ pulled.length + 1 := least.2 exceeds
        omega
      have turn := (readFrom_pulled_cons (some bound) interruption pulled chunk rest).2
      rw [turn]
      · apply ih
        · rwa [List.append_assoc, List.singleton_append]
        · rwa [List.length_append, List.length_singleton]
      · intro other same
        cases same
        exact fits

theorem readFrom_of_within (pulled rest : List Bytes) (within : Within limit (pulled ++ rest)) :
    readFrom limit interruption pulled.length pulled.flatten rest =
      readEnd interruption (pulled ++ rest).length (pulled ++ rest).flatten := by
  induction rest generalizing pulled with
  | nil => rw [readFrom, List.append_nil]
  | cons chunk rest ih =>
    have turn := (readFrom_pulled_cons limit interruption pulled chunk rest).2
      fun bound limited => within bound limited (pulled.length + 1)
    -- The chunk passes from what is left to what was pulled; the stream is the same.
    have shifted : pulled ++ chunk :: rest = pulled ++ [chunk] ++ rest := by
      rw [List.append_assoc, List.singleton_append]
    rw [shifted] at within ⊢
    rw [turn]
    exact ih (pulled ++ [chunk]) within

/-! ### The rules decide -/

theorem failedRead?_eq_some_iff (interruption : Interruption) (failure : Failure) :
    interruption.failedRead? = some failure ↔
      interruption = .failure failure ∧
        (failure.kind = .read ∨ failure.kind = .payloadTooLarge) := by
  have readKind : ∀ kind : FailureKind,
      kind.refines.contains .read = true ↔ kind = .read ∨ kind = .payloadTooLarge := by
    intro kind
    cases kind <;> decide
  cases interruption with
  | system fault message => simp [Interruption.failedRead?]
  | failure given =>
    simp only [Interruption.failedRead?, Interruption.failure.injEq]
    split
    next kept =>
      rw [readKind] at kept
      constructor
      · intro same
        cases same
        exact ⟨rfl, kept⟩
      · rintro ⟨rfl, -⟩
        rfl
    next other =>
      rw [readKind] at other
      constructor
      · intro same
        cases same
      · rintro ⟨rfl, kept⟩
        exact absurd kept other

/-- A stream that stays within its limit is read to its end. -/
theorem receive_of_within {stream : ChunkStream} (within : Within limit stream.chunks) :
    stream.receive limit =
      readEnd stream.interruption stream.chunks.length stream.chunks.flatten := by
  rw [receive_eq_readFrom]
  exact readFrom_of_within [] stream.chunks within

theorem Reads.eq_receive {stream : ChunkStream} {intake : Intake}
    (reads : Reads limit stream intake) : stream.receive limit = intake := by
  cases reads with
  | @exceeded bound count limited least =>
    subst limited
    rw [receive_eq_readFrom]
    exact readFrom_of_exceeds [] stream.chunks least least.1.1
  | @refused failure within interrupted kept =>
    have failed := (failedRead?_eq_some_iff (.failure failure) failure).mpr ⟨rfl, kept⟩
    rw [receive_of_within within, interrupted]
    simp only [readEnd, ChunkStream.interrupted, failed]
  | @broken interruption within interrupted other =>
    have unfailed : interruption.failedRead? = none := by
      cases failed : interruption.failedRead? with
      | none => rfl
      | some failure =>
        obtain ⟨same, kept⟩ := (failedRead?_eq_some_iff interruption failure).mp failed
        obtain ⟨noRead, fits⟩ := other failure same
        rcases kept with read | large
        · exact absurd read noRead
        · exact absurd large fits
    rw [receive_of_within within, interrupted]
    simp only [readEnd, ChunkStream.interrupted, unfailed]
  | whole within uninterrupted =>
    rw [receive_of_within within, uninterrupted]
    rfl

/-- Either some first prefix of the stream exceeds the limit, or none does. -/
theorem exists_reads (limit : Option Int) (stream : ChunkStream) :
    ∃ intake, Reads limit stream intake := by
  by_cases within : Within limit stream.chunks
  · cases broken : stream.interruption with
    | none => exact ⟨_, .whole within broken⟩
    | some interruption =>
      cases failed : interruption.failedRead? with
      | some failure =>
        obtain ⟨rfl, kept⟩ := (failedRead?_eq_some_iff interruption failure).mp failed
        exact ⟨_, .refused within broken kept⟩
      | none =>
        refine ⟨_, .broken within broken fun failure same => ?_⟩
        have neither : ¬(failure.kind = .read ∨ failure.kind = .payloadTooLarge) := by
          intro kept
          have found := (failedRead?_eq_some_iff interruption failure).mpr ⟨same, kept⟩
          rw [failed] at found
          cases found
        exact not_or.mp neither
  · simp only [Within, not_forall, not_not] at within
    obtain ⟨bound, limited, some_excess⟩ := within
    -- Of the numbers of chunks that exceed the limit one is the least.
    classical
    exact ⟨_, .exceeded limited (Nat.isLeast_find some_excess)⟩

/-- Nothing but the whole stream is ever handed on. -/
theorem Reads.of_ok {stream : ChunkStream} {intake : Intake} {content : Bytes}
    (reads : Reads limit stream intake) (received : intake.outcome = .ok content) :
    content = stream.chunks.flatten ∧ intake.consumed = stream.chunks.length ∧
      stream.interruption = none := by
  cases reads with
  | exceeded => cases received
  | refused => cases received
  | broken => cases received
  | whole within uninterrupted =>
    cases received
    exact ⟨rfl, rfl, uninterrupted⟩

/-- A stream that ends without a failure of its own can only be too large or break off. -/
theorem receive_eq_error {stream : ChunkStream}
    (unfailed : ∀ failure, stream.interruption ≠ some (.failure failure))
    {failure : Failure} (refused : (stream.receive limit).outcome = .error failure) :
    (∃ bound, limit = some bound ∧ failure = tooLarge bound) ∨
      ∃ interruption, failure = brokenOff interruption := by
  obtain ⟨intake, reads⟩ := exists_reads limit stream
  rw [reads.eq_receive] at refused
  cases reads with
  | exceeded limited =>
    cases refused
    exact Or.inl ⟨_, limited, rfl⟩
  | refused _ interrupted => exact absurd interrupted (unfailed _)
  | broken =>
    cases refused
    exact Or.inr ⟨_, rfl⟩
  | whole => cases refused

/-- What comes of a stream is what the rules say: reading stops at the first chunk that
    exceeds the limit, and then an interruption behind the chunks has no influence; a failed
    read that ends the stream is handed on as it is; what else ends it becomes the cause of a
    failed read and is warned about; and a stream that ends well gives all of its bytes. A
    part of a stream is never given. -/
theorem receive_reads_exactly (limit : Option Int) (stream : ChunkStream) (intake : Intake) :
    (stream.receive limit = intake ↔ Reads limit stream intake) ∧
    (∀ bound count, limit = some bound →
      IsLeast {count | Exceeds bound stream.chunks count} count →
      (tooLarge bound).kind = .payloadTooLarge ∧
      (tooLarge bound).details = [("max_size", .int bound)] ∧
      ∀ interruption, ({ stream with interruption } : ChunkStream).receive limit =
        ⟨count, .error (tooLarge bound), none, []⟩) ∧
    (∀ received interruption, (brokenOff interruption).kind = .read ∧
      (interruptionWarning received interruption).severity = .warning) ∧
    (∀ content, (stream.receive limit).outcome = .ok content →
      content = stream.chunks.flatten ∧ (stream.receive limit).consumed = stream.chunks.length ∧
        stream.interruption = none) := by
  -- Some intake follows the rules, and whatever follows them is what is received.
  obtain ⟨actual, follows⟩ := exists_reads limit stream
  have same := follows.eq_receive
  refine ⟨⟨?_, Reads.eq_receive⟩, ?_, fun _ _ => ⟨rfl, rfl⟩, ?_⟩
  · rintro rfl
    rw [same]
    exact follows
  · intro bound count limited least
    refine ⟨rfl, rfl, fun interruption => ?_⟩
    have exceeds : Reads limit ({ stream with interruption } : ChunkStream)
        ⟨count, .error (tooLarge bound), none, []⟩ := .exceeded limited least
    exact exceeds.eq_receive
  · intro content received
    rw [same] at received ⊢
    exact follows.of_ok received

end ImageVault.ChunkStream
