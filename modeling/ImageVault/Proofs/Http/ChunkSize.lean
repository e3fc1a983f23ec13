import ImageVault.Proofs.Http.Site
import ImageVault.Proofs.Upload.Pieces

/-!
# The size of chunks does not show

## Main result

`accepted_sizes_are_invisible`: a file that is read in pieces of any size that it accepts, zero
apart, is received as if it came at once, so a site answers all requests alike and leaves the
same vault behind, whatever the size of its chunks is. Of a file that does not accept the size
nothing is received; that sizes show is then possible (`refused_sizes_show`).

## Proof strategy

Of what is received the pipeline uses the outcome and the log records, and these are the same
for all sizes that are accepted (`receive_stream_alike`). No other part of the site looks at the
size.
-/

namespace ImageVault

open SpooledFile (Accepts)

namespace Vault

/-- An upload does not depend on the size of the pieces that it is read in. -/
theorem upload_stream_alike {room : Nat} {first second : Int} {content : Bytes}
    (firstAccepts : Accepts room content first) (secondAccepts : Accepts room content second)
    (firstNonzero : first ≠ 0) (secondNonzero : second ≠ 0) (vault : Vault) (policy : Policy)
    (declared : Option String) (owner : Uuid) (moment : Moment) :
    vault.upload policy (Upload.stream room first content) declared owner moment =
      vault.upload policy (Upload.stream room second content) declared owner moment := by
  obtain ⟨outcomes, -, records⟩ := ChunkStream.receive_stream_alike firstAccepts secondAccepts
    firstNonzero secondNonzero policy.sizeLimit
  have drafts : draft policy (Upload.stream room first content) declared moment =
      draft policy (Upload.stream room second content) declared moment := by
    simp only [draft, outcomes, records]
  rw [upload, upload, drafts]

end Vault

namespace Site

/-- The part that a request uploads, if it uploads one, accepts the size. -/
def AcceptsUpload (site : Site) (request : Request) (size : Int) : Prop :=
  ∀ part, uploadedPart request = .ok part → Accepts site.room part.content size

variable {first second : Int} {site : Site} {request : Request}

theorem upload_chunkSize (firstAccepts : site.AcceptsUpload request first)
    (secondAccepts : site.AcceptsUpload request second) (firstNonzero : first ≠ 0)
    (secondNonzero : second ≠ 0) (vault : Vault) (moment : Moment) (owner : Uuid) :
    ({ site with chunkSize := first } : Site).upload vault request moment owner =
      ({ site with chunkSize := second } : Site).upload vault request moment owner := by
  unfold upload
  cases chosen : uploadedPart request with
  | error defect => rfl
  | ok part =>
    have same := Vault.upload_stream_alike (firstAccepts part chosen)
      (secondAccepts part chosen) firstNonzero secondNonzero vault site.policy part.contentType
      owner moment
    simp only [policy, stream] at same ⊢
    rw [same]

/-- A site answers alike whatever the size of its chunks is, and leaves the same behind. -/
theorem serve_chunkSize (firstAccepts : site.AcceptsUpload request first)
    (secondAccepts : site.AcceptsUpload request second) (firstNonzero : first ≠ 0)
    (secondNonzero : second ≠ 0) (vault : Vault) (moment : Moment) (elapsed : Float) :
    ({ site with chunkSize := first } : Site).serve vault request moment elapsed =
      ({ site with chunkSize := second } : Site).serve vault request moment elapsed := by
  have dispatched := dispatch_rel Eq (fun _ => rfl) { site with chunkSize := first }
    { site with chunkSize := second } rfl
    (upload_chunkSize firstAccepts secondAccepts firstNonzero secondNonzero vault moment)
  simp only [serve, answer, dispatched]

/-- Reading a file in pieces ends, with pieces that are not empty. If the file accepts the
    size, the pieces hold the file and have the size that was asked for, the last one apart, or
    there is only one if the size is negative; and what is received of them is the whole file,
    or the failure of an oversized payload exactly if the file is longer than the limit. If it
    does not, nothing is received but a failed read, whatever the limit is. So another size
    that is accepted changes nothing: neither what is received nor how a site answers, nor what
    it leaves in the vault. -/
theorem accepted_sizes_are_invisible (room : Nat) (content : Bytes) {size : Int}
    (nonzero : size ≠ 0) {limit : Option Int}
    (proper : ∀ bound, limit = some bound → 0 ≤ bound) :
    let stream := Upload.stream room size content
    let received (size : Int) := ((Upload.stream room size content).receive limit).outcome
    (∀ pieces ending, (SpooledFile.ofContent content).ReadsTo room size pieces ending ↔
      stream = ⟨pieces, ending⟩) ∧
    (∀ piece ∈ stream.chunks, piece ≠ []) ∧
    (Accepts room content size →
      stream.interruption = none ∧ stream.chunks.flatten = content ∧
      (0 < size → (∀ piece ∈ stream.chunks.dropLast, (piece.length : Int) = size) ∧
        ∀ piece ∈ stream.chunks, (piece.length : Int) ≤ size) ∧
      (size < 0 → ∀ piece ∈ stream.chunks, piece = content) ∧
      ((∀ bound, limit = some bound → (content.length : Int) ≤ bound) →
        received size = .ok content) ∧
      (∀ bound, limit = some bound → bound < content.length →
        ∃ failure, received size = .error failure ∧ failure.kind = .payloadTooLarge ∧
          failure.details = [("max_size", .int bound)]) ∧
      ∀ other, other ≠ 0 → Accepts room content other → received other = received size) ∧
    (¬Accepts room content size →
      stream.chunks = [] ∧ ∃ failure, received size = .error failure ∧ failure.kind = .read) ∧
    ∀ (site : Site) vault request moment elapsed other, other ≠ 0 →
      site.AcceptsUpload request size → site.AcceptsUpload request other →
      ({ site with chunkSize := other } : Site).serve vault request moment elapsed =
        ({ site with chunkSize := size } : Site).serve vault request moment elapsed := by
  intro stream received
  have reads := SpooledFile.readsTo_stream room size (SpooledFile.ofContent content)
  refine ⟨SpooledFile.readsTo_iff room size (SpooledFile.ofContent content), reads.ne_nil,
    fun accepts => ?_, fun refused => ?_, ?_⟩
  · obtain ⟨whole, excess⟩ := ChunkStream.receive_stream accepts nonzero limit
    obtain ⟨uninterrupted, flattened⟩ := Upload.stream_of_accepts accepts
    refine ⟨uninterrupted, flattened nonzero, fun positive => reads.length_eq positive,
      fun negative => reads.eq_rest negative, ?_, ?_, ?_⟩
    · intro short
      have fits : ¬ChunkStream.IsTooLarge limit content := by
        rintro ⟨bound, limited, -, longer⟩
        have within := short bound limited
        omega
      simp only [received, whole fits]
    · rintro bound limited longer
      have large : ChunkStream.IsTooLarge limit content := by
        rw [limited, ChunkStream.isTooLarge_iff_of_nonneg (proper bound limited)]
        exact longer
      obtain ⟨count, ends⟩ := excess bound limited large
      exact ⟨ChunkStream.tooLarge bound, by simp only [received, ends], rfl, rfl⟩
    · intro other otherNonzero otherAccepts
      exact (ChunkStream.receive_stream_alike otherAccepts accepts otherNonzero nonzero limit).1
  · obtain ⟨interruption, -, broken⟩ := Upload.stream_of_not_accepts refused
    obtain ⟨other, -, ends⟩ := ChunkStream.receive_stream_of_not_accepts refused limit
    refine ⟨congrArg ChunkStream.chunks broken, ChunkStream.brokenOff other, ?_, rfl⟩
    simp only [received, ends]
  · intro site vault request moment elapsed other otherNonzero accepts otherAccepts
    exact serve_chunkSize otherAccepts accepts otherNonzero nonzero vault moment elapsed

/-- Three bytes in pieces of two, one byte too many. -/
theorem three_bytes_in_twos :
    (SpooledFile.ofContent [1, 2, 3]).ReadsTo 64 2 [[1, 2], [3]] none ∧
      ∃ failure, ((Upload.stream 64 2 [1, 2, 3]).receive (some 2)).outcome = .error failure ∧
        failure.kind = .payloadTooLarge := by
  have proper : ∀ bound, some (2 : Int) = some bound → 0 ≤ bound := by
    intro bound same
    cases same
    decide
  have accepts : Accepts 64 [1, 2, 3] 2 := .of_short (by decide) (by decide)
  obtain ⟨reads, -, whole, -, -⟩ :=
    accepted_sizes_are_invisible 64 [1, 2, 3] (show (2 : Int) ≠ 0 by decide) proper
  obtain ⟨-, -, -, -, -, excess, -⟩ := whole accepts
  obtain ⟨failure, refused, kind, -⟩ := excess 2 rfl (by decide)
  exact ⟨(reads _ _).mpr rfl, failure, refused, kind⟩

/-- A mebibyte and a byte are kept on disk and cannot be read by minus two, and nothing at all
    can be read by a size that is no machine word: chunks of the usual size give the content,
    these sizes a failed read, and there is no limit to blame. -/
theorem refused_sizes_show :
    let content : Bytes := List.replicate 1048577 0
    let received (size : Int) (content : Bytes) :=
      ((Upload.stream 16777216 size content).receive none).outcome
    received 65536 content = .ok content ∧
    received (-2) content = .error (.of .read
      "Failed to read upload: read length must be non-negative or -1" []) ∧
    received 65536 [1, 2, 3] = .ok [1, 2, 3] ∧
    received 9223372036854775808 [1, 2, 3] = .error (.of .read
      "Failed to read upload: cannot fit 'int' into an index-sized integer" []) := by
  intro content received
  have long : content.length = 1048577 := List.length_replicate
  have usual : Accepts 16777216 content 65536 := ⟨by decide, fun _ => by decide⟩
  have negative : ¬Accepts 16777216 content (-2) := by
    intro accepts
    have whole := (accepts.onDisk (by omega)).1
    omega
  have wide : ¬Accepts 16777216 [1, 2, 3] 9223372036854775808 := by
    intro accepts
    have word := accepts.word
    omega
  have unlimited : ∀ content, ¬ChunkStream.IsTooLarge none content := by
    rintro content ⟨bound, limited, -⟩
    cases limited
  have short : Accepts 16777216 [1, 2, 3] 65536 := .of_short (by decide) (by decide)
  refine ⟨?_, ?_, ?_, ?_⟩
  · simp only [received, (ChunkStream.receive_stream usual (by decide) none).1 (unlimited _)]
  · -- The file is too long to be unfolded; that it is kept on disk is all that counts.
    obtain ⟨interruption, found, ends⟩ :=
      ChunkStream.receive_stream_of_not_accepts negative none
    have spooled : SpooledFile.ofContent content = ⟨content, true⟩ := by
      rw [SpooledFile.ofContent, long]
      rfl
    rw [spooled] at found
    cases found
    simp only [received, ends]
    rfl
  · simp only [received, (ChunkStream.receive_stream short (by decide) none).1 (unlimited _)]
  · rfl

end Site

end ImageVault
