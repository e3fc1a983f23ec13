import ImageVault.Proofs.Outcome
import ImageVault.Proofs.Uuid
import ImageVault.Vault

/-!
# What is recorded of the pipeline

## Main results

* `uploadedRecords_eq`, `failedRecords_eq`, `downloadedRecords_eq`: an event is recorded by
  exactly one record, and this is the record.
* `draft_isQuiet`, `save_isQuiet`: no stage before the end of an upload records an event.

## Proof strategy

An event is recorded if its required arguments are there and its fields can be put together.
The pipeline always gives all arguments, and its durations are numbers, so neither can fail.
-/

namespace ImageVault

/-- A record of an event names the event in a field. -/
def LogRecord.isEvent (record : LogRecord) : Bool :=
  (record.extra.lookup "event").isSome

namespace EventLog

/-! ### The records of events -/

/-- The record of an upload that was stored. -/
def uploadedRecord (row : StoredImage) (duration : Json) : LogRecord :=
  { severity := .info
    source := .service
    message := "Image uploaded: " ++ row.filename
    extra := [("event", .string "image_uploaded"), ("size", .int row.size),
      ("user_id", .string row.ownerId.text), ("image_id", .string row.id.text),
      ("image_filename", .string row.filename), ("duration_ms", duration)]
    traced := false }

/-- The record of an upload that failed: an error with a traceback if the serving side is to
    blame, and a warning otherwise. -/
def failedRecord (owner : Uuid) (failure : Failure) (duration : Json) : LogRecord :=
  { severity :=
      if failure.kind = .persistence ∨ failure.kind = .config then .error else .warning
    source := .service
    message := "Image upload failed: " ++ failure.code ++ " - " ++ failure.message
    extra := [("event", .string "image_upload_failed"), ("reason", .string failure.code),
      ("error", .string failure.message), ("user_id", .string owner.text),
      ("duration_ms", duration)]
    traced := failure.kind = .persistence ∨ failure.kind = .config }

/-- The record of a download. An empty name is left out of the fields. -/
def downloadedRecord (row : StoredImage) (duration : Json) : LogRecord :=
  { severity := .info
    source := .service
    message := "Image downloaded: " ++ row.filename
    extra := [("event", .string "image_downloaded"), ("size", .int row.size)]
      ++ (if row.filename = "" then [] else [("image_filename", .string row.filename)])
      ++ [("duration_ms", duration)]
    traced := false }

theorem isServerSide_iff (kind : FailureKind) :
    kind.isServerSide = true ↔ kind = .persistence ∨ kind = .config := by
  cases kind <;> simp [FailureKind.isServerSide]

/-! ### Events that can be recorded -/

/-- With all its required arguments and with fields, an event is recorded once. -/
theorem eventRecords_eq {kind : EventKind} {arguments extra : Json.Members}
    (unnamed : arguments.lookup "logger" = none)
    (complete : ∀ name ∈ kind.required, (arguments.lookup name).isSome = true)
    (fields : kind.fields arguments = .ok extra) :
    Vault.eventRecords kind arguments =
      let serious := kind = .uploadFailed && isSwitchedOn arguments "include_traceback"
      [{ severity :=
          if serious then .error else if kind = .uploadFailed then .warning else .info
         source := .service
         message := kind.message arguments
         extra := extra
         traced := serious }] := by
  have present : (kind.required.filter fun name => (arguments.lookup name).isNone) = [] := by
    rw [List.filter_eq_nil_iff]
    intro name required
    simpa using complete name required
  simp [Vault.eventRecords, EventKind.entry, unnamed, present, fields]

theorem text_isTruthy (id : Uuid) : (Json.string id.text).isTruthy = true := by
  have present : id.text ≠ "" := by
    intro empty
    have long := congrArg (fun text => text.toList.length) empty
    simp [Uuid.text, Uuid.chars_length] at long
  simpa [Json.isTruthy] using present

theorem display_string (text : String) : (Json.string text).display = text := rfl

theorem shown_eq {arguments : Json.Members} {name text : String}
    (given : arguments.lookup name = some (.string text)) : shown arguments name = text := by
  rw [shown, given]
  rfl

theorem isSwitchedOn_eq {arguments : Json.Members} {name : String} (value : Bool)
    (given : arguments.lookup name = some (.bool value)) :
    isSwitchedOn arguments name = value := by
  rw [isSwitchedOn, given]
  rfl

theorem failedMessage_eq {arguments : Json.Members} (code message : String)
    (reason : arguments.lookup "reason" = some (.string code))
    (error : arguments.lookup "error" = some (.string message)) :
    EventKind.uploadFailed.message arguments =
      "Image upload failed: " ++ code ++ " - " ++ message := by
  change "Image upload failed: " ++ shown arguments "reason" ++ " - " ++ shown arguments "error"
    = _
  rw [shown_eq reason, shown_eq error]

/-- Durations are whole or real numbers, both of which can be rounded. -/
theorem roundDuration_duration (moment : Moment) :
    ∃ duration, roundDuration moment.duration = .ok duration := by
  unfold Moment.duration Reading.milliseconds
  split
  · exact ⟨_, rfl⟩
  · exact ⟨_, rfl⟩

/-- The fields of an event whose duration can be rounded. -/
theorem extraFields_eq {exact rounded : Json} (rounding : roundDuration exact = .ok rounded)
    {given : Json.Members} (timed : given.lookup "duration_ms" = some exact) (event : Json) :
    extraFields event given = .ok (setField "duration_ms" rounded
      (addGiven "image_filename" (given.lookup "filename") id
        (addGiven "image_id" (given.lookup "image_id") asText
          (addGiven "user_id" (given.lookup "user_id") asText
            (("event", event) :: given.filter fun member => !ownNames.contains member.1))))) := by
  simp only [extraFields, timed]
  split
  next absent => cases absent
  next nothing =>
    cases nothing
    cases rounding
  next present =>
    cases present
    rw [rounding]
    rfl

/-! ### The events of the pipeline -/

section Pipeline

variable (owner : Uuid) (moment : Moment)

theorem uploadedRecords_eq {row : StoredImage} (named : row.filename ≠ "") :
    ∃ duration, roundDuration moment.duration = .ok duration ∧
      Vault.uploadedRecords row.ownerId moment row = [uploadedRecord row duration] := by
  obtain ⟨duration, rounding⟩ := roundDuration_duration moment
  have shown : (Json.string row.filename).isTruthy = true := by simpa [Json.isTruthy] using named
  have fields : EventKind.uploaded.fields
      [("image_id", .string row.id.text), ("user_id", .string row.ownerId.text),
       ("filename", .string row.filename), ("size", .int row.size),
       ("duration_ms", moment.duration)] = .ok (uploadedRecord row duration).extra := by
    simp [EventKind.fields, EventKind.switches, EventKind.name, List.lookup_cons,
      extraFields_eq rounding, ownNames, addGiven, setField, asText, display_string,
      text_isTruthy, shown, uploadedRecord]
  refine ⟨duration, rounding, ?_⟩
  exact eventRecords_eq rfl (by simp [EventKind.required, List.lookup_cons]) fields

theorem failedRecords_eq (failure : Failure) :
    ∃ duration, roundDuration moment.duration = .ok duration ∧
      Vault.failedRecords owner moment failure = [failedRecord owner failure duration] := by
  obtain ⟨duration, rounding⟩ := roundDuration_duration moment
  have fields : EventKind.uploadFailed.fields
      [("user_id", .string owner.text), ("reason", .string failure.code),
       ("error", .string failure.message), ("duration_ms", moment.duration),
       ("include_traceback", .bool failure.kind.isServerSide)] =
        .ok (failedRecord owner failure duration).extra := by
    simp [EventKind.fields, EventKind.switches, EventKind.name, List.lookup_cons,
      extraFields_eq rounding, ownNames, addGiven, setField, asText, display_string,
      text_isTruthy, failedRecord]
  refine ⟨duration, rounding, ?_⟩
  have complete := eventRecords_eq rfl (by simp [EventKind.required, List.lookup_cons]) fields
  rw [Vault.failedRecords, complete]
  rw [isSwitchedOn_eq failure.kind.isServerSide (by simp [List.lookup_cons]),
    failedMessage_eq failure.code failure.message (by simp [List.lookup_cons])
      (by simp [List.lookup_cons])]
  simp [failedRecord, ← isServerSide_iff]

theorem downloadedRecords_eq (row : StoredImage) :
    ∃ duration, roundDuration moment.duration = .ok duration ∧
      Vault.downloadedRecords row.filename moment row = [downloadedRecord row duration] := by
  obtain ⟨duration, rounding⟩ := roundDuration_duration moment
  have fields : EventKind.downloaded.fields
      [("filename", .string row.filename), ("size", .int row.size),
       ("duration_ms", moment.duration)] = .ok (downloadedRecord row duration).extra := by
    by_cases empty : row.filename = "" <;>
      simp [EventKind.fields, EventKind.switches, EventKind.name, List.lookup_cons,
        extraFields_eq rounding, ownNames, addGiven, setField, Json.isTruthy, empty,
        downloadedRecord]
  refine ⟨duration, rounding, ?_⟩
  exact eventRecords_eq rfl (by simp [EventKind.required, List.lookup_cons]) fields

end Pipeline

end EventLog

/-! ### Stages that record no events -/

/-- No record of the outcome is that of an event. -/
def Outcome.IsQuiet {α : Type} (outcome : Outcome α) : Prop :=
  ∀ record ∈ outcome.logs, record.isEvent = false

namespace Outcome

variable {α β : Type}

theorem isQuiet_ofFaulty (result : Except Fault α) : (ofFaulty result).IsQuiet :=
  fun _ member => by cases member

theorem IsQuiet.after {outcome : Outcome α} {logs : List LogRecord} (quiet : outcome.IsQuiet)
    (before : ∀ record ∈ logs, record.isEvent = false) : (outcome.after logs).IsQuiet := by
  intro record member
  rcases List.mem_append.mp member with first | later
  · exact before record first
  · exact quiet record later

/-- Steps in a row are quiet if each of them is, the second one for what the first gave. -/
theorem IsQuiet.bind {outcome : Outcome α} {next : α → Outcome β} (quiet : outcome.IsQuiet)
    (continued : ∀ value, outcome.result = .ok value → (next value).IsQuiet) :
    (outcome >>= next).IsQuiet := by
  change (outcome.andThen next).IsQuiet
  unfold andThen
  split
  next value reached => exact (continued value reached).after quiet
  next => exact quiet

end Outcome

theorem LogRecord.plain_isEvent (severity : Severity) (source : LogSource) (message : String) :
    (plain severity source message).isEvent = false :=
  rfl

/-- The only record of receiving tells how the stream broke off. -/
theorem ChunkStream.receive_logs (stream : ChunkStream) (limit : Option Int) :
    ∀ record ∈ (stream.receive limit).logs, record.isEvent = false := by
  have broken : ∀ consumed received interruption,
      ∀ record ∈ (interrupted consumed received interruption).logs, record.isEvent = false := by
    intro consumed received interruption record member
    unfold interrupted at member
    split at member
    · cases member
    · rw [List.mem_singleton.mp member]
      exact LogRecord.plain_isEvent _ _ _
  have finished : ∀ record ∈ stream.finish.logs, record.isEvent = false := by
    intro record member
    unfold finish at member
    split at member
    · exact broken _ _ _ record member
    · cases member
  intro record member
  unfold receive at member
  split at member
  · exact finished record member
  · split at member
    · cases member
    · exact finished record member

theorem Identification.identify_logs {content : Bytes} {mime : String} {found : Identified}
    (identified : identify content mime = .ok found) :
    ∀ record ∈ found.logs, record.isEvent = false := by
  simp only [identify, bind_eq_ok_iff, pure_eq_ok] at identified
  obtain ⟨type, -, picture, -, same⟩ := identified
  cases same
  intro record member
  unfold warnings at member
  split at member
  · cases member
  · rw [List.mem_singleton.mp member]
    simp [mismatch, LogRecord.isEvent, List.lookup_cons]

namespace Store

variable (store : Store)

theorem save_isQuiet (id owner : Uuid) (image : NewImage) :
    (store.save id owner image).2.IsQuiet := by
  have refused : ∀ message text, (refusal message text image).IsQuiet := by
    intro message text record member
    rw [List.mem_singleton.mp member]
    exact LogRecord.plain_isEvent _ _ _
  unfold save
  split
  · exact refused _ _
  · split
    · exact Outcome.isQuiet_ofFaulty (.error _)
    · split
      · exact Outcome.isQuiet_ofFaulty (.ok _)
      · exact refused _ _

theorem download_isQuiet (filename : String) : (store.download filename).IsQuiet := by
  unfold download
  split
  · exact Outcome.isQuiet_ofFaulty (.error _)
  · split
    · exact Outcome.isQuiet_ofFaulty (.ok _)
    · exact Outcome.isQuiet_ofFaulty (.error _)

theorem info_isQuiet (id : Uuid) : (store.info id).IsQuiet := by
  unfold Store.info
  split
  · exact Outcome.isQuiet_ofFaulty (.error _)
  · split
    · exact Outcome.isQuiet_ofFaulty (.ok _)
    · exact Outcome.isQuiet_ofFaulty (.error _)

end Store

theorem Vault.draft_isQuiet (policy : Policy) (stream : ChunkStream) (declared : Option String)
    (moment : Moment) : (draft policy stream declared moment).IsQuiet := by
  unfold draft
  refine Outcome.IsQuiet.bind ?_ fun content _ => ?_
  · exact (Outcome.isQuiet_ofFaulty _).after (stream.receive_logs policy.sizeLimit)
  refine Outcome.IsQuiet.bind (Outcome.isQuiet_ofFaulty _) fun found identified => ?_
  refine Outcome.IsQuiet.bind ?_ fun url _ => ?_
  · exact (Outcome.isQuiet_ofFaulty _).after (Identification.identify_logs identified)
  · exact Outcome.isQuiet_ofFaulty (.ok _)

end ImageVault
