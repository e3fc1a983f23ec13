import ImageVault.Proofs.EventLog
import ImageVault.Proofs.Http.Download
import ImageVault.Proofs.Metrics
import ImageVault.Session

/-!
# Accounting for a session

## Main result

`pipeline_is_accounted`: after any session of direct operations, what is counted for the
pipeline is what happened in it, label by label and size by size, and each upload and each
download has left exactly the record of the event that it was.

## Proof strategy

How an upload or a download ends decides what is counted and recorded of it, and all other
operations count and record nothing (`perform_metrics`, `perform_recorded`). So one operation
adds to the accounts what its reply adds to the session (`Accounts.book`), and a session is
accounted for by induction on its operations.
-/

namespace ImageVault

/-! ### What happened -/

/-- An operation and how it ended. -/
abbrev Exchange := Operation × Reply

namespace Exchange

/-- The row that an upload stored. -/
def uploaded? : Exchange → Option StoredImage
  | (.upload .., .stored outcome) => outcome.result.toOption
  | _ => none

/-- The failure of the pipeline that an upload ended with. -/
def failed? : Exchange → Option Failure
  | (.upload .., .stored outcome) =>
    match outcome.result with
    | .error (.failure failure) => some failure
    | _ => none
  | _ => none

/-- The row that a download gave. -/
def downloaded? : Exchange → Option StoredImage
  | (.download .., .stored outcome) => outcome.result.toOption
  | _ => none

end Exchange

/-- Requests apart, operations are accounted for by their replies. -/
def Operation.isDirect : Operation → Bool
  | .request .. => false
  | _ => true

/-! ### What is due to be counted -/

namespace Metrics

/-- What is counted for the pipeline is what happened in it. -/
structure Accounts (metrics : Metrics) (exchanges : List Exchange) : Prop where
  uploads : ∀ mime, metrics.uploads.count mime =
    (exchanges.filterMap Exchange.uploaded?).countP (·.mime = mime)
  failures : ∀ code, metrics.failures.count code =
    (exchanges.filterMap Exchange.failed?).countP (·.code = code)
  sizes : metrics.sizes.Shows sizeBounds ((exchanges.filterMap Exchange.uploaded?).map (·.size))
  downloads : metrics.downloads = (exchanges.filterMap Exchange.downloaded?).length

/-- Counts what came of one exchange. -/
def book (metrics : Metrics) (exchange : Exchange) : Metrics :=
  let metrics := exchange.uploaded?.elim metrics fun row => metrics.uploaded row.mime row.size
  let metrics := exchange.failed?.elim metrics fun failure => metrics.uploadFailed failure.code
  exchange.downloaded?.elim metrics fun _ => metrics.downloaded

/-- Each series is changed by one kind of exchange only. -/
theorem book_eq (metrics : Metrics) (exchange : Exchange) :
    metrics.book exchange =
      { metrics with
        uploads := exchange.uploaded?.elim metrics.uploads fun row =>
          metrics.uploads.increment row.mime
        failures := exchange.failed?.elim metrics.failures fun failure =>
          metrics.failures.increment failure.code
        sizes := exchange.uploaded?.elim metrics.sizes fun row => metrics.sizes.observe row.size
        downloads := exchange.downloaded?.elim metrics.downloads fun _ =>
          metrics.downloads + 1 } := by
  unfold book
  cases exchange.uploaded? <;> cases exchange.failed? <;> cases exchange.downloaded? <;> rfl

variable {metrics : Metrics} {exchanges : List Exchange}

theorem accounts_zero : zero.Accounts [] where
  uploads _ := rfl
  failures _ := rfl
  sizes := Histogram.shows_nothing sizeBounds 0
  downloads := rfl

/-- Each series changes by what the exchange adds to it, and by nothing else. -/
theorem Accounts.book (accounts : metrics.Accounts exchanges) (exchange : Exchange) :
    (metrics.book exchange).Accounts (exchanges ++ [exchange]) where
  uploads mime := by
    rw [book_eq, List.filterMap_append, List.countP_append, ← accounts.uploads]
    cases stored : exchange.uploaded? with
    | none => simp [stored]
    | some row => simp [stored, Tally.count_increment, List.countP_singleton]
  failures code := by
    rw [book_eq, List.filterMap_append, List.countP_append, ← accounts.failures]
    cases refused : exchange.failed? with
    | none => simp [refused]
    | some failure => simp [refused, Tally.count_increment, List.countP_singleton]
  sizes := by
    have ascending : sizeBounds.Pairwise (· ≤ ·) := by decide
    rw [book_eq, List.filterMap_append, List.map_append]
    cases stored : exchange.uploaded? with
    | none => simpa [stored] using accounts.sizes
    | some row => simpa [stored] using accounts.sizes.observe ascending row.size
  downloads := by
    rw [book_eq, List.filterMap_append, List.length_append, ← accounts.downloads]
    cases delivered : exchange.downloaded? with
    | none => simp [delivered]
    | some row => simp [delivered]

end Metrics

/-! ### What is due to be recorded -/

/-- The records of events among the log records. -/
def Outcome.events {α : Type} (outcome : Outcome α) : List LogRecord :=
  outcome.logs.filter LogRecord.isEvent

theorem Outcome.IsQuiet.events_eq {α : Type} {outcome : Outcome α} (quiet : outcome.IsQuiet) :
    outcome.events = [] := by
  refine List.filter_eq_nil_iff.mpr fun record member => ?_
  rw [quiet record member]
  exact Bool.false_ne_true

/-- What is recorded behind a quiet outcome are all the events of it. -/
theorem Outcome.IsQuiet.events_thenLog {α : Type} {outcome : Outcome α} (quiet : outcome.IsQuiet)
    {record : LogRecord} (event : record.isEvent = true) :
    (outcome.thenLog [record]).events = [record] := by
  have before : outcome.logs.filter LogRecord.isEvent = [] := quiet.events_eq
  rw [events, thenLog, List.filter_append, before, List.nil_append, List.filter_cons_of_pos event,
    List.filter_nil]

namespace EventLog

/-- The events due for an upload. What is no failure of the pipeline leaves none. -/
inductive UploadEvents (owner : Uuid) (moment : Moment) :
    Except Fault StoredImage → List LogRecord → Prop
  | uploaded {row : StoredImage} {duration : Json} :
      row.ownerId = owner → roundDuration moment.duration = .ok duration →
      UploadEvents owner moment (.ok row) [uploadedRecord row duration]
  | failed {failure : Failure} {duration : Json} :
      roundDuration moment.duration = .ok duration →
      UploadEvents owner moment (.error (.failure failure)) [failedRecord owner failure duration]
  | unforeseen {fault : Fault} :
      (∀ failure, fault ≠ .failure failure) → UploadEvents owner moment (.error fault) []

/-- The events due for a download: a failed one leaves none. -/
inductive DownloadEvents (moment : Moment) : Except Fault StoredImage → List LogRecord → Prop
  | downloaded {row : StoredImage} {duration : Json} :
      roundDuration moment.duration = .ok duration →
      DownloadEvents moment (.ok row) [downloadedRecord row duration]
  | failed {fault : Fault} : DownloadEvents moment (.error fault) []

end EventLog

/-- Of an exchange the events that are due were recorded, and no others. -/
def Exchange.Recorded : Exchange → Prop
  | (.upload _ _ _ owner moment, .stored outcome) =>
    EventLog.UploadEvents owner moment outcome.result outcome.events
  | (.download _ moment, .stored outcome) =>
    EventLog.DownloadEvents moment outcome.result outcome.events
  | (_, .stored outcome) => outcome.events = []
  | (_, .drafted outcome) => outcome.events = []
  | (_, .described outcome) => outcome.events = []
  | (_, .answered _) => False

/-! ### Uploads and downloads -/

namespace Vault

variable (vault : Vault) (policy : Policy) (stream : ChunkStream) (declared : Option String)
  (owner : Uuid) (moment : Moment)

theorem persist_metrics (drafted : Outcome NewImage) :
    (vault.persist owner moment drafted).1.metrics = vault.metrics := by
  unfold persist
  split <;> rfl

theorem persist_isQuiet {drafted : Outcome NewImage} (quiet : drafted.IsQuiet) :
    (vault.persist owner moment drafted).2.IsQuiet := by
  unfold persist
  split
  · exact quiet
  · exact (vault.store.save_isQuiet _ _ _).after quiet

theorem account_result (ended : Outcome StoredImage) :
    (vault.account owner moment ended).2.result = ended.result := by
  unfold account
  split <;> rfl

theorem account_metrics (ended : Outcome StoredImage) :
    (vault.account owner moment ended).1.metrics =
      vault.metrics.book (.upload policy stream declared owner moment,
        .stored (vault.account owner moment ended).2) := by
  simp only [Metrics.book, Exchange.uploaded?, Exchange.failed?, Exchange.downloaded?,
    account_result]
  unfold account
  split
  next row reached => simp [reached, Except.toOption]
  next failure reached => simp [reached, Except.toOption]
  next fault other reached =>
    cases fault with
    | failure failure => exact (other failure rfl).elim
    | _ => simp [reached, Except.toOption]

/-- One event is recorded at the end, and none before it. -/
theorem account_events {ended : Outcome StoredImage} (quiet : ended.IsQuiet)
    (proper : ∀ row, ended.result = .ok row → row.ownerId = owner ∧ row.filename ≠ "") :
    EventLog.UploadEvents owner moment ended.result
      (vault.account owner moment ended).2.events := by
  unfold account
  split
  next row reached =>
    obtain ⟨rfl, named⟩ := proper row reached
    obtain ⟨duration, rounding, recorded⟩ := EventLog.uploadedRecords_eq moment named
    rw [reached, recorded, quiet.events_thenLog rfl]
    exact .uploaded rfl rounding
  next failure reached =>
    obtain ⟨duration, rounding, recorded⟩ := EventLog.failedRecords_eq owner moment failure
    rw [reached, recorded, quiet.events_thenLog rfl]
    exact .failed rounding
  next fault other reached =>
    rw [reached, quiet.events_eq]
    exact .unforeseen other

theorem upload_metrics :
    (vault.upload policy stream declared owner moment).1.metrics =
      vault.metrics.book (.upload policy stream declared owner moment,
        .stored (vault.upload policy stream declared owner moment).2) := by
  unfold upload
  simp only [account_metrics _ policy stream declared, persist_metrics]

theorem upload_events :
    EventLog.UploadEvents owner moment
      (vault.upload policy stream declared owner moment).2.result
      (vault.upload policy stream declared owner moment).2.events := by
  have quiet := vault.persist_isQuiet owner moment (draft_isQuiet policy stream declared moment)
  have ends := Pipeline.upload_ends vault policy stream declared owner moment
  have same : (vault.upload policy stream declared owner moment).2.result =
      (vault.persist owner moment (draft policy stream declared moment)).2.result :=
    account_result _ owner moment _
  rw [same]
  refine account_events _ owner moment quiet fun row reached => ?_
  rw [same, reached] at ends
  refine ⟨ends.owner_eq, fun unnamed => ?_⟩
  exact ends.filename_plain.1 (by rw [unnamed]; rfl)

theorem download_metrics (filename : String) :
    (vault.download filename moment).1.metrics =
      vault.metrics.book (.download filename moment,
        .stored (vault.download filename moment).2) := by
  unfold download
  dsimp only
  split
  next row found =>
    simp [Metrics.book, Exchange.uploaded?, Exchange.failed?, Exchange.downloaded?, found,
      Except.toOption]
  next fault lost =>
    simp [Metrics.book, Exchange.uploaded?, Exchange.failed?, Exchange.downloaded?, lost,
      Except.toOption]

theorem download_events (filename : String) :
    EventLog.DownloadEvents moment (vault.download filename moment).2.result
      (vault.download filename moment).2.events := by
  have quiet := vault.store.download_isQuiet filename
  unfold download
  dsimp only
  split
  next row found =>
    -- The record names what was asked for, which is the name of the row.
    obtain rfl := Store.filename_of_download found
    obtain ⟨duration, rounding, recorded⟩ := EventLog.downloadedRecords_eq moment row
    rw [recorded, Outcome.result_thenLog, quiet.events_thenLog rfl, found]
    exact .downloaded rounding
  next fault lost =>
    rw [lost, quiet.events_eq]
    exact .failed

/-! ### One operation -/

variable {operation : Operation}

theorem perform_metrics (direct : operation.isDirect = true) :
    (vault.perform operation).1.metrics =
      vault.metrics.book (operation, (vault.perform operation).2) := by
  cases operation with
  | save id owner image => rfl
  | load filename => rfl
  | info id => rfl
  | draft policy stream declared moment => rfl
  | upload policy stream declared owner moment =>
    exact vault.upload_metrics policy stream declared owner moment
  | download filename moment => exact vault.download_metrics moment filename
  | request => cases direct

theorem perform_recorded (direct : operation.isDirect = true) :
    Exchange.Recorded (operation, (vault.perform operation).2) := by
  cases operation with
  | save id owner image => exact (vault.store.save_isQuiet id owner image).events_eq
  | load filename => exact (vault.store.download_isQuiet filename).events_eq
  | info id => exact (vault.store.info_isQuiet id).events_eq
  | draft policy stream declared moment =>
    exact (draft_isQuiet policy stream declared moment).events_eq
  | upload policy stream declared owner moment =>
    exact vault.upload_events policy stream declared owner moment
  | download filename moment => exact vault.download_events moment filename
  | request => cases direct

/-! ### A session -/

/-- The operations of a session, each with its reply. -/
def exchanges (vault : Vault) (operations : List Operation) : List Exchange :=
  operations.zip (vault.run operations).2

theorem exchanges_cons (vault : Vault) (operation : Operation) (rest : List Operation) :
    vault.exchanges (operation :: rest) =
      (operation, (vault.perform operation).2) :: (vault.perform operation).1.exchanges rest :=
  rfl

/-- Every operation has its reply. -/
theorem exchanges_operations (vault : Vault) (operations : List Operation) :
    (vault.exchanges operations).map (·.1) = operations := by
  induction operations generalizing vault with
  | nil => rfl
  | cons operation rest ih => rw [exchanges_cons, List.map_cons, ih]

/-- The session is accounted for behind whatever was accounted for before it. -/
theorem run_accounts {vault : Vault} {before : List Exchange} (operations : List Operation)
    (direct : ∀ operation ∈ operations, operation.isDirect = true)
    (accounts : vault.metrics.Accounts before) :
    (vault.run operations).1.metrics.Accounts (before ++ vault.exchanges operations) := by
  induction operations generalizing vault before with
  | nil =>
    rw [exchanges, List.zip_nil_left, List.append_nil]
    exact accounts
  | cons operation rest ih =>
    have first := accounts.book (operation, (vault.perform operation).2)
    rw [← perform_metrics vault (direct operation List.mem_cons_self)] at first
    have later := ih (fun other member => direct other (List.mem_cons_of_mem _ member)) first
    rw [List.append_assoc, List.singleton_append] at later
    exact later

theorem run_recorded (vault : Vault) (operations : List Operation)
    (direct : ∀ operation ∈ operations, operation.isDirect = true) :
    ∀ exchange ∈ vault.exchanges operations, exchange.Recorded := by
  induction operations generalizing vault with
  | nil => exact fun exchange member => by cases member
  | cons operation rest ih =>
    intro exchange member
    rw [exchanges_cons] at member
    rcases List.mem_cons.mp member with first | later
    · rw [first]
      exact perform_recorded vault (direct operation List.mem_cons_self)
    · exact ih (vault.perform operation).1
        (fun other member => direct other (List.mem_cons_of_mem _ member)) exchange later

/-- In a session of direct operations that starts with nothing counted, the uploads by media
    type, the failures by code, the sizes by bound and the downloads that are counted are those
    that happened, and of each operation the events that are due are recorded, and no others.
    Saving, loading, describing and drafting change no metric at all. -/
theorem pipeline_is_accounted (store : Store) (operations : List Operation)
    (direct : ∀ operation ∈ operations, operation.isDirect = true) :
    let start : Vault := ⟨store, .zero⟩
    (start.run operations).1.metrics.Accounts (start.exchanges operations) ∧
    (∀ exchange ∈ start.exchanges operations, exchange.Recorded) ∧
    (start.exchanges operations).map (·.1) = operations ∧
    (∀ vault id owner image, (perform vault (.save id owner image)).1.metrics = vault.metrics) ∧
    (∀ vault filename, (perform vault (.load filename)).1.metrics = vault.metrics) ∧
    (∀ vault id, (perform vault (.info id)).1.metrics = vault.metrics) ∧
    (∀ vault policy stream declared moment,
      (perform vault (.draft policy stream declared moment)).1.metrics = vault.metrics) := by
  intro start
  refine ⟨?_, run_recorded start operations direct, exchanges_operations start operations,
    fun _ _ _ _ => rfl, fun _ _ => rfl, fun _ _ => rfl, fun _ _ _ _ _ => rfl⟩
  have nothing : start.metrics.Accounts [] := Metrics.accounts_zero
  exact run_accounts operations direct nothing

/-- The smallest bitmap is uploaded, once more in vain, and asked for under another name. -/
def sampleSession (owner : Uuid) (moment : Moment) : List Operation :=
  let stream : ChunkStream :=
    ⟨[[0x50, 0x34, 0x0A, 0x31, 0x20, 0x31, 0x0A], [0x80]], none⟩
  let upload : Operation :=
    .upload ⟨some "http://localhost", some 8⟩ stream (some "image/png") owner moment
  [upload, upload, .download "other.png" moment]

/-- One upload, one failure and no download are counted, as they happened. -/
theorem sample_session_accounted :
    let start : Vault := ⟨.empty .ready, .zero⟩
    let operations := sampleSession ⟨1⟩ ⟨⟨2⟩, ⟨3⟩, 0, .whole 0, .whole 0⟩
    let metrics := (start.run operations).1.metrics
    metrics.Accounts (start.exchanges operations) ∧
      metrics.uploads.count "image/png" = 1 ∧
      metrics.failures.count "PERSISTENCE_ERROR" = 1 ∧ metrics.downloads = 0 := by
  intro start operations metrics
  have direct : ∀ operation ∈ operations, operation.isDirect = true := by
    intro operation member
    simp only [operations, sampleSession, List.mem_cons, List.not_mem_nil, or_false] at member
    rcases member with rfl | rfl | rfl <;> rfl
  exact ⟨(pipeline_is_accounted (.empty .ready) operations direct).1, by decide +kernel⟩

end Vault

end ImageVault
