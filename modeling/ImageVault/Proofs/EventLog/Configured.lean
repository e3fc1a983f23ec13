import ImageVault.Proofs.EventLog.Call

/-!
# A log that is configured once

## Main result

`configured_once`: from the first configuration that succeeds on, its service and its threshold
stay, whatever is called, and every entry from the threshold on makes one line that names this
service.

## Proof strategy

Up to the first success the log is not configured (`run_fresh`), so this configuration decides on
the setup, whatever refused ones have left behind (`settled_of_accepts`). The setup that it makes
is never changed again (`run_of_configured`), and its output is one that stamps.
-/

namespace ImageVault.EventLog

open Setup (reached Settles)

/-- From the first configuration that succeeds on, the setup has the service and the threshold
that this configuration names, and no configuration is refused for its threshold. What asks for
an entry below the threshold writes nothing. At or above it, an entry without a field whose name
is taken makes exactly one line, and the line names this service, also if the entry has a field
for it; an entry with such a field is no record at all, and is refused. -/
theorem configured_once {before : List Call} {arguments : List Json}
    (unsettled : ¬ Settles .initial before) (accepted : (reached before).Accepts arguments) :
    ∃ service level threshold, named arguments = .ok (service, level) ∧
      thresholdOf level = .ok threshold ∧
      ∀ later, let setup := reached (before ++ .configure arguments :: later)
        setup.service = service ∧ setup.threshold = threshold ∧
        (∀ others fault, (setup.perform (.configure others)).2 ≠ .error (.setup fault)) ∧
        ∀ call logger entry, Call.Asks call logger entry →
          (entry.severity.rank < threshold.rank → (setup.perform call).2 = .ok []) ∧
          (threshold.rank ≤ entry.severity.rank → ¬ entry.IsTaken →
            ∃ line, (setup.perform call).2 = .ok [line] ∧ Tells line service logger entry) ∧
          (threshold.rank ≤ entry.severity.rank → entry.IsTaken →
            ∃ field, (setup.perform call).2 = .error (.taken field)) := by
  have fresh : (reached before).configured = false := Setup.run_fresh rfl unsettled
  obtain ⟨service, level, threshold, fitting, known, settled⟩ :=
    Setup.settled_of_accepts fresh accepted
  refine ⟨service, level, threshold, fitting, known, fun later => ?_⟩
  intro setup
  -- The success makes this setup, and nothing that is called later changes it.
  have stays : setup = ⟨service, .stamping, threshold, true⟩ := by
    change (Setup.initial.run (before ++ .configure arguments :: later)).1 = _
    rw [Setup.run_append, Setup.run_cons]
    change (((reached before).perform (.configure arguments)).1.run later).1 = _
    rw [settled, Setup.run_of_configured rfl]
  have output : setup.output = .stamping := by rw [stays]
  have sameService : setup.service = service := by rw [stays]
  have sameThreshold : setup.threshold = threshold := by rw [stays]
  refine ⟨sameService, sameThreshold, fun others fault => ?_, fun call logger entry asks => ?_⟩
  · exact Setup.not_refused_of_configured (by rw [stays]) others fault
  · rw [Setup.perform_of_asks asks, ← sameService, ← sameThreshold]
    exact ⟨fun slight => Setup.answer_of_disabled slight logger,
      fun enabled untaken => ⟨_, Setup.answer_of_untaken (by simp [output]) enabled untaken logger,
        Setup.line_tells output untaken logger⟩,
      fun enabled taken => Setup.answer_of_taken enabled taken logger⟩

/-- A refused configuration leaves its service behind, and the next one replaces it; a third
has no effect. The entry has a service of its own, which the line does not show. -/
theorem second_configuration_stays :
    let setup := reached [.configure [.string "first", .string "basic_format"],
      .configure [.string "second", .string "error"], .configure [.string "third"]]
    setup.service = .string "second" ∧ setup.threshold = some .error ∧
      ∃ line, (setup.perform
          (.write "root" ⟨.critical, "Broken", [("service", .string "mine")], false⟩)).2 =
            .ok [line] ∧
        line.member? "service" = some (.string "second") := by
  have refused : (Setup.initial.perform
      (.configure [.string "first", .string "basic_format"])).2 = .error (.setup .layout) := rfl
  have unsettled :
      ¬ Settles .initial [.configure [.string "first", .string "basic_format"]] := by
    intro settles
    cases settles with
    | here accepted => rw [Setup.Accepts, refused] at accepted; cases accepted
    | later settles => cases settles
  -- The service that was refused is there, but the log is not configured yet.
  have accepted : (reached [.configure [.string "first", .string "basic_format"]]).Accepts
      [.string "second", .string "error"] := rfl
  have error : thresholdOf (.string "error") = .ok (some .error) := rfl
  obtain ⟨service, level, threshold, fitting, known, stays⟩ :=
    configured_once unsettled accepted
  cases fitting
  cases error.symm.trans known
  obtain ⟨sameService, sameThreshold, -, written⟩ := stays [.configure [.string "third"]]
  refine ⟨sameService, sameThreshold, ?_⟩
  obtain ⟨line, answered, tells⟩ := (written _ _ _ (.write "root"
    ⟨.critical, "Broken", [("service", .string "mine")], false⟩)).2.1 (by decide)
      (by simp [Entry.IsTaken, Setup.recordFields])
  exact ⟨line, answered, tells.service⟩

end ImageVault.EventLog
