import ImageVault.EventLog.Call
import ImageVault.Proofs.EventLog.Line

/-!
# What calls do to the log

## Main results

* `configure_cases`: a configuration has one of four outcomes, each with what it leaves behind.
* `perform_of_asks`: a call for an entry writes it and leaves the setup alone.
* `run_of_configured`, `run_fresh`: a log that is configured stays as it is, and without a
  configuration that succeeds it is never configured.

## Proof strategy

Every outcome of a configuration is a rule of `Configures`, and all else is read off these
rules. Only a configuration touches the setup, so what holds of a run follows by induction on
its calls.
-/

namespace ImageVault.EventLog

/-! ### One call -/

/-- A call asks for an entry: directly, or as the entry of an event that can be recorded. -/
inductive Call.Asks : Call → String → Entry → Prop where
  | write (logger : String) (entry : Entry) : Asks (.write logger entry) logger entry
  | record {kind : EventKind} {arguments : Json.Members} {failing : Bool} {entry : Entry}
      (logger : String) (made : kind.entry arguments failing = .ok entry) :
      Asks (.record logger kind arguments failing) logger entry

/-- Arguments that name no service are refused for their number. -/
theorem named_ne_setup (arguments : List Json) (fault : SetupFault) :
    named arguments ≠ .error (.setup fault) := by
  unfold named
  split <;> simp

namespace Setup

section

variable {setup : Setup} {arguments : List Json} {service level : Json}

theorem perform_of_misfit {fault : CallFault} (misfit : named arguments = .error fault) :
    setup.perform (.configure arguments) = (setup, .error fault) := by
  simp only [perform, misfit]

/-- A log that is configured already keeps its setup. -/
theorem perform_of_kept (configured : setup.configured = true)
    (fitting : named arguments = .ok (service, level)) :
    setup.perform (.configure arguments) = (setup, .ok []) := by
  simp [perform, fitting, configure, configured]

/-- A configuration with a known threshold succeeds. -/
theorem perform_of_known (fresh : setup.configured = false)
    (fitting : named arguments = .ok (service, level)) {threshold : Threshold}
    (known : thresholdOf level = .ok threshold) :
    setup.perform (.configure arguments) = (⟨service, .stamping, threshold, true⟩, .ok []) := by
  simp [perform, fitting, configure, fresh, known]

/-- A configuration whose threshold is refused leaves the service and an output behind. -/
theorem perform_of_refused (fresh : setup.configured = false)
    (fitting : named arguments = .ok (service, level)) {fault : SetupFault}
    (unknown : thresholdOf level = .error fault) :
    setup.perform (.configure arguments) =
      (⟨service, .plain, setup.threshold, false⟩, .error (.setup fault)) := by
  simp [perform, fitting, configure, fresh, unknown]

end

/-- How a configuration ends: the arguments are not one or two, the log is configured already,
    the threshold is known, or it is refused. -/
inductive Configures (setup : Setup) (arguments : List Json) : Setup → Answer → Prop where
  | unnamed {fault : CallFault} (misfit : named arguments = .error fault) :
      Configures setup arguments setup (.error fault)
  | kept {service level : Json} (fitting : named arguments = .ok (service, level))
      (configured : setup.configured = true) : Configures setup arguments setup (.ok [])
  | settled {service level : Json} {threshold : Threshold}
      (fitting : named arguments = .ok (service, level)) (fresh : setup.configured = false)
      (known : thresholdOf level = .ok threshold) :
      Configures setup arguments ⟨service, .stamping, threshold, true⟩ (.ok [])
  | refused {service level : Json} {fault : SetupFault}
      (fitting : named arguments = .ok (service, level)) (fresh : setup.configured = false)
      (unknown : thresholdOf level = .error fault) :
      Configures setup arguments ⟨service, .plain, setup.threshold, false⟩
        (.error (.setup fault))

theorem configure_cases {setup next : Setup} {arguments : List Json} {answer : Answer}
    (performed : setup.perform (.configure arguments) = (next, answer)) :
    Configures setup arguments next answer := by
  cases fitting : named arguments with
  | error fault =>
    cases (perform_of_misfit fitting).symm.trans performed
    exact .unnamed fitting
  | ok given =>
    obtain ⟨service, level⟩ := given
    cases state : setup.configured with
    | true =>
      cases (perform_of_kept state fitting).symm.trans performed
      exact .kept fitting state
    | false =>
      cases known : thresholdOf level with
      | ok threshold =>
        cases (perform_of_known state fitting known).symm.trans performed
        exact .settled fitting state known
      | error fault =>
        cases (perform_of_refused state fitting known).symm.trans performed
        exact .refused fitting state known

theorem perform_of_asks {call : Call} {logger : String} {entry : Entry}
    (asks : call.Asks logger entry) (setup : Setup) :
    setup.perform call = (setup, setup.answer logger entry) := by
  cases asks with
  | write logger entry => rfl
  | record logger made => simp only [perform, made]

/-- Only a configuration touches the setup. -/
theorem perform_cases (setup : Setup) (call : Call) :
    (∃ arguments, call = .configure arguments) ∨ (setup.perform call).1 = setup := by
  cases call with
  | configure arguments => exact Or.inl ⟨arguments, rfl⟩
  | write logger entry => exact Or.inr rfl
  | record logger kind arguments failing =>
    right
    simp only [perform]
    split <;> rfl

variable {setup : Setup}

/-- A log that is configured stays as it is. -/
theorem perform_of_configured (configured : setup.configured = true) (call : Call) :
    (setup.perform call).1 = setup := by
  rcases setup.perform_cases call with ⟨arguments, rfl⟩ | kept
  · cases performed : setup.perform (.configure arguments) with
    | mk next answer =>
      cases configure_cases performed with
      | unnamed => rfl
      | kept => rfl
      | settled fitting fresh => simp [configured] at fresh
      | refused fitting fresh => simp [configured] at fresh
  · exact kept

/-- No configuration of a log that is configured is refused for its threshold. -/
theorem not_refused_of_configured (configured : setup.configured = true) (arguments : List Json)
    (fault : SetupFault) :
    (setup.perform (.configure arguments)).2 ≠ .error (.setup fault) := by
  intro failed
  cases performed : setup.perform (.configure arguments) with
  | mk next answer =>
    rw [performed] at failed
    cases configure_cases performed with
    | unnamed misfit =>
      cases failed
      exact named_ne_setup arguments fault misfit
    | kept => cases failed
    | settled => cases failed
    | refused fitting fresh => simp [configured] at fresh

/-- A configuration with these arguments succeeds. -/
def Accepts (setup : Setup) (arguments : List Json) : Prop :=
  (setup.perform (.configure arguments)).2 = .ok []

/-- Where nothing has configured the log, a configuration succeeds if its arguments name a
    service and a known threshold, and these are what it sets. -/
theorem settled_of_accepts (fresh : setup.configured = false) {arguments : List Json}
    (accepted : setup.Accepts arguments) :
    ∃ service level threshold, named arguments = .ok (service, level) ∧
      thresholdOf level = .ok threshold ∧
      (setup.perform (.configure arguments)).1 = ⟨service, .stamping, threshold, true⟩ := by
  unfold Accepts at accepted
  cases performed : setup.perform (.configure arguments) with
  | mk next answer =>
    rw [performed] at accepted
    cases configure_cases performed with
    | unnamed => cases accepted
    | kept fitting configured => simp [fresh] at configured
    | settled fitting _ known => exact ⟨_, _, _, fitting, known, rfl⟩
    | refused => cases accepted

/-! ### What a call for an entry answers -/

section

variable {entry : Entry}

theorem answer_of_disabled (slight : entry.severity.rank < setup.threshold.rank)
    (logger : String) : setup.answer logger entry = .ok [] := by
  rw [answer, write_of_disabled slight]
  rfl

theorem answer_of_taken (enabled : setup.threshold.rank ≤ entry.severity.rank)
    (taken : entry.IsTaken) (logger : String) :
    ∃ field, setup.answer logger entry = .error (.taken field) := by
  obtain ⟨field, refused⟩ := write_of_taken enabled taken logger
  exact ⟨field, by rw [answer, refused]; rfl⟩

theorem answer_of_untaken (present : setup.output ≠ .absent)
    (enabled : setup.threshold.rank ≤ entry.severity.rank) (untaken : ¬ entry.IsTaken)
    (logger : String) : setup.answer logger entry = .ok [setup.line logger entry] := by
  rw [answer, write_of_untaken enabled untaken, if_neg present]
  rfl

end

/-! ### A run -/

theorem run_cons (setup : Setup) (call : Call) (rest : List Call) :
    (setup.run (call :: rest)).1 = ((setup.perform call).1.run rest).1 :=
  rfl

theorem run_append (setup : Setup) (before after : List Call) :
    (setup.run (before ++ after)).1 = ((setup.run before).1.run after).1 := by
  induction before generalizing setup with
  | nil => rfl
  | cons call rest ih =>
    rw [List.cons_append, run_cons, run_cons]
    exact ih (setup.perform call).1

theorem run_of_configured (configured : setup.configured = true) (calls : List Call) :
    (setup.run calls).1 = setup := by
  induction calls with
  | nil => rfl
  | cons call rest ih => rw [run_cons, perform_of_configured configured, ih]

/-- One of the calls is a configuration that succeeds. -/
inductive Settles : Setup → List Call → Prop where
  | here {setup : Setup} {arguments : List Json} {rest : List Call}
      (accepted : setup.Accepts arguments) : Settles setup (.configure arguments :: rest)
  | later {setup : Setup} {call : Call} {rest : List Call}
      (settles : Settles (setup.perform call).1 rest) : Settles setup (call :: rest)

/-- A call that leaves a log configured found it so, or is a configuration that succeeds. -/
theorem settles_of_perform {call : Call} (fresh : setup.configured = false)
    (configured : (setup.perform call).1.configured = true) (rest : List Call) :
    setup.Settles (call :: rest) := by
  rcases setup.perform_cases call with ⟨arguments, rfl⟩ | kept
  · refine .here ?_
    unfold Accepts
    cases performed : setup.perform (.configure arguments) with
    | mk next answer =>
      rw [performed] at configured
      cases configure_cases performed with
      | unnamed => simp [fresh] at configured
      | kept => rfl
      | settled => rfl
      | refused => cases configured
  · rw [kept, fresh] at configured
    cases configured

/-- Without a configuration that succeeds, a log stays unconfigured. -/
theorem run_fresh (fresh : setup.configured = false) {calls : List Call}
    (unsettled : ¬ setup.Settles calls) : (setup.run calls).1.configured = false := by
  -- A refused configuration changes the setup, so the induction is for any that is not configured.
  induction calls generalizing setup with
  | nil => exact fresh
  | cons call rest ih =>
    refine ih ?_ fun settles => unsettled (.later settles)
    rw [Bool.eq_false_iff]
    exact fun configured => unsettled (settles_of_perform fresh configured rest)

/-- The setup after these calls, where nothing was configured before. -/
def reached (calls : List Call) : Setup :=
  (initial.run calls).1

end Setup

end ImageVault.EventLog
