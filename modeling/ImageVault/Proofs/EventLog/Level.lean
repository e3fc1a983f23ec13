import ImageVault.Proofs.EventLog.Call
import ImageVault.Startup

/-!
# Which thresholds a configuration takes

## Main results

* `level_usable_unless_layout`: every text is taken for a threshold, and for the usual one if it
  names none, except for the names of two things that are no thresholds. These are refused,
  also at startup, and what a refused configuration has begun remains.
* `basic_format_refused`: one of the two names.

## Proof strategy

The outcomes of a configuration are known (`configure_cases`), so what is left is the meaning
of a name: that of a threshold, that of a layout, or any other (`thresholdNamed_of_spells`,
`thresholdNamed_of_layout`, `thresholdNamed_of_unknown`).
-/

namespace ImageVault.EventLog

/-! ### What a name means -/

/-- Names of a threshold, in upper case: its own, and the short forms that two have. -/
inductive Spells : String → Threshold → Prop where
  | own (threshold : Threshold) : Spells threshold.name threshold
  | fatal : Spells "FATAL" (some .critical)
  | warn : Spells "WARN" (some .warning)

/-- The names of a layout, and of the list of layouts. -/
def layoutNames : List String :=
  ["BASIC_FORMAT", "_STYLES"]

/-- The form in which a text is looked up. -/
def upper (level : String) : String :=
  String.ofList (Text.upperPlain level.toList)

theorem thresholdNamed_of_spells {name : String} {threshold : Threshold}
    (spells : Spells name threshold) : thresholdNamed name = .ok threshold := by
  cases spells with
  | own =>
    cases threshold with
    | none => rfl
    | some severity => cases severity <;> rfl
  | fatal => rfl
  | warn => rfl

theorem thresholdNamed_of_layout {name : String} (layout : name ∈ layoutNames) :
    ∃ fault, thresholdNamed name = .error fault := by
  cases layout with
  | head => exact ⟨.layout, rfl⟩
  | tail _ rest =>
    obtain rfl := List.mem_singleton.mp rest
    exact ⟨.layoutList, rfl⟩

theorem thresholdNamed_of_unknown {name : String} (unknown : ∀ threshold, ¬ Spells name threshold)
    (apart : name ∉ layoutNames) : thresholdNamed name = .ok (some .info) := by
  -- A name that is listed is that of a threshold or of a layout; the last case is any other.
  unfold thresholdNamed
  split
  next => exact absurd (.own (some .critical)) (unknown _)
  next => exact absurd .fatal (unknown _)
  next => exact absurd (.own (some .error)) (unknown _)
  next => exact absurd (.own (some .warning)) (unknown _)
  next => exact absurd .warn (unknown _)
  next => rfl
  next => exact absurd (.own (some .debug)) (unknown _)
  next => exact absurd (.own none) (unknown _)
  next => exact absurd (by simp [layoutNames]) apart
  next => exact absurd (by simp [layoutNames]) apart
  next => rfl

/-- Only the names of a layout are refused. -/
theorem layout_of_refused {name : String} {fault : SetupFault}
    (refused : thresholdNamed name = .error fault) : name ∈ layoutNames := by
  rcases Classical.em (∃ threshold, Spells name threshold) with ⟨threshold, spells⟩ | unknown
  · cases (thresholdNamed_of_spells spells).symm.trans refused
  · rw [not_exists] at unknown
    refine Decidable.byContradiction fun apart => ?_
    cases (thresholdNamed_of_unknown unknown apart).symm.trans refused

/-! ### Lines that are not stamped -/

theorem lookup_filter {keep : String → Bool} {name : String} (kept : keep name = true)
    (fields : Json.Members) :
    (fields.filter fun field => keep field.1).lookup name = fields.lookup name := by
  induction fields with
  | nil => rfl
  | cons field rest ih =>
    obtain ⟨key, value⟩ := field
    by_cases same : name = key
    · subst same
      simp [kept]
    · have other : (name == key) = false := by simpa using same
      rw [List.filter_cons, List.lookup_cons, other]
      split
      next => rw [List.lookup_cons, other, ih]
      next => exact ih

namespace Setup

variable {setup : Setup}

/-- A line that is not stamped shows the service that the entry has a field for, if any. -/
theorem service_of_plain (plain : setup.output = .plain) (logger : String) (entry : Entry) :
    (setup.line logger entry).member? "service" = entry.extra.lookup "service" := by
  have kept : isWritten "service" = true := by decide
  have behind : List.lookup "service" (if entry.traced then [("exc_info", Json.bool true)] else [])
      = none := by cases entry.traced <;> rfl
  simp [line, plain, Json.member?, List.lookup_append, List.lookup_cons, behind, lookup_filter kept]

end Setup

/-- The startup is refused where the configuration is. -/
theorem startup_refused_iff (level : String) :
    (∃ fault, Startup.run (.string level) = .error fault) ↔ upper level ∈ layoutNames := by
  cases known : thresholdOf (.string level) with
  | ok threshold =>
    have started : ∃ run, Startup.run (.string level) = .ok run := by
      simp [Startup.run, Setup.configure, Setup.initial, known]
    obtain ⟨run, started⟩ := started
    constructor
    · rintro ⟨fault, refused⟩
      cases started.symm.trans refused
    · intro layout
      obtain ⟨fault, refused⟩ := thresholdNamed_of_layout layout
      cases known.symm.trans refused
  | error fault =>
    refine ⟨fun _ => layout_of_refused known, fun _ => ⟨fault, ?_⟩⟩
    simp [Startup.run, Setup.configure, Setup.initial, known]

/-! ### The outcome for every text -/

/-- Where nothing has configured the log, a text that names a threshold sets this threshold, and
one that names neither a threshold nor a layout sets that of infos. The name of a layout is
refused, also at startup. What fails for the number of its arguments changes nothing; what
fails for its threshold keeps the threshold, but leaves its service behind and an output whose
lines do not show it. -/
theorem level_usable_unless_layout {setup : Setup} (fresh : setup.configured = false) :
    (∀ service level,
      let performed := setup.perform (.configure [service, .string level])
      (∀ threshold, Spells (upper level) threshold →
        performed = (⟨service, .stamping, threshold, true⟩, .ok [])) ∧
      ((∀ threshold, ¬ Spells (upper level) threshold) → upper level ∉ layoutNames →
        performed = (⟨service, .stamping, some .info, true⟩, .ok [])) ∧
      (upper level ∈ layoutNames → ∃ fault,
        performed = (⟨service, .plain, setup.threshold, false⟩, .error (.setup fault)))) ∧
    (∀ level,
      (∃ fault, Startup.run (.string level) = .error fault) ↔ upper level ∈ layoutNames) ∧
    ∀ arguments fault next, setup.perform (.configure arguments) = (next, .error fault) →
      (named arguments = .error fault ∧ next = setup) ∨
      ∃ service level, named arguments = .ok (service, level) ∧
        (∀ text, level = .string text → upper text ∈ layoutNames) ∧
        next = ⟨service, .plain, setup.threshold, false⟩ ∧
        ∀ logger entry, next.threshold.rank ≤ entry.severity.rank → ¬ entry.IsTaken →
          ∃ line, (next.perform (.write logger entry)).2 = .ok [line] ∧
            line.member? "service" = entry.extra.lookup "service" := by
  refine ⟨fun service level => ⟨fun threshold spells => ?_, fun unknown apart => ?_,
    fun layout => ?_⟩, startup_refused_iff, fun arguments fault next failed => ?_⟩
  · have known : thresholdOf (.string level) = .ok threshold := thresholdNamed_of_spells spells
    exact Setup.perform_of_known fresh rfl known
  · have known : thresholdOf (.string level) = .ok (some .info) :=
      thresholdNamed_of_unknown unknown apart
    exact Setup.perform_of_known fresh rfl known
  · obtain ⟨fault, refused⟩ := thresholdNamed_of_layout layout
    have unknown : thresholdOf (.string level) = .error fault := refused
    exact ⟨fault, Setup.perform_of_refused fresh rfl unknown⟩
  · cases Setup.configure_cases failed with
    | unnamed misfit => exact .inl ⟨misfit, rfl⟩
    | refused fitting fresh unknown =>
      -- The output was replaced before the threshold was looked up, and nothing stamps it.
      refine .inr ⟨_, _, fitting, ?_, rfl, fun logger entry enabled untaken => ?_⟩
      · rintro text rfl
        exact layout_of_refused unknown
      · exact ⟨_, Setup.answer_of_untaken (by simp) enabled untaken logger,
          Setup.service_of_plain rfl logger entry⟩

/-- A threshold by its short name, an unknown text, and the list of layouts at startup. -/
theorem levels_of_first_configuration :
    Setup.initial.configured = false ∧
    Setup.initial.perform (.configure [.string "api", .string "warn"]) =
      (⟨.string "api", .stamping, some .warning, true⟩, .ok []) ∧
    Setup.initial.perform (.configure [.string "api", .string "loud"]) =
      (⟨.string "api", .stamping, some .info, true⟩, .ok []) ∧
    (∃ fault, Startup.run (.string "_styles") = .error fault) := by
  obtain ⟨texts, startup, -⟩ := level_usable_unless_layout (rfl : Setup.initial.configured = false)
  obtain ⟨known, -, -⟩ := texts (.string "api") "warn"
  obtain ⟨-, unknown, -⟩ := texts (.string "api") "loud"
  refine ⟨rfl, known _ .warn, unknown ?_ (by decide), (startup "_styles").mpr (by decide)⟩
  intro threshold spells
  generalize spelled : upper "loud" = name at spells
  cases spells with
  | own =>
    cases threshold with
    | none => exact absurd spelled (by decide)
    | some severity => cases severity <;> exact absurd spelled (by decide)
  | fatal => exact absurd spelled (by decide)
  | warn => exact absurd spelled (by decide)

/-- The name of a layout is not that of a threshold, and yet it does not set that of infos: the
configuration is refused, and so is the startup. The service and an output are there afterwards
that were not there before. -/
theorem basic_format_refused :
    (∀ threshold, ¬ Spells (upper "basic_format") threshold) ∧
    Setup.initial.perform (.configure [.string "svc", .string "basic_format"]) =
      (⟨.string "svc", .plain, some .warning, false⟩, .error (.setup .layout)) ∧
    Setup.initial.service = .null ∧ Setup.initial.output = .absent ∧
    Startup.run (.string "basic_format") = .error .layout := by
  have upperName : upper "basic_format" = "BASIC_FORMAT" := rfl
  refine ⟨fun threshold spells => ?_, rfl, rfl, rfl, rfl⟩
  rw [upperName] at spells
  cases thresholdNamed_of_spells spells

end ImageVault.EventLog
