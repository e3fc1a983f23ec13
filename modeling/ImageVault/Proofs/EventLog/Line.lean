import ImageVault.EventLog.Setup
import ImageVault.Proofs.Metrics.Series

/-!
# Lines of the log

## Main results

* `write_of_disabled`, `write_of_taken`, `write_of_untaken`: what comes of an entry. One that is
  too slight is passed over, one with a field whose name is taken is refused, and any other one
  makes one line if there is an output.
* `line_tells`: the line of an output that stamps shows the entry and the name of the service,
  also if the entry has a field of that name.

## Proof strategy

A field is set in its place, or behind the others (`Series.update`), so names that are distinct
stay distinct. The fields that a record has by itself are not among those of the entry.
-/

namespace ImageVault.EventLog

/-! ### Fields -/

theorem setField_eq_update (name : String) (value : Json) (fields : Json.Members) :
    setField name value fields = Series.update name value (fun _ => value) fields := by
  induction fields with
  | nil => rfl
  | cons field rest ih =>
    obtain ⟨key, old⟩ := field
    rw [setField, Series.update, ih]

theorem lookup_setField (name : String) (value : Json) (fields : Json.Members) :
    (setField name value fields).lookup name = some value := by
  induction fields with
  | nil => simp [setField]
  | cons field rest ih =>
    obtain ⟨key, old⟩ := field
    rw [setField]
    by_cases hit : key = name
    · simp [hit]
    · have other : (name == key) = false := by simpa using fun same => hit same.symm
      rw [if_neg hit, List.lookup_cons, other]
      exact ih

/-- A field that is set is one of the fields; the others keep their names. -/
theorem mem_names_setField {name key : String} {value : Json} {fields : Json.Members}
    (member : key ∈ (setField name value fields).map (·.1)) :
    key = name ∨ key ∈ fields.map (·.1) := by
  rw [setField_eq_update, Series.labels_update] at member
  split at member
  next => exact Or.inr member
  next =>
    rcases List.mem_append.mp member with old | new
    · exact Or.inr old
    · exact Or.inl (List.mem_singleton.mp new)

theorem nodup_names_setField {fields : Json.Members} (distinct : (fields.map (·.1)).Nodup)
    (name : String) (value : Json) : ((setField name value fields).map (·.1)).Nodup := by
  rw [setField_eq_update, Series.labels_update]
  split
  next => exact distinct
  next fresh =>
    refine List.nodup_append.mpr ⟨distinct, by simp, ?_⟩
    rintro key old new added rfl
    exact fresh (List.mem_singleton.mp added ▸ old)

/-- Names between names of a list of their own, which holds none of them. -/
theorem nodup_between {own front names behind : List String} (single : (front ++ behind).Nodup)
    (inside : front ++ behind ⊆ own) (distinct : names.Nodup)
    (apart : ∀ name ∈ names, name ∉ own) : (front ++ names ++ behind).Nodup := by
  have moved : (front ++ names ++ behind).Perm (front ++ behind ++ names) := by
    rw [List.append_assoc, List.append_assoc]
    exact List.perm_append_comm.append_left front
  rw [moved.nodup_iff, List.nodup_append]
  refine ⟨single, distinct, ?_⟩
  rintro name known _ member rfl
  exact apart name member (inside known)

/-! ### What comes of an entry -/

/-- How severe an entry has to be. Where there is no threshold, nothing is too slight. -/
def Threshold.rank : Threshold → Nat
  | none => 0
  | some least => least.rank

/-- A field of the entry has a name that each record has for itself. -/
def Entry.IsTaken (entry : Entry) : Prop :=
  ∃ field ∈ entry.extra, field.1 ∈ Setup.recordFields

namespace Setup

variable {setup : Setup} {entry : Entry}

theorem isEnabled_iff (setup : Setup) (severity : Severity) :
    setup.isEnabled severity = true ↔ setup.threshold.rank ≤ severity.rank := by
  unfold isEnabled Threshold.rank
  cases setup.threshold <;> simp

theorem write_of_disabled (slight : entry.severity.rank < setup.threshold.rank)
    (logger : String) : setup.write logger entry = .ok [] := by
  have disabled : setup.isEnabled entry.severity = false := by
    rw [Bool.eq_false_iff, Ne, isEnabled_iff]
    omega
  simp [write, disabled]

theorem write_of_taken (enabled : setup.threshold.rank ≤ entry.severity.rank)
    (taken : entry.IsTaken) (logger : String) :
    ∃ field, setup.write logger entry = .error field := by
  have written := (setup.isEnabled_iff entry.severity).mpr enabled
  rw [write, if_neg (by simp [written])]
  cases found : entry.extra.find? fun field => recordFields.contains field.1 with
  | some field => exact ⟨field.1, rfl⟩
  | none =>
    obtain ⟨field, member, known⟩ := taken
    exact absurd known (by simpa using List.find?_eq_none.mp found field member)

/-- An entry that is written makes one line, and none without an output. -/
theorem write_of_untaken (enabled : setup.threshold.rank ≤ entry.severity.rank)
    (untaken : ¬ entry.IsTaken) (logger : String) :
    setup.write logger entry =
      .ok (if setup.output = .absent then [] else [setup.line logger entry]) := by
  have written := (setup.isEnabled_iff entry.severity).mpr enabled
  have unknown : (entry.extra.find? fun field => recordFields.contains field.1) = none := by
    rw [List.find?_eq_none]
    intro field member known
    exact untaken ⟨field, member, by simpa using known⟩
  rw [write, if_neg (by simp [written]), unknown]

end Setup

/-! ### What a line tells -/

/-- The line shows the entry of a logger and the name of a service, and no field twice. -/
structure Tells (line service : Json) (logger : String) (entry : Entry) : Prop where
  service : line.member? "service" = some service
  severity : line.member? "levelname" = some (.string entry.severity.name)
  logger : line.member? "name" = some (.string logger)
  message : line.member? "message" = some (.string entry.message)
  distinct : (entry.extra.map (·.1)).Nodup →
    ∃ fields, line = .object fields ∧ (fields.map (·.1)).Nodup

namespace Setup

variable {setup : Setup} {entry : Entry}

/-- The parts of a line that is stamped. -/
theorem line_of_stamping (stamping : setup.output = .stamping) (logger : String)
    (entry : Entry) :
    setup.line logger entry = .object
      ([("levelname", .string entry.severity.name), ("name", .string logger),
        ("message", .string entry.message)] ++
        setField "service" setup.service (entry.extra.filter fun field => isWritten field.1) ++
        if entry.traced then [("exc_info", .bool true)] else []) := by
  simp [line, stamping]

theorem line_tells (stamping : setup.output = .stamping) (untaken : ¬ entry.IsTaken)
    (logger : String) : Tells (setup.line logger entry) setup.service logger entry := by
  rw [line_of_stamping stamping]
  constructor
  · simp [Json.member?, List.lookup_append, List.lookup_cons, lookup_setField]
  · rfl
  · rfl
  · rfl
  · intro distinct
    have shown : ((entry.extra.filter fun field => isWritten field.1).map (·.1)).Nodup :=
      distinct.sublist (List.filter_sublist.map _)
    have apart : ∀ name ∈ (setField "service" setup.service
        (entry.extra.filter fun field => isWritten field.1)).map (·.1), name ∉ recordFields := by
      intro name member
      rcases mem_names_setField member with rfl | extra
      · decide
      · obtain ⟨field, kept, rfl⟩ := List.mem_map.mp extra
        exact fun known => untaken ⟨field, (List.mem_filter.mp kept).1, known⟩
    refine ⟨_, rfl, ?_⟩
    -- The fields that are set stand between those that each record has by itself.
    rw [List.map_append, List.map_append]
    refine nodup_between ?_ ?_ (nodup_names_setField shown "service" setup.service) apart
    · cases entry.traced <;> simp
    · cases entry.traced <;> simp [recordFields]

end Setup

end ImageVault.EventLog
