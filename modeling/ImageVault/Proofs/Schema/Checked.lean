import Mathlib.Data.List.Nodup
import ImageVault.Proofs.Outcome
import ImageVault.Schema.Checked

/-!
# Documents that are judged field by field

## Main results

* `Judges.refused_iff`: a document is refused exactly if one of its fields has a flaw.
* `Judges.reportsOn_rule`: of each field its own flaw is reported, once, and nothing else.
* `Judges.reportsOn_congr`: what is reported on a field does not depend on the others.

## Proof strategy

The check of a document is put together from checks of single fields. Both ways of putting
checks together keep the reports of their parts, in order, and refuse nothing without a report
(`Judges`). So the reports on one field are those of the rules for it, and distinct fields have
one rule each.
-/

namespace ImageVault.Schema

variable {α β : Type}

/-! ### Rules for fields -/

/-- What is asked of one field: its name, and what is wrong with a value for it. -/
structure Rule where
  name : String
  defect? : Json → Option Defect

namespace Rule

/-- The rule of a field that is read. -/
def reads (name : String) (read : Json → Except Defect α) : Rule where
  name := name
  defect? value :=
    match read value with
    | .ok _ => none
    | .error defect => some defect

/-- What is wrong with the field of a document on its own, be it that it is not there. -/
def flaw? (rule : Rule) (members : Json.Members) : Option Defect :=
  match members.lookup rule.name with
  | some value => rule.defect? value
  | none => some .missing

/-- One report if the field has a flaw, and none otherwise. -/
def reports (rule : Rule) (members : Json.Members) : List Report :=
  ((rule.flaw? members).map (Report.mk [.member rule.name])).toList

/-- Only what is held for the field itself decides on its flaw. -/
theorem flaw?_congr {rule : Rule} {members others : Json.Members}
    (same : others.lookup rule.name = members.lookup rule.name) :
    rule.flaw? others = rule.flaw? members := by
  rw [flaw?, flaw?, same]

theorem reports_eq_nil_iff (rule : Rule) (members : Json.Members) :
    rule.reports members = [] ↔ rule.flaw? members = none := by
  cases flawed : rule.flaw? members <;> simp [reports, flawed]

theorem location_of_mem_reports {rule : Rule} {members : Json.Members} {report : Report}
    (member : report ∈ rule.reports members) : report.location = [.member rule.name] := by
  obtain ⟨defect, -, rfl⟩ := Option.map_eq_some_iff.mp (Option.mem_toList.mp member)
  rfl

end Rule

/-! ### Reports on one field -/

/-- The reports on the field of this name. -/
def reportsOn (name : String) (reports : List Report) : List Report :=
  reports.filter (·.location = [.member name])

theorem reportsOn_reports (rule : Rule) (members : Json.Members) (name : String) :
    reportsOn name (rule.reports members) =
      if rule.name = name then rule.reports members else [] := by
  have located : ∀ report ∈ rule.reports members,
      decide (report.location = [.member name]) = decide (rule.name = name) := by
    intro report member
    rw [Rule.location_of_mem_reports member]
    simp
  rw [reportsOn, List.filter_congr located]
  by_cases same : rule.name = name <;> simp [same]

/-- The reports on a field are those of the rules for it. -/
theorem reportsOn_flatMap (name : String) (rules : List Rule) (members : Json.Members) :
    reportsOn name (rules.flatMap (·.reports members)) =
      (rules.filter (·.name = name)).flatMap (·.reports members) := by
  induction rules with
  | nil => rfl
  | cons rule rest ih =>
    have split : reportsOn name (rule.reports members ++ rest.flatMap (·.reports members)) =
        reportsOn name (rule.reports members) ++
          reportsOn name (rest.flatMap (·.reports members)) := List.filter_append ..
    rw [List.flatMap_cons, split, ih, reportsOn_reports]
    by_cases same : rule.name = name <;> simp [same]

theorem filter_name_of_mem {rules : List Rule} (distinct : (rules.map (·.name)).Nodup)
    {rule : Rule} (member : rule ∈ rules) : rules.filter (·.name = rule.name) = [rule] := by
  induction rules with
  | nil => cases member
  | cons first rest ih =>
    obtain ⟨fresh, others⟩ := List.nodup_cons.mp distinct
    rcases List.mem_cons.mp member with rfl | later
    · -- No other rule has the name again.
      have none : rest.filter (·.name = rule.name) = [] := by
        rw [List.filter_eq_nil_iff]
        intro other inside same
        exact fresh (List.mem_map.mpr ⟨other, inside, of_decide_eq_true same⟩)
      rw [List.filter_cons_of_pos (by simp), none]
    · have apart : first.name ≠ rule.name :=
        fun same => fresh (List.mem_map.mpr ⟨rule, later, same.symm⟩)
      rw [List.filter_cons_of_neg (by simpa using apart), ih others later]

/-! ### Checks by their parts -/

/-- A document has a field of this name, and the field is read as this value. -/
def Gives (members : Json.Members) (name : String) (read : Json → Except Defect α)
    (value : α) : Prop :=
  ∃ given, members.lookup name = some given ∧ read given = .ok value

namespace Checked

theorem map_eq_valid_iff (f : α → β) (checked : Checked α) (result : β) :
    (f <$> checked : Checked β) = .valid result ↔
      ∃ value, checked = .valid value ∧ f value = result := by
  change map f checked = _ ↔ _
  cases checked <;> simp [map]

theorem seq_eq_valid_iff (f : Checked (α → β)) (checked : Checked α) (result : β) :
    (f <*> checked : Checked β) = .valid result ↔
      ∃ g, f = .valid g ∧ ∃ value, checked = .valid value ∧ g value = result := by
  change apply f checked = _ ↔ _
  cases f <;> cases checked <;> simp [apply]

theorem field_eq_valid_iff (read : Json → Except Defect α) (members : Json.Members)
    (name : String) (value : α) :
    field read members name = .valid value ↔ Gives members name read value := by
  unfold field Gives
  cases members.lookup name with
  | none => simp [located]
  | some given => cases result : read given <;> simp [located, result]

/-- The check reports what is wrong with each field, in order and nothing else, and it refuses
nothing without a report. -/
structure Judges (rules : List Rule) (members : Json.Members) (checked : Checked α) : Prop where
  reports_eq : checked.reports = rules.flatMap (·.reports members)
  reasoned : checked ≠ .invalid []

theorem judges_field (read : Json → Except Defect α) (members : Json.Members) (name : String) :
    Judges [.reads name read] members (field read members name) := by
  unfold field
  cases found : members.lookup name with
  | none => constructor <;> simp [located, reports, Rule.reports, Rule.flaw?, Rule.reads, found]
  | some given =>
    cases result : read given <;>
      constructor <;>
        simp [located, reports, Rule.reports, Rule.flaw?, Rule.reads, found, result]

theorem reports_apply (f : Checked (α → β)) (checked : Checked α) :
    (apply f checked).reports = f.reports ++ checked.reports := by
  cases f <;> cases checked <;> simp [apply, reports]

section Judges

variable {rules more : List Rule} {members : Json.Members} {checked : Checked α}

theorem Judges.map (judged : Judges rules members checked) (f : α → β) :
    Judges rules members (f <$> checked : Checked β) := by
  change Judges rules members (Checked.map f checked)
  obtain ⟨reported, reasoned⟩ := judged
  cases checked with
  | valid value => exact ⟨reported, nofun⟩
  | invalid reports => exact ⟨reported, fun empty => reasoned (by cases empty; rfl)⟩

theorem Judges.seq {f : Checked (α → β)} (first : Judges rules members f)
    (second : Judges more members checked) :
    Judges (rules ++ more) members (f <*> checked : Checked β) where
  reports_eq := by
    change (apply f checked).reports = _
    rw [reports_apply, first.reports_eq, second.reports_eq, List.flatMap_append]
  reasoned := by
    change apply f checked ≠ _
    cases f with
    | valid =>
      cases checked with
      | valid => exact nofun
      | invalid => exact fun empty => second.reasoned (by cases empty; rfl)
    | invalid =>
      cases checked with
      | valid => exact fun empty => first.reasoned (by cases empty; rfl)
      | invalid =>
        -- Two lists of reports together are empty only if the first one is.
        intro empty
        obtain ⟨rfl, -⟩ := List.append_eq_nil_iff.mp (Checked.invalid.inj empty)
        exact first.reasoned rfl

/-! ### What is judged -/

theorem Judges.refused_iff (judged : Judges rules members checked) :
    (∃ reports, checked = .invalid reports) ↔
      ∃ rule ∈ rules, ∃ defect, rule.flaw? members = some defect := by
  have silent : checked.reports = [] ↔ ∀ rule ∈ rules, rule.flaw? members = none := by
    rw [judged.reports_eq, List.flatMap_eq_nil_iff]
    simp only [Rule.reports_eq_nil_iff]
  have refused : (∃ reports, checked = .invalid reports) ↔ checked.reports ≠ [] := by
    cases checked with
    | valid => simp [reports]
    | invalid found =>
      have nonempty : found ≠ [] := fun empty => judged.reasoned (congrArg Checked.invalid empty)
      simp [reports, nonempty]
  rw [refused, Ne, silent]
  simp only [not_forall, Option.ne_none_iff_exists', exists_prop]

/-- A field with a flaw is reported once. -/
theorem Judges.reportsOn_rule (judged : Judges rules members checked)
    (distinct : (rules.map (·.name)).Nodup) {rule : Rule} (member : rule ∈ rules) :
    reportsOn rule.name checked.reports = rule.reports members := by
  rw [judged.reports_eq, reportsOn_flatMap, filter_name_of_mem distinct member]
  simp

theorem Judges.location_of_mem (judged : Judges rules members checked) {report : Report}
    (member : report ∈ checked.reports) :
    ∃ rule ∈ rules, report.location = [.member rule.name] := by
  rw [judged.reports_eq] at member
  obtain ⟨rule, inside, reported⟩ := List.mem_flatMap.mp member
  exact ⟨rule, inside, Rule.location_of_mem_reports reported⟩

/-- Documents that hold the same for a field are told the same about it. -/
theorem Judges.reportsOn_congr {others : Json.Members} {other : Checked β} {name : String}
    (judged : Judges rules members checked) (otherJudged : Judges rules others other)
    (same : others.lookup name = members.lookup name) :
    reportsOn name other.reports = reportsOn name checked.reports := by
  rw [judged.reports_eq, otherJudged.reports_eq, reportsOn_flatMap, reportsOn_flatMap]
  refine List.flatMap_congr fun rule member => ?_
  obtain ⟨-, named⟩ := List.mem_filter.mp member
  obtain rfl : rule.name = name := of_decide_eq_true named
  rw [Rule.reports, Rule.reports, Rule.flaw?_congr same]

end Judges

end Checked

/-- A check of documents that judges each field on its own. -/
structure JudgesEach (rules : List Rule) (check : Json.Members → Checked α) : Prop where
  refused_iff : ∀ members, (∃ reports, check members = .invalid reports) ↔
    ∃ rule ∈ rules, ∃ defect, rule.flaw? members = some defect
  once : ∀ members, ∀ rule ∈ rules,
    reportsOn rule.name (check members).reports = rule.reports members
  nothingElse : ∀ members, ∀ report ∈ (check members).reports,
    ∃ rule ∈ rules, report.location = [.member rule.name]
  apart : ∀ members others name, others.lookup name = members.lookup name →
    reportsOn name (check others).reports = reportsOn name (check members).reports

theorem judgesEach_of_judges {rules : List Rule} {check : Json.Members → Checked α}
    (judged : ∀ members, (check members).Judges rules members)
    (distinct : (rules.map (·.name)).Nodup) : JudgesEach rules check where
  refused_iff members := (judged members).refused_iff
  once members _ member := (judged members).reportsOn_rule distinct member
  nothingElse members _ := (judged members).location_of_mem
  apart members others _ := (judged members).reportsOn_congr (judged others)

end ImageVault.Schema
