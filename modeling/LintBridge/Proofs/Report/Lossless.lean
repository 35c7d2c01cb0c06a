import LintBridge.Proofs.Checked
import LintBridge.Proofs.Response.Validated
import LintBridge.Report
import Mathlib.Data.List.Forall2

/-!
# Nothing is lost in a report

A report has an object for each diagnostic, with everything that there is to it. The checks that a
diagnostic goes through when it is read accept what is written for it and find the same in it, part
by part; only the severity, which a report gives by label, has to be put as they expect it first. So
**the diagnostics can be told from the report**, and no two lists of them have the same.

* `LintBridge.Record.check_toJsonWith` – a diagnostic is read back from its object, if its severity
  is read back from the way it is written;
* `LintBridge.Record.IsToldBy` – what an object of a report tells, and at most one diagnostic is
  told by it (`LintBridge.Record.isToldBy_leftUnique`);
* `LintBridge.Report.toJson_lossless` – the main result.
-/

namespace LintBridge

open Json (Value CodePoints)

/-! ### What is written is read back -/

open Checked (seq_of_valid map_of_valid required_of_lookup defaulted_of_lookup)

theorem Checked.text_string (t : CodePoints) : text (.string t) = .valid t :=
  rfl

/-- A missing text and an empty one are told apart. -/
theorem Checked.optional_ofOption (t : Option CodePoints) :
    optional text (.ofOption t) = .valid t := by
  cases t with
  | none => rfl
  | some t => exact map_of_valid some (text_string t)

theorem Severity.check_number (s : Severity) : check (.int s.number) = .valid s := by
  cases s <;> rfl

theorem Severity.ofLabel?_label (s : Severity) : ofLabel? s.label = some s := by
  cases s <;> decide +kernel

theorem Position.check_toJson (p : Position) : check p.toJson = .valid p :=
  seq_of_valid (map_of_valid Position.mk
    (defaulted_of_lookup rfl (Checked.atLeast_zero_eq_valid.mpr rfl)))
    (defaulted_of_lookup rfl (Checked.atLeast_zero_eq_valid.mpr rfl))

/-- The ends of a span are in order, so that the span is not refused. -/
theorem Range.check_toJson (r : Range) : check r.toJson = .valid r := by
  refine Checked.andThen_eq_valid.mpr ⟨_, rfl, ?_⟩
  refine Checked.andThen_eq_valid.mpr ⟨(r.start, r.stop), ?_, between_eq_valid_iff.mpr ⟨rfl, rfl⟩⟩
  exact seq_of_valid (map_of_valid Prod.mk (defaulted_of_lookup rfl r.start.check_toJson))
    (defaulted_of_lookup rfl r.stop.check_toJson)

theorem Location.check_toJson (l : Location) : check l.toJson = .valid l :=
  seq_of_valid (map_of_valid Location.mk (required_of_lookup rfl (Checked.text_string l.uri)))
    (required_of_lookup rfl l.range.check_toJson)

theorem Related.check_toJson (q : Related) : check q.toJson = .valid q :=
  seq_of_valid (map_of_valid Related.mk (required_of_lookup rfl q.location.check_toJson))
    (required_of_lookup rfl (Checked.text_string q.message))

/-- **A diagnostic is read back from its object**, if its severity is read back. -/
theorem Record.check_toJsonWith {r : Record} {write : Severity → Value}
    (h : Severity.check (write r.severity) = .valid r.severity) :
    check (r.toJsonWith write) = .valid r := by
  have hrelated : Checked.tupleOf Related.check (.array (r.related.map Related.toJson)) =
      .valid r.related := Checked.items_map (fun q _ => q.check_toJson) 0
  refine seq_of_valid (seq_of_valid (seq_of_valid (seq_of_valid (seq_of_valid (map_of_valid
    Record.mk ?range) ?message) ?severity) ?code) ?source) ?related
  case range => exact required_of_lookup rfl r.range.check_toJson
  case message => exact required_of_lookup rfl (Checked.text_string r.message)
  case severity => exact required_of_lookup rfl h
  case code => exact defaulted_of_lookup rfl (Checked.optional_ofOption r.code)
  case source => exact defaulted_of_lookup rfl (Checked.text_string r.source)
  case related => exact defaulted_of_lookup rfl hrelated

/-! ### Reports -/

namespace Record

/-- **An object of a report tells a diagnostic**: the severity in it is a label, and with the number
of what the label names in its place, the object passes the checks as that diagnostic. -/
def IsToldBy (r : Record) (object : Response.Fields) : Prop :=
  ∃ (label : String) (s : Severity),
    Json.get? object "severity" = some (.ofString label) ∧ Severity.ofLabel? label = some s ∧
      check (.object (Json.insert object (CodePoints.ofString "severity") (.int s.number))) =
        .valid r

theorem isToldBy_leftUnique : Relator.LeftUnique IsToldBy := by
  rintro r r' object ⟨label, s, hlabel, hs, hr⟩ ⟨label', s', hlabel', hs', hr'⟩
  have hsame : CodePoints.ofString label = CodePoints.ofString label' :=
    Value.string.inj (Option.some.inj (hlabel.symm.trans hlabel'))
  obtain rfl := CodePoints.ofString_injective hsame
  obtain rfl := Option.some.inj (hs.symm.trans hs')
  exact Checked.valid.inj (hr.symm.trans hr')

/-- The object of a diagnostic in a report. -/
def reported (r : Record) : Response.Fields :=
  Response.fieldsOf (r.toJsonWith fun s => .ofString s.label)

theorem object_reported (r : Record) :
    .object r.reported = r.toJsonWith fun s => .ofString s.label :=
  rfl

/-- The label is replaced where it stands, and nothing else in the object changes. -/
theorem object_insert_reported (r : Record) :
    .object (Json.insert r.reported (CodePoints.ofString "severity") (.int r.severity.number)) =
      r.toJson :=
  rfl

theorem isToldBy_reported (r : Record) : r.IsToldBy r.reported := by
  refine ⟨r.severity.label, r.severity, rfl, r.severity.ofLabel?_label, ?_⟩
  rw [object_insert_reported]
  exact check_toJsonWith r.severity.check_number

end Record

namespace Report

theorem toJson_eq (records : List Record) :
    toJson records = .array ((records.map Record.reported).map .object) := by
  rw [toJson, List.map_map]
  exact congrArg Value.array (List.map_congr_left fun r _ => r.object_reported.symm)

/-- **Nothing is lost in a report.** Its value has an object for each diagnostic, in order, and each
object tells its diagnostic: the severity in it is a label, and with that replaced by what it names,
the object is read as the very diagnostic, with its code or without, and with all the places
elsewhere. So different lists of diagnostics have different reports. -/
theorem toJson_lossless :
    (∀ records : List Record, ∃ objects : List Response.Fields,
      toJson records = .array (objects.map .object) ∧
        List.Forall₂ Record.IsToldBy records objects) ∧
    Function.Injective toJson := by
  have htold : ∀ records : List Record,
      List.Forall₂ Record.IsToldBy records (records.map Record.reported) := by
    intro records
    rw [List.forall₂_map_right_iff, List.forall₂_same]
    exact fun r _ => r.isToldBy_reported
  refine ⟨fun records => ⟨_, toJson_eq records, htold records⟩, fun records others h => ?_⟩
  rw [toJson_eq, toJson_eq, Value.array.injEq] at h
  have hobjects := List.map_injective_iff.mpr (fun _ _ => Value.object.inj) h
  have hothers := htold others
  rw [← hobjects] at hothers
  exact List.left_unique_forall₂' Record.isToldBy_leftUnique (htold records) hothers

end Report

end LintBridge
