import Gutter.Proofs.Grouping

/-!
# What a level keeps

A level drops the records whose code is below it, so level 2 is there to keep errors only. But a
code above 2 is no error: it passes every level that an error passes, and becomes a warning. A
level above 2 therefore drops the errors and keeps such warnings, and at level 2 they are the
warnings that are left.
-/

namespace Gutter

namespace Issue

theorem severity_ofRecord_eq_warning_iff_lt {r : Record} (h : 2 ≤ r.severity) :
    (ofRecord r).severity = .warning ↔ 2 < r.severity := by
  rw [severity_ofRecord_eq_warning_iff]
  exact ⟨fun hne => UInt8.lt_of_le_of_ne h hne.symm, fun hlt => (UInt8.ne_of_lt hlt).symm⟩

theorem passes_as_warning_iff {r : Record} :
    (2 ≤ r.severity ∧ (ofRecord r).severity = .warning) ↔ 2 < r.severity := by
  constructor
  · rintro ⟨hlevel, hwarning⟩
    exact (severity_ofRecord_eq_warning_iff_lt hlevel).mp hwarning
  · intro hlt
    have hlevel : 2 ≤ r.severity := UInt8.le_of_lt hlt
    exact ⟨hlevel, (severity_ofRecord_eq_warning_iff_lt hlevel).mpr hlt⟩

end Issue

namespace Findings

variable {records : List Record} {level : UInt8} {severity : Severity}

/-- The errors among the findings are all errors that the records report. -/
def KeepsErrors (f : Findings) (records : List Record) : Prop :=
  f.issues.filter (·.severity = .error) =
    (records.map Issue.ofRecord).filter (·.severity = .error)

/-- There are warnings among the findings, but not all errors that the records report. -/
def HidesErrors (f : Findings) (records : List Record) : Prop :=
  (∃ issue ∈ f.issues, issue.severity = .warning) ∧ ¬ f.KeepsErrors records

theorem keepsErrors_iff :
    (ofRecords records level).KeepsErrors records ↔ ∀ r ∈ records, r.severity = 2 → level ≤ 2 := by
  constructor
  · intro h r hr hsevere
    have hmem : Issue.ofRecord r ∈ (records.map Issue.ofRecord).filter (·.severity = .error) :=
      List.mem_filter.mpr ⟨List.mem_map_of_mem hr,
        decide_eq_true (Issue.severity_ofRecord_eq_error_iff.mpr hsevere)⟩
    rw [← h] at hmem
    obtain ⟨hissue, herror⟩ := List.mem_filter.mp hmem
    obtain ⟨kept, -, hlevel, heq⟩ := mem_issues_ofRecords.mp hissue
    rw [← heq, decide_eq_true_eq, Issue.severity_ofRecord_eq_error_iff] at herror
    rwa [herror] at hlevel
  · intro h
    rw [KeepsErrors, issues_ofRecords, List.filter_map, List.filter_map, List.filter_filter]
    refine congrArg _ (List.filter_congr fun r hr => ?_)
    by_cases hsevere : r.severity = 2
    · simp [hsevere, h r hr hsevere]
    · simp [Issue.severity_ofRecord_eq_error_iff, hsevere]

/-- Something of a severity is kept exactly if it was reported and passes the level. -/
theorem exists_issue_ofRecords :
    (∃ issue ∈ (ofRecords records level).issues, issue.severity = severity) ↔
      ∃ r ∈ records, level ≤ r.severity ∧ (Issue.ofRecord r).severity = severity := by
  constructor
  · rintro ⟨issue, hissue, hs⟩
    obtain ⟨r, hr, hlevel, rfl⟩ := mem_issues_ofRecords.mp hissue
    exact ⟨r, hr, hlevel, hs⟩
  · rintro ⟨r, hr, hlevel, hs⟩
    exact ⟨_, mem_issues_ofRecords.mpr ⟨r, hr, hlevel, rfl⟩, hs⟩

/-! ## Errors and warnings -/

/-- Errors are hidden behind warnings by the levels above 2 and by no others, as soon as a code
reaches the level. -/
theorem hidesErrors_iff :
    (ofRecords records level).HidesErrors records ↔
      2 < level ∧ (∃ r ∈ records, r.severity = 2) ∧ ∃ r ∈ records, level ≤ r.severity := by
  rw [HidesErrors, keepsErrors_iff, exists_issue_ofRecords]
  constructor
  · rintro ⟨⟨r, hr, hlevel, -⟩, hkeeps⟩
    push Not at hkeeps
    obtain ⟨x, hx, hsevere, hlt⟩ := hkeeps
    exact ⟨UInt8.not_le.mp hlt, ⟨x, hx, hsevere⟩, r, hr, hlevel⟩
  · rintro ⟨hlt, ⟨x, hx, hsevere⟩, r, hr, hlevel⟩
    have hne : r.severity ≠ 2 := (UInt8.ne_of_lt (UInt8.lt_of_lt_of_le hlt hlevel)).symm
    exact ⟨⟨r, hr, hlevel, Issue.severity_ofRecord_eq_warning_iff.mpr hne⟩,
      fun hkeeps => UInt8.not_le.mpr hlt (hkeeps x hx hsevere)⟩

theorem warnings_ofRecords (h : 2 ≤ level) :
    (ofRecords records level).issues.filter (·.severity = .warning) =
      (records.filter fun r => level ≤ r.severity ∧ 2 < r.severity).map Issue.ofRecord := by
  rw [issues_ofRecords, List.filter_map, List.filter_filter]
  refine congrArg _ (List.filter_congr fun r _ => ?_)
  by_cases hlevel : level ≤ r.severity
  · simp [hlevel, Issue.severity_ofRecord_eq_warning_iff_lt (UInt8.le_trans h hlevel)]
  · simp [hlevel]

/-- At level 2, lines are marked as warnings if a code above 2 is reported on them, but no error. -/
theorem warnings_ne_nil_iff :
    MarkedLines.linesOf (ofRecords records 2).byLine .warning ≠ [] ↔
      ∃ r ∈ records, 2 < r.severity ∧
        ∀ x ∈ records, (Issue.ofRecord x).line = (Issue.ofRecord r).line → x.severity ≠ 2 := by
  constructor
  · intro h
    obtain ⟨line, hline⟩ := List.exists_mem_of_ne_nil _ h
    obtain ⟨⟨r, hr, hlevel, rfl⟩, hnone⟩ := mem_warnings_ofRecords.mp hline
    refine ⟨r, hr, UInt8.lt_of_le_of_ne hlevel (hnone r hr hlevel rfl).symm, fun x hx hl hs => ?_⟩
    exact hnone x hx (by rw [hs]; exact UInt8.le_refl 2) hl hs
  · rintro ⟨r, hr, hlt, hnone⟩
    exact List.ne_nil_of_mem <| mem_warnings_ofRecords.mpr
      ⟨⟨r, hr, UInt8.le_of_lt hlt, rfl⟩, fun x hx _ => hnone x hx⟩

/-- What a level makes of the records of a check: when it hides an error behind a warning, and which
warnings it keeps. -/
structure Sifted (records : List Record) (level : UInt8) : Prop where
  hides_iff : (ofRecords records level).HidesErrors records ↔
    2 < level ∧ (∃ r ∈ records, r.severity = 2) ∧ ∃ r ∈ records, level ≤ r.severity
  warnings : 2 ≤ level → (ofRecords records level).issues.filter (·.severity = .warning) =
    (records.filter fun r => level ≤ r.severity ∧ 2 < r.severity).map Issue.ofRecord

end Findings

end Gutter
