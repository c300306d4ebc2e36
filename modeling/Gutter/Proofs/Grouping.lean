import Gutter.Proofs.Issues

/-!
# Both views of the findings

What a check has found is stored twice: as one list, and line by line. Both views hold the same
issues, one for each record that is kept, and the marked lines divide the lines that hold an issue.
-/

namespace Gutter

/-! ## From a record to an issue -/

namespace Issue

theorem toNat_zeroBased (n : UInt64) : (zeroBased n).toNat = n.toNat - 1 := by
  unfold zeroBased
  split
  · next h => simp [h]
  · next h =>
    have hpos : 1 ≤ n := by
      rw [UInt64.le_iff_toNat_le, UInt64.toNat_one]
      have hne : n.toNat ≠ 0 := fun h0 => h (UInt64.toNat_inj.mp h0)
      omega
    rw [UInt64.toNat_sub_of_le _ _ hpos, UInt64.toNat_one]

theorem toNat_line_ofRecord (r : Record) : (ofRecord r).line.toNat = r.line.toNat - 1 :=
  toNat_zeroBased r.line

theorem severity_ofRecord_eq_error_iff {r : Record} :
    (ofRecord r).severity = .error ↔ r.severity = 2 := by
  change Severity.ofCode r.severity = .error ↔ _
  unfold Severity.ofCode
  split <;> simp_all

theorem severity_ofRecord_eq_warning_iff {r : Record} :
    (ofRecord r).severity = .warning ↔ r.severity ≠ 2 := by
  rw [ne_eq, ← severity_ofRecord_eq_error_iff]
  cases (ofRecord r).severity <;> simp

end Issue

/-! ## By line -/

namespace SortedTable

variable {κ α : Type} [LT κ] [DecidableLT κ] [DecidableEq κ]

/-- Putting a value at the end of the list of a key adds it to the values of the map. -/
theorem perm_flatMap_alterPairs (k : κ) (a : α) (xs : List (κ × List α)) :
    ((alterPairs k (fun earlier => earlier.getD [] ++ [a]) xs).flatMap Prod.snd).Perm
      (xs.flatMap Prod.snd ++ [a]) := by
  induction xs with
  | nil => exact .refl _
  | cons x xs ih =>
      obtain ⟨k', as⟩ := x
      simp only [alterPairs]
      split
      · exact (List.perm_append_singleton a _).symm
      · split
        · simp only [List.flatMap_cons, Option.getD_some, List.append_assoc]
          exact List.perm_append_comm.append_left as
        · simp only [List.flatMap_cons, List.append_assoc]
          exact ih.append_left as

variable [Std.Irrefl (fun a b : κ => a < b)]

omit [DecidableLT κ] in
theorem mem_keys_iff {t : SortedTable κ α} {k : κ} : k ∈ t.keys ↔ ∃ a, t.get? k = some a := by
  simp [keys, get?_eq_some_iff]

end SortedTable

namespace Findings

/-- The findings hold what the records report: one issue for each, in their order, and line by line
the same issues, where a line shows the first of its gravest ones. -/
structure Holds (f : Findings) (records : List Record) : Prop where
  issues : f.issues = records.map Issue.ofRecord
  perm : (f.byLine.pairs.flatMap Prod.snd).Perm f.issues
  mem_keys : ∀ line, line ∈ f.byLine.keys ↔ ∃ issue ∈ f.issues, issue.line = line
  group : ∀ line issues, f.byLine.get? line = some issues →
    issues = f.issues.filter (·.line = line) ∧ issues ≠ []
  primary : ∀ line issues, f.byLine.get? line = some issues →
    ∃ issue, Issue.primary? issues = some issue ∧ issue.Leads issues

/-- Some lines with an error and some with none are the lines that hold an issue, in order. -/
structure Divides (f : Findings) (marked : MarkedLines) : Prop where
  errors_ascending : marked.errors.Pairwise (· < ·)
  warnings_ascending : marked.warnings.Pairwise (· < ·)
  disjoint : marked.errors.Disjoint marked.warnings
  union : ∀ line, line ∈ marked.errors ∨ line ∈ marked.warnings ↔ line ∈ f.byLine.keys

theorem issues_foldl_push (issues : List Issue) (f : Findings) :
    (issues.foldl push f).issues = f.issues ++ issues := by
  induction issues generalizing f with
  | nil => simp
  | cons issue issues ih => rw [List.foldl_cons, ih, push, List.append_assoc, List.singleton_append]

theorem issues_ofRecords (records : List Record) (level : UInt8) :
    (ofRecords records level).issues =
      (records.filter (fun r => level ≤ r.severity)).map Issue.ofRecord :=
  issues_foldl_push _ clean

theorem mem_issues_ofRecords {records : List Record} {level : UInt8} {issue : Issue} :
    issue ∈ (ofRecords records level).issues ↔
      ∃ r ∈ records, level ≤ r.severity ∧ Issue.ofRecord r = issue := by
  simp [issues_ofRecords, and_assoc]

theorem perm_foldl_push {issues : List Issue} {f : Findings}
    (h : (f.byLine.pairs.flatMap Prod.snd).Perm f.issues) :
    ((issues.foldl push f).byLine.pairs.flatMap Prod.snd).Perm (issues.foldl push f).issues := by
  induction issues generalizing f with
  | nil => exact h
  | cons issue issues ih =>
      exact ih ((SortedTable.perm_flatMap_alterPairs issue.line issue _).trans (h.append_right _))

variable {f : Findings}

theorem Grouped.mem_keys_iff (h : f.Grouped) {line : UInt64} :
    line ∈ f.byLine.keys ↔ ∃ issue ∈ f.issues, issue.line = line := by
  rw [SortedTable.mem_keys_iff, h line]
  by_cases hnil : f.issues.filter (·.line = line) = []
  · simpa [hnil] using List.filter_eq_nil_iff.mp hnil
  · obtain ⟨issue, hissue⟩ := List.exists_mem_of_ne_nil _ hnil
    obtain ⟨hmem, hline⟩ := List.mem_filter.mp hissue
    simp only [hnil, ite_false, Option.some.injEq, exists_eq', true_iff]
    exact ⟨issue, hmem, of_decide_eq_true hline⟩

theorem Grouped.group (h : f.Grouped) {line : UInt64} {issues : List Issue}
    (hget : f.byLine.get? line = some issues) :
    issues = f.issues.filter (·.line = line) ∧ issues ≠ [] := by
  rw [h line] at hget
  split at hget
  · cases hget
  · next hne =>
    obtain rfl := Option.some.inj hget
    exact ⟨rfl, hne⟩

theorem holds_ofRecords (records : List Record) (level : UInt8) :
    (ofRecords records level).Holds (records.filter (fun r => level ≤ r.severity)) where
  issues := issues_ofRecords records level
  perm := perm_foldl_push (f := clean) (.refl _)
  mem_keys _ := (grouped_ofRecords records level).mem_keys_iff
  group _ _ := (grouped_ofRecords records level).group
  primary line issues hget := by
    have hne := ((grouped_ofRecords records level).group hget).2
    obtain ⟨issue, hissue⟩ :=
      Option.ne_none_iff_exists'.mp (mt Issue.primary?_eq_none_iff.mp hne)
    exact ⟨issue, hissue, Issue.leads_of_primary? hissue⟩

theorem mem_keys_ofRecords {records : List Record} {level : UInt8} {line : UInt64} :
    line ∈ (ofRecords records level).byLine.keys ↔
      ∃ r ∈ records, level ≤ r.severity ∧ (Issue.ofRecord r).line = line := by
  rw [(grouped_ofRecords records level).mem_keys_iff]
  constructor
  · rintro ⟨issue, hissue, hline⟩
    obtain ⟨r, hr, hlevel, rfl⟩ := mem_issues_ofRecords.mp hissue
    exact ⟨r, hr, hlevel, hline⟩
  · rintro ⟨r, hr, hlevel, hline⟩
    exact ⟨_, mem_issues_ofRecords.mpr ⟨r, hr, hlevel, rfl⟩, hline⟩

/-! ## The marked lines -/

/-- If no line has an empty list, the marked lines are all lines. -/
theorem Grouped.divides (h : f.Grouped) : f.Divides (.ofLineMap f.byLine) where
  errors_ascending := MarkedLines.ascending_linesOf f.byLine .error
  warnings_ascending := MarkedLines.ascending_linesOf f.byLine .warning
  disjoint _ herror hwarning := (MarkedLines.mem_linesOf_warning.mp hwarning).1 herror
  union line := by
    change line ∈ MarkedLines.linesOf f.byLine .error ∨
      line ∈ MarkedLines.linesOf f.byLine .warning ↔ _
    rw [SortedTable.mem_keys_iff, MarkedLines.mem_linesOf_warning]
    constructor
    · rintro (herror | ⟨-, issues, hget, -⟩)
      · obtain ⟨issues, hget, -⟩ := MarkedLines.mem_linesOf_error.mp herror
        exact ⟨issues, hget⟩
      · exact ⟨issues, hget⟩
    · rintro ⟨issues, hget⟩
      by_cases herror : line ∈ MarkedLines.linesOf f.byLine .error
      · exact .inl herror
      · exact .inr ⟨herror, issues, hget, (h.group hget).2⟩

/-- A line that is marked with a severity holds an issue of it. -/
theorem Grouped.exists_issue_of_linesOf (h : f.Grouped) {severity : Severity}
    (hlines : MarkedLines.linesOf f.byLine severity ≠ []) :
    ∃ issue ∈ f.issues, issue.severity = severity := by
  obtain ⟨line, hline⟩ := List.exists_mem_of_ne_nil _ hlines
  obtain ⟨issues, hget, hprimary⟩ := MarkedLines.mem_linesOf.mp hline
  obtain ⟨issue, hissue, hseverity⟩ := Option.map_eq_some_iff.mp hprimary
  have hmem := Issue.mem_of_primary? hissue
  rw [(h.group hget).1] at hmem
  exact ⟨issue, List.mem_of_mem_filter hmem, hseverity⟩

/-- A line is marked as an error exactly if a record that is kept reports an error on it. -/
theorem mem_errors_ofRecords {records : List Record} {level : UInt8} {line : UInt64} :
    line ∈ (MarkedLines.ofLineMap (ofRecords records level).byLine).errors ↔
      ∃ r ∈ records, level ≤ r.severity ∧ (Issue.ofRecord r).line = line ∧ r.severity = 2 := by
  have hgrouped := grouped_ofRecords records level
  refine MarkedLines.mem_linesOf_error.trans ⟨?_, ?_⟩
  · rintro ⟨issues, hget, issue, hissue, herror⟩
    rw [(hgrouped.group hget).1, List.mem_filter, decide_eq_true_eq,
      mem_issues_ofRecords] at hissue
    obtain ⟨⟨r, hr, hlevel, rfl⟩, hline⟩ := hissue
    exact ⟨r, hr, hlevel, hline, Issue.severity_ofRecord_eq_error_iff.mp herror⟩
  · rintro ⟨r, hr, hlevel, hline, hsevere⟩
    have hissue := mem_issues_ofRecords.mpr ⟨r, hr, hlevel, rfl⟩
    obtain ⟨issues, hget⟩ :=
      SortedTable.mem_keys_iff.mp (mem_keys_ofRecords.mpr ⟨r, hr, hlevel, hline⟩)
    refine ⟨issues, hget, Issue.ofRecord r, ?_, Issue.severity_ofRecord_eq_error_iff.mpr hsevere⟩
    rw [(hgrouped.group hget).1]
    exact List.mem_filter.mpr ⟨hissue, decide_eq_true hline⟩

/-- A line is marked as a warning exactly if a record on it is kept, and none that reports an
error. -/
theorem mem_warnings_ofRecords {records : List Record} {level : UInt8} {line : UInt64} :
    line ∈ MarkedLines.linesOf (ofRecords records level).byLine .warning ↔
      (∃ r ∈ records, level ≤ r.severity ∧ (Issue.ofRecord r).line = line) ∧
        ∀ r ∈ records, level ≤ r.severity → (Issue.ofRecord r).line = line → r.severity ≠ 2 := by
  have hkept : (∃ issues, (ofRecords records level).byLine.get? line = some issues ∧
      issues ≠ []) ↔ line ∈ (ofRecords records level).byLine.keys := by
    rw [SortedTable.mem_keys_iff]
    refine exists_congr fun issues => and_iff_left_of_imp fun hget => ?_
    exact ((grouped_ofRecords records level).group hget).2
  have herror : line ∉ MarkedLines.linesOf (ofRecords records level).byLine .error ↔
      ∀ r ∈ records, level ≤ r.severity → (Issue.ofRecord r).line = line → r.severity ≠ 2 := by
    refine (not_congr mem_errors_ofRecords).trans ?_
    push Not
    rfl
  rw [MarkedLines.mem_linesOf_warning, hkept, mem_keys_ofRecords, herror]
  exact and_comm

/-- Whatever a linter reports and whatever the level is: the findings hold the records at or above
the level, one issue for each; the marked lines are the lines of these issues, each once; and the
ones marked as errors are those of the records with code 2. The first two lines of a record are one
line of issues. -/
theorem ofRecords_exact (records : List Record) (level : UInt8) :
    (ofRecords records level).Holds (records.filter (fun r => level ≤ r.severity)) ∧
      (∀ r : Record, (Issue.ofRecord r).line.toNat = r.line.toNat - 1) ∧
      (ofRecords records level).Divides (.ofLineMap (ofRecords records level).byLine) ∧
      ∀ line, line ∈ (MarkedLines.ofLineMap (ofRecords records level).byLine).errors ↔
        ∃ r ∈ records, level ≤ r.severity ∧ (Issue.ofRecord r).line = line ∧ r.severity = 2 :=
  ⟨holds_ofRecords records level, Issue.toNat_line_ofRecord,
    (grouped_ofRecords records level).divides, fun _ => mem_errors_ofRecords⟩

-- a warning on line 1 and an error on line 0 are on one line of issues, which shows the error
example :
    let f := ofRecords [⟨1, 1, "a", none, 1⟩, ⟨0, 1, "b", none, 2⟩, ⟨4, 1, "c", none, 1⟩] 1
    f.byLine.keys = [0, 3] ∧ MarkedLines.ofLineMap f.byLine = ⟨[0], [3]⟩ := by
  decide +kernel

end Findings

end Gutter
