import Gutter.Issue
import Mathlib.Data.List.Induction
import Mathlib.Data.List.Nodup

/-!
# Which lines are marked

The gutter shows one line in one colour: that of its gravest issue. So the lines marked as errors
are those that hold an error, and of the others those that hold an issue are marked as warnings.
The status line shows one issue of one line: the first of the gravest.
-/

namespace Gutter

namespace SortedTable

variable {κ α : Type} [LT κ] [Std.Irrefl (fun a b : κ => a < b)]

theorem keys_nodup (t : SortedTable κ α) : t.keys.Nodup := by
  refine List.Pairwise.imp ?_ t.ascending
  rintro a b hlt rfl
  exact Std.Irrefl.irrefl a hlt

variable [DecidableEq κ]

theorem get?_eq_some_iff {t : SortedTable κ α} {k : κ} {a : α} :
    t.get? k = some a ↔ (k, a) ∈ t.pairs := by
  simp only [get?, Option.map_eq_some_iff]
  constructor
  · rintro ⟨⟨k', b⟩, hfind, rfl⟩
    obtain rfl : k' = k := by simpa using List.find?_some hfind
    exact List.mem_of_find?_eq_some hfind
  · intro h
    cases hfind : t.pairs.find? (fun x => x.1 = k) with
    | none => simpa using List.find?_eq_none.mp hfind _ h
    | some x =>
        have hk : x.1 = k := by simpa using List.find?_some hfind
        exact ⟨x, rfl, congrArg Prod.snd
          (List.inj_on_of_nodup_map t.keys_nodup (List.mem_of_find?_eq_some hfind) h hk)⟩

variable [LE κ] [DecidableLT κ] [Std.IsLinearOrder κ] [Std.LawfulOrderLT κ]

/-- Changing the value of a key changes no other look-up. -/
theorem find?_alterPairs {k : κ} {f : Option α → α} {xs : List (κ × α)}
    (h : (xs.map Prod.fst).Pairwise (· < ·)) (x : κ) :
    ((alterPairs k f xs).find? (·.1 = x)).map Prod.snd =
      if x = k then some (f ((xs.find? (·.1 = k)).map Prod.snd))
      else (xs.find? (·.1 = x)).map Prod.snd := by
  induction xs with
  | nil => by_cases hx : k = x <;> simp [alterPairs, hx, eq_comm]
  | cons y xs ih =>
      obtain ⟨k', v⟩ := y
      have hxs := ih (List.pairwise_cons.mp h).2
      simp only [alterPairs]
      split
      · next hlt =>
        have hnone : ((k', v) :: xs).find? (·.1 = k) = none := by
          refine List.find?_eq_none.mpr fun y hy => ?_
          have hle : k < y.1 := by
            rcases List.mem_cons.mp hy with rfl | hy
            · exact hlt
            · exact Std.lt_trans hlt ((List.pairwise_cons.mp h).1 _ (List.mem_map_of_mem hy))
          simpa using (Std.ne_of_lt hle).symm
        by_cases hx : x = k
        · simp [hx, hnone]
        · simp [hx, Ne.symm hx]
      · split
        · next hk =>
          subst hk
          by_cases hx : x = k
          · simp [hx]
          · simp [hx, Ne.symm hx]
        · next hk =>
          by_cases hx : x = k
          · subst hx
            simpa [List.find?_cons, Ne.symm hk] using hxs
          · by_cases hx' : k' = x
            · simp [hx', hx]
            · simpa [List.find?_cons, hx', hx] using hxs

@[simp] theorem get?_alter (t : SortedTable κ α) (k : κ) (f : Option α → α) (x : κ) :
    (t.alter k f).get? x = if x = k then some (f (t.get? k)) else t.get? x :=
  find?_alterPairs t.ascending x

end SortedTable

/-! ## The issue shown for a line -/

namespace Severity

variable {a b c : Severity}

@[simp] theorem atLeast_refl (a : Severity) : a.atLeast a = true := by
  cases a <;> rfl

theorem atLeast_trans (h : a.atLeast b = true) (h' : b.atLeast c = true) :
    a.atLeast c = true := by
  cases a <;> cases b <;> cases c <;> first | rfl | exact h' | cases h

theorem atLeast_of_not_atLeast (h : a.atLeast b = false) : b.atLeast a = true := by
  cases a <;> cases b <;> first | rfl | cases h

end Severity

namespace Issue

/-- Of some issues one is shown, and it is an error if any of them is. -/
theorem exists_foldl_graver (best : Issue) (issues : List Issue) :
    ∃ shown, issues.foldl graver (some best) = some shown ∧
      (shown.severity = .error ↔
        best.severity = .error ∨ ∃ issue ∈ issues, issue.severity = .error) := by
  induction issues generalizing best with
  | nil => exact ⟨best, rfl, by simp⟩
  | cons issue issues ih =>
      rw [List.foldl_cons, graver]
      by_cases h : best.severity.atLeast issue.severity = true
      · obtain ⟨shown, hshown, hiff⟩ := ih best
        refine ⟨shown, by rw [if_pos h, hshown], hiff.trans ?_⟩
        have herror : issue.severity = .error → best.severity = .error := by
          intro he
          cases hb : best.severity <;> simp_all [Severity.atLeast]
        simp only [List.mem_cons, exists_eq_or_imp]
        exact ⟨fun h => h.imp_right .inr, fun h => h.elim .inl (Or.imp_left herror)⟩
      · obtain ⟨shown, hshown, hiff⟩ := ih issue
        refine ⟨shown, by rw [if_neg h, hshown], hiff.trans ?_⟩
        have hbest : best.severity ≠ .error := by
          intro he
          simp [he, Severity.atLeast] at h
        simp [hbest]

/-- An error is shown exactly if there is one. -/
theorem primary?_isError_iff (issues : List Issue) :
    (primary? issues).map severity = some .error ↔
      ∃ issue ∈ issues, issue.severity = .error := by
  cases issues with
  | nil => simp [primary?]
  | cons issue issues =>
      obtain ⟨shown, hshown, hiff⟩ := exists_foldl_graver issue issues
      rw [primary?, List.foldl_cons, graver, hshown, Option.map_some, Option.some_inj, hiff]
      simp

/-- A warning is shown exactly if there is an issue but no error. -/
theorem primary?_isWarning_iff (issues : List Issue) :
    (primary? issues).map severity = some .warning ↔
      issues ≠ [] ∧ ¬ ∃ issue ∈ issues, issue.severity = .error := by
  cases issues with
  | nil => simp [primary?]
  | cons issue issues =>
      rw [← primary?_isError_iff]
      obtain ⟨shown, hshown, -⟩ := exists_foldl_graver issue issues
      rw [primary?, List.foldl_cons, graver, hshown, Option.map_some]
      cases shown.severity <;> simp

theorem primary?_eq_none_iff {issues : List Issue} : primary? issues = none ↔ issues = [] := by
  cases issues with
  | nil => simp [primary?]
  | cons issue issues =>
      obtain ⟨shown, hshown, -⟩ := exists_foldl_graver issue issues
      simp [primary?, graver, hshown]

/-- An issue is the first of the gravest: those before it are less grave, and none after it is
graver. -/
def Leads (issue : Issue) (issues : List Issue) : Prop :=
  ∃ before after, issues = before ++ issue :: after ∧
    (∀ x ∈ before, x.severity.atLeast issue.severity = false) ∧
    ∀ x ∈ after, issue.severity.atLeast x.severity = true

variable {issue : Issue} {issues : List Issue}

theorem Leads.atLeast (h : issue.Leads issues) {x : Issue} (hx : x ∈ issues) :
    issue.severity.atLeast x.severity = true := by
  obtain ⟨before, after, rfl, hbefore, hafter⟩ := h
  rcases List.mem_append.mp hx with hx | hx
  · exact Severity.atLeast_of_not_atLeast (hbefore x hx)
  · rcases List.mem_cons.mp hx with rfl | hx
    · exact Severity.atLeast_refl _
    · exact hafter x hx

theorem Leads.concat (h : issue.Leads issues) {x : Issue}
    (hx : issue.severity.atLeast x.severity = true) : issue.Leads (issues ++ [x]) := by
  obtain ⟨before, after, rfl, hbefore, hafter⟩ := h
  refine ⟨before, after ++ [x], by simp, hbefore, fun y hy => ?_⟩
  rcases List.mem_append.mp hy with hy | hy
  · exact hafter y hy
  · exact List.mem_singleton.mp hy ▸ hx

theorem Leads.concat_graver (h : issue.Leads issues) {x : Issue}
    (hx : issue.severity.atLeast x.severity = false) : x.Leads (issues ++ [x]) := by
  refine ⟨issues, [], rfl, fun y hy => ?_, by simp⟩
  by_contra hyx
  rw [Severity.atLeast_trans (h.atLeast hy) (by simpa using hyx)] at hx
  cases hx

/-- The issue shown for a line is the first of the gravest. -/
theorem leads_of_primary? (h : primary? issues = some issue) : issue.Leads issues := by
  induction issues using List.reverseRecOn generalizing issue with
  | nil => cases h
  | append_singleton issues x ih =>
      rw [primary?, List.foldl_concat, ← primary?] at h
      cases hbest : primary? issues with
      | none =>
          rw [hbest] at h
          obtain rfl := Option.some.inj h
          have hnil := primary?_eq_none_iff.mp hbest
          exact ⟨[], [], by rw [hnil], by simp, by simp⟩
      | some best =>
          have hlead := ih hbest
          rw [hbest, graver] at h
          split at h
          · next hx =>
            obtain rfl := Option.some.inj h
            exact hlead.concat hx
          · next hx =>
            obtain rfl := Option.some.inj h
            exact hlead.concat_graver (by simpa using hx)

theorem mem_of_primary? (h : primary? issues = some issue) :
    issue ∈ issues := by
  obtain ⟨before, after, rfl, -⟩ := leads_of_primary? h
  simp

end Issue

/-! ## The issues of a line -/

namespace Findings

/-- The issues of each line are those of all issues that are on it, in the order of all. A line
without issues has no list. -/
def Grouped (f : Findings) : Prop :=
  ∀ line, f.byLine.get? line =
    if f.issues.filter (·.line = line) = [] then none
    else some (f.issues.filter (·.line = line))

variable {f : Findings}

theorem Grouped.getD (h : f.Grouped) (line : UInt64) :
    (f.byLine.get? line).getD [] = f.issues.filter (·.line = line) := by
  rw [h line]
  split
  · next hnil => exact hnil.symm
  · rfl

theorem Grouped.push (h : f.Grouped) (issue : Issue) : (f.push issue).Grouped := by
  intro line
  have hget : (f.push issue).byLine.get? line = if line = issue.line then
      some (f.issues.filter (·.line = issue.line) ++ [issue]) else f.byLine.get? line := by
    rw [← h.getD]
    exact SortedTable.get?_alter _ _ _ _
  rw [hget, Findings.push, List.filter_append]
  by_cases hline : line = issue.line
  · simp [hline]
  · simpa [hline, Ne.symm hline] using h line

theorem grouped_ofRecords (records : List Record) (level : UInt8) :
    (ofRecords records level).Grouped := by
  suffices hall : ∀ (issues : List Issue) (f : Findings), f.Grouped →
      (issues.foldl push f).Grouped from hall _ clean fun _ => rfl
  intro issues
  induction issues with
  | nil => exact fun _ h => h
  | cons issue issues ih => exact fun f h => ih (f.push issue) (h.push issue)

end Findings

/-! ## The marked lines -/

/-- The lines that a gutter shows for some issues: those that hold an error, and those of the others
that hold an issue. -/
structure LineMap.Marks (m : LineMap) (errors warnings : List UInt64) : Prop where
  errors_ascending : errors.Pairwise (· < ·)
  mem_errors : ∀ line, line ∈ errors ↔
    ∃ issues, m.get? line = some issues ∧ ∃ issue ∈ issues, issue.severity = .error
  warnings_ascending : warnings.Pairwise (· < ·)
  mem_warnings : ∀ line, line ∈ warnings ↔
    line ∉ errors ∧ ∃ issues, m.get? line = some issues ∧ issues ≠ []

namespace MarkedLines

theorem mem_linesOf {m : LineMap} {severity : Severity} {line : UInt64} :
    line ∈ linesOf m severity ↔ ∃ issues, m.get? line = some issues ∧
      (Issue.primary? issues).map Issue.severity = some severity := by
  simp [linesOf, shows, SortedTable.get?_eq_some_iff]

theorem ascending_linesOf (m : LineMap) (severity : Severity) :
    (linesOf m severity).Pairwise (· < ·) :=
  m.ascending.sublist (List.filter_sublist.map Prod.fst)

theorem mem_linesOf_error {m : LineMap} {line : UInt64} :
    line ∈ linesOf m .error ↔
      ∃ issues, m.get? line = some issues ∧ ∃ issue ∈ issues, issue.severity = .error := by
  simp only [mem_linesOf, Issue.primary?_isError_iff]

/-- A line is marked as a warning if it is not marked as an error and holds an issue. -/
theorem mem_linesOf_warning {m : LineMap} {line : UInt64} :
    line ∈ linesOf m .warning ↔
      line ∉ linesOf m .error ∧ ∃ issues, m.get? line = some issues ∧ issues ≠ [] := by
  rw [mem_linesOf_error]
  simp only [mem_linesOf, Issue.primary?_isWarning_iff]
  constructor
  · rintro ⟨issues, hget, hne, hnone⟩
    refine ⟨?_, issues, hget, hne⟩
    rintro ⟨others, hother, herror⟩
    obtain rfl := Option.some.inj (hget.symm.trans hother)
    exact hnone herror
  · rintro ⟨hnone, issues, hget, hne⟩
    exact ⟨issues, hget, hne, fun herror => hnone ⟨issues, hget, herror⟩⟩

theorem lines_ofLineMap (m : LineMap) (severity : Severity) :
    (ofLineMap m).lines severity = linesOf m severity := by
  cases severity <;> rfl

theorem marks_ofLineMap (m : LineMap) :
    m.Marks (ofLineMap m).errors (ofLineMap m).warnings where
  errors_ascending := ascending_linesOf m .error
  mem_errors _ := mem_linesOf_error
  warnings_ascending := ascending_linesOf m .warning
  mem_warnings _ := mem_linesOf_warning

end MarkedLines

end Gutter
