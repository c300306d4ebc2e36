import Gutter.Proofs.Terminal.Verdict
import Gutter.Terminal.Transcript
import Mathlib.Data.List.Forall2

/-!
# What the program makes of a machine

The files of a machine and what becomes of the calls on it tell what the program prints and how it
ends. It ends with 0 if all that it needs is there, every call has led to records, and none of them
is an error that is kept.
-/

namespace Gutter

/-! ## The result of a call -/

theorem Child.collect_eq_ok_iff {child : Child} {f : Finished} :
    child.collect = .ok f ↔
      child.ending = .ok f ∧ ∀ cause, child.input ≠ .error (.other cause) := by
  rw [collect]
  cases child.input with
  | ok => simp
  | error fault => cases fault <;> simp

namespace Command

theorem judge_eq_ok_iff {f : Finished} {records : List Record} :
    judge f = .ok records ↔
      Report.ofBytes f.output = .ok records ∧
        (f.status.isSuccess = true ∨ Report.isBlank f.output = false) := by
  have hdecoded : (Report.ofBytes f.output).mapError Failure.undecodable = .ok records ↔
      Report.ofBytes f.output = .ok records := by
    cases Report.ofBytes f.output <;> simp [Except.mapError]
  rw [judge]
  cases f.status.isSuccess <;> cases Report.isBlank f.output <;> simp [hdecoded]

/-- A call leads to records if the program could be started and has ended, if nothing but its own
end has kept it from its input, and if its output tells of the records. -/
theorem call_result_eq_ok_iff {c : Command} {m : Machine} {r : Request} {records : List Record} :
    (c.call m r).result = .ok records ↔
      ∃ child f, m.start c (c.expandArgs r.kind r.locale) (Text.Utf8.encode r.text) = .ok child ∧
        child.ending = .ok f ∧ (∀ cause, child.input ≠ .error (.other cause)) ∧
        Report.ofBytes f.output = .ok records ∧
        (f.status.isSuccess = true ∨ Report.isBlank f.output = false) := by
  rw [call]
  cases m.start c (c.expandArgs r.kind r.locale) (Text.Utf8.encode r.text) with
  | error cause => simp
  | ok child =>
      have hjudged : ∀ f, (child.ending = .ok f ∧ (∀ cause, child.input ≠ .error (.other cause)) ∧
          Report.ofBytes f.output = .ok records ∧
            (f.status.isSuccess = true ∨ Report.isBlank f.output = false)) ↔
          child.collect = .ok f ∧ judge f = .ok records := by
        intro f
        rw [Child.collect_eq_ok_iff, judge_eq_ok_iff, and_assoc]
      simp only [Except.ok.injEq, exists_and_left, exists_eq_left', hjudged]
      cases child.collect <;> simp

end Command

namespace Check

variable {m : Machine} {a : Arguments} {settings : Settings} {c : Command}
  {documents : List (Path × String)}

/-! ## What a check needs -/

/-- Documents with the given names are on the machine. -/
def Holds (m : Machine) : List Path → List (Path × String) → Prop :=
  List.Forall₂ fun file d => d.1 = file ∧ m.readText file = .ok d.2

theorem readAll_eq_ok_iff {extensions : Extensions} {files : List Path} :
    (readAll extensions m files).2 = .ok documents ↔ Holds m files documents := by
  induction files generalizing documents with
  | nil => cases documents <;> simp [readAll, Holds]
  | cons file rest ih =>
      rw [readAll, Holds, List.forall₂_cons_left_iff]
      cases m.readText file with
      | error cause => simp
      | ok text =>
          have hrest : ∀ more, List.Forall₂ (fun file d => d.1 = file ∧ m.readText file = .ok d.2)
              rest more ↔ (readAll extensions m rest).2 = .ok more := fun more => ih.symm
          simp only [hrest]
          cases (readAll extensions m rest).2 with
          | error p => simp [Except.map]
          | ok more =>
              constructor
              · intro h
                cases h
                exact ⟨(file, text), more, ⟨rfl, rfl⟩, rfl, rfl⟩
              · rintro ⟨⟨_, _⟩, _, ⟨rfl, ⟨⟩⟩, ⟨⟩, rfl⟩
                rfl

/-- All that the arguments ask for is on the machine. -/
structure Prepared (m : Machine) (a : Arguments) (settings : Settings) (c : Command)
    (documents : List (Path × String)) : Prop where
  load : Settings.load m a.config = .ok settings
  command : a.command settings = .ok c
  holds : Holds m a.files documents

/-- What becomes of the call for a document, if the linter handles it. -/
def outcome? (m : Machine) (settings : Settings) (c : Command) (d : Path × String) :
    Option (Except Failure (List Record)) :=
  ((Extensions.ofSettings settings).kindOf? d.1).map fun kind =>
    (c.call m ⟨d.2, kind, settings.locale⟩).result

theorem answer?_answers {x : (Path × String) × Nat} (hx : x ∈ documents.zipIdx) :
    answer? settings documents (c.answers m) ⟨x.2 + 1⟩ = outcome? m settings c x.1 := by
  have hget : documents[x.2]? = some x.1 := List.mem_zipIdx_iff_getElem?.mp hx
  simp only [answer?, call?, hget, Option.bind_some, Option.map_map]
  rfl

/-! ## The whole run -/

theorem exists_prepared {code : Nat} (h : (perform m a).ending = .ok code) :
    ∃ settings c documents, Prepared m a settings c documents := by
  rw [perform] at h
  cases hs : Settings.load m a.config with
  | error p => simp [hs, bind, Except.bind, Report.ofProblem] at h
  | ok settings =>
      cases hc : a.command settings with
      | error p => simp [hs, hc, bind, Except.bind, Report.ofProblem] at h
      | ok c =>
          cases hd : (readAll (.ofSettings settings) m a.files).2 with
          | error p =>
              simp [hs, hc, hd, bind, Except.bind, pure, Except.pure, Report.ofProblem] at h
          | ok documents => exact ⟨settings, c, documents, hs, hc, readAll_eq_ok_iff.mp hd⟩

/-- If all that it needs is there, a check is a run in which the calls end in order. -/
theorem Prepared.exists_run (h : Prepared m a settings c documents) :
    ∃ notes, let verdict := run settings documents a.cursor (c.answers m) notes
      (perform m a).printed = String.join verdict.blocks ∧
        (perform m a).ending = .ok verdict.exitCode := by
  have hread : (readAll (.ofSettings settings) m a.files).2 = .ok documents :=
    readAll_eq_ok_iff.mpr h.holds
  refine ⟨.checkStart c.program :: (readAll (.ofSettings settings) m a.files).1, ?_⟩
  simp only [perform, h.load, h.command, hread, bind, Except.bind, pure, Except.pure, and_self]

/-- If all that it needs is there, the block of each file is told by the outcome of its own call,
and the exit code by all outcomes. -/
theorem Prepared.perform_eq (h : Prepared m a settings c documents)
    (hlen : a.files.length < UInt64.size) :
    (perform m a).printed = String.join (documents.zipIdx.map fun x =>
        Printout.block settings x.1.1 (if x.2 = 0 then a.cursor else 0)
          (outcome? m settings c x.1)) ∧
      (perform m a).ending =
        .ok (exitCodeOf settings 0 (documents.map (outcome? m settings c))) := by
  obtain ⟨notes, hprinted, hending⟩ := h.exists_run
  have hlen' : documents.length < UInt64.size := h.holds.length_eq ▸ hlen
  obtain ⟨hblocks, hcode⟩ := printed_run settings documents a.cursor (c.answers m) notes hlen'
    fun runs => .refl runs
  have hanswers :
      (documents.zipIdx.map fun x => answer? settings documents (c.answers m) ⟨x.2 + 1⟩) =
        documents.map (outcome? m settings c) := by
    calc _ = documents.zipIdx.map (outcome? m settings c ∘ Prod.fst) :=
          List.map_congr_left fun x hx => answer?_answers hx
      _ = (documents.zipIdx.map Prod.fst).map (outcome? m settings c) := List.map_map.symm
      _ = documents.map (outcome? m settings c) := by rw [List.zipIdx_map_fst]
  rw [hprinted, hending, hblocks, hcode, hanswers]
  refine ⟨congrArg String.join (List.map_congr_left fun x hx => ?_), rfl⟩
  rw [blockOf, answer?_answers hx]

/-! ## The exit code -/

/-- A call, if there was one, has led to records, and none of them is an error that is kept. -/
def Passes (settings : Settings) (outcome : Option (Except Failure (List Record))) : Prop :=
  ∀ result, outcome = some result → ∃ records, result = .ok records ∧
    ∀ i ∈ (Findings.ofRecords records settings.severityLevel).issues, i.severity ≠ .error

theorem passes_iff {outcome : Option (Except Failure (List Record))} :
    Passes settings outcome ↔ hasFailed outcome = false ∧ hasError settings outcome = false := by
  cases outcome with
  | none => simp [Passes, hasFailed, hasError]
  | some result => cases result <;> simp [Passes, hasFailed, hasError]

theorem exitCodeOf_eq_zero_iff {outcomes : List (Option (Except Failure (List Record)))} :
    exitCodeOf settings 0 outcomes = 0 ↔ ∀ o ∈ outcomes, Passes settings o := by
  have hany : exitCodeOf settings 0 outcomes = 0 ↔
      outcomes.any hasFailed = false ∧ outcomes.any (hasError settings) = false := by
    rw [exitCodeOf]
    cases outcomes.any hasFailed <;> cases outcomes.any (hasError settings) <;> simp
  simp only [hany, passes_iff, List.any_eq_false, Bool.not_eq_true, ← forall₂_and]

/-- The program ends with 0 after a check if all that the check needs is there, and every document
passes. -/
theorem ofReport_exitCode_eq_zero_iff (filter : Log.Filter) (hlen : a.files.length < UInt64.size) :
    (Transcript.ofReport filter (perform m a)).exitCode = 0 ↔
      ∃ settings c documents, Prepared m a settings c documents ∧
        ∀ d ∈ documents, Passes settings (outcome? m settings c d) := by
  have hcode : ∀ {settings c documents}, Prepared m a settings c documents →
      ((Transcript.ofReport filter (perform m a)).exitCode = 0 ↔
        ∀ d ∈ documents, Passes settings (outcome? m settings c d)) := by
    intro settings c documents h
    rw [Transcript.ofReport, (h.perform_eq hlen).2]
    simp only [exitCodeOf_eq_zero_iff, List.forall_mem_map]
  constructor
  · intro hzero
    cases hending : (perform m a).ending with
    | error p => simp [Transcript.ofReport, hending] at hzero
    | ok code =>
        obtain ⟨settings, c, documents, h⟩ := exists_prepared hending
        exact ⟨settings, c, documents, h, (hcode h).mp hzero⟩
  · rintro ⟨settings, c, documents, h, hpasses⟩
    exact (hcode h).mpr hpasses

end Check

end Gutter
