import Gutter.Proofs.Session.Unchecked
import Gutter.Proofs.Terminal.Printing

/-!
# The verdict of a check

What a check prints and how it ends is told by its settings, its files and the answers of the
linter, whatever the order of these answers.
-/

namespace Gutter

def Settings.findings? (settings : Settings) : Except Failure (List Record) → Option Findings
  | .ok records => some (.ofRecords records settings.severityLevel)
  | .error _ => none

namespace Check

open Session

variable {settings : Settings} {documents : List (Path × String)} {cursor : UInt64}
  {answers : Answers} {names : Nat → MarkerId} {s : Session} {e : EditorId} {doc : Document}

def answer? (settings : Settings) (documents : List (Path × String)) (answers : Answers)
    (e : EditorId) : Option (Except Failure (List Record)) :=
  (call? settings documents e).map fun c => answers.result c.run

/-! ## Printing -/

/-- All calls have ended, and what they have found is remembered and shown. -/
structure Ended (settings : Settings) (documents : List (Path × String)) (answers : Answers)
    (names : Nat → MarkerId) (s : Session) : Prop extends Shown names s where
  found : ∀ e, s.found? e = (call? settings documents e).map fun c =>
    (c.file, settings.findings? (answers.result c.run))

theorem Settling.ended (h : Settling settings documents answers names s) (hr : s.runs = []) :
    Ended settings documents answers names s := by
  refine ⟨h.toShown, fun e => ?_⟩
  rw [found?_eq_map_bare?, h.entries, hr, Option.map_map]
  refine congrArg (Option.map · _) (funext fun c => ?_)
  rw [Function.comp_apply, if_neg List.not_mem_nil, Call.settled]
  cases answers.result c.run <;> rfl

namespace Ended

variable {desk : Desk} {s' : Session}

/-- While an editor gets the focus, the editors that ask for another check are all remembered. -/
theorem still_activeChanged (h : Ended settings documents answers names s)
    (hdesk : ∀ x, desk.documents.get? x = document? documents cursor x) (e : EditorId) :
    (s.refocus settings desk.host e).Still
      ((Service.ofSettings settings).activeChanged desk.host (some e) s) := by
  refine still_requestAll _ fun x file kind hf hk => ?_
  obtain ⟨doc, hdoc, rfl⟩ := Option.map_eq_some_iff.mp hf
  rw [hdesk] at hdoc
  rw [(alike_refocus settings desk.host e s).found?, h.found, call?_of_document? hdoc,
    show (Extensions.ofSettings settings).kindOf? doc.file = some kind from hk]
  rfl

/-- An editor gets the focus. -/
theorem activeChanged (h : Ended settings documents answers names s)
    (hdesk : ∀ x, desk.documents.get? x = document? documents cursor x)
    (hinj : Function.Injective names) (hnames : desk.host.marker = names) (e : EditorId) :
    Ended settings documents answers names
      ((Service.ofSettings settings).activeChanged desk.host (some e) s) := by
  have hkept := shown_kept (.ofSettings settings) hinj
  refine ⟨hkept.chain hnames (Service.activeChanged_chain _ _ e s)
    (hkept.refocus e hnames h.toShown), fun x => ?_⟩
  rw [(h.still_activeChanged hdesk e).found, (alike_refocus settings desk.host e s).found?, h.found]

/-- What is printed for an editor that no call was made for. -/
theorem text_of_unsupported (h : Ended settings documents answers names s)
    (h' : Ended settings documents answers names s')
    (hfocus : FocusShown settings desk.host e s s') (hactive : desk.active = some e)
    (hopen : desk.documents.get? e = some doc) (hc : call? settings documents e = none) :
    Printout.text desk s'.screen e ++ failureLine (s'.entry? e) =
      Printout.block settings doc.file (doc.cursor.getD 0) none := by
  have hnone : s.entry? e = none := by simpa [found?, hc] using h.found e
  have hnone' : s'.entry? e = none := by simpa [found?, hc] using h'.found e
  have hissues : s.cursorIssues desk.host e = [] := by simp [cursorIssues, hnone]
  have hwithdrawn : s'.screen.published? doc.file = none := hfocus.withdrawn hnone doc.file
  rw [Printout.text, Printout.rows_eq hopen hactive hfocus.statusLine,
    h'.markedLines_of_none hnone', h'.markedLines_of_none hnone', hissues, Printout.issueRows,
    hwithdrawn, hnone']
  exact String.append_empty

/-- What is printed for an editor whose call has ended. -/
theorem text_of_called (h : Ended settings documents answers names s)
    (h' : Ended settings documents answers names s')
    (hfocus : FocusShown settings desk.host e s s') (hactive : desk.active = some e)
    (hopen : desk.documents.get? e = some doc) {line : UInt64} (hline : doc.cursor = some line)
    {c : Call} (hc : call? settings documents e = some c) (hfile : c.file = doc.file) :
    Printout.text desk s'.screen e ++ failureLine (s'.entry? e) =
      Printout.block settings doc.file (doc.cursor.getD 0) (some (answers.result c.run)) := by
  have hcall : ∀ t : Session, Ended settings documents answers names t →
      t.found? e = some (doc.file, settings.findings? (answers.result c.run)) := by
    intro t ht
    rw [ht.found, hc, ← hfile]
    rfl
  obtain ⟨entry, he, hentryFile, hfindings⟩ := exists_entry_of_found? (hcall s h)
  obtain ⟨entry', he', -, hfindings'⟩ := exists_entry_of_found? (hcall s' h')
  have hissues : s.cursorIssues desk.host e = (entry.issuesOn? line).getD [] := by
    have hcursor : desk.host.cursor? e = some line :=
      (congrArg (Option.bind · Document.cursor) hopen).trans hline
    simp only [cursorIssues, he, hcursor]
  have hpublished := hfocus.published entry he
  rw [hentryFile] at hpublished
  rw [Printout.text, Printout.rows_eq hopen hactive hfocus.statusLine, h'.markedLines he',
    h'.markedLines he', hissues, Printout.issueRows_of_published hpublished, he', hline,
    Option.getD_some, failureLine]
  rw [Entry.marked, Entry.issuesOn?, Entry.issues, hfindings, hfindings']
  cases answers.result c.run with
  | ok records => exact String.append_empty
  | error failure =>
      have hfailed : "  check failed\n" = Printout.lines ["  check failed"] := by decide
      rw [Settings.findings?, Option.isNone_none, if_pos rfl, hfailed]
      exact (Printout.lines_append [doc.file.display, "  no issues"] _).symm

/-- What is printed for an editor once it has got the focus. -/
theorem text_activeChanged (h : Ended settings documents answers names s)
    (hdesk : ∀ x, desk.documents.get? x = document? documents cursor x)
    (hinj : Function.Injective names) (hnames : desk.host.marker = names)
    (hactive : desk.active = some e) (hdoc : document? documents cursor e = some doc) :
    let s' := (Service.ofSettings settings).activeChanged desk.host (some e) s
    Printout.text desk s'.screen e ++ failureLine (s'.entry? e) =
      Printout.block settings doc.file (doc.cursor.getD 0)
        (answer? settings documents answers e) := by
  intro s'
  have hended : Ended settings documents answers names s' := h.activeChanged hdesk hinj hnames e
  have hfocus : FocusShown settings desk.host e s s' :=
    (focusShown_refocus settings hactive s).still (h.still_activeChanged hdesk e)
  have hopen : desk.documents.get? e = some doc := (hdesk e).trans hdoc
  rw [answer?]
  cases hc : call? settings documents e with
  | none => exact h.text_of_unsupported hended hfocus hactive hopen hc
  | some c =>
      obtain ⟨line, hline⟩ := exists_cursor hdoc
      have hfile : c.file = doc.file := by
        rw [call?_of_document? hdoc] at hc
        obtain ⟨kind, -, rfl⟩ := Option.map_eq_some_iff.mp hc
        rfl
      exact h.text_of_called hended hfocus hactive hopen hline hc hfile

end Ended

/-! ## The exit code -/

def hasFailed : Option (Except Failure (List Record)) → Bool
  | some (.error _) => true
  | _ => false

/-- The linter has found an error that is kept. -/
def hasError (settings : Settings) : Option (Except Failure (List Record)) → Bool
  | some (.ok records) =>
    (Findings.ofRecords records settings.severityLevel).issues.any fun i => i.severity = .error
  | _ => false

def exitCodeOf (settings : Settings) (code : Nat)
    (answers : List (Option (Except Failure (List Record)))) : Nat :=
  if answers.any hasFailed then 2
  else if code = 0 && answers.any (hasError settings) then 1 else code

theorem Ended.exitCode_eq (h : Ended settings documents answers names s) (code : Nat)
    (e : EditorId) :
    exitCode code (s.entry? e) =
      exitCodeOf settings code [answer? settings documents answers e] := by
  have hfound := h.found e
  rw [answer?]
  cases hc : call? settings documents e with
  | none =>
      have hnone : s.entry? e = none := by simpa [found?, hc] using hfound
      rw [hnone]
      simp [exitCode, exitCodeOf, hasFailed, hasError]
  | some c =>
      rw [hc] at hfound
      obtain ⟨entry, he, -, hfindings⟩ := exists_entry_of_found? hfound
      rw [he, Option.map_some]
      simp only [exitCode, Entry.issues, hfindings]
      cases answers.result c.run with
      | ok records => simp [exitCodeOf, hasFailed, hasError, Settings.findings?]
      | error failure => rfl

theorem exitCodeOf_cons (settings : Settings) (code : Nat)
    (answer : Option (Except Failure (List Record)))
    (answers : List (Option (Except Failure (List Record)))) :
    exitCodeOf settings code (answer :: answers) =
      exitCodeOf settings (exitCodeOf settings code [answer]) answers := by
  by_cases hf : hasFailed answer = true <;> by_cases he : hasError settings answer = true <;>
    by_cases hc : code = 0 <;> simp [exitCodeOf, hf, he, hc]

/-! ## One editor after the other -/

def blockOf (settings : Settings) (documents : List (Path × String)) (cursor : UInt64)
    (answers : Answers) (x : (Path × String) × Nat) : String :=
  Printout.block settings x.1.1 (if x.2 = 0 then cursor else 0)
    (answer? settings documents answers ⟨x.2 + 1⟩)

theorem Ended.printAll (h : Ended settings documents answers names s)
    (hinj : Function.Injective names) {desk : Desk}
    (hdesk : ∀ x, desk.documents.get? x = document? documents cursor x)
    (hnames : desk.host.marker = names) {files : List ((Path × String) × Nat)}
    (hfiles : ∀ x ∈ files, documents[x.2]? = some x.1) (code : Nat) :
    let (blocks, code', _) := printAll (.ofSettings settings)
      (files.map fun x => ⟨x.2 + 1⟩) desk code s
    blocks = files.map (blockOf settings documents cursor answers) ∧
      code' = exitCodeOf settings code
        (files.map fun x => answer? settings documents answers ⟨x.2 + 1⟩) := by
  induction files generalizing desk code s with
  | nil => simp [Check.printAll, exitCodeOf]
  | cons x files ih =>
      obtain ⟨hx, hrest⟩ := List.forall_mem_cons.mp hfiles
      have hdoc : document? documents cursor ⟨x.2 + 1⟩ = some (document cursor x.2 x.1) := by
        simp [document?, hx]
      have hdesk' : ∀ y, (desk.focus (some ⟨x.2 + 1⟩)).documents.get? y =
          document? documents cursor y := hdesk
      have hnext := h.activeChanged hdesk' hinj hnames ⟨x.2 + 1⟩
      have htext := h.text_activeChanged hdesk' hinj hnames rfl hdoc
      obtain ⟨hblocks, hcode⟩ := ih hnext hdesk' hnames hrest
        (exitCodeOf settings code [answer? settings documents answers ⟨x.2 + 1⟩])
      rw [← hnext.exitCode_eq] at hblocks hcode
      refine ⟨congrArg₂ List.cons htext hblocks, hcode.trans ?_⟩
      rw [hnext.exitCode_eq]
      exact (exitCodeOf_cons settings code _ _).symm

/-! ## The whole check -/

/-- The session in which every file has been asked for. -/
def begun (settings : Settings) (documents : List (Path × String)) (cursor : UInt64)
    (answers : Answers) (notes : List Log.Event) : Session :=
  let s := (Service.ofSettings settings).activate (desk documents cursor).host
    (noteAll notes .initial)
  noteAll (s.runs.flatMap answers.onStart) s

/-- The session in which the runs have ended in the order of the answers, and the number of events
that were handled until then. -/
def waited (settings : Settings) (documents : List (Path × String)) (cursor : UInt64)
    (answers : Answers) (notes : List Log.Event) : Session × Nat :=
  let s := begun settings documents cursor answers notes
  wait (.ofSettings settings) (desk documents cursor).host answers (answers.order s.runs) s

theorem begun_begun (settings : Settings) (documents : List (Path × String)) (cursor : UInt64)
    (answers : Answers) (notes : List Log.Event) :
    Begun settings documents documents.length
      (begun settings documents cursor answers notes) := by
  have hopening : Begun settings documents 0 (noteAll notes .initial) := by
    rw [noteAll_eq]
    exact begun_zero rfl rfl rfl fun _ => rfl
  have hactive := begun_activate hopening cursor
  rw [begun, noteAll_eq]
  exact ⟨hactive.queue, hactive.clock, hactive.runs, hactive.generations, hactive.entries⟩

theorem marker_injective : Function.Injective (fun n : Nat => (⟨n + 1⟩ : MarkerId)) := by
  intro m n h
  simpa using h

theorem shown_begun (settings : Settings) (documents : List (Path × String)) (cursor : UInt64)
    (answers : Answers) (notes : List Log.Event) :
    Shown (fun n => ⟨n + 1⟩) (begun settings documents cursor answers notes) := by
  have hnoted : ∀ {s : Session} (events : List Log.Event), Shown (fun n => ⟨n + 1⟩) s →
      Shown (fun n => ⟨n + 1⟩) (noteAll events s) := by
    intro s events h
    exact h.of_unmarked (unmarked_noteAll events s) fun _ => by rw [noteAll_eq]; rfl
  have hinit : Shown (fun n => ⟨n + 1⟩) Session.initial :=
    ⟨owned_initial _, fun _ => painted_of_none rfl⟩
  have hkept := shown_kept (.ofSettings settings) marker_injective
  exact hnoted _ (hkept.chain rfl (Service.activate_chain _ (desk documents cursor).host _)
    (hnoted notes hinit))

/-- The numbers of the calls are different as long as they do not wrap around. -/
theorem Begun.settling (h : Begun settings documents documents.length s)
    (hlen : documents.length < UInt64.size) (hs : Shown names s) (answers : Answers) :
    Settling settings documents answers names s := by
  have hmem : ∀ {e c}, call? settings documents e = some c → e.number ≤ documents.length ∧
      c.run ∈ s.runs := by
    intro e c hc
    obtain ⟨hle, he⟩ := mem_editors_of_call? hc
    rw [h.runs]
    exact ⟨hle, List.mem_map_of_mem (List.mem_filterMap.mpr ⟨e, he, hc⟩)⟩
  refine ⟨hs, h.queue, fun run hr => ?_, ?_, fun e => ?_⟩
  · rw [h.runs] at hr
    obtain ⟨c, hc, rfl⟩ := List.mem_map.mp hr
    obtain ⟨e, -, hc⟩ := List.mem_filterMap.mp hc
    exact ⟨c, by rw [editor_of_call? hc, hc], rfl⟩
  · rw [h.generations]
    have hbound : ∀ i ∈ List.range (handledBefore settings documents documents.length),
        i + 1 < UInt64.size := fun i hi =>
      Nat.lt_of_le_of_lt (Nat.le_trans (List.mem_range.mp hi) (handledBefore_le _ _ _)) hlen
    refine List.Nodup.map_on (fun i hi j hj hij => ?_) List.nodup_range
    have hnumber := congrArg (UInt64.toNat ∘ Generation.number) hij
    simp only [Function.comp_apply, UInt64.toNat_ofNat_of_lt' (hbound i hi),
      UInt64.toNat_ofNat_of_lt' (hbound j hj)] at hnumber
    exact Nat.succ.inj hnumber
  · rw [bare?, h.entries]
    cases hc : call? settings documents e with
    | none => simp
    | some c =>
        obtain ⟨hle, hrun⟩ := hmem hc
        rw [if_pos hle, Option.map_some, Option.map_some, Option.map_some, if_pos hrun]
        rfl

theorem run_eq (settings : Settings) (documents : List (Path × String)) (cursor : UInt64)
    (answers : Answers) (notes : List Log.Event) :
    run settings documents cursor answers notes =
      let (s, handled) := waited settings documents cursor answers notes
      let (blocks, exitCode, s) := printAll (.ofSettings settings) (desk documents cursor).visible
        (desk documents cursor) 0
        (s.note (.checkSettled s.counters.runsStarted s.counters.runsFailed))
      ⟨blocks, exitCode, handled, Service.dispose s⟩ := rfl

section

variable (settings : Settings) (documents : List (Path × String)) (cursor : UInt64)
  (answers : Answers) (notes : List Log.Event) (hlen : documents.length < UInt64.size)
  (horder : ∀ runs, (answers.order runs).Perm runs)

include hlen horder

theorem settling_waited :
    Settling settings documents answers (fun n => ⟨n + 1⟩)
        (waited settings documents cursor answers notes).1 ∧
      (waited settings documents cursor answers notes).1.runs = [] ∧
      (waited settings documents cursor answers notes).2 =
        (answers.order (begun settings documents cursor answers notes).runs).length := by
  have hsettling := (begun_begun settings documents cursor answers notes).settling hlen
    (shown_begun settings documents cursor answers notes) answers
  exact hsettling.wait (desk documents cursor).host marker_injective rfl (horder _)

/-- What is printed and how it ends, told file by file. -/
theorem printed_run :
    (run settings documents cursor answers notes).blocks =
        documents.zipIdx.map (blockOf settings documents cursor answers) ∧
      (run settings documents cursor answers notes).exitCode = exitCodeOf settings 0
        (documents.zipIdx.map fun x => answer? settings documents answers ⟨x.2 + 1⟩) := by
  obtain ⟨hwaited, hruns, -⟩ := settling_waited settings documents cursor answers notes hlen horder
  have hended := hwaited.ended hruns
  have hnoted : ∀ event, Ended settings documents answers (fun n => ⟨n + 1⟩)
      ((waited settings documents cursor answers notes).1.note event) := fun event =>
    ⟨hended.toShown.of_unmarked (unmarked_note event _) fun _ => rfl, hended.found⟩
  have hfiles : ∀ x ∈ documents.zipIdx, documents[x.2]? = some x.1 :=
    fun x hx => List.mem_zipIdx_iff_getElem?.mp hx
  have hprinted := (hnoted (.checkSettled
    (waited settings documents cursor answers notes).1.counters.runsStarted
    (waited settings documents cursor answers notes).1.counters.runsFailed)).printAll
      marker_injective (get?_desk documents cursor) rfl hfiles 0
  rw [← editors_eq_map_zipIdx, ← visible_desk documents cursor] at hprinted
  rw [run_eq]
  exact hprinted

end

/-- What comes of a check is told by its settings, its files and the answers of the linter. The wait
ends when every file that the linter handles has been answered, and what is printed for a file is
told by its own answer. -/
structure Determined (settings : Settings) (documents : List (Path × String)) (cursor : UInt64)
    (answers : Answers) (notes : List Log.Event) : Prop where
  settled : isBusy (waited settings documents cursor answers notes).1 = false
  handled : (run settings documents cursor answers notes).handled =
    documents.countP fun d => (Extensions.ofSettings settings).supports d.1
  exitCode : (run settings documents cursor answers notes).exitCode =
    let all := documents.zipIdx.map fun x => answer? settings documents answers ⟨x.2 + 1⟩
    if all.any hasFailed then 2 else if all.any (hasError settings) then 1 else 0
  blocks : (run settings documents cursor answers notes).blocks =
    documents.zipIdx.map fun x => Printout.block settings x.1.1 (if x.2 = 0 then cursor else 0)
      (answer? settings documents answers ⟨x.2 + 1⟩)

/-- A check is told by its settings, its files and its answers. Calls are numbered with 64 bits, and
no list in memory has more items than that. -/
theorem run_determined (settings : Settings) (documents : List (Path × String)) (cursor : UInt64)
    (answers : Answers) (notes : List Log.Event) (hlen : documents.length < UInt64.size)
    (horder : ∀ runs, (answers.order runs).Perm runs) :
    Determined settings documents cursor answers notes := by
  obtain ⟨hwaited, hruns, hcount⟩ :=
    settling_waited settings documents cursor answers notes hlen horder
  obtain ⟨hblocks, hcode⟩ := printed_run settings documents cursor answers notes hlen horder
  refine ⟨hwaited.isBusy_eq_false hruns, ?_, ?_, hblocks⟩
  · have hbegun := begun_begun settings documents cursor answers notes
    have hlength : (begun settings documents cursor answers notes).runs.length =
        handledBefore settings documents documents.length := by
      rw [← List.length_map Run.generation, hbegun.generations, List.length_map, List.length_range]
    rw [run_eq]
    refine hcount.trans ((horder _).length_eq.trans (hlength.trans ?_))
    rw [handledBefore, List.take_length]
  · refine hcode.trans ?_
    simp only [exitCodeOf, decide_true, Bool.true_and]

/-- A script is checked twice, and in between stands a file that the linter does not handle. The
second call ends first, and fails. -/
theorem run_determined_of_script :
    let documents := [(Path.script, "let"), (⟨[0x61]⟩, ""), (Path.script, "let")]
    let answers : Answers :=
      { order := List.reverse
        result := fun run =>
          if run.generation = ⟨1⟩ then .ok [⟨2, 1, "unused", none, 1⟩, ⟨3, 1, "gone", none, 2⟩]
          else .error (.task "crashed") }
    let verdict := run .default documents 1 answers []
    Determined .default documents 1 answers [] ∧ verdict.handled = 2 ∧ verdict.exitCode = 2 ∧
      String.join verdict.blocks =
        "a.js\n  error markers: 3\n  warning markers: 2\n  status (line 2, #ddb700): unused\n" ++
        "  2:1 warning unused\n  3:1 error gone\na\na.js\n  no issues\n  check failed\n" := by
  refine ⟨run_determined _ _ _ _ _ (by decide) fun runs => runs.reverse_perm, ?_, ?_, ?_⟩ <;>
    decide +kernel

/-! ## Files that were never checked -/

/-- A document that was never checked is shown like one without issues. Along every course an empty
list always means that a check has found nothing, except for the moves with which the host wants an
unchecked active editor to be shown; these publish an empty list. As a check of files ends with such
moves, the block of every file whose check has failed says that there are no issues. -/
theorem unchecked_shown_clean (v : Service) (host : Host) (moves : List Scene.Move)
    (m : Scene.Move) (settings : Settings) (documents : List (Path × String)) (cursor : UInt64)
    (answers : Answers) (notes : List Log.Event) :
    let c := (Scene.opening v host).play moves
    (∃ news, c.Told m news ∧
      ((∀ file, .publish file [] ∈ news → c.FoundClean m file) ↔ ∀ e, ¬ c.ShowsUnchecked m e)) ∧
    (documents.length < UInt64.size → (∀ runs, (answers.order runs).Perm runs) →
      ∀ i file text failure, documents[i]? = some (file, text) →
        answer? settings documents answers ⟨i + 1⟩ = some (.error failure) →
        (run settings documents cursor answers notes).blocks[i]? =
          some (Printout.lines [file.display, "  no issues", "  check failed"])) := by
  constructor
  · obtain ⟨news, htold⟩ := Scene.exists_told v host moves m
    exact ⟨news, htold, htold.forall_foundClean_iff⟩
  · intro hlen horder i file text failure hfile hfailed
    have hblocks := (printed_run settings documents cursor answers notes hlen horder).1
    rw [hblocks, List.getElem?_map, List.getElem?_zipIdx, hfile]
    simp only [Option.map_some, blockOf, Nat.zero_add, hfailed]
    rfl

/-- The check of a script is under way when it gets the focus, and then fails. -/
theorem unchecked_shown_clean_of_failure :
    let c := (Scene.opening (.ofSettings .default) (.script "let")).play [.call .activate]
    let answers : Answers := { order := id, result := fun _ => .error (.task "crashed") }
    (∃ file news, file.display = "a.js" ∧
      (c.perform (.call (.activeChanged (some ⟨0⟩)))).session.journal.strokes =
        c.session.journal.strokes ++ news ∧ .publish file [] ∈ news) ∧
      (run .default [(.script, "let")] 0 answers []).blocks[0]? =
        some "a.js\n  no issues\n  check failed\n" := by
  intro c answers
  obtain ⟨⟨news, htold, -⟩, hfailed⟩ := unchecked_shown_clean (.ofSettings .default)
    (.script "let") [.call .activate] (.call (.activeChanged (some ⟨0⟩))) .default
    [(.script, "let")] 0 answers []
  obtain ⟨file, hfound, hmem⟩ := htold.unchecked ⟨0⟩ ⟨rfl, rfl, rfl, _, rfl, rfl⟩
  refine ⟨⟨file, news, ?_, htold.strokes, hmem⟩, ?_⟩
  · obtain rfl : Path.script = file := congrArg Prod.fst (Option.some.inj hfound)
    decide +kernel
  · exact hfailed (by decide) (fun runs => .refl runs) 0 .script "let" (.task "crashed") rfl rfl

end Check

end Gutter
