import Gutter.Proofs.Levels
import Gutter.Proofs.Session.Found
import Gutter.Proofs.Session.Freshness

/-!
# What is shown was reported

Whatever the host is shown, some run has reported it, with a code that passes the level. So a
service whose level is 2 shows as a warning what was reported with a code above 2, and nothing else:
the gutter, the status line and the list of issues all follow what the level keeps.
-/

namespace Gutter

/-! ## Severities of what is drawn -/

/-- The severities of what a stroke shows. -/
def Stroke.severities : Stroke → List Severity
  | .create _ _ severity _ => [severity]
  | .status line => [line.severity]
  | .publish _ issues => issues.map Issue.severity
  | .release _ | .withdraw _ | .withdrawAll | .clearStatus => []

/-- Some stroke shows something of a severity. -/
def Shows (severity : Severity) (strokes : List Stroke) : Prop :=
  ∃ stroke ∈ strokes, severity ∈ stroke.severities

instance (severity : Severity) (strokes : List Stroke) : Decidable (Shows severity strokes) :=
  inferInstanceAs (Decidable (∃ stroke ∈ strokes, severity ∈ stroke.severities))

namespace Shows

variable {severity : Severity}

theorem append_iff {first last : List Stroke} :
    Shows severity (first ++ last) ↔ Shows severity first ∨ Shows severity last := by
  simp [Shows, or_and_right, exists_or]

theorem of_nil : ¬ Shows severity [] := by
  simp [Shows]

theorem cons_iff {stroke : Stroke} {strokes : List Stroke} :
    Shows severity (stroke :: strokes) ↔ severity ∈ stroke.severities ∨ Shows severity strokes := by
  simp [Shows]

theorem of_release (markers : List MarkerId) : ¬ Shows severity (markers.map .release) := by
  simp [Shows, Stroke.severities]

/-- New markers show their severities. -/
theorem marks_iff {names : List MarkerId} {ks : List Marker} (h : names.length = ks.length) :
    Shows severity (List.zipWith Marker.stroke names ks) ↔ ∃ k ∈ ks, k.severity = severity := by
  induction names generalizing ks with
  | nil =>
      obtain rfl := List.eq_nil_of_length_eq_zero h.symm
      simp [Shows]
  | cons name names ih =>
      cases ks with
      | nil => simp at h
      | cons k ks =>
          rw [List.zipWith_cons_cons, cons_iff, ih (Nat.succ.inj h)]
          simp [Marker.stroke, Stroke.severities, eq_comm]

end Shows

theorem MarkedLines.exists_mem_gutter {b : MarkedLines} {e : EditorId} {severity : Severity} :
    (∃ k ∈ b.gutter e, k.severity = severity) ↔ b.lines severity ≠ [] := by
  cases severity <;> by_cases he : b.errors = [] <;> by_cases hw : b.warnings = [] <;>
    simp [gutter, lines, he, hw]

namespace Session

variable {severity : Severity} {settings : Settings} {host : Host} {e : EditorId} {entry : Entry}
  {s s' : Session}

theorem mem_severities_statusStroke {issues : List Issue} :
    severity ∈ (statusStroke settings issues).severities ↔
      (Issue.primary? issues).map Issue.severity = some severity := by
  unfold statusStroke
  cases Issue.primary? issues <;> simp [Stroke.severities, eq_comm]

/-- The end of a drawing shows the issue for the line of the cursor and all issues, if the editor is
active. -/
theorem shows_closing_iff :
    Shows severity (entry.closing settings host e) ↔ host.active = some e ∧
      ((Issue.primary? (((host.cursor? e).bind entry.issuesOn?).getD [])).map Issue.severity =
          some severity ∨
        ∃ issue ∈ entry.issues, issue.severity = severity) := by
  unfold Entry.closing
  split
  · next ha =>
    rw [Shows.cons_iff, mem_severities_statusStroke, Shows.cons_iff]
    simp [Stroke.severities, ha, Shows.of_nil]
  · next ha => simp [Shows, Stroke.severities, ha]

/-- What the status line shows for the line of the cursor is on a marked line. -/
theorem lines_ne_nil_of_cursor
    (h : (Issue.primary? (((host.cursor? e).bind entry.issuesOn?).getD [])).map Issue.severity =
      some severity) : entry.marked.lines severity ≠ [] := by
  cases hc : host.cursor? e with
  | none => simp [hc, Issue.primary?] at h
  | some line =>
      rw [hc, Option.bind_some, Entry.issuesOn?] at h
      cases hf : entry.findings with
      | none => simp [hf, Issue.primary?] at h
      | some findings =>
          rw [hf, Option.bind_some] at h
          cases hget : findings.byLine.get? line with
          | none => simp [hget, Issue.primary?] at h
          | some issues =>
              rw [hget, Option.getD_some] at h
              rw [Entry.marked, hf, MarkedLines.lines_ofLineMap]
              exact List.ne_nil_of_mem (MarkedLines.mem_linesOf.mpr ⟨issues, hget, h⟩)

/-- A drawing shows the severities of the marked lines, and those of all issues if the editor is
active. -/
theorem Draws.shows_iff (h : Draws settings host e entry s s') :
    ∃ news, s'.journal.strokes = s.journal.strokes ++ news ∧ ∀ severity, Shows severity news ↔
      entry.marked.lines severity ≠ [] ∨
        host.active = some e ∧ ∃ issue ∈ entry.issues, issue.severity = severity := by
  refine ⟨_, h.strokes, fun severity => ?_⟩
  rw [Shows.append_iff, Shows.append_iff, or_iff_right (Shows.of_release _),
    Shows.marks_iff (length_nextNames _ _ _), MarkedLines.exists_mem_gutter, shows_closing_iff]
  constructor
  · rintro (hlines | ⟨ha, hcursor | hissue⟩)
    · exact .inl hlines
    · exact .inl (lines_ne_nil_of_cursor hcursor)
    · exact .inr ⟨ha, hissue⟩
  · rintro (hlines | ⟨ha, hissue⟩)
    · exact .inl hlines
    · exact .inr ⟨ha, .inr hissue⟩

/-! ## What was reported -/

/-- Records were told of some editor, and one of a severity is among them that passes the level. -/
def Warranted (level : UInt8) (told : EditorId → List Record → Prop) (severity : Severity) : Prop :=
  ∃ e records, told e records ∧
    ∃ issue ∈ (Findings.ofRecords records level).issues, issue.severity = severity

/-- What is remembered, waits to be handled or was drawn comes from what was told of the editors. -/
structure Vouched (level : UInt8) (told : EditorId → List Record → Prop) (s : Session) : Prop where
  found : ∀ e findings, (s.found? e).bind Prod.snd = some findings →
    ∃ records, told e records ∧ findings = .ofRecords records level
  queue : ∀ e generation records, .runDone e generation (.ok records) ∈ s.queue → told e records
  strokes : ∀ severity, Shows severity s.journal.strokes → Warranted level told severity

variable {v : Service} {H : Host → Prop} {level : UInt8} {told : EditorId → List Record → Prop}

namespace Vouched

/-- A step after which the same is remembered, no run has ended, and what is drawn was told. -/
theorem of_drawn (h : s.Vouched level told)
    (hf : ∀ e, (s'.found? e).bind Prod.snd = (s.found? e).bind Prod.snd)
    (hq : ∀ e generation records, .runDone e generation (.ok records) ∈ s'.queue →
      .runDone e generation (.ok records) ∈ s.queue)
    {news : List Stroke} (hs : s'.journal.strokes = s.journal.strokes ++ news)
    (hn : ∀ severity, Shows severity news → Warranted level told severity) :
    s'.Vouched level told where
  found e findings he := h.found e findings ((hf e).symm.trans he)
  queue e generation records hm := h.queue e generation records (hq e generation records hm)
  strokes severity hshown := by
    rw [hs, Shows.append_iff] at hshown
    exact hshown.elim (h.strokes severity) (hn severity)

theorem of_silent (h : s.Vouched level told) (hs : Silent v H s s')
    (hq : ∀ e generation records, .runDone e generation (.ok records) ∈ s'.queue →
      .runDone e generation (.ok records) ∈ s.queue) : s'.Vouched level told :=
  h.of_drawn hs.findings hq (hs.strokes.trans (List.append_nil _).symm)
    fun _ hshown => absurd hshown Shows.of_nil

theorem draw (h : s.Vouched level told) {strokes : List Stroke}
    (hn : ∀ severity, Shows severity strokes → Warranted level told severity) :
    Session.Vouched level told (s.draw strokes) :=
  h.of_drawn (fun _ => rfl) (fun _ _ _ hm => hm) rfl hn

/-- What is remembered of an editor was told of it. -/
theorem warranted (h : s.Vouched level told) (he : s.entry? e = some entry)
    (hissue : ∃ issue ∈ entry.issues, issue.severity = severity) :
    Warranted level told severity := by
  cases hf : entry.findings with
  | none => simp [Entry.issues, hf] at hissue
  | some findings =>
      obtain ⟨records, htold, rfl⟩ := h.found e findings (by rw [found?_of_entry he]; exact hf)
      rw [Entry.issues, hf] at hissue
      exact ⟨e, records, htold, hissue⟩

/-- What marks a line of an editor was told of it. -/
theorem warranted_of_lines (h : s.Vouched level told) (he : s.entry? e = some entry)
    (hlines : entry.marked.lines severity ≠ []) : Warranted level told severity := by
  cases hf : entry.findings with
  | none => cases severity <;> simp [Entry.marked, MarkedLines.lines, hf] at hlines
  | some findings =>
      obtain ⟨records, htold, rfl⟩ := h.found e findings (by rw [found?_of_entry he]; exact hf)
      rw [Entry.marked, hf, MarkedLines.lines_ofLineMap] at hlines
      exact ⟨e, records, htold,
        (Findings.grouped_ofRecords records level).exists_issue_of_linesOf hlines⟩

theorem render (h : s.Vouched level told) (settings : Settings) (host : Host) (e : EditorId) :
    Session.Vouched level told (s.render settings host e) := by
  cases he : s.entry? e with
  | none =>
      have hrender : s.render settings host e = s := by simp only [Session.render, he]
      rwa [hrender]
  | some entry =>
      have halike := alike_render settings host e s
      have hqueue : (s.render settings host e).queue = s.queue := congrArg Work.queue halike.work
      obtain ⟨news, hs, hn⟩ := (draws_render settings host he).shows_iff
      refine h.of_drawn (fun x => by rw [halike.found? x]) (fun _ _ _ hm => hqueue ▸ hm) hs ?_
      intro severity hshown
      rcases (hn severity).mp hshown with hlines | ⟨-, hissue⟩
      · exact h.warranted_of_lines he hlines
      · exact h.warranted he hissue

theorem showStatus (h : s.Vouched level told) (settings : Settings) (host : Host) (e : EditorId) :
    Session.Vouched level told (s.showStatus settings host e) := by
  unfold Session.showStatus
  split
  · refine h.draw fun severity hshown => ?_
    rw [Shows.cons_iff, or_iff_left Shows.of_nil, mem_severities_statusStroke] at hshown
    cases he : s.entry? e with
    | none => simp [cursorIssues, he, Issue.primary?] at hshown
    | some entry =>
        rw [cursorIssues_of_entry he] at hshown
        exact h.warranted_of_lines he (lines_ne_nil_of_cursor hshown)
  · exact h

theorem showIssues (h : s.Vouched level told) (host : Host) (e : EditorId) :
    Session.Vouched level told (s.showIssues host e) := by
  unfold Session.showIssues
  split
  · exact h
  · next entry he =>
    split
    · refine h.draw fun severity hshown => h.warranted he ?_
      simpa [Shows, Stroke.severities] using hshown
    · exact h.draw fun severity hshown => by simp [Shows, Stroke.severities] at hshown

theorem close (h : s.Vouched level told) (keep : EditorId → Bool) :
    Session.Vouched level told (s.close keep) := by
  refine ⟨fun e findings he => ?_, h.queue, fun severity hshown => ?_⟩
  · rw [found?_close] at he
    split at he
    · exact h.found e findings he
    · cases he
  · rcases Shows.append_iff.mp hshown with hshown | hshown
    · exact h.strokes severity hshown
    · exact absurd hshown (Shows.of_release _)

theorem draw_blank (h : s.Vouched level told) {strokes : List Stroke}
    (hs : ∀ stroke ∈ strokes, stroke.severities = []) :
    Session.Vouched level told (s.draw strokes) :=
  h.draw fun severity ⟨stroke, hmem, hshown⟩ => by simp [hs stroke hmem] at hshown

theorem refocus (h : s.Vouched level told) (settings : Settings) (host : Host) (e : EditorId) :
    Session.Vouched level told (s.refocus settings host e) := by
  have hnoted : Session.Vouched level told (s.note (.focus e)) := ⟨h.found, h.queue, h.strokes⟩
  have hblank : Session.Vouched level told ((s.note (.focus e)).draw [.withdrawAll]) :=
    hnoted.draw_blank (by simp [Stroke.severities])
  exact (hblank.showStatus settings host e).showIssues host e

theorem deed {host : Host} (h : s.Vouched level told) (hd : Deed v host s s') :
    s'.Vouched level told := by
  cases hd with
  | note | tally => exact ⟨h.found, h.queue, h.strokes⟩
  | soil e =>
      have hs : Silent v (· = host) s (s.edit e .soil) :=
        silent_of_found rfl (found?_edit (f := .soil) (fun _ => ⟨rfl, rfl⟩) e s)
      exact h.of_silent hs fun _ _ _ hm => hm
  | meet hf hk =>
      exact h.of_silent (silent_ensure (H := (· = host)) rfl (meets_of_kindOf? hf hk) s)
        fun _ _ _ hm => hm
  | setTimer =>
      exact h.of_silent (silent_setTimer (v := v) (H := (· = host)) _ _ s) fun _ _ _ hm => hm
  | start =>
      exact h.of_silent (silent_start (v := v) (H := (· = host)) _ _ _ s) fun _ _ _ hm => hm
  | render e => exact h.render _ _ e
  | showStatus e => exact h.showStatus _ _ e
  | clearStatus => exact h.draw_blank (by simp [Stroke.severities])

/-- What a run has reported is stored for its editor. -/
theorem store {entry : Entry} (h : s.Vouched level told) (he : s.entry? e = some entry)
    {records : List Record} (htold : told e records) (generation : Generation) :
    Session.Vouched level told (s.store e generation (.ofRecords records level)) := by
  refine ⟨fun x findings hx => ?_, h.queue, h.strokes⟩
  by_cases hxe : x = e
  · subst hxe
    rw [found?_of_entry (entry?_store he generation _)] at hx
    obtain rfl := Option.some.inj hx
    exact ⟨records, htold, rfl⟩
  · have hentry := entry?_edit_of_ne hxe (.commit (.ofRecords records level)) s
    exact h.found x findings (by rw [found?, ← hentry]; exact hx)

theorem pop (h : s.Vouched level told) : s.pop.Vouched level told :=
  ⟨h.found, fun e generation records hm => h.queue e generation records (List.mem_of_mem_tail hm),
    h.strokes⟩

end Vouched

theorem vouched_keptByEvents (v : Service) (H : Host → Prop)
    (told : EditorId → List Record → Prop) :
    KeptByEvents v H (Vouched v.settings.severityLevel told) where
  deed _ hd h := h.deed hd
  ignore _ _ h := h.pop
  takeTimer := by
    intro s e token rest entry _ _ _ h
    have hs : Silent v H s.pop (s.pop.takeTimer e token) :=
      silent_of_found rfl (found?_edit (f := .setTimer none) (fun _ => ⟨rfl, rfl⟩) e s.pop)
    exact h.pop.of_silent hs fun _ _ _ hm => hm
  disregard _ _ _ h := ⟨h.pop.found, h.pop.queue, h.strokes⟩
  abandon := by
    intro s e generation failure rest _ _ h
    have hs : Silent v H s.pop (s.pop.abandon e failure) :=
      silent_of_found rfl (found?_edit (f := .fail) (fun _ => ⟨rfl, rfl⟩) e s.pop)
    exact h.pop.of_silent hs fun _ _ _ hm => hm
  store := by
    rintro host s e generation records rest _ hq ⟨entry, he, -⟩ h
    have htold : told e records := h.queue e generation records (by rw [hq]; exact .head _)
    exact (h.pop.store (s := s.pop) he htold generation).render v.settings host e

namespace Vouched

/-- A run reports what it was told of its editor. -/
theorem finish (h : s.Vouched level told) {generation : Generation}
    {result : Except Failure (List Record)}
    (ht : ∀ records, result = .ok records → ∀ run ∈ s.runs, run.generation = generation →
      told run.editor records) : (s.finish generation result).Vouched level told := by
  unfold Session.finish
  split
  · exact h
  · next run hfind =>
    have hmem := List.mem_of_find?_eq_some hfind
    have hgen : run.generation = generation := by simpa using List.find?_some hfind
    refine ⟨h.found, fun e g records hm => ?_, h.strokes⟩
    rcases List.mem_append.mp hm with hm | hm
    · exact h.queue e g records hm
    · obtain ⟨rfl, -, hok⟩ := Event.runDone.inj (List.mem_singleton.mp hm)
      exact ht records hok.symm run hmem hgen

theorem ring (h : s.Vouched level told) (token : TimerToken) :
    (s.ring token).Vouched level told := by
  rcases ring_cases token s with heq | ⟨a, -, -, heq⟩ <;> rw [heq]
  · exact h
  · refine ⟨h.found, fun e generation records hm => ?_, h.strokes⟩
    exact h.queue e generation records (by simpa [rang] using hm)

/-- One move keeps the property, if a run that ends with it reports what was told. -/
theorem perform {c : Scene} (h : c.session.Vouched c.service.settings.severityLevel told)
    {m : Scene.Move} (ht : ∀ generation records, m = .finish generation (.ok records) →
      ∀ run ∈ c.session.runs, run.generation = generation → told run.editor records) :
    (c.perform m).session.Vouched c.service.settings.severityLevel told := by
  have hevents := vouched_keptByEvents c.service (· = c.host) told
  have hdeeds : KeptByDeeds c.service (· = c.host) []
      (Vouched c.service.settings.severityLevel told) := ⟨hevents.deed, fun _ h => h.close _⟩
  cases m with
  | rearrange | pass => exact ⟨h.found, h.queue, h.strokes⟩
  | ring token => exact h.ring token
  | finish generation result =>
      exact h.finish fun records hok => ht generation records (by rw [hok])
  | call call =>
      rw [Scene.session_perform_call]
      split
      · exact h
      · exact hdeeds.call rfl h (hevents.handleNext rfl h) (fun e _ => h.refocus _ _ e) (by simp)
  | dispose =>
      simp only [Scene.perform]
      split
      · exact h
      · exact hdeeds.dispose rfl h (fun h => h.draw_blank (by simp [Stroke.severities])) (by simp)

end Vouched

/-! ## A check is completed -/

variable {generation : Generation} {records : List Record} {rest : List Event}

/-- When a check is completed the host is told of what was found, and of nothing else. -/
theorem strokes_handleNext (hq : s.queue = .runDone e generation (.ok records) :: rest)
    (hw : s.AwaitsRun e generation) (v : Service) (host : Host) :
    (v.handleNext host s).journal.strokes = ((s.pop.store e generation
      (.ofRecords records v.settings.severityLevel)).render v.settings host e).journal.strokes := by
  obtain ⟨entry, he, hr, rfl⟩ := hw
  rw [Service.handleNext_of_queue hq, Service.handle_runDone_ok (s := s.pop) he hr]
  simp only
  split
  · exact (silent_request (v := v) (H := (· = host)) rfl e _).strokes
  · rfl

/-- When a check is completed, a severity is shown exactly if it marks a line, or if it is kept and
the editor is active. -/
theorem shows_handleNext (hq : s.queue = .runDone e generation (.ok records) :: rest)
    (hw : s.AwaitsRun e generation) (v : Service) (host : Host) :
    ∃ news, (v.handleNext host s).journal.strokes = s.journal.strokes ++ news ∧
      ∀ severity, Shows severity news ↔
        MarkedLines.linesOf
            (Findings.ofRecords records v.settings.severityLevel).byLine severity ≠ [] ∨
          host.active = some e ∧ ∃ r ∈ records, v.settings.severityLevel ≤ r.severity ∧
            (Issue.ofRecord r).severity = severity := by
  have hstrokes := strokes_handleNext hq hw v host
  obtain ⟨entry, he, -⟩ := hw
  obtain ⟨news, hs, hn⟩ := (draws_render v.settings host (entry?_store (s := s.pop) he generation
    (.ofRecords records v.settings.severityLevel))).shows_iff
  refine ⟨news, hstrokes.trans hs, fun severity => ?_⟩
  rw [hn, ← Findings.exists_issue_ofRecords, ← MarkedLines.lines_ofLineMap]
  rfl

end Session

def Host.focused (file : Path) : Host := { Host.script "" with file? := fun _ => some file }

namespace Scene

open Session

/-- Everything that is shown along a course was reported by the linter, in answer to a run of some
editor. -/
theorem vouched_play (v : Service) (host : Host) (moves : List Move) :
    ((opening v host).play moves).session.Vouched v.settings.severityLevel
      fun e records => ∃ request, (opening v host).Answers e moves request records := by
  -- the answers are those of the whole course, so they stay while the induction extends `before`
  suffices hprefix : ∀ before, before <+: moves →
      ((opening v host).play before).session.Vouched v.settings.severityLevel
        fun e records => ∃ request, (opening v host).Answers e moves request records from
    hprefix moves (List.prefix_refl _)
  intro before
  induction before using List.reverseRecOn with
  | nil =>
      intro _
      exact ⟨fun e findings he => by simp [opening, found?] at he,
        fun _ _ _ hm => absurd hm List.not_mem_nil, fun _ hshown => absurd hshown Shows.of_nil⟩
  | append_singleton before m ih =>
      rintro ⟨after, hmoves⟩
      have hbefore := ih ⟨m :: after, by simpa using hmoves⟩
      rw [play_concat]
      have hservice : ((opening v host).play before).service = v := service_play _ before
      have hstep := Vouched.perform (c := (opening v host).play before) (m := m)
        (by rwa [hservice]) fun generation records heq run hrun hg => by
          subst heq hg
          exact ⟨run.request, before, run.generation, after, by simpa using hmoves.symm, hrun⟩
      rwa [hservice] at hstep

/-- All records that runs report in a course have a property. -/
def Reports (R : Record → Prop) (moves : List Move) : Prop :=
  ∀ generation records, .finish generation (.ok records) ∈ moves → ∀ r ∈ records, R r

theorem exists_answer_of_shows {v : Service} {host : Host} {moves : List Move} {severity : Severity}
    (h : Shows severity ((opening v host).play moves).session.journal.strokes) :
    ∃ e request records, (opening v host).Answers e moves request records ∧
      ∃ r ∈ records, v.settings.severityLevel ≤ r.severity ∧
        (Issue.ofRecord r).severity = severity := by
  obtain ⟨e, records, ⟨request, hanswers⟩, hissue⟩ := (vouched_play v host moves).strokes _ h
  exact ⟨e, request, records, hanswers, Findings.exists_issue_ofRecords.mp hissue⟩

/-- A document is checked once, at the wish of the host, and the linter answers with some
records. -/
def checkedOnce (records : List Record) : List Move :=
  [.call (.request ⟨0⟩ false), .finish Generation.initial.next (.ok records), .call .handleNext]

/-- The check of a document that has the focus shows whatever the linter reports, as long as it
passes the level. -/
theorem shows_checkedOnce {v : Service} {file : Path} (hx : v.extensions.supports file = true)
    {records : List Record} {r : Record} (hr : r ∈ records)
    (hlevel : v.settings.severityLevel ≤ r.severity) :
    Shows (Issue.ofRecord r).severity
      ((opening v (.focused file)).play (checkedOnce records)).session.journal.strokes := by
  obtain ⟨kind, hk⟩ := Option.isSome_iff_exists.mp hx
  have hfile : (Host.focused file).file? ⟨0⟩ = some file := rfl
  have hstart := Service.request_of_new (v := v) (s := .initial) hfile rfl
  rw [hk] at hstart
  let started := Session.start v.settings ⟨⟨0⟩, file, kind⟩ "" (Session.ensure ⟨0⟩ file .initial)
  have hw : (started.finish Generation.initial.next (.ok records)).AwaitsRun ⟨0⟩
      Generation.initial.next := by
    refine ⟨(Entry.new file).start Generation.initial.next, ?_, rfl, rfl⟩
    rw [entry?_finish, entry?_start, if_pos rfl, entry?_ensure_self]
    rfl
  have hq : (started.finish Generation.initial.next (.ok records)).queue =
      [.runDone ⟨0⟩ Generation.initial.next (.ok records)] := rfl
  obtain ⟨news, hs, hn⟩ := shows_handleNext hq hw v (.focused file)
  have hshown := (hn (Issue.ofRecord r).severity).mpr (.inr ⟨rfl, r, hr, hlevel, rfl⟩)
  have hplay : ((opening v (.focused file)).play (checkedOnce records)).session =
      v.handleNext (.focused file) (started.finish Generation.initial.next (.ok records)) :=
    congrArg (fun s : Session => v.handleNext (.focused file) (s.finish _ (.ok records))) hstart
  rw [hplay, hs]
  exact Shows.append_iff.mpr (.inr hshown)

/-- A service can come to show a severity exactly if its linter may report a code of that severity
that passes the level. -/
theorem exists_shows_iff {v : Service} (hx : ∃ file, v.extensions.supports file = true)
    (R : Record → Prop) (severity : Severity) :
    (∃ host moves, Reports R moves ∧
        Shows severity ((opening v host).play moves).session.journal.strokes) ↔
      ∃ r, R r ∧ v.settings.severityLevel ≤ r.severity ∧
        (Issue.ofRecord r).severity = severity := by
  constructor
  · rintro ⟨host, moves, hreports, hshown⟩
    obtain ⟨_, _, records, ⟨_, generation, _, hmoves, -⟩, r, hr, hlevel, hs⟩ :=
      exists_answer_of_shows hshown
    exact ⟨r, hreports generation records (by simp [hmoves]) r hr, hlevel, hs⟩
  · rintro ⟨r, hr, hlevel, rfl⟩
    obtain ⟨file, hfile⟩ := hx
    refine ⟨.focused file, checkedOnce [r], fun generation records hmem x hxr => ?_,
      shows_checkedOnce hfile (List.mem_singleton_self r) hlevel⟩
    obtain ⟨-, rfl⟩ : generation = Generation.initial.next ∧ records = [r] := by
      simpa [checkedOnce] using hmem
    rwa [List.mem_singleton.mp hxr]

-- codes 1 and 2 leave no warning at level 2
example :
    let v := Service.ofSettings { severityLevel := 2 }
    let c := (opening v (.focused .script)).play
      (checkedOnce [⟨1, 1, "unused", none, 1⟩, ⟨2, 1, "undefined", none, 2⟩])
    Shows .error c.session.journal.strokes ∧ ¬ Shows .warning c.session.journal.strokes := by
  decide +kernel

/-! ## Level 2 -/

/-- What a service shows as a warning whose level is that of errors: what was reported with a code
above 2, and nothing else. A completed check shows it at once if the editor is active or the line
has no error. -/
structure WarnsOnlyAbove (v : Service) : Prop where
  reported : ∀ host moves, Shows .warning ((opening v host).play moves).session.journal.strokes →
    ∃ e request records, (opening v host).Answers e moves request records ∧
      ∃ r ∈ records, 2 < r.severity
  completed : ∀ host moves e generation records rest,
    ((opening v host).play moves).session.queue =
      .runDone e generation (.ok records) :: rest →
    ((opening v host).play moves).session.AwaitsRun e generation →
    ∃ news, ((opening v host).play (moves ++ [.call .handleNext])).session.journal.strokes =
        ((opening v host).play moves).session.journal.strokes ++ news ∧
      (Shows .warning news ↔
        (((opening v host).play moves).host.active = some e ∧ ∃ r ∈ records, 2 < r.severity) ∨
          ∃ r ∈ records, 2 < r.severity ∧ ∀ x ∈ records,
            (Issue.ofRecord x).line = (Issue.ofRecord r).line → x.severity ≠ 2)
  shown_iff : (∃ file, v.extensions.supports file = true) → ∀ R : Record → Prop,
    (∃ host moves, Reports R moves ∧
        Shows .warning ((opening v host).play moves).session.journal.strokes) ↔
      ∃ r, R r ∧ 2 < r.severity

theorem warnsOnlyAbove {v : Service} (hlevel : v.settings.severityLevel = 2) :
    WarnsOnlyAbove v where
  reported host moves hshown := by
    obtain ⟨e, request, records, hanswers, r, hr, hpasses⟩ := exists_answer_of_shows hshown
    rw [hlevel, Issue.passes_as_warning_iff] at hpasses
    exact ⟨e, request, records, hanswers, r, hr, hpasses⟩
  completed host moves e generation records rest hq hw := by
    have hservice : ((opening v host).play moves).service = v := service_play _ moves
    have hopen : ((opening v host).play moves).isDisposed = false := by
      obtain ⟨entry, he, -⟩ := hw
      refine Bool.eq_false_iff.mpr fun hd => ?_
      rw [entry?_of_isDisposed hd] at he
      cases he
    obtain ⟨news, hs, hn⟩ := shows_handleNext hq hw v ((opening v host).play moves).host
    refine ⟨news, ?_, ?_⟩
    · rw [play_concat, session_perform_call, hopen, hservice]
      exact hs
    · rw [hn, hlevel, Findings.warnings_ne_nil_iff, or_comm]
      simp only [Issue.passes_as_warning_iff]
  shown_iff hx R := by
    rw [exists_shows_iff hx R, hlevel]
    simp only [Issue.passes_as_warning_iff]

/-- A level above 2 hides errors behind warnings as soon as a code reaches it, and no other level
does. At level 2, which is there to keep errors only, warnings are kept and shown all the same: they
are the records with a code above 2, and nothing else is. -/
theorem warnings_pass_level (v : Service) (hlevel : v.settings.severityLevel = 2) :
    (∀ records level, Findings.Sifted records level) ∧ WarnsOnlyAbove v :=
  ⟨fun _ _ => ⟨Findings.hidesErrors_iff, Findings.warnings_ofRecords⟩, warnsOnlyAbove hlevel⟩

/-- A linter reports a fatal error with code 3, and an error. Level 3 hides the error behind the
fatal one, and at level 2 the gutter shows the fatal one as a warning, as it can if the linter never
reports another code. -/
theorem warnings_pass_level_of_fatal :
    let v := Service.ofSettings { severityLevel := 2 }
    let records : List Record := [⟨1, 1, "fatal", none, 3⟩, ⟨2, 1, "undefined", none, 2⟩]
    let moves : List Move := [.call .activate, .finish ⟨1⟩ (.ok records)]
    let s := ((opening v (.script "let")).play (moves ++ [.call .handleNext])).session
    (Findings.ofRecords records 3).HidesErrors records ∧ Shows .warning s.journal.strokes ∧
      s.screen.live? ⟨1⟩ = some ⟨⟨0⟩, .warning, [0]⟩ ∧
      ∃ host moves, Reports (·.severity = 3) moves ∧
        Shows .warning ((opening v host).play moves).session.journal.strokes := by
  intro v records moves s
  obtain ⟨hsifted, hwarns⟩ := warnings_pass_level v rfl
  have hq : ((opening v (.script "let")).play moves).session.queue =
      [.runDone ⟨0⟩ ⟨1⟩ (.ok records)] := rfl
  obtain ⟨news, hs, hn⟩ := hwarns.completed (.script "let") moves ⟨0⟩ ⟨1⟩ records [] hq
    ⟨_, rfl, by decide +kernel, by decide +kernel⟩
  have hshown : Shows .warning news :=
    hn.mpr (.inl ⟨rfl, ⟨1, 1, "fatal", none, 3⟩, .head _, by decide⟩)
  refine ⟨(hsifted records 3).hides_iff.mpr (by decide), ?_, by decide +kernel, ?_⟩
  · rw [hs]
    exact Shows.append_iff.mpr (.inr hshown)
  · exact (hwarns.shown_iff ⟨.script, by decide +kernel⟩ (·.severity = 3)).mpr
      ⟨⟨1, 1, "fatal", none, 3⟩, rfl, by decide⟩

end Scene

end Gutter
