import Gutter.Proofs.Session.Found

/-!
# The status line

The status line is written anew when an editor is drawn, when it gets the focus, when its text
changes and when its cursor moves. So it fits the cursor of the active editor at any time, if the
service is told of the focus and of the cursor.
-/

namespace Gutter

/-- An editor shows the document that it always shows, or none once it is closed. The active editor
is open and on screen. -/
structure Host.Steady (files : EditorId → Option Path) (host : Host) : Prop where
  file : ∀ e, host.file? e = none ∨ host.file? e = files e
  active : ∀ a, host.active = some a → host.file? a = files a ∧ a ∈ host.visible

namespace Session

variable {v : Service} {files : EditorId → Option Path} {host : Host} {s s' : Session}
  {e : EditorId}

/-! ## What the status line is to show -/

def Supported (v : Service) (files : EditorId → Option Path) : Session → Prop :=
  RemembersOnly fun e file => files e = some file ∧ v.extensions.supports file = true

/-- The status line shows what was found on the line of the cursor of the active editor. -/
structure StatusFits (v : Service) (files : EditorId → Option Path) (host : Host) (s : Session) :
    Prop where
  supported : s.Supported v files
  status : ∀ a, host.active = some a →
    s.screen.statusLine = statusLine? v.settings (s.cursorIssues host a)

theorem Supported.silent (h : s.Supported v files) (hh : host.Steady files)
    (hs : Silent v (· = host) s s') : s'.Supported v files := by
  refine RemembersOnly.silent h ?_ hs
  rintro _ e file rfl ⟨hf, hx⟩
  refine ⟨?_, hx⟩
  rw [← hf]
  refine ((hh.file e).resolve_left fun hnone => ?_).symm
  rw [hnone] at hf
  cases hf

/-- Nothing is remembered, and there is no status line. -/
structure Blank (s : Session) : Prop where
  found : ∀ e, s.found? e = none
  status : s.screen.statusLine = none

theorem Blank.statusFits (h : s.Blank) (v : Service) (files : EditorId → Option Path)
    (host : Host) : s.StatusFits v files host := by
  refine ⟨fun e file findings he => ?_, fun a _ => ?_⟩
  · rw [h.found] at he
    cases he
  · rw [h.status, cursorIssues_of_unchecked (by rw [h.found]; rfl)]
    rfl

theorem blank_dispose (s : Session) : (Service.dispose s).Blank where
  found := found?_dispose s
  status := by
    rw [screen_dispose]
    rfl

theorem Supported.status (h : s.Supported v files) (ha : host.active = some e)
    (hs : s.screen.statusLine = statusLine? v.settings (s.cursorIssues host e)) :
    s.StatusFits v files host := by
  refine ⟨h, fun a ha' => ?_⟩
  obtain rfl := Option.some.inj (ha.symm.trans ha')
  exact hs

/-! ## Steps -/

theorem Supported.refocus (h : s.Supported v files) (ha : host.active = some e) :
    Session.StatusFits v files host (s.refocus v.settings host e) := by
  have hf := (alike_refocus v.settings host e s).found?
  refine Supported.status (RemembersOnly.of_found h hf) ha ?_
  rw [statusLine_refocus, if_pos ha, cursorIssues_congr (by rw [hf]) rfl]

theorem Supported.draw_status (h : s.Supported v files) (ha : host.active = some e) :
    Session.StatusFits v files host
      (s.draw [statusStroke v.settings (s.cursorIssues host e)]) := by
  have hs : Session.Supported v files
      (s.draw [statusStroke v.settings (s.cursorIssues host e)]) := h
  refine hs.status ha ?_
  rw [screen_draw]
  exact statusLine_apply_statusStroke _ _ _

namespace StatusFits

variable (h : s.StatusFits v files host)

include h

theorem of_found (hf : ∀ e, s'.found? e = s.found? e)
    (hs : s'.screen.statusLine = s.screen.statusLine) : s'.StatusFits v files host := by
  refine ⟨RemembersOnly.of_found h.supported hf, fun a ha => ?_⟩
  rw [hs, h.status a ha, cursorIssues_congr (by rw [hf]) rfl]

theorem silent (hh : host.Steady files) (hs : Silent v (· = host) s s') :
    s'.StatusFits v files host := by
  refine ⟨h.supported.silent hh hs, fun a ha => ?_⟩
  rw [hs.screen, h.status a ha, cursorIssues_congr (hs.findings a) rfl]

theorem present {entry : Entry} (hp : Presents v host e entry s s') :
    s'.StatusFits v files host where
  supported := RemembersOnly.presents h.supported hp
  status a ha := by
    rw [hp.screen Screen.independent_statusLine, statusLine_closing]
    have hfound := hp.found a
    split
    · next he =>
      obtain rfl := Option.some.inj (ha.symm.trans he)
      rw [cursorIssues_eq, hfound, if_pos rfl]
      rfl
    · next he =>
      rw [if_neg fun heq : a = e => he (heq ▸ ha)] at hfound
      rw [h.status a ha, cursorIssues_congr (by rw [hfound]) rfl]

theorem close {keep : EditorId → Bool} (hkeep : ∀ a, host.active = some a → keep a = true) :
    Session.StatusFits v files host (s.close keep) where
  supported := RemembersOnly.close h.supported keep
  status a ha := by
    rw [screen_close Screen.independent_statusLine, h.status a ha,
      cursorIssues_congr (by rw [found?_close, if_pos (hkeep a ha)]) rfl]

theorem refocus (e : EditorId) :
    Session.StatusFits v files host (s.refocus v.settings host e) := by
  by_cases ha : host.active = some e
  · exact h.supported.refocus ha
  · exact h.of_found (alike_refocus _ _ e s).found? (by rw [statusLine_refocus, if_neg ha])

end StatusFits

theorem statusFits_keptByEvents (v : Service) (hh : host.Steady files) :
    KeptByEvents v (· = host) (StatusFits v files host) :=
  keptByEvents_of_silent
    (fun h hs => h.silent hh hs)
    (fun h hhost ha => hhost ▸ h.supported.draw_status (hhost ▸ ha))
    (fun h hhost ha => ⟨h.supported, fun a ha' => by rw [← hhost, ha] at ha'; cases ha'⟩)
    (fun h hhost hp => h.present (hhost ▸ hp))

/-- The status line shows the first of the gravest issues on the line of the cursor of an editor,
with all messages of the line. There is none if that line has no issue, or no check has completed.
-/
structure StatusShown (settings : Settings) (host : Host) (e : EditorId) (s : Session) : Prop where
  unknown : s.entry? e = none → s.screen.statusLine = none
  unchecked : ∀ entry, s.entry? e = some entry → entry.findings = none →
    s.screen.statusLine = none
  cursorless : host.cursor? e = none → s.screen.statusLine = none
  clean : ∀ entry findings line, s.entry? e = some entry → entry.findings = some findings →
    host.cursor? e = some line → (∀ issue ∈ findings.issues, issue.line ≠ line) →
    s.screen.statusLine = none
  shown : ∀ entry findings line, s.entry? e = some entry → entry.findings = some findings →
    host.cursor? e = some line → (∃ issue ∈ findings.issues, issue.line = line) →
    ∃ issue : Issue, issue.Leads (findings.issues.filter (·.line = line)) ∧
      s.screen.statusLine = some
        { text := issue.message
          tooltip := "\n".intercalate
            ((findings.issues.filter (·.line = line)).map Issue.message)
          severity := issue.severity
          color := settings.color issue.severity }

theorem statusLine?_eq_some {settings : Settings} {issues : List Issue} (h : issues ≠ []) :
    ∃ issue : Issue, issue.Leads issues ∧ statusLine? settings issues = some
      { text := issue.message
        tooltip := "\n".intercalate (issues.map Issue.message)
        severity := issue.severity
        color := settings.color issue.severity } := by
  obtain ⟨issue, hissue⟩ :=
    Option.ne_none_iff_exists'.mp (mt Issue.primary?_eq_none_iff.mp h)
  exact ⟨issue, Issue.leads_of_primary? hissue, by rw [statusLine?, hissue]; rfl⟩

theorem StatusFits.statusShown (h : s.StatusFits v files host) (ha : host.active = some e)
    (hg : ∀ findings, (s.found? e).bind Prod.snd = some findings → findings.Grouped) :
    s.StatusShown v.settings host e := by
  have hstatus := h.status e ha
  have hnone : s.cursorIssues host e = [] → s.screen.statusLine = none := by
    intro hnil
    rw [hstatus, hnil]
    rfl
  have hissues : ∀ {entry findings line}, s.entry? e = some entry →
      entry.findings = some findings → host.cursor? e = some line →
      s.cursorIssues host e = findings.issues.filter (·.line = line) := by
    intro entry findings line he hf hc
    have hfound : (s.found? e).bind Prod.snd = some findings := by
      rw [found?_of_entry he, ← hf]
      rfl
    rw [cursorIssues_eq, hfound, hc, ← (hg findings hfound).getD line]
    rfl
  refine ⟨fun he => ?_, fun entry he hf => ?_, fun hc => ?_, fun entry findings line he hf hc hno =>
    ?_, fun entry findings line he hf hc hsome => ?_⟩
  · exact hnone (cursorIssues_of_unchecked (by rw [found?, he]; rfl) host)
  · exact hnone (cursorIssues_of_unchecked (by rw [found?_of_entry he]; exact hf) host)
  · exact hnone (by rw [cursorIssues_eq, hc]; rfl)
  · refine hnone ((hissues he hf hc).trans (List.filter_eq_nil_iff.mpr fun issue hi => ?_))
    simpa using hno issue hi
  · rw [hstatus, hissues he hf hc]
    obtain ⟨issue, hi, hline⟩ := hsome
    exact statusLine?_eq_some (List.ne_nil_of_mem (List.mem_filter.mpr ⟨hi, by simpa using hline⟩))

end Session

namespace Scene

open Session

variable {files : EditorId → Option Path} {c : Scene} {m : Move}

/-! ## Along a course -/

/-- Every change of the active editor is followed at once by a call that tells the service, and so
is every move of its cursor. The editors keep their documents, and the active editor is not said to
be closed. -/
inductive Watched (files : EditorId → Option Path) : Host → List Move → Prop where
  | nil {host} : Watched files host []
  | move {host m moves} (hm : ∀ host', m ≠ .rearrange host')
      (hc : ∀ e, m = .call (.editorClosed e) → host.active ≠ some e)
      (h : Watched files host moves) : Watched files host (m :: moves)
  | rearrange {host host' moves} (hh : host'.Steady files) (ha : host'.active = host.active)
      (hc : ∀ a, host.active = some a → host'.cursor? a = host.cursor? a)
      (h : Watched files host' moves) : Watched files host (.rearrange host' :: moves)
  | moveCursor {host host' e moves} (hh : host'.Steady files) (ha : host.active = some e)
      (ha' : host'.active = some e) (h : Watched files host' moves) :
      Watched files host (.rearrange host' :: .call (.selectionChanged e) :: moves)
  | switch {host host' moves} (hh : host'.Steady files) (h : Watched files host' moves) :
      Watched files host (.rearrange host' :: .call (.activeChanged host'.active) :: moves)

/-- The status line fits, and there is none once the service has ended. -/
structure StatusFits (files : EditorId → Option Path) (c : Scene) : Prop where
  steady : c.host.Steady files
  fits : c.session.StatusFits c.service files c.host
  ended : c.isDisposed = true → c.session.Blank

namespace StatusFits

theorem call {call : Call} (hh : c.host.Steady files) (hb : c.isDisposed = true → c.session.Blank)
    (hf : c.isDisposed = false →
      (call.run c.service c.host c.session).StatusFits c.service files c.host) :
    (c.perform (.call call)).StatusFits files := by
  simp only [Scene.perform]
  split
  · next hd => exact ⟨hh, (hb hd).statusFits _ _ _, hb⟩
  · next hd => exact ⟨hh, hf (by simpa using hd), fun hd' => absurd hd' hd⟩

theorem of_still (h : c.StatusFits files) {s : Session} (hs : c.session.Still s) :
    StatusFits files { c with session := s } := by
  have hstatus : s.screen.statusLine = c.session.screen.statusLine := by rw [hs.screen]
  refine ⟨h.steady, h.fits.of_found hs.found hstatus, fun hd => ⟨fun e => ?_, ?_⟩⟩
  · exact (hs.found e).trans ((h.ended hd).found e)
  · exact hstatus.trans (h.ended hd).status

theorem perform (h : c.StatusFits files) (hm : ∀ host, m ≠ .rearrange host)
    (hc : ∀ e, m = .call (.editorClosed e) → c.host.active ≠ some e) :
    (c.perform m).StatusFits files := by
  cases m with
  | rearrange host => exact absurd rfl (hm host)
  | pass ms => exact h.of_still (still_pass ms _)
  | ring token => exact h.of_still (still_ring token _)
  | finish generation result => exact h.of_still (still_finish generation result _)
  | call call =>
      refine .call h.steady h.ended fun _ => ?_
      refine (statusFits_keptByEvents c.service h.steady).call rfl h.fits
        (h.fits.close fun a ha => ?_) fun e _ => h.fits.refocus e
      have hvisible := (h.steady.active a ha).2
      cases call with
      | prune | documentClosed => exact decide_eq_true hvisible
      | editorClosed e => exact decide_eq_true fun hae => hc e rfl (hae ▸ ha)
      | _ => rfl
  | dispose =>
      simp only [Scene.perform]
      split
      · exact h
      · exact ⟨h.steady, (blank_dispose _).statusFits _ _ _, fun _ => blank_dispose _⟩

variable {host : Host}

theorem rearrange (h : c.StatusFits files) (hh : host.Steady files)
    (ha : host.active = c.host.active)
    (hc : ∀ a, c.host.active = some a → host.cursor? a = c.host.cursor? a) :
    (c.perform (.rearrange host)).StatusFits files := by
  refine ⟨hh, ⟨h.fits.supported, fun a ha' => ?_⟩, h.ended⟩
  have hactive := ha.symm.trans ha'
  have hcursor : c.session.cursorIssues host a = c.session.cursorIssues c.host a :=
    cursorIssues_congr rfl (hc a hactive)
  exact (h.fits.status a hactive).trans (by rw [← hcursor]; rfl)

/-- The cursor of the active editor moves. If the linter does not handle its document, there is no
status line before and after. -/
theorem moveCursor (h : c.StatusFits files) (hh : host.Steady files) {e : EditorId}
    (ha : c.host.active = some e) (ha' : host.active = some e) :
    ((c.perform (.rearrange host)).perform (.call (.selectionChanged e))).StatusFits files := by
  refine .call hh h.ended fun _ => ?_
  have hsupported := h.fits.supported
  change (c.service.selectionChanged host e c.session).StatusFits c.service files host
  unfold Service.selectionChanged
  split
  · rw [showStatus, if_pos ha']
    exact hsupported.draw_status ha'
  · next hx =>
    refine hsupported.status ha' ?_
    have hnone : (c.session.found? e).bind Prod.snd = none := by
      cases hf : c.session.found? e with
      | none => rfl
      | some found =>
          obtain ⟨hfile, hsupports⟩ := hsupported e found.1 found.2 hf
          simp [ha', (hh.active e ha').1, hfile, hsupports] at hx
    rw [cursorIssues_of_unchecked hnone, h.fits.status e ha, cursorIssues_of_unchecked hnone]

/-- Another editor gets the focus, or none. -/
theorem switch (h : c.StatusFits files) (hh : host.Steady files) :
    ((c.perform (.rearrange host)).perform (.call (.activeChanged host.active))).StatusFits
      files := by
  refine .call hh h.ended fun _ => ?_
  have hsupported := h.fits.supported
  change (c.service.activeChanged host host.active c.session).StatusFits c.service files host
  cases ha : host.active with
  | none => exact ⟨hsupported, fun a ha' => by rw [ha] at ha'; cases ha'⟩
  | some e =>
      exact chain_of_deed ((statusFits_keptByEvents c.service hh).deed rfl)
        (Service.activeChanged_chain c.service host e c.session) (hsupported.refocus ha)

theorem play {host : Host} {moves : List Move} (hm : Watched files host moves) (hc : c.host = host)
    (h : c.StatusFits files) : (c.play moves).StatusFits files := by
  induction hm generalizing c with
  | nil => exact h
  | @move host m moves hm hclosed _ ih =>
      subst hc
      exact ih (host_perform_of_ne hm c) (h.perform hm hclosed)
  | @rearrange host host' moves hh ha hcursor _ ih =>
      subst hc
      exact ih (c := c.perform (.rearrange host')) rfl (h.rearrange hh ha hcursor)
  | @moveCursor host host' e moves hh ha ha' _ ih =>
      subst hc
      exact ih (c := (c.perform (.rearrange host')).perform _) (host_perform_call _ _)
        (h.moveCursor hh ha ha')
  | @switch host host' moves hh _ ih =>
      subst hc
      exact ih (c := (c.perform (.rearrange host')).perform _) (host_perform_call _ _)
        (h.switch hh)

end StatusFits

/-- Whenever an editor is active, the status line fits its cursor: it shows the first of the gravest
issues that the last completed check has found on the line of the cursor, and is empty if there is
none. -/
theorem status_shown (v : Service) (host : Host) (files : EditorId → Option Path)
    (moves : List Move) (hh : host.Steady files) (hm : Watched files host moves) (e : EditorId)
    (ha : ((opening v host).play moves).host.active = some e) :
    ((opening v host).play moves).session.StatusShown v.settings
      ((opening v host).play moves).host e := by
  have hblank : (opening v host).session.Blank := ⟨fun _ => rfl, rfl⟩
  have hinit : (opening v host).StatusFits files := ⟨hh, hblank.statusFits _ _ _, fun _ => hblank⟩
  have hfits := (hinit.play hm rfl).fits
  rw [service_play] at hfits
  exact hfits.statusShown ha fun findings => grouped_play v host moves

/-- A check finds a warning and two errors on the second line, and the cursor moves there: the first
of the errors is shown. -/
theorem status_shown_of_cursor :
    let host := Host.script "let"
    let below : Host := { host with cursor? := fun _ => some 1 }
    let moves : List Move := [.call .activate, .finish ⟨1⟩ (.ok [⟨2, 1, "unused", none, 1⟩,
      ⟨2, 4, "undefined", none, 2⟩, ⟨2, 9, "unexpected", none, 2⟩]), .call .handleNext,
      .rearrange below, .call (.selectionChanged ⟨0⟩)]
    let c := (opening (.ofSettings .default) host).play moves
    c.session.StatusShown .default below ⟨0⟩ ∧
      c.session.screen.statusLine.map StatusLine.text = some "undefined" ∧
      c.session.screen.statusLine.map StatusLine.tooltip =
        some "unused\nundefined\nunexpected" := by
  intro host below moves c
  have hfile : ∀ e, host.file? e = none ∨ host.file? e = some .script := by
    intro e
    simp only [host, Host.script]
    split <;> simp
  have hactive : ∀ a, host.active = some a → host.file? a = some .script ∧ a ∈ host.visible := by
    rintro a ⟨⟩
    decide
  have hsteady : host.Steady fun _ => some .script := ⟨hfile, hactive⟩
  have hbelow : below.Steady fun _ => some .script := ⟨hfile, hactive⟩
  refine ⟨status_shown (.ofSettings .default) host (fun _ => some .script) moves hsteady ?_ ⟨0⟩ rfl,
    by decide +kernel, by decide +kernel⟩
  exact .move (by simp) (by simp) <| .move (by simp) (by simp) <| .move (by simp) (by simp) <|
    .moveCursor hbelow rfl rfl .nil

end Scene

end Gutter
