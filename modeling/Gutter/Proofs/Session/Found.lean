import Gutter.Proofs.Issues
import Gutter.Proofs.Session.Published

/-!
# What was found

What the status line and the published issues show of an editor depends on its document and on what
its last completed check has found. Most steps of a session change neither, and draw nothing.
-/

namespace Gutter

/-! ## Parts of the screen -/

/-- A part of the screen on which markers have no influence, and which every stroke changes by
itself. -/
structure Screen.Independent {α : Type} (part : Screen → α) : Prop where
  apply : ∀ stroke s s', part s = part s' → part (s.apply stroke) = part (s'.apply stroke)
  marking : ∀ stroke, stroke.isMarking = true → ∀ s, part (s.apply stroke) = part s

namespace Screen.Independent

variable {α : Type} {part : Screen → α} {strokes : List Stroke} {s s' : Screen}

theorem draw (h : Independent part) (hs : part s = part s') (strokes : List Stroke) :
    part (s.draw strokes) = part (s'.draw strokes) := by
  induction strokes generalizing s s' with
  | nil => exact hs
  | cons stroke strokes ih => exact ih (h.apply stroke s s' hs)

theorem draw_marking (h : Independent part) (hm : ∀ stroke ∈ strokes, stroke.isMarking = true)
    (s : Screen) : part (s.draw strokes) = part s := by
  induction strokes generalizing s with
  | nil => rfl
  | cons stroke strokes ih =>
      obtain ⟨hstroke, hstrokes⟩ := List.forall_mem_cons.mp hm
      exact (ih hstrokes (s.apply stroke)).trans (h.marking stroke hstroke s)

end Screen.Independent

theorem Screen.independent_statusLine : Independent Screen.statusLine where
  apply stroke s s' hs := by
    cases stroke <;> first | exact hs | rfl
  marking stroke hm s := by
    cases stroke <;> first | rfl | simp [Stroke.isMarking] at hm

theorem Screen.independent_published (file : Path) : Independent (·.published? file) where
  apply stroke s s' hs := by
    cases stroke with
    | publish f issues => simp only [published?_publish, hs]
    | withdraw f => simp only [published?_withdraw, hs]
    | withdrawAll => rfl
    | create | release | status | clearStatus => exact hs
  marking _ hm s :=
    published?_apply_of_not_isPublishing (Stroke.isPublishing_of_isMarking hm) s file

/-- The host shows a document that the linter handles. -/
def Service.Meets (v : Service) (host : Host) (e : EditorId) (file : Path) : Prop :=
  host.file? e = some file ∧ v.extensions.supports file = true

namespace Session

variable {v : Service} {H : Host → Prop} {P : Session → Prop} {s s' s'' : Session}
  {e : EditorId} {entry : Entry} {host : Host} {settings : Settings}

/-! ## What is remembered for the screen -/

def found? (s : Session) (e : EditorId) : Option (Path × Option Findings) :=
  (s.entry? e).map fun entry => (entry.file, entry.findings)

theorem exists_entry_of_found? {file : Path} {findings : Option Findings}
    (h : s.found? e = some (file, findings)) :
    ∃ entry, s.entry? e = some entry ∧ entry.file = file ∧ entry.findings = findings := by
  obtain ⟨entry, he, hfound⟩ := Option.map_eq_some_iff.mp h
  exact ⟨entry, he, congrArg Prod.fst hfound, congrArg Prod.snd hfound⟩

theorem found?_eq_map_bare? (s : Session) (e : EditorId) :
    s.found? e = (s.bare? e).map fun entry => (entry.file, entry.findings) := by
  rw [found?, bare?, Option.map_map]
  rfl

theorem Alike.found? {s' : Session} (h : s.Alike s') (e : EditorId) : s'.found? e = s.found? e := by
  rw [found?_eq_map_bare?, found?_eq_map_bare?, h.bare]

theorem found?_of_entry (he : s.entry? e = some entry) :
    s.found? e = some (entry.file, entry.findings) := by
  rw [found?, he]
  rfl

theorem found?_edit {f : Entry → Entry}
    (h : ∀ entry, (f entry).file = entry.file ∧ (f entry).findings = entry.findings)
    (e : EditorId) (s : Session) (x : EditorId) : Session.found? (s.edit e f) x = s.found? x := by
  rw [found?, found?, entry?_edit]
  split
  · cases s.entry? x with
    | none => rfl
    | some entry => simp [h entry]
  · rfl

theorem found?_close (keep : EditorId → Bool) (s : Session) (x : EditorId) :
    Session.found? (s.close keep) x = if keep x then s.found? x else none := by
  rw [found?, entry?_close, found?]
  split <;> rfl

theorem cursorIssues_eq (host : Host) (e : EditorId) (s : Session) :
    s.cursorIssues host e = ((host.cursor? e).bind fun line =>
      ((s.found? e).bind Prod.snd).bind (·.byLine.get? line)).getD [] := by
  rw [cursorIssues, found?]
  cases s.entry? e <;> cases host.cursor? e <;> rfl

theorem cursorIssues_congr {host' : Host}
    (hf : (s'.found? e).bind Prod.snd = (s.found? e).bind Prod.snd)
    (hc : host'.cursor? e = host.cursor? e) : s'.cursorIssues host' e = s.cursorIssues host e := by
  rw [cursorIssues_eq, cursorIssues_eq, hf, hc]

theorem cursorIssues_of_unchecked (h : (s.found? e).bind Prod.snd = none) (host : Host) :
    s.cursorIssues host e = [] := by
  rw [cursorIssues_eq, h]
  cases host.cursor? e <;> rfl

/-! ## Steps that draw nothing -/

/-- Nothing is drawn, and nothing is found or forgotten. -/
structure Still (s s' : Session) : Prop where
  strokes : s'.journal.strokes = s.journal.strokes
  found : ∀ e, s'.found? e = s.found? e

theorem Still.refl (s : Session) : s.Still s := ⟨rfl, fun _ => rfl⟩

theorem Still.screen (h : s.Still s') : s'.screen = s.screen := congrArg Screen.after h.strokes

theorem still_pass (ms : Nat) (s : Session) : s.Still (s.pass ms) := ⟨rfl, fun _ => rfl⟩

theorem still_ring (token : TimerToken) (s : Session) : s.Still (s.ring token) := by
  refine ⟨?_, fun e => by rw [found?, entry?_ring, ← found?]⟩
  rcases ring_cases token s with h | ⟨a, -, -, h⟩ <;> rw [h]
  rfl

theorem still_finish (generation : Generation) (result : Except Failure (List Record))
    (s : Session) : s.Still (s.finish generation result) := by
  refine ⟨?_, fun e => by rw [found?, entry?_finish, ← found?]⟩
  rcases finish_cases generation result s with h | ⟨run, -, h⟩ <;> rw [h]
  rfl

/-- Nothing is drawn, and nothing is found or forgotten. Editors may be met, with documents that the
linter handles. -/
structure Silent (v : Service) (H : Host → Prop) (s s' : Session) : Prop where
  strokes : s'.journal.strokes = s.journal.strokes
  found : ∀ e, s'.found? e = s.found? e ∨
    s.found? e = none ∧ ∃ host file, H host ∧ v.Meets host e file ∧ s'.found? e = some (file, none)

theorem Still.silent (h : s.Still s') : Silent v H s s' := ⟨h.strokes, fun e => .inl (h.found e)⟩

namespace Silent

theorem trans (h : Silent v H s s') (h' : Silent v H s' s'') : Silent v H s s'' := by
  refine ⟨h'.strokes.trans h.strokes, fun e => ?_⟩
  rcases h'.found e with heq | ⟨hnone, hmet⟩
  · rw [heq]
    exact h.found e
  · rcases h.found e with heq | ⟨-, _, _, -, -, hsome⟩
    · exact .inr ⟨heq ▸ hnone, hmet⟩
    · rw [hsome] at hnone
      cases hnone

theorem screen (h : Silent v H s s') : s'.screen = s.screen := congrArg Screen.after h.strokes

theorem findings (h : Silent v H s s') (e : EditorId) :
    (s'.found? e).bind Prod.snd = (s.found? e).bind Prod.snd := by
  rcases h.found e with heq | ⟨hnone, _, _, -, -, hsome⟩
  · rw [heq]
  · rw [hnone, hsome]
    rfl

theorem still (h : Silent v H s s')
    (hk : ∀ host e file, H host → v.Meets host e file → (s.found? e).isSome = true) :
    s.Still s' := by
  refine ⟨h.strokes, fun e => (h.found e).resolve_right ?_⟩
  rintro ⟨hnone, host, file, hh, hmeets, -⟩
  have hsome := hk host e file hh hmeets
  rw [hnone] at hsome
  cases hsome

end Silent

theorem silent_of_found (hs : s'.journal.strokes = s.journal.strokes)
    (hf : ∀ e, s'.found? e = s.found? e) : Silent v H s s' :=
  Still.silent ⟨hs, hf⟩

theorem silent_ensure (hh : H host) {file : Path} (hm : v.Meets host e file) (s : Session) :
    Silent v H s (s.ensure e file) := by
  refine ⟨rfl, fun x => ?_⟩
  rw [found?, found?, entry?_ensure]
  split
  · next hx =>
    subst hx
    cases s.entry? x with
    | none => exact .inr ⟨rfl, host, file, hh, hm, rfl⟩
    | some entry => exact .inl rfl
  · exact .inl rfl

theorem silent_setTimer (settings : Settings) (e : EditorId) (s : Session) :
    Silent v H s (s.setTimer settings e) :=
  silent_of_found rfl (found?_edit (f := .setTimer _) (fun _ => ⟨rfl, rfl⟩) e _)

theorem silent_start (settings : Settings) (target : Target) (text : String) (s : Session) :
    Silent v H s (s.start settings target text) :=
  silent_of_found rfl (found?_edit (f := .start _) (fun _ => ⟨rfl, rfl⟩) target.editor _)

theorem meets_of_kindOf? {file : Path} {kind : DocKind} (hf : host.file? e = some file)
    (hk : v.extensions.kindOf? file = some kind) : v.Meets host e file :=
  ⟨hf, Option.isSome_of_eq_some hk⟩

/-- A request that is put off draws nothing. -/
theorem silent_request (hh : H host) (e : EditorId) (s : Session) :
    Silent v H s (v.request host e true s).1 := by
  have h := Service.requested v host e true s
  generalize v.request host e true s = answer at h ⊢
  cases h with
  | gone => exact (Still.refl s).silent
  | unsupported => exact silent_of_found rfl fun _ => rfl
  | busy hf hk =>
      exact (silent_ensure hh (meets_of_kindOf? hf hk) s).trans (silent_of_found rfl fun _ => rfl)
  | debounced hf hk =>
      exact (silent_ensure hh (meets_of_kindOf? hf hk) s).trans (silent_setTimer _ e _)
  | cached _ _ _ _ hd => cases hd
  | started _ _ _ _ hd => cases hd

theorem silent_requestAll (hh : H host) (editors : List EditorId) (s : Session) :
    Silent v H s (v.requestAll host editors true s) := by
  induction editors generalizing s with
  | nil => exact (Still.refl s).silent
  | cons e editors ih => exact (silent_request hh e s).trans (ih _)

theorem still_requestAll (editors : List EditorId)
    (hk : ∀ e file kind, host.file? e = some file → v.extensions.kindOf? file = some kind →
      (s.found? e).isSome = true) :
    s.Still (v.requestAll host editors true s) := by
  refine (silent_requestAll (H := (· = host)) rfl editors s).still ?_
  rintro _ e file rfl ⟨hf, hx⟩
  obtain ⟨kind, hkind⟩ := Option.isSome_iff_exists.mp hx
  exact hk e file kind hf hkind

/-! ## The status line -/

/-- What the status line shows for the issues of a line. -/
def statusLine? (settings : Settings) (issues : List Issue) : Option StatusLine :=
  (Issue.primary? issues).map fun primary =>
    { text := primary.message
      tooltip := "\n".intercalate (issues.map Issue.message)
      severity := primary.severity
      color := settings.color primary.severity }

theorem statusLine_apply_statusStroke (settings : Settings) (issues : List Issue)
    (screen : Screen) :
    (screen.apply (statusStroke settings issues)).statusLine = statusLine? settings issues := by
  rw [statusStroke, statusLine?]
  cases Issue.primary? issues <;> rfl

theorem statusLine_closing (settings : Settings) (host : Host) (e : EditorId) (entry : Entry)
    (screen : Screen) :
    (screen.draw (entry.closing settings host e)).statusLine =
      if host.active = some e then
        statusLine? settings (((host.cursor? e).bind entry.issuesOn?).getD [])
      else screen.statusLine := by
  unfold Entry.closing
  split
  · exact statusLine_apply_statusStroke settings _ screen
  · rfl

theorem screen_draw (strokes : List Stroke) (s : Session) :
    Session.screen (s.draw strokes) = s.screen.draw strokes :=
  Screen.after_append _ _

theorem published?_draw {strokes : List Stroke}
    (h : ∀ stroke ∈ strokes, stroke.isPublishing = false) (s : Session) (file : Path) :
    Session.published? (s.draw strokes) file = s.published? file := by
  rw [published?, screen_draw, Screen.published?_draw_of_not_isPublishing h, ← published?]

theorem screen_close {α : Type} {part : Screen → α} (hp : Screen.Independent part)
    (keep : EditorId → Bool) (s : Session) :
    part (Session.screen (s.close keep)) = part s.screen := by
  have hscreen : Session.screen (s.close keep) = s.screen.draw
      ((markersOf (s.dropped keep)).map .release) := Screen.after_append _ _
  rw [hscreen, hp.draw_marking (by simp [Stroke.isMarking])]

theorem entry?_showStatus (settings : Settings) (host : Host) (e : EditorId) (s : Session)
    (x : EditorId) : Session.entry? (s.showStatus settings host e) x = s.entry? x := by
  unfold showStatus
  split <;> rfl

theorem statusLine_showStatus (settings : Settings) (host : Host) (e : EditorId) (s : Session) :
    (s.showStatus settings host e).screen.statusLine =
      if host.active = some e then statusLine? settings (s.cursorIssues host e)
      else s.screen.statusLine := by
  unfold showStatus
  split
  · rw [screen_draw]
    exact statusLine_apply_statusStroke _ _ _
  · rfl

theorem statusLine_showIssues (host : Host) (e : EditorId) (s : Session) :
    (s.showIssues host e).screen.statusLine = s.screen.statusLine := by
  unfold showIssues
  split
  · rfl
  · split <;> rw [screen_draw] <;> rfl

theorem published?_showStatus (settings : Settings) (host : Host) (e : EditorId) (s : Session)
    (file : Path) : (s.showStatus settings host e).published? file = s.published? file := by
  unfold showStatus
  split
  · exact published?_draw (by simp [isPublishing_statusStroke]) s file
  · rfl

theorem published?_showIssues (host : Host) (he : s.entry? e = some entry) (file : Path) :
    (s.showIssues host e).published? file =
      if file.components = entry.file.components then
        if host.active = some e then some entry.issues else none
      else s.published? file := by
  unfold showIssues
  simp only [he]
  split
  · rw [published?, screen_draw]
    exact Screen.published?_publish _ _ _ _
  · rw [published?, screen_draw]
    exact Screen.published?_withdraw _ _ _

/-! ## Getting the focus -/

theorem statusLine_refocus (settings : Settings) (host : Host) (e : EditorId) (s : Session) :
    (s.refocus settings host e).screen.statusLine =
      if host.active = some e then statusLine? settings (s.cursorIssues host e)
      else s.screen.statusLine := by
  have hscreen : Session.screen ((s.note (.focus e)).draw [.withdrawAll]) =
      s.screen.apply .withdrawAll := screen_draw _ _
  rw [refocus, statusLine_showIssues, statusLine_showStatus, hscreen]
  rfl

/-- An editor that gets the focus publishes its issues if it is active, and nothing else is
published. -/
theorem published?_refocus (settings : Settings) (host : Host) (e : EditorId) (s : Session)
    (file : Path) :
    (s.refocus settings host e).published? file = (s.entry? e).bind fun entry =>
      if host.active = some e ∧ file.components = entry.file.components then some entry.issues
      else none := by
  have hnone : Session.published? (((s.note (.focus e)).draw [.withdrawAll]).showStatus settings
      host e) file = none := by
    rw [published?_showStatus, published?, screen_draw]
    rfl
  have hentry := entry?_showStatus settings host e ((s.note (.focus e)).draw [.withdrawAll]) e
  rw [refocus]
  cases he : s.entry? e with
  | none =>
      rw [showIssues]
      simp only [hentry, entry?_draw, entry?_note, he]
      exact hnone
  | some entry =>
      rw [published?_showIssues host (hentry.trans he), hnone, Option.bind_some]
      by_cases ha : host.active = some e <;> simp [ha]

/-- What the host shows of an editor that has the focus. -/
structure FocusShown (settings : Settings) (host : Host) (e : EditorId) (s s' : Session) :
    Prop where
  statusLine : s'.screen.statusLine = statusLine? settings (s.cursorIssues host e)
  published : ∀ entry, s.entry? e = some entry → s'.published? entry.file = some entry.issues
  withdrawn : s.entry? e = none → ∀ file, s'.published? file = none

theorem focusShown_refocus {host : Host} (settings : Settings) (ha : host.active = some e)
    (s : Session) : FocusShown settings host e s (s.refocus settings host e) where
  statusLine := by rw [statusLine_refocus, if_pos ha]
  published entry he := by
    rw [published?_refocus, he]
    exact if_pos ⟨ha, rfl⟩
  withdrawn he file := by
    rw [published?_refocus, he]
    rfl

theorem FocusShown.still {settings : Settings} {host : Host} {s' s'' : Session}
    (h : FocusShown settings host e s s') (hs : s'.Still s'') :
    FocusShown settings host e s s'' := by
  refine ⟨?_, fun entry he => ?_, fun he file => ?_⟩
  · rw [hs.screen, h.statusLine]
  · rw [published?, hs.screen]
    exact h.published entry he
  · rw [published?, hs.screen]
    exact h.withdrawn he file

/-! ## Steps that draw an editor -/

/-- The drawing may be left out of account as far as a part of the screen goes, except for its
end. -/
theorem Draws.screen {α : Type} {part : Screen → α} (h : Draws settings host e entry s s')
    (hp : Screen.Independent part) :
    part s'.screen = part (s.screen.draw (entry.closing settings host e)) := by
  rw [Session.screen, h.strokes, Screen.after_append, Screen.draw, List.foldl_append]
  exact hp.draw (hp.draw_marking isMarking_of_mem_append _) _

theorem Draws.found? (h : Draws settings host e entry s s') (x : EditorId) :
    s'.found? x = if x = e then some (entry.file, entry.findings) else s.found? x := by
  rw [Session.found?, h.entries, Session.found?]
  split <;> rfl

/-- An editor is drawn, as it was remembered or with what a check has just found. -/
structure Presents (v : Service) (host : Host) (e : EditorId) (entry : Entry) (s s' : Session) :
    Prop where
  file : ∃ findings, s.found? e = some (entry.file, findings) ∧
    (entry.findings = findings ∨
      ∃ records, entry.findings = some (.ofRecords records v.settings.severityLevel))
  found : ∀ x, s'.found? x = if x = e then some (entry.file, entry.findings) else s.found? x
  screen : ∀ {α : Type} {part : Screen → α}, Screen.Independent part →
    part s'.screen = part (s.screen.draw (entry.closing v.settings host e))

theorem presents_render (v : Service) (host : Host) (he : s.entry? e = some entry) :
    Presents v host e entry s (s.render v.settings host e) := by
  have hdraws := draws_render v.settings host he
  exact ⟨⟨_, found?_of_entry he, .inl rfl⟩, hdraws.found?, hdraws.screen⟩

theorem presents_store (v : Service) (host : Host) (he : s.entry? e = some entry)
    (generation : Generation) (records : List Record) :
    Presents v host e (entry.commit (.ofRecords records v.settings.severityLevel)) s
      ((s.store e generation (.ofRecords records v.settings.severityLevel)).render v.settings
        host e) := by
  have hdraws := draws_render v.settings host (entry?_store he generation
    (.ofRecords records v.settings.severityLevel))
  have hfound := found?_of_entry he
  refine ⟨⟨_, hfound, .inr ⟨records, rfl⟩⟩, fun x => ?_, fun hp => hdraws.screen hp⟩
  rw [hdraws.found?]
  split
  · rfl
  · next hx => exact congrArg (Option.map _) (entry?_edit_of_ne hx _ _)

/-- What the service does on its own and with events keeps a property if it is kept by what draws
nothing, by the status line of the active editor, and by the drawing of an editor. -/
theorem keptByEvents_of_silent
    (silent : ∀ {s s'}, P s → Silent v H s s' → P s')
    (status : ∀ {host s e}, P s → H host → host.active = some e →
      P (s.draw [statusStroke v.settings (s.cursorIssues host e)]))
    (clear : ∀ {host s}, P s → H host → host.active = none → P (s.draw [.clearStatus]))
    (present : ∀ {host s s' e entry}, P s → H host → Presents v host e entry s s' → P s') :
    KeptByEvents v H P where
  deed := by
    intro host s s' hh hd h
    cases hd with
    | note => exact silent h (silent_of_found rfl fun _ => rfl)
    | soil e =>
        exact silent h
          (silent_of_found rfl (found?_edit (f := .soil) (fun _ => ⟨rfl, rfl⟩) e s))
    | meet hf hk => exact silent h (silent_ensure hh (meets_of_kindOf? hf hk) s)
    | setTimer => exact silent h (silent_setTimer _ _ s)
    | start => exact silent h (silent_start _ _ _ s)
    | render e =>
        cases he : s.entry? e with
        | none =>
            have hrender : s.render v.settings host e = s := by simp only [render, he]
            rwa [hrender]
        | some entry => exact present h hh (presents_render v host he)
    | showStatus e =>
        unfold showStatus
        split
        · next ha => exact status h hh ha
        · exact h
    | clearStatus ha => exact clear h hh ha
    | tally => exact silent h (silent_of_found rfl fun _ => rfl)
  ignore _ _ h := silent h (silent_of_found rfl fun _ => rfl)
  takeTimer _ _ _ h := silent h
    (silent_of_found rfl (found?_edit (f := .setTimer none) (fun _ => ⟨rfl, rfl⟩) _ _))
  disregard _ _ _ h := silent h (silent_of_found rfl fun _ => rfl)
  abandon _ _ h := silent h
    (silent_of_found rfl (found?_edit (f := .fail) (fun _ => ⟨rfl, rfl⟩) _ _))
  store := by
    rintro host s e generation records rest hh hq ⟨entry, he, -⟩ h
    have hpop : P s.pop := silent h (silent_of_found rfl fun _ => rfl)
    exact present hpop hh (presents_store v host (s := s.pop) he generation records)

theorem screen_dispose (s : Session) :
    (Service.dispose s).screen =
      Screen.draw (Session.screen (s.close fun _ => false)) [.clearStatus, .withdrawAll] :=
  screen_draw _ _

theorem found?_dispose (s : Session) (e : EditorId) : (Service.dispose s).found? e = none := by
  have hnone : Session.entry? (Service.dispose s) e = none := by simp [Service.dispose]
  rw [found?, hnone]
  rfl

/-! ## Documents -/

def RemembersOnly (K : EditorId → Path → Prop) (s : Session) : Prop :=
  ∀ e file findings, s.found? e = some (file, findings) → K e file

namespace RemembersOnly

variable {K : EditorId → Path → Prop} (h : s.RemembersOnly K)

include h

theorem of_found (hf : ∀ e, s'.found? e = s.found? e) : s'.RemembersOnly K :=
  fun e file findings he => h e file findings ((hf e).symm.trans he)

theorem close (keep : EditorId → Bool) : Session.RemembersOnly K (s.close keep) := by
  intro e file findings he
  rw [found?_close] at he
  split at he
  · exact h e file findings he
  · cases he

theorem silent (hmet : ∀ host e file, H host → v.Meets host e file → K e file)
    (hs : Silent v H s s') : s'.RemembersOnly K := by
  intro e file findings he
  rcases hs.found e with heq | ⟨-, host, met, hhost, hmeets, hfound⟩
  · exact h e file findings (heq ▸ he)
  · obtain rfl : met = file := congrArg Prod.fst (Option.some.inj (hfound.symm.trans he))
    exact hmet host e met hhost hmeets

theorem presents (hp : Presents v host e entry s s') : s'.RemembersOnly K := by
  intro x file findings hx
  rw [hp.found] at hx
  split at hx
  · next hxe =>
    obtain ⟨old, hold, -⟩ := hp.file
    obtain rfl : entry.file = file := congrArg Prod.fst (Option.some.inj hx)
    exact hxe ▸ h e _ old hold
  · exact h x file findings hx

end RemembersOnly

/-! ## Along a course -/

def Recorded (level : UInt8) (s : Session) : Prop :=
  ∀ e findings, (s.found? e).bind Prod.snd = some findings →
    ∃ records, findings = .ofRecords records level

theorem Recorded.of_findings {level : UInt8} (h : s.Recorded level)
    (hf : ∀ e, (s'.found? e).bind Prod.snd = (s.found? e).bind Prod.snd) : s'.Recorded level :=
  fun e findings he => h e findings ((hf e).symm.trans he)

theorem recorded_keptByEvents (v : Service) (H : Host → Prop) :
    KeptByEvents v H (Recorded v.settings.severityLevel) :=
  keptByEvents_of_silent
    (fun h hs => h.of_findings hs.findings)
    (fun h _ _ => h)
    (fun h _ _ => h)
    fun {host s s' e entry} h _ hp => by
      intro x findings hx
      rw [hp.found] at hx
      split at hx
      · obtain ⟨old, hold, heq | ⟨records, heq⟩⟩ := hp.file
        · exact h e findings (by rw [hold, Option.bind_some, ← heq]; exact hx)
        · exact ⟨records, (Option.some.inj (heq.symm.trans hx)).symm⟩
      · exact h x findings hx

theorem recorded_kept (v : Service) (H : Host → Prop) :
    Kept v H [] (Recorded v.settings.severityLevel) where
  deed := (recorded_keptByEvents v H).deed
  handleNext := (recorded_keptByEvents v H).handleNext
  close _ h := by
    intro e findings he
    rw [found?_close] at he
    split at he
    · exact h e findings he
    · cases he
  refocus e _ h := h.of_findings fun x => by rw [(alike_refocus _ _ e _).found?]
  blank h := h
  pass _ h := h
  ring token h := h.of_findings fun x => by rw [(still_ring token _).found]
  finish generation result h := h.of_findings fun x => by rw [(still_finish _ result _).found]

/-- The issues that are remembered are grouped by line. -/
theorem grouped_play (v : Service) (host : Host) (moves : List Scene.Move) {findings : Findings}
    (he : (((Scene.opening v host).play moves).session.found? e).bind Prod.snd = some findings) :
    findings.Grouped := by
  have hrecorded : ((Scene.opening v host).play moves).session.Recorded v.settings.severityLevel :=
    (recorded_kept v fun _ => True).play (c := .opening v host) trivial
      (fun e findings h => by simp [Scene.opening, found?] at h)
      (fun m _ => m.within_true) (by simp)
  obtain ⟨records, rfl⟩ := hrecorded e findings he
  exact Findings.grouped_ofRecords records _

end Session

end Gutter
