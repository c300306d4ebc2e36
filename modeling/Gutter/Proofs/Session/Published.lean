import Gutter.Proofs.Session.Drawing

/-!
# What is published

Only the active editor publishes what a check has found. Drawing any other editor withdraws what is
published for its document, even if the active editor shows the same document. So the issues of the
active editor are published exactly as long as it is the last editor of its document that was drawn
or got the focus.
-/

namespace Gutter

/-! ## Strokes that publish -/

def Stroke.isPublishing : Stroke → Bool
  | .publish .. | .withdraw _ | .withdrawAll => true
  | _ => false

theorem Stroke.isPublishing_of_isMarking {stroke : Stroke} (h : stroke.isMarking = true) :
    stroke.isPublishing = false := by
  cases stroke <;> first | rfl | simp [isMarking] at h

namespace Screen

variable {strokes : List Stroke}

theorem published?_apply_of_not_isPublishing {stroke : Stroke} (h : stroke.isPublishing = false)
    (s : Screen) (file : Path) : (s.apply stroke).published? file = s.published? file := by
  cases stroke <;> first | rfl | simp [Stroke.isPublishing] at h

theorem published?_draw_of_not_isPublishing (h : ∀ stroke ∈ strokes, stroke.isPublishing = false)
    (s : Screen) (file : Path) : (s.draw strokes).published? file = s.published? file := by
  induction strokes generalizing s with
  | nil => rfl
  | cons stroke strokes ih =>
      obtain ⟨hstroke, hstrokes⟩ := List.forall_mem_cons.mp h
      exact (ih hstrokes _).trans (published?_apply_of_not_isPublishing hstroke s file)

@[simp] theorem published?_publish (s : Screen) (f : Path) (issues : List Issue) (file : Path) :
    (s.apply (.publish f issues)).published? file =
      if file.components = f.components then some issues else s.published? file :=
  Table.get?_insert _ _ _ _

@[simp] theorem published?_withdraw (s : Screen) (f file : Path) :
    (s.apply (.withdraw f)).published? file =
      if file.components = f.components then none else s.published? file :=
  Table.get?_erase _ _ _

end Screen

/-- Every editor that the host knows shows the document that it always shows. -/
def Host.Keeps (files : EditorId → Path) (host : Host) : Prop :=
  ∀ e file, host.file? e = some file → file.components = (files e).components

theorem Host.keeps_split (text : String) : (Host.split text).Keeps fun _ => .script := by
  intro e file h
  simp only [Host.split] at h
  split at h
  · rw [← Option.some.inj h]
  · cases h

namespace Session

variable {s s' : Session} {files : EditorId → Path} {a e : EditorId} {entry : Entry}
  {active : Option EditorId} {host : Host}

/-- The issues that are published for a document. -/
def published? (s : Session) (file : Path) : Option (List Issue) := s.screen.published? file

def drawn (s : Session) : List EditorId := s.journal.log.filterMap Log.Event.drawn?

/-- The editor of a document that was drawn or got the focus last. -/
def lastDrawn? (files : EditorId → Path) (file : Path) (s : Session) : Option EditorId :=
  (s.drawn.filter fun e => (files e).same file).getLast?

theorem lastDrawn?_congr (h : s'.drawn = s.drawn) (files : EditorId → Path) (file : Path) :
    s'.lastDrawn? files file = s.lastDrawn? files file := by
  rw [lastDrawn?, lastDrawn?, h]

theorem lastDrawn?_concat (h : s'.drawn = s.drawn ++ [e]) (files : EditorId → Path)
    (file : Path) :
    s'.lastDrawn? files file =
      if (files e).components = file.components then some e else s.lastDrawn? files file := by
  rw [lastDrawn?, h, List.filter_append, lastDrawn?]
  by_cases hsame : (files e).components = file.components
  · simp [hsame, Path.same]
  · simp [hsame, Path.same]

/-! ## What is to be kept -/

def Filed (files : EditorId → Path) (s : Session) : Prop :=
  ∀ e entry, s.entry? e = some entry → entry.file.components = (files e).components

/-- What is published for the document of the active editor. -/
structure PublishedFor (files : EditorId → Path) (a : EditorId) (s : Session) : Prop where
  withdrawn : s.lastDrawn? files (files a) ≠ some a → s.published? (files a) = none
  published : ∀ entry, s.entry? a = some entry → entry.findings.isSome = true →
    s.lastDrawn? files (files a) = some a → s.published? (files a) = some entry.issues
  drawn : ∀ entry, s.entry? a = some entry → entry.findings.isSome = true →
    (s.lastDrawn? files (files a)).isSome = true

/-- The same whatever editor is active. -/
structure Published (files : EditorId → Path) (active : Option EditorId) (s : Session) : Prop where
  filed : s.Filed files
  active : ∀ a, active = some a → s.PublishedFor files a

/-! ## Steps that draw nothing -/

/-- A step that draws no editor and follows no focus. The editors of `P` may be forgotten, but no
check of them is completed. -/
structure Undrawn (files : EditorId → Path) (P : EditorId → Prop) (s s' : Session) : Prop where
  file : ∀ e entry', s'.entry? e = some entry' →
    entry'.file.components = (files e).components ∨
      ∃ entry, s.entry? e = some entry ∧ entry'.file = entry.file
  findings : ∀ e, P e → ∀ entry', s'.entry? e = some entry' → entry'.findings = none ∨
    ∃ entry, s.entry? e = some entry ∧ entry'.findings = entry.findings
  strokes : ∃ plain : List Stroke, (∀ stroke ∈ plain, stroke.isPublishing = false) ∧
    s'.journal.strokes = s.journal.strokes ++ plain
  drawn : s'.drawn = s.drawn

variable {P : EditorId → Prop}

theorem Undrawn.published? (h : s.Undrawn files P s') (file : Path) :
    s'.published? file = s.published? file := by
  obtain ⟨plain, hplain, hs⟩ := h.strokes
  rw [Session.published?, screen, hs, Screen.after_append,
    Screen.published?_draw_of_not_isPublishing hplain]
  rfl

theorem Filed.undrawn (hs : s.Filed files) (h : s.Undrawn files P s') : s'.Filed files := by
  intro e entry' he'
  rcases h.file e entry' he' with hfile | ⟨entry, he, hfile⟩
  · exact hfile
  · rw [hfile]
    exact hs e entry he

theorem PublishedFor.undrawn (hs : s.PublishedFor files a) (h : s.Undrawn files P s') (ha : P a) :
    s'.PublishedFor files a := by
  have hlast := lastDrawn?_congr h.drawn files (files a)
  have hchecked : ∀ entry', s'.entry? a = some entry' → entry'.findings.isSome = true →
      ∃ entry, s.entry? a = some entry ∧ entry'.findings = entry.findings := by
    intro entry' he' hc
    refine (h.findings a ha entry' he').resolve_left fun hnone => ?_
    rw [hnone] at hc
    cases hc
  refine ⟨?_, fun entry' he' hc => ?_, fun entry' he' hc => ?_⟩
  · rw [hlast, h.published?]
    exact hs.withdrawn
  · obtain ⟨entry, he, hf⟩ := hchecked entry' he' hc
    rw [hlast, h.published?, Entry.issues, hf]
    exact hs.published entry he (hf ▸ hc)
  · obtain ⟨entry, he, hf⟩ := hchecked entry' he' hc
    rw [hlast]
    exact hs.drawn entry he (hf ▸ hc)

theorem Published.undrawn (hs : s.Published files active) (h : s.Undrawn files (fun _ => True) s') :
    s'.Published files active :=
  ⟨hs.filed.undrawn h, fun a ha => (hs.active a ha).undrawn h trivial⟩

theorem drawn_note (event : Log.Event) (s : Session) :
    (s.note event).drawn = s.drawn ++ event.drawn?.toList := by
  cases h : event.drawn? <;> simp [drawn, note, List.filterMap_append, h]

theorem drawn_note_of_none {event : Log.Event} (h : event.drawn? = none) (s : Session) :
    (s.note event).drawn = s.drawn := by
  rw [drawn_note, h, Option.toList_none, List.append_nil]

theorem undrawn_of_entry (he : ∀ e, s'.entry? e = s.entry? e)
    (hs : s'.journal.strokes = s.journal.strokes) (hd : s'.drawn = s.drawn) :
    s.Undrawn files P s' where
  file x entry' hx := .inr ⟨entry', (he x).symm.trans hx, rfl⟩
  findings x _ entry' hx := .inr ⟨entry', (he x).symm.trans hx, rfl⟩
  strokes := ⟨[], by simp, by simp [hs]⟩
  drawn := hd

theorem undrawn_draw {strokes : List Stroke}
    (h : ∀ stroke ∈ strokes, stroke.isPublishing = false) (s : Session) :
    s.Undrawn files P (s.draw strokes) where
  file _ entry' he' := .inr ⟨entry', he', rfl⟩
  findings _ _ entry' he' := .inr ⟨entry', he', rfl⟩
  strokes := ⟨strokes, h, rfl⟩
  drawn := rfl

/-- An edit of an entry. -/
theorem undrawn_edit {f : Entry → Entry} (hfile : ∀ entry, (f entry).file = entry.file)
    (hfindings : ∀ entry, P e → (f entry).findings = entry.findings)
    (he : ∀ x, s'.entry? x = Session.entry? (s.edit e f) x)
    (hs : s'.journal.strokes = s.journal.strokes) (hd : s'.drawn = s.drawn) :
    s.Undrawn files P s' where
  file x entry' hx := by
    rw [he, entry?_edit] at hx
    split at hx
    · obtain ⟨entry, hentry, rfl⟩ := Option.map_eq_some_iff.mp hx
      exact .inr ⟨entry, hentry, hfile entry⟩
    · exact .inr ⟨entry', hx, rfl⟩
  findings x hP entry' hx := by
    rw [he, entry?_edit] at hx
    split at hx
    · next hxe =>
      obtain ⟨entry, hentry, rfl⟩ := Option.map_eq_some_iff.mp hx
      exact .inr ⟨entry, hentry, hfindings entry (hxe ▸ hP)⟩
    · exact .inr ⟨entry', hx, rfl⟩
  strokes := ⟨[], by simp, by simp [hs]⟩
  drawn := hd

/-- An editor that is met has not been checked. -/
theorem undrawn_ensure {file : Path} (h : file.components = (files e).components) (s : Session) :
    s.Undrawn files P (s.ensure e file) where
  file x entry' hx := by
    rw [entry?_ensure] at hx
    split at hx
    · next hxe =>
      subst hxe
      cases hentry : s.entry? x with
      | none =>
          rw [hentry] at hx
          obtain rfl := Option.some.inj hx
          exact .inl h
      | some entry =>
          rw [hentry] at hx
          obtain rfl := Option.some.inj hx
          exact .inr ⟨_, rfl, rfl⟩
    · exact .inr ⟨entry', hx, rfl⟩
  findings x _ entry' hx := by
    rw [entry?_ensure] at hx
    split at hx
    · next hxe =>
      subst hxe
      cases hentry : s.entry? x with
      | none =>
          rw [hentry] at hx
          obtain rfl := Option.some.inj hx
          exact .inl rfl
      | some entry =>
          rw [hentry] at hx
          obtain rfl := Option.some.inj hx
          exact .inr ⟨_, rfl, rfl⟩
    · exact .inr ⟨entry', hx, rfl⟩
  strokes := ⟨[], by simp, by simp [ensure]⟩
  drawn := rfl

theorem undrawn_setTimer (settings : Settings) (e : EditorId) (s : Session) :
    s.Undrawn files P (s.setTimer settings e) :=
  undrawn_edit (e := e) (f := .setTimer (some s.nextTimer)) (fun _ => rfl) (fun _ _ => rfl)
    (fun _ => rfl) rfl (drawn_note_of_none rfl _)

theorem undrawn_start (settings : Settings) (target : Target) (text : String) (s : Session) :
    s.Undrawn files P (s.start settings target text) :=
  undrawn_edit (e := target.editor) (f := .start s.clock.next) (fun _ => rfl) (fun _ _ => rfl)
    (fun _ => rfl) rfl (drawn_note_of_none rfl _)

theorem isPublishing_statusStroke (settings : Settings) (issues : List Issue) :
    (statusStroke settings issues).isPublishing = false := by
  unfold statusStroke
  split <;> rfl

theorem undrawn_showStatus (settings : Settings) (host : Host) (e : EditorId) (s : Session) :
    s.Undrawn files P (s.showStatus settings host e) := by
  unfold showStatus
  split
  · exact undrawn_draw (by simp [isPublishing_statusStroke]) s
  · exact undrawn_of_entry (fun _ => rfl) rfl rfl

theorem undrawn_close (keep : EditorId → Bool) (s : Session) :
    s.Undrawn files P (s.close keep) where
  file e entry' he' := by
    rw [entry?_close] at he'
    split at he'
    · exact .inr ⟨entry', he', rfl⟩
    · cases he'
  findings e _ entry' he' := by
    rw [entry?_close] at he'
    split at he'
    · exact .inr ⟨entry', he', rfl⟩
    · cases he'
  strokes := ⟨_, by simp [Stroke.isPublishing], rfl⟩
  drawn := rfl

theorem undrawn_ring (token : TimerToken) (s : Session) : s.Undrawn files P (s.ring token) := by
  rcases ring_cases token s with h | ⟨a, -, -, h⟩ <;> rw [h]
  · exact undrawn_of_entry (fun _ => rfl) rfl rfl
  · exact undrawn_of_entry (fun _ => rfl) rfl rfl

theorem undrawn_finish (generation : Generation) (result : Except Failure (List Record))
    (s : Session) : s.Undrawn files P (s.finish generation result) := by
  rcases finish_cases generation result s with h | ⟨run, -, h⟩ <;> rw [h]
  · exact undrawn_of_entry (fun _ => rfl) rfl rfl
  · exact undrawn_of_entry (fun _ => rfl) rfl rfl

/-! ## Drawing -/

theorem Draws.drawn {settings : Settings} (h : Draws settings host e entry s s') :
    s'.drawn = s.drawn ++ [e] := by
  rw [Session.drawn, h.log, List.filterMap_append]
  rfl

/-- The active editor publishes its issues, and any other withdraws those of its document. -/
theorem published?_closing (settings : Settings) (host : Host) (e : EditorId) (entry : Entry)
    (screen : Screen) (file : Path) :
    (screen.draw (entry.closing settings host e)).published? file =
      if file.components = entry.file.components then
        if host.active = some e then some entry.issues else none
      else screen.published? file := by
  unfold Entry.closing
  split
  · change ((screen.apply _).apply (.publish entry.file entry.issues)).published? file = _
    rw [Screen.published?_publish,
      Screen.published?_apply_of_not_isPublishing (isPublishing_statusStroke _ _)]
  · exact Screen.published?_withdraw _ _ _

theorem Draws.published? {settings : Settings} (h : Draws settings host e entry s s')
    (file : Path) :
    s'.published? file =
      if file.components = entry.file.components then
        if host.active = some e then some entry.issues else none
      else s.published? file := by
  rw [Session.published?, screen, h.strokes, Screen.after_append, Screen.draw, List.foldl_append]
  refine (published?_closing settings host e entry _ file).trans ?_
  rw [← Screen.draw, Screen.published?_draw_of_not_isPublishing fun stroke hmem =>
    Stroke.isPublishing_of_isMarking (isMarking_of_mem_append stroke hmem)]
  rfl

/-- After a drawing the issues of the active editor are published, unless they have just been
withdrawn. -/
theorem published_render (settings : Settings) (hh : host.active = active) (hs : s.Filed files)
    (he : s.entry? e = some entry)
    (h : ∀ a, active = some a → a ≠ e → s.PublishedFor files a) :
    Session.Published files active (s.render settings host e) := by
  have hdraws := draws_render settings host he
  generalize s.render settings host e = s' at hdraws ⊢
  have hfile := hs e entry he
  have hself := (hdraws.entries e).trans (if_pos rfl)
  refine ⟨fun x entry' hx => ?_, fun a ha => ?_⟩
  · by_cases hxe : x = e
    · subst hxe
      obtain rfl := Option.some.inj (hself.symm.trans hx)
      exact hfile
    · rw [hdraws.entries, if_neg hxe] at hx
      exact hs x entry' hx
  · by_cases hae : a = e
    · subst hae
      have hlast : s'.lastDrawn? files (files a) = some a := by
        rw [lastDrawn?_concat hdraws.drawn, if_pos rfl]
      refine ⟨fun hne => absurd hlast hne, fun entry' he' _ _ => ?_,
        fun _ _ _ => by rw [hlast]; rfl⟩
      obtain rfl := Option.some.inj (hself.symm.trans he')
      rw [hdraws.published?, if_pos hfile.symm, if_pos (hh.trans ha)]
      rfl
    · have hother := (hdraws.entries a).trans (if_neg hae)
      have hne : host.active ≠ some e := by
        rw [hh, ha]
        exact fun heq => hae (Option.some.inj heq)
      have hpublished := hdraws.published? (files a)
      have hlast := lastDrawn?_concat hdraws.drawn files (files a)
      rw [hfile, if_neg hne] at hpublished
      by_cases hsame : (files e).components = (files a).components
      · rw [if_pos hsame] at hlast
        rw [if_pos hsame.symm] at hpublished
        refine ⟨fun _ => hpublished, fun _ _ _ heq => ?_, fun _ _ _ => by rw [hlast]; rfl⟩
        exact absurd (Option.some.inj (heq.symm.trans hlast)) hae
      · rw [if_neg hsame] at hlast
        rw [if_neg fun heq => hsame heq.symm] at hpublished
        obtain ⟨hwithdrawn, hissues, hdrawn⟩ := h a ha hae
        exact ⟨by rwa [hlast, hpublished], fun entry' he' => by
          rw [hlast, hpublished]; exact hissues entry' (hother.symm.trans he'),
          fun entry' he' => by rw [hlast]; exact hdrawn entry' (hother.symm.trans he')⟩

theorem draw_draw (first last : List Stroke) (s : Session) :
    (s.draw first).draw last = s.draw (first ++ last) := by
  simp [draw]

/-- An editor gets the focus: everything is withdrawn, and then the host is told what it is told at
the end of a drawing. -/
theorem exists_refocus (settings : Settings) (host : Host) (e : EditorId) (s : Session) :
    ∃ strokes, s.refocus settings host e = (s.note (.focus e)).draw (.withdrawAll :: strokes) ∧
      ∀ entry, s.entry? e = some entry → strokes = entry.closing settings host e := by
  cases he : s.entry? e with
  | none =>
      have hissues : ∀ strokes, ((s.note (.focus e)).draw strokes).showIssues host e =
          (s.note (.focus e)).draw strokes := by
        intro strokes
        have hnone : Session.entry? ((s.note (.focus e)).draw strokes) e = none := he
        simp only [showIssues, hnone]
      unfold refocus showStatus
      split
      · rw [draw_draw, hissues]
        exact ⟨_, rfl, by simp⟩
      · rw [hissues]
        exact ⟨[], rfl, by simp⟩
  | some entry =>
      refine ⟨entry.closing settings host e, ?_, by simp⟩
      have hclosing := showStatus_showIssues settings host
        (s := (s.note (.focus e)).draw [.withdrawAll]) he
      rw [refocus, hclosing, draw_draw]
      rfl

/-- An editor that gets the focus publishes its issues, whatever was published before. -/
theorem published_refocus (settings : Settings) (hh : host.active = some e) (hs : s.Filed files) :
    Session.Published files (some e) (s.refocus settings host e) := by
  obtain ⟨strokes, hrefocus, hclosing⟩ := exists_refocus settings host e s
  have hlast : (s.refocus settings host e).lastDrawn? files (files e) = some e := by
    rw [lastDrawn?_concat (s := s) (e := e) ?_, if_pos rfl]
    rw [hrefocus]
    exact drawn_note (.focus e) s
  rw [hrefocus] at hlast ⊢
  refine ⟨hs, fun a ha => ?_⟩
  obtain rfl := Option.some.inj ha
  refine ⟨fun hne => absurd hlast hne, fun entry he _ _ => ?_, fun _ _ _ => by rw [hlast]; rfl⟩
  rw [Session.published?, screen]
  change (Screen.after (s.journal.strokes ++ .withdrawAll :: strokes)).published? (files e) = _
  rw [Screen.after_append, hclosing entry he, Screen.draw, List.foldl_cons]
  refine (published?_closing settings host e entry _ (files e)).trans ?_
  rw [if_pos (hs e entry he).symm, if_pos hh]

/-! ## Along a course -/

/-- What the service does on its own, apart from following the focus, keeps the issues of the active
editor published. -/
theorem published_keptByEvents (v : Service) (files : EditorId → Path)
    (active : Option EditorId) :
    KeptByEvents v (fun host => host.active = active ∧ host.Keeps files)
      (Session.Published files active) where
  deed := by
    rintro host s s' ⟨hactive, hkeeps⟩ hd h
    cases hd with
    | note _ hn => exact h.undrawn (undrawn_of_entry (fun _ => rfl) rfl (drawn_note_of_none hn _))
    | soil e =>
        exact h.undrawn (undrawn_edit (e := e) (f := .soil) (fun _ => rfl) (fun _ _ => rfl)
          (fun _ => rfl) rfl rfl)
    | meet hf => exact h.undrawn (undrawn_ensure (hkeeps _ _ hf) s)
    | setTimer => exact h.undrawn (undrawn_setTimer _ _ s)
    | start => exact h.undrawn (undrawn_start _ _ _ s)
    | render e =>
        cases he : s.entry? e with
        | none =>
            have hrender : s.render v.settings host e = s := by simp only [render, he]
            rwa [hrender]
        | some entry =>
            exact published_render v.settings hactive h.filed he fun a ha _ => h.active a ha
    | showStatus e => exact h.undrawn (undrawn_showStatus v.settings host e s)
    | clearStatus => exact h.undrawn (undrawn_draw (by simp [Stroke.isPublishing]) s)
    | tally => exact h.undrawn (undrawn_of_entry (fun _ => rfl) rfl rfl)
  ignore _ _ h := h.undrawn (undrawn_of_entry (fun _ => rfl) rfl rfl)
  takeTimer _ _ _ h := h.undrawn
    (undrawn_edit (f := .setTimer none) (fun _ => rfl) (fun _ _ => rfl) (fun _ => rfl) rfl rfl)
  disregard reason _ _ h := h.undrawn
    (undrawn_of_entry (fun _ => rfl) rfl (drawn_note_of_none rfl _))
  abandon _ _ h := h.undrawn
    (undrawn_edit (f := .fail) (fun _ => rfl) (fun _ _ => rfl) (fun _ => rfl) rfl
      (drawn_note_of_none rfl _))
  store := by
    rintro host s e generation records rest ⟨hactive, -⟩ hq ⟨entry, he, -⟩ h
    have hstore : s.Undrawn files (fun a => a ≠ e)
        (s.pop.store e generation (.ofRecords records v.settings.severityLevel)) :=
      undrawn_edit (e := e) (f := .commit (.ofRecords records v.settings.severityLevel))
        (fun _ => rfl) (fun _ hne => absurd rfl hne) (fun _ => rfl) rfl (drawn_note_of_none rfl _)
    exact published_render v.settings hactive (h.filed.undrawn hstore)
      (entry?_store (s := s.pop) he generation _) fun a ha hne =>
        (h.active a ha).undrawn hstore hne

theorem Published.call {v : Service} (hactive : host.active = active) (hkeeps : host.Keeps files)
    (h : s.Published files active) {call : Scene.Call}
    (hfocus : ∀ e, call = .activeChanged (some e) → active = some e) :
    Session.Published files active (call.run v host s) := by
  have hevents := published_keptByEvents v files active
  have hdeeds : KeptByDeeds v (fun host => host.active = active ∧ host.Keeps files) []
      (Session.Published files active) :=
    { deed := hevents.deed
      close := fun _ h => h.undrawn (undrawn_close _ _) }
  refine hdeeds.call ⟨hactive, hkeeps⟩ h (hevents.handleNext ⟨hactive, hkeeps⟩ h)
    (fun e he => ?_) (by simp)
  obtain rfl := hfocus e he
  exact published_refocus v.settings hactive h.filed

end Session

namespace Scene

open Session

/-- Every change of the active editor is followed at once by a call that tells the service, no other
editor is ever told to be active, and the editors keep their documents. -/
inductive Attended (files : EditorId → Path) : Host → List Move → Prop where
  | nil {host} : Attended files host []
  | move {host m moves} (hm : ∀ host', m ≠ .rearrange host')
      (hf : ∀ e, m = .call (.activeChanged (some e)) → host.active = some e)
      (h : Attended files host moves) : Attended files host (m :: moves)
  | rearrange {host host' moves} (hk : host'.Keeps files) (ha : host'.active = host.active)
      (h : Attended files host' moves) : Attended files host (.rearrange host' :: moves)
  | switch {host host' moves} (hk : host'.Keeps files) (h : Attended files host' moves) :
      Attended files host (.rearrange host' :: .call (.activeChanged host'.active) :: moves)

def Publishes (files : EditorId → Path) (c : Scene) : Prop :=
  c.isDisposed = false → c.session.Published files c.host.active

variable {files : EditorId → Path} {c : Scene} {m : Move}

theorem Publishes.perform (h : c.Publishes files) (hk : c.host.Keeps files)
    (hm : ∀ host, m ≠ .rearrange host)
    (hf : ∀ e, m = .call (.activeChanged (some e)) → c.host.active = some e) :
    (c.perform m).Publishes files := by
  cases m with
  | rearrange host => exact absurd rfl (hm host)
  | pass ms => exact fun hd => (h hd).undrawn (undrawn_of_entry (fun _ => rfl) rfl rfl)
  | ring token => exact fun hd => (h hd).undrawn (undrawn_ring token _)
  | finish generation result => exact fun hd => (h hd).undrawn (undrawn_finish generation result _)
  | call call =>
      by_cases hd : c.isDisposed = true
      · simpa [perform, hd] using h
      · intro _
        simp only [perform, hd, Bool.false_eq_true, ite_false]
        exact (h (by simpa using hd)).call rfl hk fun e he => hf e (by rw [he])
  | dispose =>
      intro hd
      simp only [perform] at hd
      split at hd
      · next hdisposed => exact absurd (hdisposed.symm.trans hd) (by simp)
      · cases hd

theorem Publishes.switch (h : c.Publishes files) {host : Host} (hk : host.Keeps files) :
    ((c.perform (.rearrange host)).perform (.call (.activeChanged host.active))).Publishes
      files := by
  by_cases hd : c.isDisposed = true
  · intro hd'
    simp [Scene.perform, hd] at hd'
  · have hfiled := (h (by simpa using hd)).filed
    intro _
    have hopen : ¬ (c.perform (.rearrange host)).isDisposed = true := hd
    rw [host_perform_call, session_perform_call, if_neg hopen]
    change Session.Published files host.active (c.service.activeChanged host host.active c.session)
    cases ha : host.active with
    | none => exact ⟨hfiled, fun a hnone => by cases hnone⟩
    | some e =>
        exact chain_of_deed ((published_keptByEvents c.service files (some e)).deed ⟨ha, hk⟩)
          (Service.activeChanged_chain c.service host e c.session)
          (published_refocus c.service.settings ha hfiled)

theorem Publishes.play {host : Host} {moves : List Move} (hm : Attended files host moves)
    (hc : c.host = host) (hk : host.Keeps files) (h : c.Publishes files) :
    (c.play moves).Publishes files := by
  induction hm generalizing c with
  | nil => exact h
  | @move host m moves hm hf _ ih =>
      subst hc
      exact ih (host_perform_of_ne hm c) hk (h.perform hk hm hf)
  | @rearrange host host' moves hk' ha _ ih =>
      subst hc
      refine ih (c := c.perform (.rearrange host')) rfl hk' fun hd => ?_
      have hpublished := h hd
      rwa [← ha] at hpublished
  | @switch host host' moves hk' _ ih =>
      subst hc
      exact ih (c := (c.perform (.rearrange host')).perform _)
        (host_perform_call _ _) hk' (h.switch hk')

/-- While an editor is active and has been checked, its issues are published as long as it is the
last editor of its document that was drawn or got the focus, and from then on nothing is published
for that document. -/
theorem issues_published (v : Service) (host : Host) (files : EditorId → Path)
    (moves : List Move) (hk : host.Keeps files) (hm : Attended files host moves) (e : EditorId)
    (entry : Entry) (ha : ((opening v host).play moves).host.active = some e)
    (he : ((opening v host).play moves).session.entry? e = some entry)
    (hc : entry.findings.isSome = true) :
    ∃ x, ((opening v host).play moves).session.lastDrawn? files entry.file = some x ∧
      ((opening v host).play moves).session.published? entry.file =
        if x = e then some entry.issues else none := by
  have hinit : (opening v host).Publishes files := fun _ =>
    ⟨by simp [Filed, opening], fun a _ => ⟨fun _ => rfl, by simp [opening], by simp [opening]⟩⟩
  have hplay := hinit.play hm rfl hk
  have hd : ((opening v host).play moves).isDisposed = false := by
    by_contra hd
    rw [entry?_of_isDisposed (by simpa using hd)] at he
    cases he
  obtain ⟨hfiled, hactive⟩ := hplay hd
  obtain ⟨hwithdrawn, hissues, hdrawn⟩ := hactive e ha
  have hfile := hfiled e entry he
  have hpublished : ((opening v host).play moves).session.published? entry.file =
      ((opening v host).play moves).session.published? (files e) := by
    rw [Session.published?, Screen.published?, hfile]
    rfl
  have hlast : ((opening v host).play moves).session.lastDrawn? files entry.file =
      ((opening v host).play moves).session.lastDrawn? files (files e) := by
    simp only [lastDrawn?, Path.same, hfile]
  obtain ⟨x, hx⟩ := Option.isSome_iff_exists.mp (hdrawn entry he hc)
  refine ⟨x, hlast.trans hx, hpublished.trans ?_⟩
  by_cases hxe : x = e
  · rw [if_pos hxe]
    exact hissues entry he hc (hxe ▸ hx)
  · rw [if_neg hxe]
    exact hwithdrawn fun heq => hxe (Option.some.inj (hx.symm.trans heq))

/-- In a split view the issues of the active editor are published if it was the last one to be
drawn. -/
theorem issues_published_of_split_view :
    let moves : List Move := [.call (.activeChanged (some ⟨0⟩)), .call .activate,
      .finish ⟨2⟩ (.ok [⟨1, 1, "unused", none, 1⟩]), .call .handleNext,
      .finish ⟨1⟩ (.ok [⟨1, 1, "unused", none, 1⟩]), .call .handleNext]
    let s := ((opening (.ofSettings .default) (.split "let")).play moves).session
    ∃ entry, s.entry? ⟨0⟩ = some entry ∧ entry.issues.length = 1 ∧
      s.published? entry.file = some entry.issues := by
  intro moves s
  have hany : (s.entry? ⟨0⟩).any (fun entry => entry.findings.isSome && entry.issues.length == 1 &&
      s.lastDrawn? (fun _ => .script) entry.file == some ⟨0⟩) = true := by decide +kernel
  obtain ⟨entry, hentry, hall⟩ := (Option.any_eq_true _ _).mp hany
  simp only [Bool.and_eq_true, beq_iff_eq] at hall
  obtain ⟨⟨hc, hlength⟩, hlast⟩ := hall
  obtain ⟨x, hx, hs⟩ := issues_published (.ofSettings .default) (.split "let") (fun _ => .script)
    moves (Host.keeps_split "let") (.move (by simp) (by simp [Host.split]) <|
      .move (by simp) (by simp) <| .move (by simp) (by simp) <| .move (by simp) (by simp) <|
      .move (by simp) (by simp) <| .move (by simp) (by simp) .nil)
    ⟨0⟩ entry (by decide +kernel) hentry hc
  obtain rfl := Option.some.inj (hx.symm.trans hlast)
  exact ⟨entry, hentry, hlength, hs⟩

/-- In a split view the issues of the active editor are withdrawn when the other editor is checked
after it. -/
theorem issues_withdrawn_of_split_view :
    let moves : List Move := [.call (.activeChanged (some ⟨0⟩)), .call .activate,
      .finish ⟨1⟩ (.ok [⟨1, 1, "unused", none, 1⟩]), .call .handleNext,
      .finish ⟨2⟩ (.ok [⟨1, 1, "unused", none, 1⟩]), .call .handleNext]
    let c := (opening (.ofSettings .default) (.split "let")).play moves
    Host.Keeps (fun _ => .script) (.split "let") ∧
      Attended (fun _ => .script) (.split "let") moves ∧
      c.host.active = some ⟨0⟩ ∧
      ∃ entry, c.session.entry? ⟨0⟩ = some entry ∧ entry.findings.isSome = true ∧
        c.session.published? entry.file ≠ some entry.issues := by
  intro moves c
  have hany : (c.session.entry? ⟨0⟩).any (fun entry => entry.findings.isSome &&
      !(c.session.published? entry.file == some entry.issues)) = true := by decide +kernel
  obtain ⟨entry, hentry, hall⟩ := (Option.any_eq_true _ _).mp hany
  simp only [Bool.and_eq_true, Bool.not_eq_true', beq_eq_false_iff_ne] at hall
  refine ⟨Host.keeps_split "let", ?_, by decide +kernel, entry, hentry, hall⟩
  exact .move (by simp) (by simp [Host.split]) <| .move (by simp) (by simp) <|
    .move (by simp) (by simp) <| .move (by simp) (by simp) <| .move (by simp) (by simp) <|
    .move (by simp) (by simp) .nil

end Scene

end Gutter
