import Gutter.Proofs.Session.Found

/-!
# Documents that were never checked

The active editor publishes all issues of its last completed check, and none before the first one.
So an empty list has two meanings. Whatever the service draws on its own has been checked; but an
editor that gets the focus, or is drawn because the host wants it, publishes an empty list even if
no check of it has ever completed.
-/

namespace Gutter

/-! ## Properties of every entry -/

/-- A property of new entries that every change of an entry keeps. -/
structure Entry.Stable (P : Entry → Prop) : Prop where
  new : ∀ file, P (.new file)
  markers : ∀ entry markers, P entry → P { entry with markers }
  soil : ∀ entry, P entry → P entry.soil
  setTimer : ∀ entry timer, P entry → P (entry.setTimer timer)
  start : ∀ entry generation, P entry → P (entry.start generation)
  commit : ∀ entry findings, P entry → P (entry.commit findings)
  fail : ∀ entry, P entry → P entry.fail

def Entry.Justified (entry : Entry) : Prop :=
  entry.isRunning = false → entry.needsCheck = false → entry.findings.isSome = true

theorem Entry.stable_justified : Stable Justified where
  new _ _ hn := by cases hn
  markers _ _ h := h
  soil _ _ _ hn := by cases hn
  setTimer _ _ h := h
  start _ _ _ hr := by cases hr
  commit _ _ _ _ _ := rfl
  fail _ _ _ hn := by cases hn

/-- The host wants an editor to be shown: it gets the focus, or is to be drawn. -/
def Scene.Call.Presents (call : Scene.Call) (e : EditorId) : Prop :=
  match call with
  | .activeChanged editor => editor = some e
  | .render editor => editor = e
  | _ => False

def Scene.Move.Presents (m : Scene.Move) (e : EditorId) : Prop :=
  match m with
  | .call c => c.Presents e
  | _ => False

namespace Session

variable {v : Service} {H : Host → Prop} {host : Host} {s s' s'' : Session} {e : EditorId}
  {entry : Entry} {P : Entry → Prop}

def Each (P : Entry → Prop) (s : Session) : Prop := ∀ e entry, s.entry? e = some entry → P entry

namespace Each

theorem of_entry (h : s.Each P) (he : ∀ x, s'.entry? x = s.entry? x) : s'.Each P :=
  fun x entry hx => h x entry ((he x).symm.trans hx)

theorem map (h : s.Each P) {f : Entry → Entry} (hf : ∀ entry, P entry → P (f entry))
    (he : ∀ x, s'.entry? x = if x = e then (s.entry? x).map f else s.entry? x) : s'.Each P := by
  intro x entry' hx
  rw [he] at hx
  split at hx
  · obtain ⟨entry, hentry, rfl⟩ := Option.map_eq_some_iff.mp hx
    exact hf entry (h x entry hentry)
  · exact h x entry' hx

theorem alike (h : s.Each P) (hp : Entry.Stable P) (ha : s.Alike s') : s'.Each P := by
  intro x entry hx
  obtain ⟨markers, hold⟩ := exists_entry_of_bare (ha.bare x).symm hx
  exact hp.markers { entry with markers } entry.markers (h x _ hold)

theorem close (h : s.Each P) (keep : EditorId → Bool) : Session.Each P (s.close keep) := by
  intro x entry hx
  rw [entry?_close] at hx
  split at hx
  · exact h x entry hx
  · cases hx

theorem ensure (h : s.Each P) (hp : Entry.Stable P) (e : EditorId) (file : Path) :
    Session.Each P (s.ensure e file) := by
  intro x entry hx
  by_cases hxe : x = e
  · subst hxe
    exact forall_entry_ensure (hp.new file) (h x) entry hx
  · rw [entry?_ensure, if_neg hxe] at hx
    exact h x entry hx

theorem deed (h : s.Each P) (hp : Entry.Stable P) (hd : Deed v host s s') : s'.Each P := by
  cases hd.onChecks with
  | alike ha => exact h.alike hp ha
  | soil e => exact h.map hp.soil (entry?_edit e _ s)
  | meet => exact h.ensure hp _ _
  | setTimer => exact h.map (hp.setTimer · _) (entry?_setTimer _ _ s)
  | start => exact h.map (hp.start · _) (entry?_start _ _ _ s)

end Each

theorem each_keptByEvents (hp : Entry.Stable P) (v : Service) (H : Host → Prop) :
    KeptByEvents v H (Each P) where
  deed _ hd h := h.deed hp hd
  ignore _ _ h := h
  takeTimer := by
    intro s e token rest entry _ _ _ h
    exact h.map (hp.setTimer · none) (entry?_edit e _ s.pop)
  disregard _ _ _ h := h
  abandon := by
    intro s e generation failure rest _ _ h
    exact h.map hp.fail (entry?_edit e _ s.pop)
  store := by
    intro host s e generation records rest _ _ _ h
    have hstore : Each P
        (s.pop.store e generation (.ofRecords records v.settings.severityLevel)) :=
      h.map (hp.commit · _) (entry?_edit e _ s.pop)
    exact hstore.alike hp (alike_render _ host e _)

theorem each_kept (hp : Entry.Stable P) (v : Service) (H : Host → Prop) :
    Kept v H [] (Each P) where
  deed := (each_keptByEvents hp v H).deed
  handleNext := (each_keptByEvents hp v H).handleNext
  close _ h := h.close _
  refocus e _ h := h.alike hp (alike_refocus _ _ e _)
  blank h := h
  pass _ h := h
  ring token h := h.of_entry fun x => entry?_ring token _ x
  finish generation result h := h.of_entry fun x => entry?_finish generation result _ x

theorem justified_play (v : Service) (host : Host) (moves : List Scene.Move) :
    ((Scene.opening v host).play moves).session.Each Entry.Justified :=
  (each_kept Entry.stable_justified v fun _ => True).play (c := .opening v host) trivial
    (fun _ _ he => by cases he) (fun m _ => m.within_true) (by simp)

/-! ## Publishing an empty list -/

/-- The active editor shows a document of which nothing was found. Only an editor of `Q` may never
have been checked. -/
def Clean (host : Host) (Q : EditorId → Prop) (file : Path) (s : Session) : Prop :=
  ∃ e entry, host.active = some e ∧ s.entry? e = some entry ∧ entry.file = file ∧
    entry.issues = [] ∧ (entry.findings = none → Q e)

/-- An editor is remembered of which no check has completed. -/
def Unchecked (s : Session) (e : EditorId) : Prop :=
  ∃ entry, s.entry? e = some entry ∧ entry.findings = none

def Retains (s s' : Session) : Prop :=
  ∀ e found, s.found? e = some found → s'.found? e = some found

/-- The host is told more, and an empty list is published only for a document that is clean in the
end. -/
def Publishes (host : Host) (Q : EditorId → Prop) (s s' : Session) : Prop :=
  ∃ news, s'.journal.strokes = s.journal.strokes ++ news ∧
    ∀ file, .publish file [] ∈ news → s'.Clean host Q file

variable {Q : EditorId → Prop} {file : Path}

theorem Retains.trans (h : s.Retains s') (h' : s'.Retains s'') : s.Retains s'' :=
  fun e found he => h' e found (h e found he)

theorem Silent.retains (h : Silent v H s s') : s.Retains s' := by
  intro e found he
  rcases h.found e with heq | ⟨hnone, -⟩
  · rw [heq, he]
  · rw [hnone] at he
    cases he

theorem Clean.retained (h : s.Clean host Q file) (hr : s.Retains s') : s'.Clean host Q file := by
  obtain ⟨e, entry, ha, he, hfile, hissues, hq⟩ := h
  obtain ⟨entry', he', hfile', hfindings⟩ :=
    exists_entry_of_found? (hr e _ (found?_of_entry he))
  refine ⟨e, entry', ha, he', hfile'.trans hfile, ?_, fun hnone => hq (hfindings ▸ hnone)⟩
  rw [Entry.issues, hfindings]
  exact hissues

namespace Publishes

theorem refl (s : Session) : s.Publishes host Q s := ⟨[], by simp, by simp⟩

theorem trans (h : s.Publishes host Q s') (h' : s'.Publishes host Q s'') (hr : s'.Retains s'') :
    s.Publishes host Q s'' := by
  obtain ⟨news, hs, hn⟩ := h
  obtain ⟨more, hs', hn'⟩ := h'
  refine ⟨news ++ more, by rw [hs', hs, List.append_assoc], fun file hmem => ?_⟩
  rcases List.mem_append.mp hmem with hmem | hmem
  · exact (hn file hmem).retained hr
  · exact hn' file hmem

theorem of_strokes {strokes : List Stroke} (h : ∀ file, .publish file [] ∉ strokes)
    (hs : s'.journal.strokes = s.journal.strokes ++ strokes) : s.Publishes host Q s' :=
  ⟨strokes, hs, fun file hmem => absurd hmem (h file)⟩

theorem mono {Q' : EditorId → Prop} (h : s.Publishes host Q s')
    (hq : ∀ e, host.active = some e → Q e → Q' e) : s.Publishes host Q' s' := by
  obtain ⟨news, hs, hn⟩ := h
  refine ⟨news, hs, fun file hmem => ?_⟩
  obtain ⟨e, entry, ha, he, hfile, hissues, hunchecked⟩ := hn file hmem
  exact ⟨e, entry, ha, he, hfile, hissues, fun hf => hq e ha (hunchecked hf)⟩

theorem of_eq (hs : s'.journal.strokes = s.journal.strokes) : s.Publishes host Q s' :=
  of_strokes (by simp) (hs.trans (List.append_nil _).symm)

end Publishes

theorem publish_ne_statusStroke (settings : Settings) (issues : List Issue) (file : Path)
    (published : List Issue) : .publish file published ≠ statusStroke settings issues := by
  intro h
  have hp := isPublishing_statusStroke settings issues
  rw [← h] at hp
  cases hp

theorem publish_mem_closing {settings : Settings} {issues : List Issue} :
    .publish file issues ∈ entry.closing settings host e ↔
      host.active = some e ∧ file = entry.file ∧ issues = entry.issues := by
  unfold Entry.closing
  split
  · next ha => simp [ha, publish_ne_statusStroke]
  · next ha => simp [ha]

/-- Nothing but the end of a drawing publishes issues. -/
theorem Draws.publish_mem {settings : Settings} (h : Draws settings host e entry s s') :
    ∃ news, s'.journal.strokes = s.journal.strokes ++ news ∧
      ∀ file issues, .publish file issues ∈ news ↔
        host.active = some e ∧ file = entry.file ∧ issues = entry.issues := by
  refine ⟨_, h.strokes, fun file issues => ?_⟩
  rw [List.mem_append, publish_mem_closing]
  refine or_iff_right fun hmem => ?_
  have hmarking := isMarking_of_mem_append _ hmem
  cases hmarking

/-! ## Calls -/

/-- A step after which everything is still remembered, and that publishes as it should. -/
structure Tells (host : Host) (Q : EditorId → Prop) (s s' : Session) : Prop where
  publishes : s.Publishes host Q s'
  retains : s.Retains s'

theorem Tells.trans (h : s.Tells host Q s') (h' : s'.Tells host Q s'') : s.Tells host Q s'' :=
  ⟨h.publishes.trans h'.publishes h'.retains, h.retains.trans h'.retains⟩

theorem Silent.tells (h : Silent v H s s') : s.Tells host Q s' := ⟨.of_eq h.strokes, h.retains⟩

theorem Still.tells (h : s.Still s') : s.Tells host Q s' where
  publishes := .of_eq h.strokes
  retains e _ he := (h.found e).trans he

theorem tells_draw {strokes : List Stroke} (h : ∀ file, .publish file [] ∉ strokes)
    (s : Session) : s.Tells host Q (s.draw strokes) :=
  ⟨.of_strokes h rfl, fun _ _ he => he⟩

theorem tells_note (event : Log.Event) (s : Session) : s.Tells host Q (s.note event) :=
  Still.tells ⟨rfl, fun _ => rfl⟩

theorem tells_showStatus (settings : Settings) (host : Host) (e : EditorId) (s : Session) :
    s.Tells host Q (s.showStatus settings host e) := by
  unfold showStatus
  split
  · exact tells_draw (by simp [publish_ne_statusStroke]) s
  · exact (Still.refl s).tells

/-- To publish for an editor is all right if it has been checked, or belongs to `Q`. -/
theorem tells_showIssues (host : Host) (hq : ∀ entry, s.entry? e = some entry →
    entry.findings = none → Q e) : s.Tells host Q (s.showIssues host e) := by
  unfold showIssues
  cases he : s.entry? e with
  | none => exact (Still.refl s).tells
  | some entry =>
      simp only
      split
      · next ha =>
        refine ⟨⟨[.publish entry.file entry.issues], rfl, fun file hmem => ?_⟩, fun _ _ h => h⟩
        obtain ⟨rfl, hissues⟩ : file = entry.file ∧ [] = entry.issues := by simpa using hmem
        exact ⟨e, entry, ha, he, rfl, hissues.symm, hq entry he⟩
      · exact tells_draw (by simp) s

/-- The same for a whole drawing. -/
theorem tells_render (settings : Settings) (host : Host) (hq : ∀ entry, s.entry? e = some entry →
    entry.findings = none → Q e) : s.Tells host Q (s.render settings host e) := by
  cases he : s.entry? e with
  | none =>
      have hrender : s.render settings host e = s := by simp only [render, he]
      rw [hrender]
      exact (Still.refl s).tells
  | some entry =>
      have hdraws := draws_render settings host he
      have hself := (hdraws.entries e).trans (if_pos rfl)
      obtain ⟨news, hs, hn⟩ := hdraws.publish_mem
      refine ⟨⟨news, hs, fun file hmem => ?_⟩, fun x found hx => ?_⟩
      · obtain ⟨ha, rfl, hissues⟩ := (hn file []).mp hmem
        exact ⟨e, _, ha, hself, rfl, hissues.symm, hq entry he⟩
      · rw [hdraws.found?]
        split
        · next hxe => rw [← hx, hxe, found?_of_entry he]
        · exact hx

theorem tells_refocus (settings : Settings) (host : Host)
    (hq : ∀ entry, s.entry? e = some entry → entry.findings = none → Q e) :
    s.Tells host Q (s.refocus settings host e) := by
  refine (tells_note (.focus e) s).trans <| (tells_draw (by simp) _).trans <|
    (tells_showStatus settings host e _).trans (tells_showIssues host fun entry he => hq entry ?_)
  rwa [entry?_showStatus] at he

/-- A request draws an editor only if it has been checked. -/
theorem tells_request (hs : s.Each Entry.Justified) (v : Service) (host : Host) (e : EditorId)
    (debounce : Bool) : s.Tells host Q (v.request host e debounce s).1 := by
  have hmeet : ∀ {file kind}, host.file? e = some file → v.extensions.kindOf? file = some kind →
      s.Tells host Q (s.ensure e file) := fun hf hk =>
    (silent_ensure (H := (· = host)) rfl (meets_of_kindOf? hf hk) s).tells
  have h := Service.requested v host e debounce s
  generalize v.request host e debounce s = answer at h ⊢
  cases h with
  | gone => exact (Still.refl s).tells
  | unsupported => exact tells_note _ s
  | busy hf hk => exact (hmeet hf hk).trans (tells_note _ _)
  | debounced hf hk =>
      exact (hmeet hf hk).trans (silent_setTimer (H := (· = host)) (v := v) _ e _).tells
  | started hf hk =>
      exact (hmeet hf hk).trans (silent_start (H := (· = host)) (v := v) _ _ _ _).tells
  | @cached file _ entry hf hk he hr _ hn =>
      have hchecked := hs.ensure Entry.stable_justified e file e entry he hr hn
      refine (hmeet hf hk).trans ((tells_note _ _).trans (tells_render _ host ?_))
      intro other ho hnone
      obtain rfl := Option.some.inj (ho.symm.trans he)
      rw [hnone] at hchecked
      cases hchecked

theorem tells_foldl {f : Session → EditorId → Session}
    (hc : ∀ (s : Session) e, Chain v host s (f s e))
    (ht : ∀ (s : Session) e, s.Each Entry.Justified → s.Tells host Q (f s e))
    (hs : s.Each Entry.Justified) (editors : List EditorId) :
    s.Tells host Q (editors.foldl f s) := by
  induction editors generalizing s with
  | nil => exact (Still.refl s).tells
  | cons e editors ih =>
      have hnext : (f s e).Each Entry.Justified :=
        chain_of_deed (fun hd h => h.deed Entry.stable_justified hd) (hc s e) hs
      exact (ht s e hs).trans (ih hnext)

theorem tells_requestAll (hs : s.Each Entry.Justified) (v : Service) (host : Host)
    (editors : List EditorId) (debounce : Bool) :
    s.Tells host Q (v.requestAll host editors debounce s) :=
  tells_foldl (fun s e => Service.request_chain v host e debounce s)
    (fun _ e h => tells_request h v host e debounce) hs editors

theorem tells_textChanged (hs : s.Each Entry.Justified) (v : Service) (host : Host)
    (file : Path) : s.Tells host Q (v.textChanged host file s) := by
  have hsoil : ∀ (s : Session) (e : EditorId), s.Tells host Q (s.edit e .soil) := fun s e =>
    Still.tells ⟨rfl, found?_edit (f := .soil) (fun _ => ⟨rfl, rfl⟩) e s⟩
  unfold Service.textChanged
  split
  · exact (Still.refl s).tells
  · have hall := tells_foldl (Q := Q)
      (fun s e => (Relation.ReflTransGen.single (.soil e)).trans
        (Service.request_chain v host e true _))
      (fun s e _ => (hsoil s e).trans (silent_request (H := (· = host)) rfl e _).tells)
      hs (host.visible.filter (Service.shows host file))
    split
    · exact hall.trans (tells_showStatus _ _ _ _)
    · exact hall

/-- An event that is handled draws an editor only if it has been checked. -/
theorem publishes_handleNext (hs : s.Each Entry.Justified) (v : Service) (host : Host) :
    s.Publishes host Q (v.handleNext host s) := by
  have hstored : ∀ {e entry}, s.entry? e = some entry → ∀ generation records,
      Session.Tells host Q (s.pop.store e generation records)
        ((s.pop.store e generation records).render v.settings host e) := by
    intro e entry he generation records
    refine tells_render v.settings host fun other ho hnone => ?_
    rw [entry?_store (s := s.pop) he] at ho
    obtain rfl := Option.some.inj ho
    cases hnone
  have h := Service.handled v host s
  generalize v.handleNext host s = s' at h ⊢
  cases h with
  | idle => exact .refl s
  | orphaned | superseded | unseen | evicted | stale | failed => exact .of_eq rfl
  | @heard e token _ entry hq he ht hv =>
      have htaken : Each Entry.Justified (s.pop.takeTimer e token) :=
        hs.map (Entry.stable_justified.setTimer · none) (entry?_edit e _ s.pop)
      exact (tells_request htaken v host e false).publishes
  | stored hq he => exact (hstored he _ _).publishes
  | @trailed e generation records _ _ hq he =>
      have hdrawn := hstored he generation (.ofRecords records v.settings.severityLevel)
      have hasked := (hdrawn.trans (tells_note (.trailingCheck e) _)).trans
        (silent_request (v := v) (H := (· = host)) rfl e _).tells
      exact hasked.publishes

theorem publishes_close (keep : EditorId → Bool) (s : Session) :
    s.Publishes host Q (s.close keep) :=
  .of_strokes (by simp) rfl

theorem publishes_prune (v : Service) (host : Host) (s : Session) :
    s.Publishes host Q (v.prune host s).1 := by
  unfold Service.prune Session.prune
  split
  · exact publishes_close _ s
  · exact .refl s

theorem publishes_call (hs : s.Each Entry.Justified) (v : Service) (host : Host)
    (call : Scene.Call) :
    s.Publishes host (fun e => call.Presents e ∧ s.Unchecked e) (call.run v host s) := by
  cases call with
  | activate =>
      have hnoted : Each Entry.Justified (s.note (.activate host.visible.length)) := hs
      exact ((tells_note _ s).trans (tells_requestAll hnoted v host _ _)).publishes
  | request e debounce => exact (tells_request hs v host e debounce).publishes
  | render e => exact (tells_render _ host fun entry he hf => ⟨rfl, entry, he, hf⟩).publishes
  | prune => exact publishes_prune v host s
  | textChanged file => exact (tells_textChanged hs v host file).publishes
  | activeChanged editor =>
      cases editor with
      | none => exact .refl s
      | some e =>
          have hfocus := tells_refocus
            (Q := fun x => Scene.Call.Presents (.activeChanged (some e)) x ∧ s.Unchecked x)
            v.settings host fun entry he hf => ⟨rfl, entry, he, hf⟩
          have hasked := hfocus.trans
            (silent_requestAll (v := v) (H := (· = host)) rfl host.visible _).tells
          exact hasked.publishes
  | selectionChanged e =>
      simp only [Scene.Call.run, Service.selectionChanged]
      split
      · exact (tells_showStatus _ host e s).publishes
      · exact .refl s
  | documentClosed file =>
      simp only [Scene.Call.run, Service.documentClosed]
      split
      · exact .refl s
      · split
        · exact (publishes_prune v host s).trans (tells_draw (by simp) _).publishes
            fun _ _ h => h
        · exact publishes_prune v host s
  | editorClosed e =>
      simp only [Scene.Call.run, Service.editorClosed]
      split
      · exact .refl s
      · exact publishes_close _ s
  | handleNext => exact publishes_handleNext hs v host

/-- If the host wants the active editor to be shown, its issues are published. -/
theorem exists_publish {call : Scene.Call} (hp : call.Presents e) (v : Service)
    (ha : host.active = some e) (he : s.entry? e = some entry) :
    ∃ news, (call.run v host s).journal.strokes = s.journal.strokes ++ news ∧
      .publish entry.file entry.issues ∈ news ∧
      (call.run v host s).found? e = some (entry.file, entry.findings) := by
  cases call with
  | render x =>
      obtain rfl : x = e := hp
      have hdraws := draws_render v.settings host he
      obtain ⟨news, hs, hn⟩ := hdraws.publish_mem
      exact ⟨news, hs, (hn _ _).mpr ⟨ha, rfl, rfl⟩, (hdraws.found? x).trans (if_pos rfl)⟩
  | activeChanged editor =>
      obtain rfl : editor = some e := hp
      obtain ⟨strokes, hrefocus, hclosing⟩ := exists_refocus v.settings host e s
      have hasked := silent_requestAll (v := v) (H := (· = host)) rfl host.visible
        (s.refocus v.settings host e)
      have hfound := (alike_refocus v.settings host e s).found? e
      refine ⟨.withdrawAll :: strokes, ?_, ?_, ?_⟩
      · exact hasked.strokes.trans (by rw [hrefocus]; rfl)
      · rw [hclosing entry he]
        exact List.mem_cons_of_mem _ (publish_mem_closing.mpr ⟨ha, rfl, rfl⟩)
      · exact hasked.retains e _ (hfound.trans (found?_of_entry he))
  | _ => cases hp

end Session

namespace Scene

open Session

/-! ## Along a course -/

/-- With a move the host wants the active editor to be shown, and no check of it has completed. -/
structure ShowsUnchecked (c : Scene) (m : Move) (e : EditorId) : Prop where
  running : c.isDisposed = false
  active : c.host.active = some e
  presents : m.Presents e
  unchecked : c.session.Unchecked e

/-- After a move a document is shown by the active editor, and its last completed check has found
nothing. -/
def FoundClean (c : Scene) (m : Move) (file : Path) : Prop :=
  ∃ e entry findings, c.host.active = some e ∧ (c.perform m).session.entry? e = some entry ∧
    entry.file = file ∧ entry.findings = some findings ∧ findings.issues = []

/-- When the host is told with a move that a document has no issues. -/
structure Told (c : Scene) (m : Move) (news : List Stroke) : Prop where
  strokes : (c.perform m).session.journal.strokes = c.session.journal.strokes ++ news
  clean : ∀ file, .publish file [] ∈ news → c.FoundClean m file ∨
    ∃ e, c.ShowsUnchecked m e ∧ (c.perform m).session.found? e = some (file, none)
  unchecked : ∀ e, c.ShowsUnchecked m e → ∃ file,
    (c.perform m).session.found? e = some (file, none) ∧ .publish file [] ∈ news

variable {c : Scene} {m : Move} {news : List Stroke}

theorem publishes_perform (h : c.session.Each Entry.Justified) (m : Move) :
    c.session.Publishes c.host (c.ShowsUnchecked m) (c.perform m).session := by
  cases m with
  | rearrange | pass => exact .refl _
  | ring token => exact .of_eq (still_ring token _).strokes
  | finish generation result => exact .of_eq (still_finish generation result _).strokes
  | call call =>
      rw [session_perform_call]
      split
      · exact .refl _
      · next hd =>
        refine (publishes_call h c.service c.host call).mono fun e ha hq => ?_
        exact ⟨by simpa using hd, ha, hq.1, hq.2⟩
  | dispose =>
      simp only [perform]
      split
      · exact .refl _
      · exact .of_strokes (by simp) (List.append_assoc _ _ _)

/-- Along every course an empty list is published for a document in which nothing was found, or for
one that was never checked and that the host wants to be shown. -/
theorem exists_told (v : Service) (host : Host) (moves : List Move) (m : Move) :
    ∃ news, ((opening v host).play moves).Told m news := by
  have h := justified_play v host moves
  generalize (opening v host).play moves = c at h ⊢
  obtain ⟨news, hs, hn⟩ := publishes_perform h m
  refine ⟨news, hs, fun file hmem => ?_, ?_⟩
  · obtain ⟨e, entry, ha, he, hfile, hissues, hq⟩ := hn file hmem
    cases hf : entry.findings with
    | none => exact .inr ⟨e, hq hf, by rw [found?_of_entry he, hfile, hf]⟩
    | some findings =>
        refine .inl ⟨e, entry, findings, ha, he, hfile, hf, ?_⟩
        rwa [Entry.issues, hf] at hissues
  · rintro e ⟨hd, ha, hp, entry, he, hf⟩
    cases m with
    | call call =>
        rw [session_perform_call, if_neg (by simp [hd])] at hs ⊢
        obtain ⟨more, hmore, hmem, hfound⟩ := exists_publish hp c.service ha he
        obtain rfl := List.append_cancel_left (hs.symm.trans hmore)
        rw [hf] at hfound
        rw [Entry.issues, hf] at hmem
        exact ⟨entry.file, hfound, hmem⟩
    | _ => cases hp

/-- An empty list always means that a check has found nothing if and only if no unchecked document
is shown. -/
theorem Told.forall_foundClean_iff (h : c.Told m news) :
    (∀ file, .publish file [] ∈ news → c.FoundClean m file) ↔ ∀ e, ¬ c.ShowsUnchecked m e := by
  constructor
  · intro hclean e hshows
    obtain ⟨file, hfound, hmem⟩ := h.unchecked e hshows
    obtain ⟨x, entry, findings, ha, he, -, hf, -⟩ := hclean file hmem
    obtain rfl := Option.some.inj (ha.symm.trans hshows.active)
    rw [found?_of_entry he, hf] at hfound
    cases hfound
  · intro hnone file hmem
    refine (h.clean file hmem).resolve_right ?_
    rintro ⟨e, hshows, -⟩
    exact hnone e hshows

end Scene

end Gutter
