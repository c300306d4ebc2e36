import Gutter.Proofs.Session.Focus
import Gutter.Proofs.Session.Quiet
import Gutter.Proofs.Session.Runs
import Gutter.Proofs.Session.Shown

/-!
# Closing an editor

When an editor is closed its markers are released and its status line is replaced, and events that
were on their way draw nothing any more. What it has published is withdrawn as soon as another
editor gets the focus, and not before: the service ignores that the focus is lost to none.
-/

namespace Gutter

/-- The host once an editor is closed, where `active` is the active editor from then on. -/
def Host.without (e : EditorId) (active : Option EditorId) (host : Host) : Host :=
  { host with
    visible := host.visible.filter (· ≠ e)
    active
    file? := fun x => if x = e then none else host.file? x
    text? := fun x => if x = e then none else host.text? x
    cursor? := fun x => if x = e then none else host.cursor? x }

/-- An event of a timer that was set, or of a run that was started, for an editor by then. -/
def Event.StemsFrom (e : EditorId) (s : Session) : Event → Prop
  | .timerFired x token => x = e ∧ (e, token) ∈ s.timersSet
  | .runDone x generation _ => x = e ∧ (e, generation) ∈ s.ledger.started

namespace Session

variable {v : Service} {host : Host} {s s' : Session} {e x : EditorId} {file : Path}

/-! ## The calls -/

section screen

variable {α : Type} {part : Screen → α} (hp : Screen.Independent part)

include hp

theorem screen_prune (v : Service) (host : Host) (s : Session) :
    part (v.prune host s).1.screen = part s.screen := by
  unfold Service.prune prune
  split
  · exact screen_close hp _ s
  · rfl

theorem screen_editorClosed (e : EditorId) (s : Session) :
    part (Service.editorClosed e s).screen = part s.screen := by
  unfold Service.editorClosed
  split
  · rfl
  · exact screen_close hp _ s

end screen

theorem entry?_editorClosed (e : EditorId) (s : Session) :
    Session.entry? (Service.editorClosed e s) e = none := by
  unfold Service.editorClosed
  split
  · next he => exact he
  · rw [entry?_note, entry?_close, if_neg (by simp)]

theorem entry?_prune_of_none (he : s.entry? e = none) (v : Service) (host : Host) :
    Session.entry? (v.prune host s).1 e = none := by
  unfold Service.prune prune
  split
  · rw [entry?_note, entry?_count, entry?_close, he, ite_self]
  · exact he

theorem entry?_documentClosed_of_none (he : s.entry? e = none) (v : Service) (host : Host)
    (file : Path) : Session.entry? (v.documentClosed host file s) e = none := by
  have hprune := entry?_prune_of_none he v host
  unfold Service.documentClosed
  split
  · exact he
  · split <;> exact hprune

/-- Only the status line is drawn for a document that is closed. -/
theorem published?_documentClosed (v : Service) (host : Host) (file : Path) (s : Session)
    (f : Path) : (v.documentClosed host file s).published? f = s.published? f := by
  have hprune : (v.prune host s).1.published? f = s.published? f :=
    screen_prune (Screen.independent_published f) v host s
  unfold Service.documentClosed
  split
  · rfl
  · split
    · exact (published?_draw (by simp [Stroke.isPublishing]) _ f).trans hprune
    · exact hprune

theorem statusLine_documentClosed (hs : v.extensions.supports file = true) (host : Host)
    (s : Session) :
    (v.documentClosed host file s).screen.statusLine =
      if host.active = none then none else s.screen.statusLine := by
  simp only [Service.documentClosed, hs, Bool.not_true, Bool.false_eq_true, ite_false]
  split
  · rw [screen_draw]
    rfl
  · exact screen_prune Screen.independent_statusLine v host s

theorem screen_activeChanged (v : Service) (host : Host) (e : EditorId) (s : Session) :
    (v.activeChanged host (some e) s).screen = (s.refocus v.settings host e).screen :=
  (silent_requestAll (v := v) (H := (· = host)) rfl host.visible
    (s.refocus v.settings host e)).screen

/-! ## An editor is closed -/

def closed (v : Service) (host : Host) (e : EditorId) (file : Path) (s : Session) : Session :=
  v.documentClosed host file (Service.editorClosed e (v.activeChanged host host.active s))

theorem entry?_closed (v : Service) (host : Host) (e : EditorId) (file : Path) (s : Session) :
    Session.entry? (s.closed v host e file) e = none :=
  entry?_documentClosed_of_none (entry?_editorClosed e _) v host file

theorem statusLine_closed (hs : v.extensions.supports file = true) (host : Host) (e : EditorId)
    (s : Session) :
    Screen.statusLine (Session.screen (s.closed v host e file)) =
      host.active.bind fun a => statusLine? v.settings (s.cursorIssues host a) := by
  rw [closed, statusLine_documentClosed hs, screen_editorClosed Screen.independent_statusLine]
  cases ha : host.active with
  | none => rfl
  | some a => rw [if_neg (by simp), screen_activeChanged, statusLine_refocus, if_pos ha]; rfl

/-- What is published for a document is up to the active editor. -/
theorem published?_closed (v : Service) (host : Host) (e : EditorId) (file : Path) (s : Session)
    (f : Path) :
    Session.published? (s.closed v host e file) f = match host.active with
      | none => s.published? f
      | some a => (s.entry? a).bind fun entry =>
          if f.same entry.file then some entry.issues else none := by
  have hactive : Session.published? (s.closed v host e file) f =
      (v.activeChanged host host.active s).published? f :=
    (published?_documentClosed v host file _ f).trans
      (screen_editorClosed (Screen.independent_published f) e _)
  rw [hactive]
  cases ha : host.active with
  | none => rfl
  | some a =>
      rw [published?, screen_activeChanged, ← published?, published?_refocus]
      simp [ha, Path.same]

/-- What is left on the screen of an editor and its document, which are closed. Then the host
answers as `host` does: the status line is that of the active editor, and what is published for the
document is withdrawn unless the active editor shows it too. Without an active editor nothing is
withdrawn. -/
structure Gone (settings : Settings) (host : Host) (e : EditorId) (file : Path) (s s' : Session) :
    Prop where
  markers : ∀ m k, s'.screen.live? m = some k → k.editor ≠ e
  unwatched : host.active = none → s'.screen.statusLine = none
  statusLine : ∀ a, host.active = some a → a ≠ e ∧
    s'.screen.statusLine = statusLine? settings (s.cursorIssues host a)
  kept : host.active = none → s'.published? file = s.published? file
  withdrawn : ∀ a, host.active = some a →
    (∀ entry, s.entry? a = some entry → file.same entry.file = false) → s'.published? file = none
  shared : ∀ a entry, host.active = some a → s.entry? a = some entry →
    file.same entry.file = true → s'.published? file = some entry.issues

theorem gone_closed {names : Nat → MarkerId} (hs : v.extensions.supports file = true)
    (ha : host.active ≠ some e) (hshown : Shown names (s.closed v host e file)) :
    Gone v.settings host e file s (s.closed v host e file) where
  markers _ _ hk := hshown.not_live (markersOf?_of_none (entry?_closed v host e file s)) hk
  unwatched hnone := by
    rw [statusLine_closed hs, hnone]
    rfl
  statusLine a hactive := by
    refine ⟨fun hae => ha (hae ▸ hactive), ?_⟩
    rw [statusLine_closed hs, hactive]
    rfl
  kept hnone := by rw [published?_closed, hnone]
  withdrawn a hactive hentry := by
    rw [published?_closed, hactive]
    cases he : s.entry? a with
    | none => simp [he]
    | some entry => simp [he, hentry entry he]
  shared a entry hactive hentry hsame := by
    rw [published?_closed, hactive]
    simp [hentry, hsame]

/-! ## What was on its way -/

theorem queue_of_ended {generation : Generation}
    (hr : s.queue.filterMap Event.run? = [(e, generation)]) (hl : s.queue.length = 1) :
    ∃ result, s.queue = [.runDone e generation result] := by
  obtain ⟨event, hq⟩ := List.length_eq_one_iff.mp hl
  rw [hq] at hr
  cases event with
  | timerFired => cases hr
  | runDone x _ result =>
      obtain ⟨rfl, rfl⟩ : x = e ∧ _ = generation := by simpa [Event.run?] using hr
      exact ⟨result, hq⟩

/-- Handling the oldest event draws nothing and changes nothing that is remembered. -/
structure IgnoresNext (v : Service) (host : Host) (s : Session) : Prop where
  strokes : (v.handleNext host s).journal.strokes = s.journal.strokes
  entries : ∀ e, Session.entry? (v.handleNext host s) e = s.entry? e

/-- Events that were on their way when an editor was forgotten come to nothing, even if the editor
has come back in the meantime. -/
theorem ignoresNext_of_stemsFrom {c : Scene} (ht : c.session.Timed) (ha : c.session.Accounted)
    (he : c.session.entry? e = none) {moves : List Scene.Move} {event : Event} {rest : List Event}
    (hevent : event.StemsFrom e c.session) (hq : (c.play moves).session.queue = event :: rest)
    (htimers : (c.play moves).session.timersSet.length < 2 ^ 64)
    (hruns : (c.play moves).session.ledger.started.length < 2 ^ 64) (v : Service) (host : Host) :
    (c.play moves).session.IgnoresNext v host := by
  cases event with
  | timerFired x token =>
      obtain ⟨rfl, hset⟩ := hevent
      have hovertaken := (overtaken_kept c.service (fun _ => True) (x, token)).play trivial
        (fun _ => ⟨ht, hset, by simp [timer?, he]⟩) (fun m _ => m.within_true) (by simp) htimers
      obtain ⟨note, -, h⟩ := handleNext_of_timer?_ne v host hq hovertaken.2.2
      exact ⟨by rw [h]; rfl, fun _ => by rw [h]; rfl⟩
  | runDone x generation result =>
      obtain ⟨rfl, hstarted⟩ := hevent
      have habandoned : c.session.Abandoned (x, generation) :=
        ⟨hstarted, fun entry hentry => by simp [he] at hentry⟩
      obtain ⟨reason, h⟩ :=
        handleNext_of_not_awaitsRun v host hq (habandoned.not_awaitsRun_play ha hruns)
      exact ⟨by rw [h]; rfl, fun _ => by rw [h]; rfl⟩

end Session

namespace Scene

open Session

/-- An editor is closed, and with it its document. The service is told of the focus at first, which
another editor may have got. -/
def closing (host : Host) (e : EditorId) (file : Path) : List Move :=
  [.rearrange host, .call (.activeChanged host.active), .call (.editorClosed e),
    .call (.documentClosed file)]

theorem session_closing {c : Scene} (hd : c.isDisposed = false) (host : Host) (e : EditorId)
    (file : Path) :
    (c.play (closing host e file)).session = c.session.closed c.service host e file := by
  simp [closing, perform, hd, Call.run, Session.closed]

/-- Whatever has happened before, an editor that is closed has no marker and no status line any
more. If another editor gets the focus or has it, nothing is published for the document, except by
that editor if it is remembered with the same document. If none has the focus, what was published
for the document stays. No event that was on its way for the editor draws anything later on. -/
theorem closed_editor_gone (v : Service) (names : Nat → MarkerId)
    (hinj : Function.Injective names) (host : Host) (hh : host.marker = names) (moves : List Move)
    (hm : ∀ m ∈ moves, m.Within (·.marker = names))
    (hd : ((opening v host).play moves).isDisposed = false) (host' : Host)
    (hh' : host'.marker = names) (e : EditorId) (ha : host'.active ≠ some e) (file : Path)
    (hs : v.extensions.supports file = true) :
    Gone v.settings host' e file ((opening v host).play moves).session
        ((opening v host).play (moves ++ closing host' e file)).session ∧
      ∀ (later : List Move) (event : Event) (rest : List Event) (now : Host),
        event.StemsFrom e ((opening v host).play (moves ++ closing host' e file)).session →
        ((opening v host).play (moves ++ closing host' e file ++ later)).session.queue =
          event :: rest →
        ((opening v host).play (moves ++ closing host' e file ++ later)).session.timersSet.length <
          2 ^ 64 →
        ((opening v host).play (moves ++ closing host' e file ++ later)
          ).session.ledger.started.length < 2 ^ 64 →
        ((opening v host).play (moves ++ closing host' e file ++ later)).session.IgnoresNext v
          now := by
  have hsession : ((opening v host).play (moves ++ closing host' e file)).session =
      ((opening v host).play moves).session.closed v host' e file := by
    rw [play_append, session_closing hd, service_play]
    rfl
  refine ⟨?_, fun later event rest now hevent hq htimers hruns => ?_⟩
  · have hwithin : ∀ m ∈ moves ++ closing host' e file, m.Within (·.marker = names) := by
      intro m hmem
      rcases List.mem_append.mp hmem with hmem | hmem
      · exact hm m hmem
      · simp only [closing, List.mem_cons, List.not_mem_nil, or_false] at hmem
        rcases hmem with rfl | rfl | rfl | rfl <;> first | exact hh' | trivial
    have hshown : Shown names ((opening v host).play (moves ++ closing host' e file)).session :=
      (shown_kept v hinj).play (c := opening v host) hh
        ⟨owned_initial names, fun e => painted_of_none rfl⟩ hwithin (by simp)
    rw [hsession] at hshown ⊢
    exact gone_closed hs ha hshown
  · rw [play_append _ _ later] at hq htimers hruns ⊢
    refine ignoresNext_of_stemsFrom (timed_play v host _ ?_) (accounted_play v host _ ?_) ?_
      hevent hq htimers hruns v now
    · exact Nat.lt_of_le_of_lt (prefix_timersSet_play _ later).length_le htimers
    · exact Nat.lt_of_le_of_lt (length_started_le _ later) hruns
    · rw [hsession]
      exact entry?_closed v host' e file _

/-- The first of two editors is checked, and again while it is closed and the second gets the focus.
Then nothing is left of it, and when the second check ends nothing is drawn. -/
theorem closed_editor_gone_of_switch :
    let host := Host.sideBySide "let"
    let host' := host.without ⟨0⟩ (some ⟨1⟩)
    let moves : List Move := [.call (.activeChanged (some ⟨0⟩)), .call .activate,
      .finish ⟨1⟩ (.ok [⟨1, 1, "unused", none, 1⟩]), .call .handleNext,
      .call (.textChanged .script), .pass 1000, .ring ⟨2⟩, .call .handleNext]
    let later : List Move := [.finish ⟨3⟩ (.ok [⟨1, 1, "unused", none, 1⟩])]
    let c := opening (.ofSettings .default) host
    let before := (c.play moves).session
    let s := (c.play (moves ++ closing host' ⟨0⟩ .script)).session
    let s' := (c.play (moves ++ closing host' ⟨0⟩ .script ++ later)).session
    before.markersOf? ⟨0⟩ = [⟨0⟩] ∧ (before.published? .script).isSome = true ∧
      Gone .default host' ⟨0⟩ .script before s ∧ s.published? .script = none ∧
      s'.queue.length = 1 ∧ s'.IgnoresNext (.ofSettings .default) host' := by
  intro host host' moves later c before s s'
  have h := closed_editor_gone (.ofSettings .default) MarkerId.mk
    (fun _ _ h => congrArg MarkerId.number h) host rfl moves (by simp [moves, Move.Within])
    (by decide +kernel) host' rfl ⟨0⟩ (by decide) .script (by decide +kernel)
  have hsecond : (before.entry? ⟨1⟩).map Entry.file = some .script2 := by decide +kernel
  obtain ⟨result, hq⟩ : ∃ result, s'.queue = [.runDone ⟨0⟩ ⟨3⟩ result] :=
    queue_of_ended (by decide +kernel) (by decide +kernel)
  refine ⟨by decide +kernel, by decide +kernel, h.1, h.1.withdrawn ⟨1⟩ rfl fun entry he => ?_,
    by rw [hq]; rfl, ?_⟩
  · rw [he] at hsecond
    rw [Option.some.inj hsecond]
    decide
  · exact h.2 later (.runDone ⟨0⟩ ⟨3⟩ result) [] host' ⟨rfl, by decide +kernel⟩ hq
      (by decide +kernel) (by decide +kernel)

/-- An editor that is closed can leave published issues behind, although no other editor shows its
document and the service was told of everything: its own issues, if the focus is lost to none, and
those of an editor that has the focus and showed the document in former times. -/
theorem published_of_closed :
    let v := Service.ofSettings .default
    let host := Host.script "let"
    let checked : List Move := [.call (.activeChanged (some ⟨0⟩)), .call .activate,
      .finish ⟨1⟩ (.ok [⟨1, 1, "unused", none, 1⟩]), .call .handleNext]
    let lost := checked ++ closing (host.without ⟨0⟩ none) ⟨0⟩ .script
    let renamed : Host := { Host.split "let" with
      file? := fun e => if e = ⟨0⟩ then some .script2 else if e = ⟨1⟩ then some .script else none }
    let passed := checked ++
      .rearrange renamed :: closing (renamed.without ⟨1⟩ (some ⟨0⟩)) ⟨1⟩ .script
    (Followed (fun _ => True) host lost ∧ v.Meets host ⟨0⟩ .script ∧
        (∀ e, e ≠ ⟨0⟩ → host.file? e ≠ some .script) ∧
        ¬ ((opening v host).play lost).session.published? .script = none) ∧
      Followed (fun _ => True) host passed ∧ v.Meets renamed ⟨1⟩ .script ∧
        (∀ e, e ≠ ⟨1⟩ → renamed.file? e ≠ some .script) ∧
        ¬ ((opening v host).play passed).session.published? .script = none := by
  intro v host checked lost renamed passed
  have hfirst : ∀ {host' moves}, Followed (fun _ => True) host' moves →
      Followed (fun _ => True) host' (checked ++ moves) := fun h =>
    .move (by simp) <| .move (by simp) <| .move (by simp) <| .move (by simp) h
  have hclosing : ∀ {host' gone e}, Followed (fun _ => True) host' (closing gone e .script) :=
    .switch trivial <| .move (by simp) <| .move (by simp) .nil
  refine ⟨⟨hfirst hclosing, ⟨rfl, by decide +kernel⟩, fun e he => ?_,
    Option.isSome_iff_ne_none.mp (by decide +kernel)⟩, hfirst (.rearrange trivial rfl hclosing),
    ⟨rfl, by decide +kernel⟩, fun e he => ?_, Option.isSome_iff_ne_none.mp (by decide +kernel)⟩
  · simp [host, Host.script, he]
  · simp only [renamed, if_neg he]
    split <;> decide

end Scene

end Gutter
