import Gutter.Session.Clock
import Mathlib.Data.List.Induction

/-!
# Every course of a session

A session among arbitrary surroundings: between two calls of the service the host may answer
anything else, time may pass by any span, any timer that is due may ring and any run may end, in
any order and with any result. A course is a list of such moves.
-/

namespace Gutter

/-- A session among its surroundings, which is told nothing once it has ended. -/
structure Scene where
  service : Service
  host : Host
  session : Session := .initial
  isDisposed : Bool := false

namespace Scene

/-- One thing that the service is told. To drain the queue is to be told `handleNext` as often as
there are events. -/
inductive Call where
  | activate
  | request (editor : EditorId) (debounce : Bool)
  | render (editor : EditorId)
  | prune
  | textChanged (file : Path)
  | activeChanged (editor : Option EditorId)
  | selectionChanged (editor : EditorId)
  | documentClosed (file : Path)
  | editorClosed (editor : EditorId)
  | handleNext

/-- What the service makes of a call. -/
def Call.run (v : Service) (host : Host) (s : Session) : Call → Session
  | .activate => v.activate host s
  | .request editor debounce => (v.request host editor debounce s).1
  | .render editor => s.render v.settings host editor
  | .prune => (v.prune host s).1
  | .textChanged file => v.textChanged host file s
  | .activeChanged editor => v.activeChanged host editor s
  | .selectionChanged editor => v.selectionChanged host editor s
  | .documentClosed file => v.documentClosed host file s
  | .editorClosed editor => Service.editorClosed editor s
  | .handleNext => v.handleNext host s

/-- One move of a course. -/
inductive Move where
  | rearrange (host : Host)
  | pass (ms : Nat)
  | ring (token : TimerToken)
  | finish (generation : Generation) (result : Except Failure (List Record))
  | call (call : Call)
  | dispose

/-- The scene after one move. -/
def perform (c : Scene) : Move → Scene
  | .rearrange host => { c with host }
  | .pass ms => { c with session := c.session.pass ms }
  | .ring token => { c with session := c.session.ring token }
  | .finish generation result => { c with session := c.session.finish generation result }
  | .call call =>
    if c.isDisposed then c else { c with session := call.run c.service c.host c.session }
  | .dispose =>
    if c.isDisposed then c
    else { c with session := Service.dispose c.session, isDisposed := true }

def play (c : Scene) (moves : List Move) : Scene := moves.foldl perform c

/-- The start, with some host: nothing has happened. -/
def opening (v : Service) (host : Host) : Scene := { service := v, host }

@[simp] theorem play_nil (c : Scene) : c.play [] = c := rfl

@[simp] theorem play_cons (c : Scene) (m : Move) (moves : List Move) :
    c.play (m :: moves) = (c.perform m).play moves := rfl

@[simp] theorem play_append (c : Scene) (before after : List Move) :
    c.play (before ++ after) = (c.play before).play after :=
  List.foldl_append

theorem play_concat (c : Scene) (before : List Move) (m : Move) :
    c.play (before ++ [m]) = (c.play before).perform m :=
  play_append c before [m]

theorem play_append_cons (c : Scene) (before : List Move) (m : Move) (after : List Move) :
    c.play (before ++ m :: after) = (c.play (before ++ [m])).play after := by
  rw [← play_append, List.append_assoc, List.singleton_append]

@[simp] theorem service_perform (c : Scene) (m : Move) : (c.perform m).service = c.service := by
  cases m <;> simp only [perform] <;> split <;> rfl

@[simp] theorem service_play (c : Scene) (moves : List Move) :
    (c.play moves).service = c.service := by
  induction moves generalizing c with
  | nil => rfl
  | cons m moves ih => rw [play_cons, ih, service_perform]

theorem session_perform_call (c : Scene) (call : Call) :
    (c.perform (.call call)).session =
      if c.isDisposed then c.session else call.run c.service c.host c.session := by
  simp only [perform]
  split <;> rfl

theorem host_perform_call (c : Scene) (call : Call) : (c.perform (.call call)).host = c.host := by
  simp only [perform]
  split <;> rfl

theorem host_perform_of_ne {m : Move} (hm : ∀ host, m ≠ .rearrange host) (c : Scene) :
    (c.perform m).host = c.host := by
  cases m with
  | rearrange other => exact absurd rfl (hm other)
  | pass | ring | finish => rfl
  | call call => exact host_perform_call c call
  | dispose => simp only [perform]; split <;> rfl

/-- Draining the queue is handling its events one by one. -/
theorem play_replicate_handleNext {c : Scene} (h : c.isDisposed = false) :
    c.play (List.replicate c.session.queue.length (.call .handleNext)) =
      { c with session := (c.service.drain c.host c.session).1 } := by
  suffices hs : ∀ (events : List Event) (s : Session),
      ({ c with session := s } : Scene).play
          (List.replicate events.length (.call .handleNext)) =
        { c with session := events.foldl (fun s _ => c.service.handleNext c.host s) s } from
    hs c.session.queue c.session
  intro events
  induction events with
  | nil => intro s; rfl
  | cons event events ih =>
      intro s
      rw [List.length_cons, List.replicate_succ, play_cons, List.foldl_cons, ← ih]
      simp [perform, h, Call.run]

/-! ## The host along a course -/

def Move.Within (H : Host → Prop) : Move → Prop
  | .rearrange host => H host
  | _ => True

theorem Move.within_true (m : Move) : m.Within fun _ => True := by
  cases m <;> trivial

theorem host_perform {H : Host → Prop} {c : Scene} (h : H c.host) {m : Move} (hm : m.Within H) :
    H (c.perform m).host := by
  cases m with
  | rearrange host => exact hm
  | pass | ring | finish => exact h
  | call | dispose => simp only [perform]; split <;> exact h

/-! ## Forgetting an editor -/

/-- Some move of a course forgets an editor. -/
def Forgets (c : Scene) (e : EditorId) (moves : List Move) : Prop :=
  ∃ before m after, moves = before ++ m :: after ∧
    (c.play before).session.knows e = true ∧ ((c.play before).perform m).session.knows e = false

theorem not_forgets_nil (c : Scene) (e : EditorId) : ¬ c.Forgets e [] := by
  rintro ⟨before, m, after, h, -⟩
  simp at h

theorem forgets_cons {c : Scene} {e : EditorId} {m : Move} {moves : List Move} :
    c.Forgets e (m :: moves) ↔
      (c.session.knows e = true ∧ (c.perform m).session.knows e = false) ∨
        (c.perform m).Forgets e moves := by
  constructor
  · rintro ⟨before, x, after, h, hk, hn⟩
    cases before with
    | nil =>
        obtain ⟨rfl, rfl⟩ := List.cons.inj h
        exact .inl ⟨hk, hn⟩
    | cons y before =>
        obtain ⟨rfl, rfl⟩ := List.cons.inj h
        exact .inr ⟨before, x, after, rfl, hk, hn⟩
  · rintro (⟨hk, hn⟩ | ⟨before, x, after, rfl, hk, hn⟩)
    · exact ⟨[], m, moves, rfl, hk, hn⟩
    · exact ⟨m :: before, x, after, rfl, hk, hn⟩

instance decidableForgets (e : EditorId) :
    (moves : List Move) → (c : Scene) → Decidable (c.Forgets e moves)
  | [], c => .isFalse (not_forgets_nil c e)
  | m :: moves, c =>
    have := decidableForgets e moves (c.perform m)
    decidable_of_iff _ forgets_cons.symm

/-- What is not forgotten stays remembered. -/
theorem knows_of_not_forgets {c : Scene} {e : EditorId} {moves : List Move}
    (h : ¬ c.Forgets e moves) (hk : c.session.knows e = true) {before : List Move}
    (hb : before <+: moves) : (c.play before).session.knows e = true := by
  induction before using List.reverseRecOn with
  | nil => exact hk
  | append_singleton before m ih =>
      obtain ⟨after, rfl⟩ := hb
      rw [play_append]
      by_contra hne
      exact h ⟨before, m, after, by simp, ih ⟨m :: after, by simp⟩, by simpa using hne⟩

end Scene

/-! ## One document -/

/-- The file `a.js`, a script by the default settings. -/
def Path.script : Path := ⟨[0x61, 0x2E, 0x6A, 0x73]⟩

/-- A host that shows a script, in one editor, which has the focus. -/
def Host.script (text : String) : Host where
  visible := [⟨0⟩]
  active := some ⟨0⟩
  file? := fun e => if e = ⟨0⟩ then some .script else none
  text? := fun e => if e = ⟨0⟩ then some text else none
  cursor? := fun e => if e = ⟨0⟩ then some 0 else none
  marker := MarkerId.mk

/-- A host that shows a script in two editors, of which the first has the focus. -/
def Host.split (text : String) : Host where
  visible := [⟨0⟩, ⟨1⟩]
  active := some ⟨0⟩
  file? := fun e => if e = ⟨0⟩ ∨ e = ⟨1⟩ then some .script else none
  text? := fun e => if e = ⟨0⟩ ∨ e = ⟨1⟩ then some text else none
  cursor? := fun e => if e = ⟨0⟩ ∨ e = ⟨1⟩ then some 0 else none
  marker := MarkerId.mk

/-- The file `b.js`, another script. -/
def Path.script2 : Path := ⟨[0x62, 0x2E, 0x6A, 0x73]⟩

/-- A host that shows two scripts, each in its own editor, of which the first has the focus. -/
def Host.sideBySide (text : String) : Host where
  visible := [⟨0⟩, ⟨1⟩]
  active := some ⟨0⟩
  file? := fun e => if e = ⟨0⟩ then some .script else if e = ⟨1⟩ then some .script2 else none
  text? := fun e => if e = ⟨0⟩ ∨ e = ⟨1⟩ then some text else none
  cursor? := fun e => if e = ⟨0⟩ ∨ e = ⟨1⟩ then some 0 else none
  marker := MarkerId.mk

end Gutter
