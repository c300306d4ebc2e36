import Gutter.Proofs.Session.PutOff

/-!
# Bursts of edits

While a document is being edited its check is put off again and again. It starts when the quiet
period after the last edit is over, once, and on the text that the document has by then.
-/

namespace Gutter

/-! ## Moves that leave an editor alone -/

open Session

instance (host : Host) (e : EditorId) (file : Path) : Decidable (host.Displays e file) :=
  inferInstanceAs (Decidable (_ ∧ _))

namespace Scene

/-- A move asks for a check of an editor, or it tells of an edit of the document that the editor
shows. To handle an event is not meant. -/
def Move.Asks (v : Service) (host : Host) (e : EditorId) : Move → Prop
  | .call .activate => e ∈ host.visible
  | .call (.request x _) => x = e
  | .call (.textChanged file) => v.extensions.supports file = true ∧ host.Displays e file
  | .call (.activeChanged (some _)) => e ∈ host.visible
  | _ => False

instance (v : Service) (host : Host) (e : EditorId) : (m : Move) → Decidable (m.Asks v host e)
  | .call .activate | .call (.activeChanged (some _)) =>
    inferInstanceAs (Decidable (e ∈ host.visible))
  | .call (.request x _) => inferInstanceAs (Decidable (x = e))
  | .call (.textChanged _) => inferInstanceAs (Decidable (_ ∧ _))
  | .call (.activeChanged none) | .call (.render _) | .call .prune | .call (.selectionChanged _)
  | .call (.documentClosed _) | .call (.editorClosed _) | .call .handleNext
  | .rearrange _ | .pass _ | .ring _ | .finish _ _ | .dispose => .isFalse id

/-- A move neither asks for a check of an editor nor forgets the editor. It may be the handling of
any event. -/
def LeavesAlone (c : Scene) (e : EditorId) (m : Move) : Prop :=
  ¬ m.Asks c.service c.host e ∧ (c.perform m).session.knows e = true

instance (c : Scene) (e : EditorId) (m : Move) : Decidable (c.LeavesAlone e m) :=
  inferInstanceAs (Decidable (_ ∧ _))

end Scene

namespace Session

variable {s s' : Session} {e : EditorId} {keep : EditorId → Bool}

theorem unnoticed_of_alike_close (ha : (s.close keep).Alike s') (hk : s'.knows e = true) :
    Unnoticed e s s' := by
  have hkeep := (knows_close_iff.mp (ha.knows e ▸ hk)).1
  exact ((apart_close hkeep s).trans ha.apart).unnoticed

theorem unnoticed_prune (v : Service) (host : Host)
    (hk : (v.prune host s).1.knows e = true) : Unnoticed e s (v.prune host s).1 := by
  unfold Service.prune Session.prune at hk ⊢
  split at hk
  · next h =>
    rw [if_pos h]
    exact unnoticed_of_alike_close ((alike_countEvicted _ _).trans (alike_note rfl _)) hk
  · next h =>
    rw [if_neg h]
    exact unnoticed_of_entry rfl rfl

/-- An editor takes no notice of a call that does not ask for a check of it and does not forget it,
events apart. -/
theorem unnoticed_run {v : Service} {host : Host} {call : Scene.Call}
    (ha : ¬ Scene.Move.Asks v host e (.call call)) (hk : (call.run v host s).knows e = true)
    (hcall : call ≠ .handleNext) : Unnoticed e s (call.run v host s) := by
  have hall (debounce : Bool) (h : e ∉ host.visible) (s : Session) :
      Apart e s (v.requestAll host host.visible debounce s) :=
    apart_foldl (fun s x hx => apart_request hx v host debounce s) h s
  cases call with
  | activate => exact ((alike_note rfl s).apart.trans (hall false ha _)).unnoticed
  | request x debounce => exact (apart_request (Ne.symm ha) v host debounce s).unnoticed
  | render x => exact (alike_render v.settings host x s).apart.unnoticed
  | prune => exact unnoticed_prune v host hk
  | textChanged file =>
      by_cases hx : v.extensions.supports file = true
      · have hnot : e ∉ host.visible.filter (Service.shows host file) := fun hmem =>
          ha ⟨hx, List.mem_filter.mp hmem⟩
        have hfold := apart_foldl (fun s x hx => apart_touch hx v host s) hnot s
        exact (hfold.trans (alike_textChanged hx host s).apart).unnoticed
      · have hsame : v.textChanged host file s = s := by simp [Service.textChanged, hx]
        change Unnoticed e s (v.textChanged host file s)
        rw [hsame]
        exact unnoticed_of_entry rfl rfl
  | activeChanged editor =>
      cases editor with
      | none => exact unnoticed_of_entry rfl rfl
      | some x =>
          exact ((alike_refocus v.settings host x s).apart.trans (hall true ha _)).unnoticed
  | selectionChanged x =>
      change Unnoticed e s (v.selectionChanged host x s)
      unfold Service.selectionChanged
      split
      · exact (alike_showStatus v.settings host x s).apart.unnoticed
      · exact unnoticed_of_entry rfl rfl
  | documentClosed file =>
      simp only [Scene.Call.run, Service.documentClosed] at hk ⊢
      split at hk
      · next hx =>
        rw [if_pos hx]
        exact unnoticed_of_entry rfl rfl
      · next hx =>
        rw [if_neg hx]
        split at hk
        · next hactive =>
          rw [if_pos hactive]
          exact (unnoticed_prune v host hk).trans (alike_draw _ _).apart.unnoticed
        · next hactive =>
          rw [if_neg hactive]
          exact unnoticed_prune v host hk
  | editorClosed x =>
      simp only [Scene.Call.run, Service.editorClosed] at hk ⊢
      split at hk
      · exact unnoticed_of_entry rfl rfl
      · exact unnoticed_of_alike_close (alike_note rfl _) hk
  | handleNext => exact absurd rfl hcall

end Session

namespace Scene

variable {c : Scene} {e : EditorId} {m : Move}

theorem LeavesAlone.isDisposed (h : c.LeavesAlone e m) (hd : c.isDisposed = false) :
    (c.perform m).isDisposed = false := by
  cases m with
  | rearrange | pass | ring | finish => exact hd
  | call call => simp [perform, hd]
  | dispose =>
      obtain ⟨entry, he⟩ := knows_iff.mp h.2
      simp [perform, hd, Service.dispose] at he

/-- An editor takes no notice of what leaves it alone, the handling of events apart. -/
theorem LeavesAlone.unnoticed (h : c.LeavesAlone e m) (hd : c.isDisposed = false)
    (hm : m ≠ .call .handleNext) : Unnoticed e c.session (c.perform m).session := by
  obtain ⟨hasks, hk⟩ := h
  cases m with
  | rearrange | pass => exact unnoticed_of_entry rfl rfl
  | ring token => exact (apart_ring token c.session).unnoticed
  | finish generation result => exact unnoticed_finish generation result c.session
  | call call =>
      rw [session_perform_call, hd] at hk ⊢
      exact unnoticed_run hasks hk fun h => hm (congrArg Move.call h)
  | dispose =>
      obtain ⟨entry, he⟩ := knows_iff.mp hk
      simp [perform, hd, Service.dispose] at he

/-! ## Bursts -/

/-- Edits of what an editor shows follow each other within the quiet period; what happens between
them and after the last one leaves the editor alone. The number is the time of the last edit. -/
inductive Burst (e : EditorId) (c : Scene) : List Move → Nat → Prop where
  | first {file} (hx : c.service.extensions.supports file = true)
      (hh : c.host.Displays e file) : Burst e c [.call (.textChanged file)] c.session.now
  | edit {moves last file} (h : Burst e c moves last)
      (hx : c.service.extensions.supports file = true) (hh : (c.play moves).host.Displays e file)
      (hgap : (c.play moves).session.now < last + c.service.settings.debounceMs.toNat) :
      Burst e c (moves ++ [.call (.textChanged file)]) (c.play moves).session.now
  | other {moves last m} (h : Burst e c moves last) (hm : (c.play moves).LeavesAlone e m) :
      Burst e c (moves ++ [m]) last

end Scene

namespace Session

variable {s s' : Session} {e : EditorId} {c : Scene} {old : List Request} {due : Nat}

/-- How an editor stands since the last edit: its check is put off, and the linter was not asked for
it, or the time of the check has come and nothing more is to come. -/
inductive Lull (e : EditorId) (old : List Request) (due : Nat) (s : Session) : Prop where
  | pending (h : s.PutOff e due) (hc : s.callsOf e = old) : Lull e old due s
  | passed (h : s.Spent e) (hnow : due ≤ s.now) : Lull e old due s

theorem Lull.putOff_of_lt (h : s.Lull e old due) (hnow : s.now < due) :
    s.PutOff e due ∧ s.callsOf e = old := by
  cases h with
  | pending h hc => exact ⟨h, hc⟩
  | passed _ hdue => omega

theorem callsOf_perform (ha : c.session.Asked) {m : Scene.Move}
    (hf : (c.perform m).session.ledger.started.filter (·.1 = e) =
      c.session.ledger.started.filter (·.1 = e)) :
    (c.perform m).session.callsOf e = c.session.callsOf e := by
  obtain ⟨ha', hp⟩ := (calls_kept c.service (fun _ => True) c.session.calls).perform trivial
    ⟨ha, List.prefix_refl _⟩ (m := m) (by simp)
  exact callsOf_eq ha ha' hp hf

/-- With an edit the lull begins, whether or not the check was put off before. -/
theorem lull_edit (hd : c.isDisposed = false) (hs : c.session.Timed) (ha : c.session.Asked)
    (h : c.session.Halted e) {file : Path} (hx : c.service.extensions.supports file = true)
    (hh : c.host.Displays e file)
    (hb : (c.perform (.call (.textChanged file))).session.timersSet.length < 2 ^ 64) :
    (c.perform (.call (.textChanged file))).session.Lull e (c.session.callsOf e)
      (c.session.now + c.service.settings.debounceMs.toNat) := by
  have hsession : (c.perform (.call (.textChanged file))).session =
      c.service.textChanged c.host file c.session := by
    rw [Scene.session_perform_call, hd]
    rfl
  have hcalls := callsOf_perform (e := e) ha (m := .call (.textChanged file)) <| by
    rw [hsession, started_textChanged hx]
  rw [hsession] at hb hcalls ⊢
  obtain ⟨f, kind, hf, hk⟩ := hh.exists_kind hx
  have hdraw := alike_textChanged hx c.host c.session
  have hset := hdraw.drops.timersSet
  obtain ⟨k, hw, hr⟩ := putOff_foldl hf hk hs (hset ▸ hb)
    (.inr ⟨List.mem_filter.mpr ⟨hh.1, hh.2⟩, h⟩)
  exact .pending ⟨k, hw.unnoticed hdraw.apart.unnoticed, hr.drops hdraw.drops⟩ hcalls

theorem now_kept (v : Service) (H : Host → Prop) (time : Nat) :
    Kept v H [] fun s => time ≤ s.now :=
  kept_of_timers (fun hd h => Nat.le_trans h hd.now) fun _ h => h

/-- What leaves an editor alone may wake it when the time of the check has come, and not before. -/
theorem Lull.perform (h : c.session.Lull e old due) (hd : c.isDisposed = false)
    (hs : c.session.Timed) (ha : c.session.Asked) {m : Scene.Move} (hm : c.LeavesAlone e m)
    (hb : (c.perform m).session.timersSet.length < 2 ^ 64) :
    (c.perform m).session.Lull e old due := by
  have hnow (hdue : due ≤ c.session.now) : due ≤ (c.perform m).session.now :=
    (now_kept c.service (fun _ => True) due).perform trivial hdue (by simp)
  have hnotice (hu : Unnoticed e c.session (c.perform m).session) :
      (c.perform m).session.Lull e old due := by
    cases h with
    | pending hp hc =>
        obtain ⟨k, hw, hr⟩ := hp
        have hr' := ((ringsAt_kept c.service (fun _ => True) (e, k) due).perform trivial
          (fun _ => ⟨hs, hr⟩) (m := m) (by simp) hb).2
        exact .pending ⟨k, hw.unnoticed hu, hr'⟩ ((callsOf_perform ha hu.started).trans hc)
    | passed hspent hdue => exact .passed (hspent.unnoticed hu) (hnow hdue)
  by_cases hnext : m = .call .handleNext
  · subst hnext
    have hsession : (c.perform (.call .handleNext)).session =
        c.service.handleNext c.host c.session := by
      rw [Scene.session_perform_call, hd]
      rfl
    rw [hsession] at hnow hnotice ⊢
    cases h with
    | pending hp hc =>
        obtain ⟨k, hw, hr⟩ := hp
        by_cases hq : ∃ rest, c.session.queue = .timerFired e k :: rest
        · obtain ⟨rest, hq⟩ := hq
          have hmem : (e, k) ∈ c.session.rung := by
            rw [rung_of_timerFired hq]
            exact List.mem_cons_self
          exact .passed (hw.spent_handleNext hq _ _) (hnow (hr.rung hmem))
        · exact hnotice (hw.unnoticed_handleNext (fun rest hq' => hq ⟨rest, hq'⟩) _ _)
    | passed hspent hdue => exact .passed (hspent.handleNext _ _).1 (hnow hdue)
  · exact hnotice (hm.unnoticed hd hnext)

/-- The lull lasts throughout a burst, with every edit it begins anew. -/
theorem lull_play (hd : c.isDisposed = false) (hs : c.session.Timed) (ha : c.session.Asked)
    (hr : c.session.Halted e) {moves : List Scene.Move} {last : Nat}
    (h : c.Burst e moves last)
    (hb : (c.play moves).session.timersSet.length < 2 ^ 64) :
    (c.play moves).isDisposed = false ∧ (c.play moves).session.Lull e (c.session.callsOf e)
      (last + c.service.settings.debounceMs.toNat) := by
  induction h with
  | @first file hx hh => exact ⟨by simp [Scene.perform, hd], lull_edit hd hs ha hr hx hh hb⟩
  | @edit moves last file h hx hh hgap ih =>
      rw [Scene.play_concat] at hb ⊢
      have hprefix := prefix_timersSet_play (c.play moves) [.call (.textChanged file)]
      have hb' := Nat.lt_of_le_of_lt hprefix.length_le hb
      obtain ⟨hd', hlull⟩ := ih hb'
      obtain ⟨⟨k, hw, -⟩, hc⟩ := hlull.putOff_of_lt hgap
      have hservice : (c.play moves).service = c.service := Scene.service_play _ _
      have hlull' := lull_edit hd' (hs.play moves hb') (ha.play moves) hw.halted
        (hservice.symm ▸ hx) hh hb
      rw [hc, hservice] at hlull'
      exact ⟨by simp [Scene.perform, hd'], hlull'⟩
  | @other moves last m h hm ih =>
      rw [Scene.play_concat] at hb ⊢
      have hprefix := prefix_timersSet_play (c.play moves) [m]
      have hb' := Nat.lt_of_le_of_lt hprefix.length_le hb
      obtain ⟨hd', hlull⟩ := ih hb'
      exact ⟨hm.isDisposed hd', hlull.perform hd' (hs.play moves hb') (ha.play moves) hm hb⟩

/-! ## Along a course -/

/-- Once nothing is to come for an editor, no timer that was set for it before ever wakes it. -/
theorem Spent.ignores_timer (h : c.session.Spent e) (hs : c.session.Timed) {k : TimerToken}
    (hset : (e, k) ∈ c.session.timersSet) {later : List Scene.Move}
    (hb : (c.play later).session.timersSet.length < 2 ^ 64) {rest : List Event}
    (hq : (c.play later).session.queue = .timerFired e k :: rest) (v : Service) (host : Host) :
    ∃ event, event.isAside = true ∧
      v.handleNext host (c.play later).session = (c.play later).session.pop.note event := by
  have hovertaken := (overtaken_kept c.service (fun _ => True) (e, k)).play trivial
    (fun _ => ⟨hs, hset, by simp [h.timer?]⟩) (fun m _ => m.within_true) (by simp) hb
  exact handleNext_of_timer?_ne v host hq hovertaken.2.2

/-- The check of an edited document is pending: the linter was not asked since the first edit, and
the timer that the editor waits for rings at some time, or has rung since then. -/
structure Pends (e : EditorId) (k : TimerToken) (old : List Request) (due : Nat) (s : Session) :
    Prop where
  calls : s.callsOf e = old
  timer : s.timer? e = some k
  source : ⟨k, e, due⟩ ∈ s.alarms ∨ (e, k) ∈ s.rung ∧ due ≤ s.now

theorem RingsAt.pends {k : TimerToken} (h : s.RingsAt (e, k) due) (hs : s.Timed)
    (hw : s.Waits e k) (hc : s.callsOf e = old) : s.Pends e k old due where
  calls := hc
  timer := hw.timer?
  source := by
    refine (List.mem_append.mp (hs.source e k hw.timer?)).imp (fun hmem => ?_)
      fun hmem => ⟨hmem, h.rung hmem⟩
    obtain ⟨⟨token, editor, time⟩, ha, hname⟩ := List.mem_map.mp hmem
    obtain ⟨rfl, rfl⟩ := Prod.mk.inj hname
    obtain rfl : time = due := h.alarms _ ha rfl
    exact ha

/-- A burst of edits that begins while the editor is not running, in any state that a session can
reach. Until the quiet period after the last edit is over, the linter is not asked for the editor.
When the event of the timer is in the queue and the queue is drained, it is asked once, about the
text that the host has for the editor then. No timer that was set for the editor until then ever
starts another check. -/
theorem burst_checked_once (v : Service) (host : Host) (before moves : List Scene.Move)
    (e : EditorId) (last : Nat) {d : Scene} (hc : c = (Scene.opening v host).play before)
    (hd : d = c.play moves) (hlive : c.isDisposed = false)
    (hr : ∀ entry, c.session.entry? e = some entry → entry.isRunning = false)
    (hburst : c.Burst e moves last) (hb : d.session.timersSet.length < 2 ^ 64) :
    (d.session.now < last + v.settings.debounceMs.toNat →
      ∃ k, d.session.Pends e k (c.session.callsOf e) (last + v.settings.debounceMs.toNat)) ∧
    ∀ k, d.session.timer? e = some k →
      d.session.Pends e k (c.session.callsOf e) (last + v.settings.debounceMs.toNat) ∧
      ∀ file kind, (e, k) ∈ d.session.rung → e ∈ d.host.visible → d.host.file? e = some file →
        v.extensions.kindOf? file = some kind →
        (v.drain d.host d.session).1.callsOf e =
          c.session.callsOf e ++ [⟨(d.host.text? e).getD "", kind, v.settings.locale⟩] ∧
        ∀ later k' rest (host' : Host) (f : Scene),
          f = { d with session := (v.drain d.host d.session).1 }.play later →
          (e, k') ∈ (v.drain d.host d.session).1.timersSet →
          f.session.timersSet.length < 2 ^ 64 → f.session.queue = .timerFired e k' :: rest →
          ∃ event, event.isAside = true ∧
            v.handleNext host' f.session = f.session.pop.note event := by
  have hservice : c.service = v := by rw [hc, Scene.service_play]; rfl
  have hservice' : d.service = v := by rw [hd, Scene.service_play, hservice]
  have hasked : c.session.Asked := hc ▸ Asked.play (c := .opening v host) asked_initial before
  have htimed : c.session.Timed := by
    rw [hc]
    refine timed_play v host before (hc ▸ ?_)
    exact Nat.lt_of_le_of_lt (prefix_timersSet_play c moves).length_le (hd ▸ hb)
  obtain ⟨hlive', hlull⟩ := lull_play hlive htimed hasked hr hburst (hd ▸ hb)
  have htimed' : d.session.Timed := hd ▸ htimed.play moves (hd ▸ hb)
  rw [← hd] at hlive' hlull
  rw [hservice] at hlull
  refine ⟨fun hnow => ?_, fun k hk => ?_⟩
  · obtain ⟨⟨k, hw, hrings⟩, hcalls⟩ := hlull.putOff_of_lt hnow
    exact ⟨k, hrings.pends htimed' hw hcalls⟩
  · cases hlull with
    | passed hspent => simp [hspent.timer?] at hk
    | pending hput hcalls =>
        obtain ⟨k', hw, hrings⟩ := hput
        obtain rfl := Option.some.inj (hw.timer?.symm.trans hk)
        refine ⟨hrings.pends htimed' hw hcalls, fun file kind hrung hv hf hkind => ?_⟩
        obtain ⟨hspent, hdrain⟩ :=
          hw.drain (hd ▸ hasked.play moves) hrung hv hf hkind
        refine ⟨hcalls ▸ hdrain, ?_⟩
        rintro later k' rest host' f rfl hset hbound hq
        -- to drain the queue is to make some more moves, so the timers are still in order
        have hplay : d.play (List.replicate d.session.queue.length (.call .handleNext)) =
            { d with session := (v.drain d.host d.session).1 } := by
          rw [← hservice']
          exact Scene.play_replicate_handleNext hlive'
        have hend : (d.play (List.replicate d.session.queue.length (.call .handleNext))).session =
            (v.drain d.host d.session).1 := congrArg Scene.session hplay
        have hbound' := Nat.lt_of_le_of_lt (prefix_timersSet_play _ later).length_le hbound
        rw [← hplay] at hbound hbound' hq ⊢
        rw [← hend] at hspent hset
        exact hspent.ignores_timer (htimed'.play _ hbound') hset hbound hq v host'

/-- A script is edited twice, and another one in between. The timer of the first edit is stopped,
those of the others ring, and the text changes once more before the queue is drained: the script is
checked on that text. -/
theorem burst_checked_once_of_edits :
    let v := Service.ofSettings .default
    let first : List Scene.Move := [.call (.textChanged .script), .pass 600,
      .call (.textChanged .script2)]
    let last : List Scene.Move := [.pass 1000, .ring ⟨1⟩, .rearrange (.sideBySide "let x"),
      .ring ⟨2⟩]
    let c := (Scene.opening v (.sideBySide "let")).play [.call .activate, .finish ⟨1⟩ (.ok []),
      .call .handleNext, .finish ⟨2⟩ (.ok []), .call .handleNext]
    let d := c.play (first ++ .call (.textChanged .script) :: last)
    let before : Request := ⟨"let", .js, v.settings.locale⟩
    d.session.Pends ⟨0⟩ ⟨2⟩ [before] ((c.play first).session.now + v.settings.debounceMs.toNat) ∧
      (v.drain d.host d.session).1.callsOf ⟨0⟩ = [before, ⟨"let x", .js, v.settings.locale⟩] := by
  intro v first last c d before
  have hidle : ∀ entry, c.session.entry? ⟨0⟩ = some entry → entry.isRunning = false := by
    have hall : (c.session.entry? ⟨0⟩).all (!·.isRunning) = true := by decide +kernel
    intro entry he
    simpa [he] using hall
  have hfirst : c.Burst ⟨0⟩ first c.session.now := by
    have hedit : c.Burst ⟨0⟩ [.call (.textChanged .script)] c.session.now :=
      .first (by decide +kernel) (by decide +kernel)
    exact (hedit.other (m := .pass 600) (by decide +kernel)).other
      (m := .call (.textChanged .script2)) (by decide +kernel)
  have hburst : c.Burst ⟨0⟩ (first ++ .call (.textChanged .script) :: last)
      (c.play first).session.now := by
    have hedit : c.Burst ⟨0⟩ (first ++ [.call (.textChanged .script)])
        (c.play first).session.now :=
      hfirst.edit (by decide +kernel) (by decide +kernel) (by decide +kernel)
    exact (((hedit.other (m := .pass 1000) (by decide +kernel)).other (m := .ring ⟨1⟩)
      (by decide +kernel)).other (m := .rearrange (.sideBySide "let x")) (by decide +kernel)).other
      (m := .ring ⟨2⟩) (by decide +kernel)
  obtain ⟨hpends, hdrain⟩ := (burst_checked_once v (.sideBySide "let") _ _ ⟨0⟩ _ rfl rfl
    (by decide +kernel) hidle hburst (by decide +kernel)).2 ⟨2⟩ (by decide +kernel)
  have hcalls : c.session.callsOf ⟨0⟩ = [before] := by decide +kernel
  rw [hcalls] at hpends hdrain
  exact ⟨hpends, (hdrain .script .js (by decide +kernel) (by decide +kernel) (by decide +kernel)
    (by decide +kernel)).1⟩

end Session

end Gutter