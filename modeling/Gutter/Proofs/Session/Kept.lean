import Gutter.Proofs.Session.Deed
import Gutter.Proofs.Session.Scene

/-!
# What every course keeps

A property that the elementary steps keep holds along every course. Some editors may be singled out
that are not forgotten in the meantime.
-/

namespace Gutter

/-- What the service does on its own and with events keeps a property, as long as the answers of the
host stay within bounds. -/
structure KeptByEvents (v : Service) (H : Host → Prop) (P : Session → Prop) : Prop where
  deed : ∀ {host s s'}, H host → Deed v host s s' → P s → P s'
  ignore : ∀ {s e token rest}, s.queue = .timerFired e token :: rest →
    (∀ entry, s.entry? e = some entry → entry.timer ≠ some token) → P s → P s.pop
  takeTimer : ∀ {s e token rest entry}, s.queue = .timerFired e token :: rest →
    s.entry? e = some entry → entry.timer = some token → P s → P (s.pop.takeTimer e token)
  disregard : ∀ {s e generation result rest} (reason),
    s.queue = .runDone e generation result :: rest → ¬ s.AwaitsRun e generation → P s →
      P (s.pop.disregard reason)
  abandon : ∀ {s e generation failure rest},
    s.queue = .runDone e generation (.error failure) :: rest → s.AwaitsRun e generation → P s →
      P (s.pop.abandon e failure)
  store : ∀ {host s e generation records rest}, H host →
    s.queue = .runDone e generation (.ok records) :: rest → s.AwaitsRun e generation → P s →
      P ((s.pop.store e generation (.ofRecords records v.settings.severityLevel)).render
        v.settings host e)

/-- What the service does on its own keeps a property, as long as the answers of the host stay
within bounds and none of some editors is forgotten. -/
structure KeptByDeeds (v : Service) (H : Host → Prop) (lasting : List EditorId)
    (P : Session → Prop) : Prop where
  deed : ∀ {host s s'}, H host → Deed v host s s' → P s → P s'
  close : ∀ {s keep}, (∀ e ∈ lasting, keep e = true) → P s → P (s.close keep)

/-- Whatever happens keeps a property. -/
structure Kept (v : Service) (H : Host → Prop) (lasting : List EditorId) (P : Session → Prop) :
    Prop extends KeptByDeeds v H lasting P where
  refocus : ∀ {host s} (e), H host → P s → P (s.refocus v.settings host e)
  blank : ∀ {s}, P s → P (s.draw [.clearStatus, .withdrawAll])
  handleNext : ∀ {host}, H host → ∀ {s}, P s → P (v.handleNext host s)
  pass : ∀ {s} (ms), P s → P (s.pass ms)
  ring : ∀ {s} (token), P s → P (s.ring token)
  finish : ∀ {s} (generation result), P s → P (s.finish generation result)

variable {v : Service} {H : Host → Prop} {lasting : List EditorId} {P : Session → Prop}

theorem chain_of_deed {host : Host} (hdeed : ∀ {s s'}, Deed v host s s' → P s → P s')
    {s s' : Session} (h : Chain v host s s') (hs : P s) : P s' := by
  induction h with
  | refl => exact hs
  | tail _ hd ih => exact hdeed hd ih

theorem KeptByEvents.handleNext (k : KeptByEvents v H P) {host : Host} (hh : H host) {s : Session}
    (hs : P s) : P (v.handleNext host s) := by
  have h := Service.handled v host s
  generalize v.handleNext host s = s' at h ⊢
  cases h with
  | idle => exact hs
  | orphaned hq he => exact k.deed hh (.note rfl) (k.ignore hq (by simp [he]) hs)
  | superseded hq he ht => exact k.deed hh (.note rfl) (k.ignore hq (by simpa [he] using ht) hs)
  | unseen hq he ht => exact k.takeTimer hq he ht hs
  | heard hq he ht =>
      exact chain_of_deed (k.deed hh) (Service.request_chain v host _ _ _)
        (k.takeTimer hq he ht hs)
  | evicted hq he => exact k.disregard _ hq (by simp [Session.AwaitsRun, he]) hs
  | stale hq he hg => exact k.disregard _ hq (by simpa [Session.AwaitsRun, he] using hg) hs
  | failed hq he hr hg => exact k.abandon hq ⟨_, he, hr, hg⟩ hs
  | stored hq he hr hg => exact k.store hh hq ⟨_, he, hr, hg⟩ hs
  | trailed hq he hr hg =>
      exact chain_of_deed (k.deed hh) (Service.request_chain v host _ _ _)
        (k.deed hh (.note rfl) (k.store hh hq ⟨_, he, hr, hg⟩ hs))

def Scene.Call.spares (host : Host) : Scene.Call → EditorId → Bool
  | .prune | .documentClosed _ => fun e => e ∈ host.visible
  | .editorClosed e => fun x => x ≠ e
  | _ => fun _ => true

/-- A call keeps the property if forgetting editors does, and following the focus. -/
theorem KeptByEvents.call (k : KeptByEvents v H P) {host : Host} (hh : H host) {s : Session}
    (hs : P s) {call : Scene.Call} (hclose : P (s.close (call.spares host)))
    (hfocus : ∀ e, call = .activeChanged (some e) → P (s.refocus v.settings host e)) :
    P (call.run v host s) := by
  have hprune (hclose : P (s.close fun e => e ∈ host.visible)) : P (v.prune host s).1 := by
    unfold Service.prune Session.prune
    split
    · exact k.deed hh (.note rfl) (k.deed hh (.tally _) hclose)
    · exact hs
  have hchain {s s'} (h : Chain v host s s') (hs : P s) : P s' := chain_of_deed (k.deed hh) h hs
  cases call with
  | activate => exact hchain (Service.activate_chain v host s) hs
  | request e debounce => exact hchain (Service.request_chain v host e debounce s) hs
  | render e => exact k.deed hh (.render e) hs
  | textChanged file => exact hchain (Service.textChanged_chain v host file s) hs
  | activeChanged editor =>
      cases editor with
      | none => exact hs
      | some e => exact hchain (Service.activeChanged_chain v host e s) (hfocus e rfl)
  | selectionChanged e => exact hchain (Service.selectionChanged_chain v host e s) hs
  | handleNext => exact k.handleNext hh hs
  | prune => exact hprune hclose
  | documentClosed file =>
      simp only [Scene.Call.run, Service.documentClosed]
      split
      · exact hs
      · split
        · next ha => exact k.deed hh (.clearStatus ha) (hprune hclose)
        · exact hprune hclose
  | editorClosed e =>
      simp only [Scene.Call.run, Service.editorClosed]
      split
      · exact hs
      · exact k.deed hh (.note rfl) hclose

namespace KeptByDeeds

theorem chain (k : KeptByDeeds v H lasting P) {host : Host} (hh : H host) {s s' : Session}
    (h : Chain v host s s') (hs : P s) : P s' :=
  chain_of_deed (k.deed hh) h hs

/-- A call keeps the property, or it does no more than forget some editors. -/
theorem call_or_closes (k : KeptByDeeds v H lasting P) {host : Host} (hh : H host) {s : Session}
    (hs : P s) (hnext : P (v.handleNext host s)) {call : Scene.Call}
    (hfocus : ∀ e, call = .activeChanged (some e) → P (s.refocus v.settings host e)) :
    P (call.run v host s) ∨ ∃ keep, Chain v host (s.close keep) (call.run v host s) ∧
      (s.close keep).Alike (call.run v host s) := by
  cases call with
  | activate => exact .inl (k.chain hh (Service.activate_chain v host s) hs)
  | request e debounce => exact .inl (k.chain hh (Service.request_chain v host e debounce s) hs)
  | render e => exact .inl (k.deed hh (.render e) hs)
  | textChanged file => exact .inl (k.chain hh (Service.textChanged_chain v host file s) hs)
  | activeChanged editor =>
      cases editor with
      | none => exact .inl hs
      | some e =>
          exact .inl (k.chain hh (Service.activeChanged_chain v host e s) (hfocus e rfl))
  | selectionChanged e => exact .inl (k.chain hh (Service.selectionChanged_chain v host e s) hs)
  | handleNext => exact .inl hnext
  | prune => exact (Service.prune_closesThen v host s).imp_left (k.chain hh · hs)
  | documentClosed file =>
      exact (Service.documentClosed_closesThen v host file s).imp_left (k.chain hh · hs)
  | editorClosed e =>
      exact (Service.editorClosed_closesThen v host e s).imp_left (k.chain hh · hs)

/-- A call that leaves the editors in question remembered keeps the property. -/
theorem call (k : KeptByDeeds v H lasting P) {host : Host} (hh : H host) {s : Session} (hs : P s)
    (hnext : P (v.handleNext host s)) {call : Scene.Call}
    (hfocus : ∀ e, call = .activeChanged (some e) → P (s.refocus v.settings host e))
    (hl : ∀ e ∈ lasting, (call.run v host s).knows e = true) :
    P (call.run v host s) := by
  rcases k.call_or_closes hh hs hnext hfocus with h | ⟨keep, h, ha⟩
  · exact h
  · refine k.chain hh h (k.close (fun e he => ?_) hs)
    exact (Session.knows_close_iff.mp (ha.knows e ▸ hl e he)).1

theorem dispose (k : KeptByDeeds v H lasting P) {host : Host} (hh : H host) {s : Session}
    (hs : P s) (hblank : ∀ {s}, P s → P (s.draw [.clearStatus, .withdrawAll]))
    (hl : ∀ e ∈ lasting, (Service.dispose s).knows e = true) :
    P (Service.dispose s) := by
  refine k.deed hh (.note rfl) (hblank (k.close (fun e he => ?_) hs))
  obtain ⟨entry, hk⟩ := Session.knows_iff.mp (hl e he)
  simp [Service.dispose] at hk

end KeptByDeeds

namespace Kept

/-- One move keeps the property. -/
theorem perform {c : Scene} (k : Kept c.service H lasting P) (hh : H c.host) (hs : P c.session)
    {m : Scene.Move} (hl : ∀ e ∈ lasting, (c.perform m).session.knows e = true) :
    P (c.perform m).session := by
  cases m with
  | rearrange host => exact hs
  | pass ms => exact k.pass ms hs
  | ring token => exact k.ring token hs
  | finish generation result => exact k.finish generation result hs
  | call call =>
      simp only [Scene.perform] at hl ⊢
      split
      · exact hs
      · next hd =>
        exact k.call hh hs (k.handleNext hh hs) (fun e _ => k.refocus e hh hs)
          (by simpa [hd] using hl)
  | dispose =>
      simp only [Scene.perform] at hl ⊢
      split
      · exact hs
      · next hd => exact k.dispose hh hs k.blank (by simpa [hd] using hl)

/-- One move keeps the property, or it does no more than forget some editors. -/
theorem perform_or_closes {c : Scene} (k : Kept c.service H lasting P) (hh : H c.host)
    (hs : P c.session) (m : Scene.Move) :
    P (c.perform m).session ∨ ∃ keep, (c.session.close keep).Alike (c.perform m).session := by
  cases m with
  | rearrange host => exact .inl hs
  | pass ms => exact .inl (k.pass ms hs)
  | ring token => exact .inl (k.ring token hs)
  | finish generation result => exact .inl (k.finish generation result hs)
  | call call =>
      simp only [Scene.perform]
      split
      · exact .inl hs
      · refine (k.call_or_closes hh hs (k.handleNext hh hs)
          fun e _ => k.refocus e hh hs).imp_right ?_
        rintro ⟨keep, _, ha⟩
        exact ⟨keep, ha⟩
  | dispose =>
      simp only [Scene.perform]
      split
      · exact .inl hs
      · exact .inr ⟨_, (Session.alike_draw _ _).trans (Session.alike_note rfl _)⟩

/-- A course keeps the property. -/
theorem play {c : Scene} (k : Kept c.service H lasting P) (hh : H c.host) (hs : P c.session)
    {moves : List Scene.Move} (hm : ∀ m ∈ moves, m.Within H)
    (hl : ∀ e ∈ lasting, ∀ before, before <+: moves → (c.play before).session.knows e = true) :
    P (c.play moves).session := by
  induction moves generalizing c with
  | nil => exact hs
  | cons m moves ih =>
      have hfirst : ∀ e ∈ lasting, (c.perform m).session.knows e = true :=
        fun e he => hl e he [m] (by simp)
      refine ih ?_ (Scene.host_perform hh (hm m (by simp))) (k.perform hh hs hfirst) ?_ ?_
      · rwa [Scene.service_perform]
      · exact fun m' h => hm m' (by simp [h])
      · exact fun e he before h => hl e he (m :: before) (by simpa using h)

end Kept

/-- Once the service has ended, nothing is remembered. -/
theorem Scene.entry?_of_isDisposed {v : Service} {host : Host} {moves : List Move}
    (h : ((opening v host).play moves).isDisposed = true) (e : EditorId) :
    ((opening v host).play moves).session.entry? e = none := by
  induction moves using List.reverseRecOn with
  | nil => rfl
  | append_singleton moves m ih =>
      rw [play_append] at h ⊢
      generalize (opening v host).play moves = c at h ih ⊢
      change (c.perform m).isDisposed = true at h
      change (c.perform m).session.entry? e = none
      cases m with
      | rearrange host => exact ih h
      | pass ms => exact ih h
      | ring token => exact (Session.entry?_ring token _ e).trans (ih h)
      | finish generation result => exact (Session.entry?_finish generation result _ e).trans (ih h)
      | call call =>
          simp only [perform] at h ⊢
          split at h
          · next hd => simpa only [hd, ite_true] using ih hd
          · next hd => exact absurd h hd
      | dispose =>
          simp only [perform]
          split
          · next hd => exact ih hd
          · simp [Service.dispose]

end Gutter
