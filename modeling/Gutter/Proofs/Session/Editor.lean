import Gutter.Proofs.Session.Kept

/-!
# What concerns one editor

Most of what a session does happens apart from a given editor. What is left are few deeds, and few
outcomes of an event.
-/

namespace Gutter

/-! ## Files with the same name -/

theorem Path.extension?_eq_of_same {p q : Path} (h : p.same q = true) :
    p.extension? = q.extension? := by
  have hc : p.components = q.components := by simpa [same] using h
  simp only [extension?, fileName?, hc]

theorem Extensions.kindOf?_eq_of_same (x : Extensions) {p q : Path} (h : p.same q = true) :
    x.kindOf? p = x.kindOf? q := by
  simp only [kindOf?, Path.extension?_eq_of_same h]

/-- An editor is on screen and shows a document. -/
def Host.Displays (e : EditorId) (file : Path) (host : Host) : Prop :=
  e ∈ host.visible ∧ Service.shows host file e = true

theorem Host.Displays.exists_kind {host : Host} {e : EditorId} {file : Path}
    (h : host.Displays e file) {x : Extensions} (hs : x.supports file = true) :
    ∃ f kind, host.file? e = some f ∧ x.kindOf? f = some kind := by
  obtain ⟨kind, hk⟩ := Option.isSome_iff_exists.mp hs
  have hf := h.2
  unfold Service.shows at hf
  split at hf
  · next f he => exact ⟨f, kind, he, (x.kindOf?_eq_of_same hf).trans hk⟩
  · cases hf

/-! ## Steps apart from an editor -/

def Log.Event.about? : Log.Event → Option EditorId
  | .debounce e .. | .runStart e .. | .runDone e .. => some e
  | .runFailed (.failed e _) => some e
  | _ => none

namespace Session

variable {s s' s'' : Session} {e x : EditorId}

/-- A step of which an editor takes no notice: what is remembered of it stays but for its markers,
and the log tells nothing new of it. The end of one of its runs may be handled with it, as long as
the editor does not wait for that run. -/
structure Unnoticed (e : EditorId) (s s' : Session) : Prop where
  bare : s'.bare? e = s.bare? e
  record : ∃ news, s'.record = s.record ++ news ∧ ∀ event ∈ news, event.about? ≠ some e

theorem Unnoticed.trans (h : Unnoticed e s s') (h' : Unnoticed e s' s'') : Unnoticed e s s'' where
  bare := h'.bare.trans h.bare
  record := by
    obtain ⟨news, hr, hn⟩ := h.record
    obtain ⟨news', hr', hn'⟩ := h'.record
    refine ⟨news ++ news', by rw [hr', hr, List.append_assoc], fun event hm => ?_⟩
    rcases List.mem_append.mp hm with hm | hm
    · exact hn event hm
    · exact hn' event hm

theorem Unnoticed.forall_entry (h : Unnoticed e s s') {P : Entry → Prop}
    (hmarkers : ∀ entry markers, P { entry with markers } → P entry)
    (hp : ∀ entry, s.entry? e = some entry → P entry) :
    ∀ entry, s'.entry? e = some entry → P entry := by
  intro entry he
  obtain ⟨markers, he'⟩ := exists_entry_of_bare h.bare.symm he
  exact hmarkers entry markers (hp _ he')

theorem unnoticed_of_entry (he : s'.entry? e = s.entry? e) (hr : s'.record = s.record) :
    Unnoticed e s s' :=
  ⟨congrArg (Option.map Entry.takeMarkers) he, [], by simpa using hr, by simp⟩

/-- A step that does not concern an editor: what is remembered of it stays but for its markers, and
so does everything that is under way for it. -/
structure Apart (e : EditorId) (s s' : Session) : Prop where
  bare : s'.bare? e = s.bare? e
  record : ∃ news, s'.record = s.record ++ news ∧ ∀ event ∈ news, event.about? ≠ some e
  runs : ∀ run ∈ s.runs, run.editor = e → run ∈ s'.runs
  queue : ∀ generation result, .runDone e generation result ∈ s.queue →
    .runDone e generation result ∈ s'.queue

theorem Apart.unnoticed (h : Apart e s s') : Unnoticed e s s' := ⟨h.bare, h.record⟩

theorem Apart.exists_entry (h : Apart e s s') {entry : Entry} (he : s.entry? e = some entry) :
    ∃ markers, s'.entry? e = some { entry with markers } :=
  exists_entry_of_bare h.bare he

theorem Apart.trans (h : Apart e s s') (h' : Apart e s' s'') : Apart e s s'' where
  bare := h'.bare.trans h.bare
  record := (h.unnoticed.trans h'.unnoticed).record
  runs run hr he := h'.runs run (h.runs run hr he) he
  queue generation result hm := h'.queue generation result (h.queue generation result hm)

theorem Alike.apart (h : s.Alike s') : Apart e s s' := by
  have hrecord : s'.record = s.record := congrArg Work.record h.work
  have hruns : s'.runs = s.runs := congrArg Work.runs h.work
  have hqueue : s'.queue = s.queue := congrArg Work.queue h.work
  exact ⟨h.bare e, ⟨[], by simpa using hrecord, by simp⟩, fun _ hr _ => hruns ▸ hr,
    fun _ _ hm => hqueue ▸ hm⟩

theorem apart_of_entry (he : s'.entry? e = s.entry? e) (hr : s'.record = s.record)
    (hruns : s'.runs = s.runs) (hq : s'.queue = s.queue) : Apart e s s' where
  bare := (unnoticed_of_entry he hr).bare
  record := (unnoticed_of_entry he hr).record
  runs _ h _ := hruns ▸ h
  queue _ _ h := hq ▸ h

theorem apart_note {event : Log.Event} (h : event.about? ≠ some e) (s : Session) :
    Apart e s (s.note event) where
  bare := rfl
  record := ⟨[event].filter (!·.isAside), List.filter_append .., by
    intro x hx
    rwa [List.mem_singleton.mp (List.mem_filter.mp hx).1]⟩
  runs _ h _ := h
  queue _ _ h := h

theorem apart_edit (h : e ≠ x) (f : Entry → Entry) (s : Session) : Apart e s (s.edit x f) :=
  apart_of_entry (entry?_edit_of_ne h f s) rfl rfl rfl

theorem apart_ensure (h : e ≠ x ∨ s.knows e = true) (file : Path) :
    Apart e s (s.ensure x file) := by
  refine apart_of_entry ?_ rfl rfl rfl
  rw [entry?_ensure]
  split
  · next hx =>
    obtain ⟨entry, he⟩ := knows_iff.mp (h.resolve_left (fun hne => hne hx))
    subst hx
    rw [he]
    rfl
  · rfl

/-! ## Timers and runs -/

theorem record_note {event : Log.Event} (h : event.isAside = false) (s : Session) :
    (s.note event).record = s.record ++ [event] := by
  simp [record, note, List.filter_append, h]

theorem record_setTimer (settings : Settings) (e : EditorId) (s : Session) :
    (s.setTimer settings e).record =
      s.record ++ [.debounce e s.nextTimer ((s.entry? e).bind Entry.timer).isSome] :=
  record_note rfl _

theorem record_start (settings : Settings) (target : Target) (text : String) (s : Session) :
    (s.start settings target text).record =
      s.record ++ [.runStart target.editor s.clock.next target.kind text.utf8ByteSize] :=
  record_note rfl _

theorem apart_setTimer (h : e ≠ x) (settings : Settings) (s : Session) :
    Apart e s (s.setTimer settings x) where
  bare := congrArg (Option.map Entry.takeMarkers) <| by rw [entry?_setTimer, if_neg h]
  record := ⟨_, record_setTimer settings x s, by simpa [Log.Event.about?] using h.symm⟩
  runs _ h _ := h
  queue _ _ h := h

theorem apart_start {target : Target} (h : e ≠ target.editor) (settings : Settings) (text : String)
    (s : Session) : Apart e s (s.start settings target text) where
  bare := congrArg (Option.map Entry.takeMarkers) <| by rw [entry?_start, if_neg h]
  record := ⟨_, record_start settings target text s, by simpa [Log.Event.about?] using h.symm⟩
  runs _ h _ := List.mem_append_left _ h
  queue _ _ h := h

theorem apart_close {keep : EditorId → Bool} (h : keep e = true) (s : Session) :
    Apart e s (s.close keep) :=
  apart_of_entry (by rw [entry?_close, if_pos h]) rfl rfl rfl

theorem apart_ring (token : TimerToken) (s : Session) : Apart e s (s.ring token) := by
  rcases ring_cases token s with h | ⟨a, -, -, h⟩ <;> rw [h]
  · exact (Alike.refl s).apart
  · exact ⟨rfl, ⟨[], by simp [record, rang, disarm], by simp⟩, fun _ h _ => h,
      fun _ _ h => List.mem_append_left _ h⟩

/-! ## Events -/

/-- The oldest event is taken off the queue, and does not tell of a run of the editor. -/
theorem apart_pop {event : Event} {rest : List Event} (hq : s.queue = event :: rest)
    (h : ∀ generation result, event ≠ .runDone e generation result) : Apart e s s.pop where
  bare := rfl
  record := ⟨[], by simp [record, pop], by simp⟩
  runs _ h _ := h
  queue generation result hm := by
    rw [hq] at hm
    have hrest := (List.mem_cons.mp hm).resolve_left fun he => h generation result he.symm
    simpa [pop, hq] using hrest

theorem apart_takeTimer {token : TimerToken} {rest : List Event} (hx : e ≠ x)
    (hq : s.queue = .timerFired x token :: rest) : Apart e s (s.pop.takeTimer x token) :=
  (apart_pop hq (by simp)).trans <|
    (apart_of_entry (s := s.pop) (entry?_edit_of_ne hx _ _) rfl rfl rfl)

variable {generation : Generation} {result : Except Failure (List Record)} {rest : List Event}

theorem apart_pop_runDone (hx : e ≠ x) (hq : s.queue = .runDone x generation result :: rest) :
    Apart e s s.pop :=
  apart_pop hq fun _ _ h => hx (Event.runDone.inj h).1.symm

theorem apart_abandon {failure : Failure} (hx : e ≠ x)
    (hq : s.queue = .runDone x generation (.error failure) :: rest) :
    Apart e s (s.pop.abandon x failure) := by
  have hedit : Apart e s.pop ((s.pop.edit x .fail).count .countFailure) :=
    apart_of_entry (entry?_edit_of_ne hx _ _) rfl rfl rfl
  refine ((apart_pop_runDone hx hq).trans hedit).trans (apart_note ?_ _)
  simpa [Log.Event.about?] using hx.symm

theorem apart_store (hx : e ≠ x) (hq : s.queue = .runDone x generation result :: rest)
    (findings : Findings) : Apart e s (s.pop.store x generation findings) := by
  refine ((apart_pop_runDone hx hq).trans (apart_note ?_ _)).trans
    (apart_of_entry (entry?_edit_of_ne hx _ _) rfl rfl rfl)
  simpa [Log.Event.about?] using hx.symm

theorem unnoticed_pop (s : Session) : Unnoticed e s s.pop := unnoticed_of_entry rfl rfl

theorem unnoticed_disregard (reason : CompletionError) (s : Session) :
    Unnoticed e s (s.pop.disregard reason) :=
  ⟨rfl, [.completionStale reason], record_note rfl _, by simp [Log.Event.about?]⟩

theorem unnoticed_finish (generation : Generation) (result : Except Failure (List Record))
    (s : Session) : Unnoticed e s (s.finish generation result) := by
  refine unnoticed_of_entry (entry?_finish generation result s e) ?_
  rcases finish_cases generation result s with h | ⟨run, -, h⟩ <;> rw [h]
  rfl

/-! ## Requests -/

theorem apart_request (hx : e ≠ x) (v : Service) (host : Host) (debounce : Bool)
    (s : Session) : Apart e s (v.request host x debounce s).1 := by
  have h := Service.requested v host x debounce s
  generalize v.request host x debounce s = answer at h ⊢
  cases h with
  | gone => exact (Alike.refl s).apart
  | unsupported => exact (alike_note rfl s).apart
  | busy => exact (apart_ensure (.inl hx) _).trans (alike_note rfl _).apart
  | debounced => exact (apart_ensure (.inl hx) _).trans (apart_setTimer hx _ _)
  | cached =>
      exact ((apart_ensure (.inl hx) _).trans (alike_note rfl _).apart).trans
        (alike_render v.settings host x _).apart
  | started => exact (apart_ensure (.inl hx) _).trans (apart_start hx _ _ _)

theorem apart_foldl {f : Session → EditorId → Session}
    (h : ∀ s x, e ≠ x → Apart e s (f s x)) {editors : List EditorId} (he : e ∉ editors)
    (s : Session) : Apart e s (editors.foldl f s) := by
  induction editors generalizing s with
  | nil => exact (Alike.refl s).apart
  | cons x editors ih =>
      obtain ⟨hx, he⟩ := not_or.mp fun hmem => he (List.mem_cons.mpr hmem)
      exact (h s x hx).trans (ih he (f s x))

end Session

open Session

/-- A deed, as seen from an editor. -/
inductive Deed.SeenFrom (v : Service) (host : Host) (e : EditorId) (s : Session) :
    Session → Prop where
  | apart {s'} (h : s.Apart e s') : SeenFrom v host e s s'
  | soil : SeenFrom v host e s (s.edit e .soil)
  | meet {file kind} (hf : host.file? e = some file)
      (hk : v.extensions.kindOf? file = some kind) (he : s.entry? e = none) :
      SeenFrom v host e s (s.ensure e file)
  | setTimer {entry} (he : s.entry? e = some entry) (hr : entry.isRunning = false) :
      SeenFrom v host e s (s.setTimer v.settings e)
  | start {file kind entry} (hf : host.file? e = some file)
      (hk : v.extensions.kindOf? file = some kind) (he : s.entry? e = some entry)
      (hr : entry.isRunning = false) (hn : entry.needsCheck = true) :
      SeenFrom v host e s (s.start v.settings ⟨e, file, kind⟩ ((host.text? e).getD ""))

theorem Deed.seenFrom {v : Service} {host : Host} {s s' : Session} (h : Deed v host s s')
    (e : EditorId) : SeenFrom v host e s s' := by
  cases h.onChecks with
  | alike ha => exact .apart ha.apart
  | soil x =>
      by_cases hx : e = x
      · subst hx
        exact .soil
      · exact .apart (apart_edit hx _ s)
  | @meet x file kind hf hk =>
      by_cases hx : e = x
      · subst hx
        cases he : s.entry? e with
        | none => exact .meet hf hk he
        | some entry => exact .apart (apart_ensure (.inr (knows_iff.mpr ⟨entry, he⟩)) file)
      · exact .apart (apart_ensure (.inl hx) file)
  | @setTimer x entry he hr =>
      by_cases hx : e = x
      · subst hx
        exact .setTimer he hr
      · exact .apart (apart_setTimer hx _ s)
  | @start x file kind entry hf hk he hr hn =>
      by_cases hx : e = x
      · subst hx
        exact .start hf hk he hr hn
      · exact .apart (apart_start hx _ _ s)

end Gutter
