import Gutter.Proofs.Session.Drawing

/-!
# What comes of an event

Handling an event changes what is remembered of one editor, and beyond that it only draws, counts,
starts a run or sets a timer. What it comes to is settled by the event, by what is remembered of the
editor and by the answers of the host; the rest of the session only lends the new names, for the
run, the timer and the markers.
-/

namespace Gutter

@[simp] def Event.editor : Event → EditorId
  | .timerFired e _ | .runDone e _ _ => e

/-- What is remembered of an editor has changed, and no new name was given. -/
structure Entry.ComesOf (old entry : Entry) : Prop where
  file : entry.file = old.file
  generation : entry.generation = old.generation
  markers : entry.markers = old.markers
  timer : ∀ k, entry.timer = some k → old.timer = some k

/-- What the handling of an event comes to for its editor, apart from new names: what is remembered
of it afterwards, what is drawn, and which timers and runs stop and start. -/
structure Deal where
  base : Option Entry
  drawn : Option Entry := none
  stopped : List TimerToken := []
  sets : Bool := false
  asks : Option Request := none
  counted : Counters := {}

namespace Deal

def gutter (e : EditorId) (d : Deal) : List Marker :=
  (d.drawn.map fun entry => entry.marked.gutter e).getD []

def closing (settings : Settings) (host : Host) (e : EditorId) (d : Deal) : List Stroke :=
  (d.drawn.map (Entry.closing settings host e)).getD []

def run (e : EditorId) (generation : Generation) (d : Deal) : List Run :=
  d.asks.toList.map (⟨e, generation, ·⟩)

def alarm (settings : Settings) (e : EditorId) (token : TimerToken) (now : Nat) (d : Deal) :
    List Alarm :=
  if d.sets then [⟨token, e, now + settings.debounceMs.toNat⟩] else []

theorem token_of_mem_alarm {settings : Settings} {e : EditorId} {token : TimerToken} {now : Nat}
    {d : Deal} {a : Alarm} (h : a ∈ d.alarm settings e token now) : a.token = token := by
  unfold alarm at h
  split at h
  · rw [List.mem_singleton.mp h]
  · cases h

/-- The entry with the new names that the session and the host have for it. -/
def named (host : Host) (e : EditorId) (s : Session) (d : Deal) (entry : Entry) : Entry :=
  { entry with
    timer := if d.sets then some s.nextTimer else entry.timer
    generation := if d.asks.isSome then s.clock.next else entry.generation
    markers := if d.drawn.isSome then s.nextNames host (d.gutter e).length else entry.markers }

/-- A deal that comes of an editor of which `o` was remembered. -/
structure Of (o : Option Entry) (d : Deal) : Prop where
  base : ∀ entry, d.base = some entry → ∃ old, o = some old ∧ old.ComesOf entry
  drawn : ∀ entry, d.drawn = some entry → ∃ old, o = some old ∧ entry.file = old.file
  stopped : ∀ k ∈ d.stopped, o.bind Entry.timer = some k

end Deal

namespace Session

variable {settings : Settings} {host : Host} {e : EditorId} {d : Deal} {s s' : Session}
  {base : Entry}

/-- A session has handled an event of an editor, with this outcome. -/
structure Dealt (settings : Settings) (host : Host) (e : EditorId) (d : Deal) (s s' : Session) :
    Prop where
  entry : s'.entry? e = d.base.map (d.named host e s)
  others : ∀ x, x ≠ e → s'.entry? x = s.entry? x
  strokes : ∃ marking : List Stroke, (∀ stroke ∈ marking, stroke.isMarking = true) ∧
    s'.journal.strokes = s.journal.strokes ++ (marking ++ d.closing settings host e)
  minted : s'.minted = s.minted + (d.gutter e).length
  counters : s'.counters = s.counters.add d.counted
  clock : s'.clock = if d.asks.isSome then s.clock.next else s.clock
  nextTimer : s'.nextTimer = if d.sets then s.nextTimer.next else s.nextTimer
  runs : s'.runs = s.runs ++ d.run e s.clock.next
  requests : s'.journal.requests = s.journal.requests ++ d.asks.toList
  alarms : s'.alarms = s.alarms.filter (fun a => a.token ∉ d.stopped) ++
    d.alarm settings e s.nextTimer s.now
  queue : s'.queue = s.queue
  now : s'.now = s.now

/-! ## Stages -/

theorem Dealt.note (h : Dealt settings host e d s s') (event : Log.Event) :
    Dealt settings host e d s (s'.note event) :=
  ⟨h.entry, h.others, h.strokes, h.minted, h.counters, h.clock, h.nextTimer, h.runs, h.requests,
    h.alarms, h.queue, h.now⟩

/-- The entry is edited, and nothing else happens. -/
theorem dealt_edit (settings : Settings) (host : Host) (e : EditorId) (f : Entry → Entry)
    (s : Session) :
    Dealt settings host e { base := (s.entry? e).map f } s (s.edit e f) where
  entry := by
    rw [entry?_edit_self]
    cases s.entry? e <;> rfl
  others x hx := entry?_edit_of_ne hx f _
  strokes := ⟨[], by simp, by simp [edit, Deal.closing]⟩
  minted := rfl
  counters := s.counters.add_zero.symm
  clock := rfl
  nextTimer := rfl
  runs := by simp [edit, Deal.run]
  requests := by simp [edit]
  alarms := by simp [edit, Deal.alarm]
  queue := rfl
  now := rfl

theorem Dealt.count (h : Dealt settings host e d s s') (g : Counters → Counters)
    (counted : Counters) (hg : ∀ c, g c = c.add counted) :
    Dealt settings host e { d with counted := d.counted.add counted } s (s'.count g) where
  entry := h.entry
  others := h.others
  strokes := h.strokes
  minted := h.minted
  counters := by
    change g s'.counters = _
    rw [hg, h.counters, Counters.add_assoc]
  clock := h.clock
  nextTimer := h.nextTimer
  runs := h.runs
  requests := h.requests
  alarms := h.alarms
  queue := h.queue
  now := h.now

theorem Dealt.disarm (h : Dealt settings host e d s s') (hd : d.sets = false)
    (tokens : List TimerToken) :
    Dealt settings host e { d with stopped := d.stopped ++ tokens } s (s'.disarm tokens) where
  entry := h.entry
  others := h.others
  strokes := h.strokes
  minted := h.minted
  counters := h.counters
  clock := h.clock
  nextTimer := h.nextTimer
  runs := h.runs
  requests := h.requests
  alarms := by
    change s'.alarms.filter (fun a => a.token ∉ tokens) = _
    rw [h.alarms, Deal.alarm, hd]
    simp [Deal.alarm, List.filter_filter, Bool.and_comm, not_or]
  queue := h.queue
  now := h.now

theorem dealt_refl (settings : Settings) (host : Host) (e : EditorId) (s : Session) :
    Dealt settings host e { base := s.entry? e } s s where
  entry := by cases s.entry? e <;> rfl
  others _ _ := rfl
  strokes := ⟨[], by simp, by simp [Deal.closing]⟩
  minted := rfl
  counters := s.counters.add_zero.symm
  clock := rfl
  nextTimer := rfl
  runs := by simp [Deal.run]
  requests := by simp
  alarms := by simp [Deal.alarm]
  queue := rfl
  now := rfl

end Session

namespace Deal

/-- The deal with a drawing of the editor in addition. -/
def draw (e : EditorId) (entry : Entry) (d : Deal) : Deal :=
  { d with
    drawn := some entry
    counted := d.counted.add
      { markersCreated := UInt64.ofNat (entry.marked.gutter e).length
        markersReleased := UInt64.ofNat entry.markers.length } }

/-- The deal with a timer in addition. -/
def setTimer (entry : Entry) (d : Deal) : Deal :=
  { d with
    sets := true
    stopped := d.stopped ++ entry.timer.toList
    counted := d.counted.add { timersScheduled := 1 } }

/-- The deal with a run in addition. -/
def start (entry : Entry) (request : Request) (d : Deal) : Deal :=
  { d with
    base := some { entry with timer := none, isRunning := true, needsCheck := false }
    stopped := d.stopped ++ entry.timer.toList
    asks := some request
    counted := d.counted.add { runsStarted := 1 } }

/-! ### What is settled by the old entry -/

variable {o : Option Entry} {d : Deal} {base : Entry}

theorem of_refl (o : Option Entry) : Of o { base := o } where
  base entry he := ⟨entry, he, rfl, rfl, rfl, fun _ hk => hk⟩
  drawn := by simp
  stopped := by simp

theorem of_edit (old entry : Entry) (h : old.ComesOf entry) (counted : Counters) :
    Of (some old) { base := some entry, counted } where
  base _ he := ⟨old, rfl, Option.some.inj he ▸ h⟩
  drawn := by simp
  stopped := by simp

theorem Of.draw (h : d.Of o) (hb : d.base = some base) (e : EditorId) :
    (d.draw e base).Of o where
  base := h.base
  drawn entry hentry := by
    obtain rfl := Option.some.inj hentry
    obtain ⟨old, ho, hbase⟩ := h.base base hb
    exact ⟨old, ho, hbase.file⟩
  stopped := h.stopped

theorem Of.mem_stopped (h : d.Of o) (hb : d.base = some base) :
    ∀ k ∈ d.stopped ++ base.timer.toList, o.bind Entry.timer = some k := by
  intro k hk
  rcases List.mem_append.mp hk with hk | hk
  · exact h.stopped k hk
  · obtain ⟨old, rfl, hbase⟩ := h.base base hb
    exact hbase.timer k (by simpa using hk)

theorem Of.setTimer (h : d.Of o) (hb : d.base = some base) : (d.setTimer base).Of o :=
  ⟨h.base, h.drawn, h.mem_stopped hb⟩

theorem Of.start (h : d.Of o) (hb : d.base = some base) (request : Request) :
    (d.start base request).Of o where
  base entry hentry := by
    obtain rfl := Option.some.inj hentry
    obtain ⟨old, ho, hbase⟩ := h.base base hb
    exact ⟨old, ho, hbase.file, hbase.generation, hbase.markers, by simp⟩
  drawn := h.drawn
  stopped := h.mem_stopped hb

end Deal

namespace Session

variable {settings : Settings} {host : Host} {e : EditorId} {d : Deal} {s s' : Session}
  {base : Entry}

theorem Dealt.entry_of_base (h : Dealt settings host e d s s') (hb : d.base = some base) :
    s'.entry? e = some (d.named host e s base) := by
  rw [h.entry, hb]
  rfl

theorem Dealt.render (h : Dealt settings host e d s s') (hb : d.base = some base)
    (hd : d.drawn = none) :
    Dealt settings host e (d.draw e base) s (s'.render settings host e) := by
  have hdraws := draws_render settings host (h.entry_of_base hb)
  generalize s'.render settings host e = s'' at hdraws ⊢
  have hmade : d.gutter e = [] := by rw [Deal.gutter, hd]; rfl
  have hminted : s'.minted = s.minted := by rw [h.minted, hmade]; rfl
  have hmarkers : (d.named host e s base).markers = base.markers := by
    rw [Deal.named, hd]
    rfl
  have hnames : s'.nextNames host (base.marked.gutter e).length =
      s.nextNames host (base.marked.gutter e).length := by
    rw [nextNames, nextNames, hminted]
  have hwork : ∀ {α : Type} (f : Work → α), f s''.work = f s'.work := fun f =>
    congrArg f hdraws.work
  refine ⟨?_, fun x hx => ?_, ?_, ?_, ?_, (hwork Work.clock).trans h.clock,
    (hwork Work.nextTimer).trans h.nextTimer, (hwork Work.runs).trans h.runs,
    (hwork Work.requests).trans h.requests, (hwork Work.alarms).trans h.alarms,
    (hwork Work.queue).trans h.queue, (hwork Work.now).trans h.now⟩
  · rw [hdraws.entries, if_pos rfl]
    change some { d.named host e s base with
      markers := s'.nextNames host (base.marked.gutter e).length } = _
    rw [hnames, Deal.draw, hb]
    rfl
  · rw [hdraws.entries, if_neg hx, h.others x hx]
  · obtain ⟨marking, hmarking, hs⟩ := h.strokes
    have hclosing : d.closing settings host e = [] := by rw [Deal.closing, hd]; rfl
    refine ⟨marking ++ ((d.named host e s base).markers.map .release ++
      List.zipWith Marker.stroke (s'.nextNames host (base.marked.gutter e).length)
        (base.marked.gutter e)), ?_, ?_⟩
    · intro stroke hmem
      rcases List.mem_append.mp hmem with hmem | hmem
      · exact hmarking stroke hmem
      · exact isMarking_of_mem_append stroke hmem
    · rw [hdraws.strokes, hs, hclosing, List.append_nil]
      simp only [List.append_assoc]
      rfl
  · rw [hdraws.minted, hminted]
    rfl
  · rw [hdraws.counters, h.counters, Counters.add_assoc, hmarkers]
    rfl

theorem Dealt.setTimer (h : Dealt settings host e d s s') (hb : d.base = some base)
    (hd : d.sets = false) :
    Dealt settings host e (d.setTimer base) s (s'.setTimer settings e) := by
  have he := h.entry_of_base hb
  have htimer : (s'.entry? e).bind Entry.timer = base.timer := by
    rw [he, Deal.named, hd]
    rfl
  have hnext : s'.nextTimer = s.nextTimer := by rw [h.nextTimer, hd]; rfl
  refine ⟨?_, fun x hx => ?_, h.strokes, h.minted, ?_, h.clock, ?_, h.runs, h.requests, ?_,
    h.queue, h.now⟩
  · rw [entry?_setTimer, if_pos rfl, he, hnext, Deal.setTimer, hb]
    rfl
  · rw [entry?_setTimer, if_neg hx, h.others x hx]
  · change s'.counters.countTimer = _
    rw [h.counters, Deal.setTimer, ← Counters.add_assoc]
    simp [Counters.countTimer, Counters.add]
  · change s'.nextTimer.next = _
    rw [hnext]
    rfl
  · change s'.alarms.filter (fun a => a.token ∉ ((s'.entry? e).bind Entry.timer).toList) ++
      [⟨s'.nextTimer, e, s'.now + settings.debounceMs.toNat⟩] = _
    rw [htimer, hnext, h.now, h.alarms, Deal.alarm, hd]
    simp [Deal.setTimer, Deal.alarm, List.filter_filter, Bool.and_comm, not_or]

theorem Dealt.start (h : Dealt settings host e d s s') (hb : d.base = some base)
    (hsets : d.sets = false) (hasks : d.asks = none) (file : Path) (kind : DocKind)
    (text : String) :
    Dealt settings host e (d.start base ⟨text, kind, settings.locale⟩) s
      (s'.start settings ⟨e, file, kind⟩ text) := by
  have he := h.entry_of_base hb
  have htimer : (s'.entry? e).bind Entry.timer = base.timer := by
    rw [he, Deal.named, hsets]
    rfl
  have hclock : s'.clock = s.clock := by rw [h.clock, hasks]; rfl
  refine ⟨?_, fun x hx => ?_, h.strokes, h.minted, ?_, ?_, ?_, ?_, ?_, ?_, h.queue, h.now⟩
  · rw [entry?_start, if_pos rfl, he, hclock, Deal.start]
    simp [Deal.named, hsets, Entry.start, Deal.gutter]
  · rw [entry?_start, if_neg hx, h.others x hx]
  · change s'.counters.countStart = _
    rw [h.counters, Deal.start, ← Counters.add_assoc]
    simp [Counters.countStart, Counters.add]
  · change s'.clock.next = _
    rw [hclock]
    rfl
  · change s'.nextTimer = _
    rw [h.nextTimer, hsets]
    simp [Deal.start, hsets]
  · change s'.runs ++ [⟨e, s'.clock.next, _⟩] = _
    rw [h.runs, Deal.run, hasks, hclock]
    simp [Deal.start, Deal.run]
  · change s'.journal.requests ++ [_] = _
    rw [h.requests, hasks]
    simp [Deal.start]
  · change s'.alarms.filter (fun a => a.token ∉ ((s'.entry? e).bind Entry.timer).toList) = _
    rw [htimer, h.alarms, Deal.alarm, hsets]
    simp [Deal.start, Deal.alarm, hsets, List.filter_filter, Bool.and_comm, not_or]

/-! ## Requests -/

variable {o : Option Entry}

/-- What a request comes to that follows the handling of an event. -/
theorem exists_dealt_request (v : Service) (host : Host) (e : EditorId) (debounce : Bool)
    (hof : d.Of o) (hb : d.base = some base) (hsets : d.sets = false) (hasks : d.asks = none)
    (hdrawn : debounce = false → d.drawn = none) :
    ∃ d' : Deal, d'.Of o ∧ ∀ s s', Dealt v.settings host e d s s' →
      Dealt v.settings host e d' s (v.request host e debounce s').1 := by
  cases hf : host.file? e with
  | none => exact ⟨d, hof, fun s s' h => by simpa [Service.request, hf] using h⟩
  | some file =>
      cases hk : v.extensions.kindOf? file with
      | none => exact ⟨d, hof, fun s s' h => by simpa [Service.request, hf, hk] using h.note _⟩
      | some kind =>
          -- whether the editor waits for a run or needs a check does not depend on the names
          cases hr : base.isRunning with
          | true =>
              refine ⟨d, hof, fun s s' h => ?_⟩
              have he := h.entry_of_base hb
              have hr' : (d.named host e s base).isRunning = true := hr
              simpa [Service.request, Session.request, hf, hk, ensure_of_some he, he, hr'] using
                h.note _
          | false =>
              cases debounce with
              | true =>
                  refine ⟨d.setTimer base, hof.setTimer hb, fun s s' h => ?_⟩
                  have he := h.entry_of_base hb
                  have hr' : (d.named host e s base).isRunning = false := hr
                  simpa [Service.request, Session.request, hf, hk, ensure_of_some he, he, hr'] using
                    h.setTimer hb hsets
              | false =>
                  cases hn : base.needsCheck with
                  | false =>
                      refine ⟨d.draw e base, hof.draw hb e, fun s s' h => ?_⟩
                      have he := h.entry_of_base hb
                      have hr' : (d.named host e s base).isRunning = false := hr
                      have hn' : (d.named host e s base).needsCheck = false := hn
                      simpa [Service.request, Session.request, hf, hk, ensure_of_some he, he, hr',
                        hn'] using (h.note (.cached e)).render hb (hdrawn rfl)
                  | true =>
                      refine ⟨d.start base ⟨(host.text? e).getD "", kind, v.settings.locale⟩,
                        hof.start hb _, fun s s' h => ?_⟩
                      have he := h.entry_of_base hb
                      have hr' : (d.named host e s base).isRunning = false := hr
                      have hn' : (d.named host e s base).needsCheck = true := hn
                      simpa [Service.request, Session.request, hf, hk, ensure_of_some he, he,
                        hr', hn'] using h.start hb hsets hasks file kind _

/-! ## Events -/

/-- What the event of a timer comes to that the editor waits for. -/
theorem exists_dealt_timerFired (v : Service) (host : Host) (e : EditorId) {entry : Entry}
    {token : TimerToken} (ht : entry.timer = some token) :
    ∃ d : Deal, d.Of (some entry) ∧ ∀ s : Session, s.entry? e = some entry →
      Dealt v.settings host e d s (v.handle host (.timerFired e token) s) := by
  have hof : Deal.Of (some entry) { base := some (entry.setTimer none), stopped := [token] } := by
    refine ⟨fun _ hb => ?_, by simp, fun k hk => ?_⟩
    · obtain rfl := Option.some.inj hb
      exact ⟨entry, rfl, rfl, rfl, rfl, by simp [Entry.setTimer]⟩
    · obtain rfl := List.mem_singleton.mp hk
      exact ht
  have htaken : ∀ s : Session, s.entry? e = some entry →
      Dealt v.settings host e { base := some (entry.setTimer none), stopped := [token] } s
        ((s.disarm [token]).edit e (.setTimer none)) := by
    intro s he
    have h := (dealt_edit v.settings host e (.setTimer none) s).disarm rfl [token]
    rw [he] at h
    exact h
  by_cases hv : e ∈ host.visible
  · obtain ⟨d, hd, hreq⟩ := exists_dealt_request v host e false hof rfl rfl rfl fun _ => rfl
    refine ⟨d, hd, fun s he => ?_⟩
    simpa [Service.handle, Session.timerFired, he, ht, hv] using hreq s _ (htaken s he)
  · refine ⟨_, hof, fun s he => ?_⟩
    simpa [Service.handle, Session.timerFired, he, ht, hv] using htaken s he

/-- What the end of a run comes to that the editor waits for. -/
theorem exists_dealt_runDone (v : Service) (host : Host) (e : EditorId) {entry : Entry}
    (hr : entry.isRunning = true) (result : Except Failure (List Record)) :
    ∃ d : Deal, d.Of (some entry) ∧ ∀ s : Session, s.entry? e = some entry →
      Dealt v.settings host e d s
        (v.handle host (.runDone e entry.generation result) s) := by
  cases result with
  | error failure =>
      refine ⟨_, Deal.of_edit entry entry.fail ⟨rfl, rfl, rfl, fun _ hk => hk⟩
        { runsFailed := 1 }, fun s he => ?_⟩
      have h := (dealt_edit v.settings host e .fail s).count .countFailure
        { runsFailed := 1 } fun c => by simp [Counters.countFailure, Counters.add]
      rw [he, Counters.zero_add] at h
      simpa [Service.handle, Session.complete, he, hr] using h.note _
  | ok records =>
      generalize hfindings : Findings.ofRecords records v.settings.severityLevel = findings
      have hof := Deal.of_edit entry (entry.commit findings) ⟨rfl, rfl, rfl, fun _ hk => hk⟩
        { runsCompleted := 1 }
      have hstored : ∀ s : Session, s.entry? e = some entry → Dealt v.settings host e
          { base := some (entry.commit findings), counted := { runsCompleted := 1 } } s
          (s.store e entry.generation findings) := by
        intro s he
        have h := (dealt_edit v.settings host e (.commit findings) s).count .countCompletion
          { runsCompleted := 1 } fun c => by simp [Counters.countCompletion, Counters.add]
        rw [he, Counters.zero_add] at h
        exact h.note (.runDone e entry.generation findings.issues.length)
      have hdrawn : ∀ s : Session, s.entry? e = some entry → Dealt v.settings host e
          (Deal.draw e (entry.commit findings)
            { base := some (entry.commit findings), counted := { runsCompleted := 1 } }) s
          ((s.store e entry.generation findings).render v.settings host e) :=
        fun s he => (hstored s he).render rfl rfl
      cases hn : entry.needsCheck with
      | false =>
          refine ⟨_, hof.draw rfl e, fun s he => ?_⟩
          simpa [Service.handle_runDone_ok he hr, hfindings, hn] using hdrawn s he
      | true =>
          obtain ⟨d, hd, hreq⟩ := exists_dealt_request v host e true (hof.draw rfl e) rfl rfl rfl
            (by simp)
          refine ⟨d, hd, fun s he => ?_⟩
          simpa [Service.handle_runDone_ok he hr, hfindings, hn] using
            hreq s _ ((hdrawn s he).note (.trailingCheck e))

/-- What an event comes to is settled by the event, by what is remembered of the editor and by the
answers of the host. -/
theorem exists_dealt (v : Service) (host : Host) (event : Event) (o : Option Entry) :
    ∃ d : Deal, d.Of o ∧ ∀ s : Session, s.entry? event.editor = o →
      Dealt v.settings host event.editor d s (v.handle host event s) := by
  have hnote : ∀ (s : Session) (e : EditorId) (event : Log.Event), s.entry? e = o →
      Dealt v.settings host e { base := o } s (s.note event) := by
    rintro s e event rfl
    exact (dealt_refl v.settings host e s).note event
  have hstale : ∀ (s : Session) (e : EditorId) (reason : CompletionError), s.entry? e = o →
      Dealt v.settings host e { base := o, counted := { staleCompletions := 1 } } s
        (s.disregard reason) := by
    rintro s e reason rfl
    have h := (dealt_refl v.settings host e s).count .countStale
      { staleCompletions := 1 } fun c => by simp [Counters.countStale, Counters.add]
    rw [Counters.zero_add] at h
    exact h.note _
  have hof : Deal.Of o { base := o, counted := { staleCompletions := 1 } } :=
    ⟨(Deal.of_refl o).base, by simp, by simp⟩
  cases event with
  | timerFired e token =>
      cases o with
      | none =>
          refine ⟨_, Deal.of_refl none, fun s (he : s.entry? e = none) => ?_⟩
          simpa [Service.handle, Session.timerFired, he] using hnote s e (.timerOrphaned e) he
      | some entry =>
          by_cases ht : entry.timer = some token
          · exact exists_dealt_timerFired v host e ht
          · refine ⟨_, Deal.of_refl _, fun s (he : s.entry? e = some entry) => ?_⟩
            simpa [Service.handle, Session.timerFired, he, ht] using
              hnote s e (.timerSuperseded e token) he
  | runDone e generation result =>
      cases o with
      | none =>
          refine ⟨_, hof, fun s (he : s.entry? e = none) => ?_⟩
          simpa [Service.handle, Session.complete, he, disregard] using hstale s e (.evicted e) he
      | some entry =>
          by_cases hg : entry.isRunning = true ∧ entry.generation = generation
          · obtain ⟨hr, rfl⟩ := hg
            exact exists_dealt_runDone v host e hr result
          · refine ⟨_, hof, fun s (he : s.entry? e = some entry) => ?_⟩
            rw [Service.handle_runDone_stale he hg]
            exact hstale s e _ he

end Session

end Gutter
