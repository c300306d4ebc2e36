import Gutter.Proofs.Session.Found
import Gutter.Proofs.Session.Renaming
import Gutter.Proofs.Session.Runs
import Gutter.Proofs.Session.Shown
import Gutter.Proofs.Session.Timers

/-!
# The order of events

Events of editors with different documents may be handled in any order. All that differs afterwards
is who got which of the new names: the numbers of runs and timers, and the markers.
-/

namespace Gutter

/-! ## What the host shows -/

namespace Deal

variable {settings : Settings} {host : Host} {e : EditorId} {d : Deal}

/-- Only the active editor has a status line. -/
theorem statusLine_closing (ha : host.active ≠ some e) (screen : Screen) :
    (screen.draw (d.closing settings host e)).statusLine = screen.statusLine := by
  unfold Deal.closing
  cases d.drawn with
  | none => rfl
  | some entry =>
      change (screen.draw (entry.closing settings host e)).statusLine = _
      rw [Entry.closing, if_neg ha]
      rfl

/-- Only the document of the editor is published or withdrawn. -/
theorem published?_closing {file : Path}
    (hd : ∀ entry, d.drawn = some entry → file.components ≠ entry.file.components)
    (screen : Screen) :
    (screen.draw (d.closing settings host e)).published? file = screen.published? file := by
  unfold Deal.closing
  cases hdrawn : d.drawn with
  | none => rfl
  | some entry =>
      exact (Session.published?_closing settings host e entry screen file).trans
        (if_neg (hd entry hdrawn))

end Deal

namespace Session

variable {settings : Settings} {host : Host} {e x y : EditorId} {d dx dy : Deal}
  {s s' t u u' : Session} {names : Nat → MarkerId}

/-- The drawing may be left out of account as far as a part of the screen goes, except for its
end. -/
theorem Dealt.screen {α : Type} {part : Screen → α} (h : Dealt settings host e d s s')
    (hp : Screen.Independent part) :
    part s'.screen = part (s.screen.draw (d.closing settings host e)) := by
  obtain ⟨marking, hmarking, hs⟩ := h.strokes
  rw [Session.screen, hs, Screen.after_append, Screen.draw, List.foldl_append]
  exact hp.draw (hp.draw_marking hmarking _) _

/-! ## Two events -/

/-- Two events of different editors are handled in one order, by way of `u`, and in the other, by
way of `u'`. -/
structure Crossed (settings : Settings) (host : Host) (x y : EditorId) (dx dy : Deal)
    (t u u' s s' : Session) : Prop where
  ne : x ≠ y
  ofFirst : dx.Of (t.entry? x)
  ofSecond : dy.Of (t.entry? y)
  first : Dealt settings host x dx t u
  second : Dealt settings host y dy u s
  first' : Dealt settings host x dx u' s'
  second' : Dealt settings host y dy t u'

theorem exists_crossed (v : Service) (host : Host) {x y : Event} (hne : x.editor ≠ y.editor)
    (t : Session) :
    ∃ dx dy, Crossed v.settings host x.editor y.editor dx dy t (v.handle host x t)
      (v.handle host y t) (v.handle host y (v.handle host x t))
      (v.handle host x (v.handle host y t)) := by
  obtain ⟨dx, hofx, hx⟩ := exists_dealt v host x (t.entry? x.editor)
  obtain ⟨dy, hofy, hy⟩ := exists_dealt v host y (t.entry? y.editor)
  have hfirst := hx t rfl
  have hsecond := hy t rfl
  exact ⟨dx, dy, hne, hofx, hofy, hfirst, hy _ (hfirst.others _ hne.symm),
    hx _ (hsecond.others _ hne), hsecond⟩

namespace Crossed

theorem counters (h : Crossed settings host x y dx dy t u u' s s') :
    s'.counters = s.counters := by
  rw [h.first'.counters, h.second'.counters, h.second.counters, h.first.counters,
    Counters.add_assoc, Counters.add_assoc, Counters.add_comm dx.counted]

/-- A part of the screen is the same if one of the two events has no influence on it. -/
theorem screen {α : Type} {part : Screen → α} (h : Crossed settings host x y dx dy t u u' s s')
    (hp : Screen.Independent part)
    (hinert : (∀ screen, part (screen.draw (dx.closing settings host x)) = part screen) ∨
      ∀ screen, part (screen.draw (dy.closing settings host y)) = part screen) :
    part s'.screen = part s.screen := by
  rw [h.first'.screen hp, h.second.screen hp]
  rcases hinert with hinert | hinert
  · calc part (u'.screen.draw (dx.closing settings host x))
        = part (t.screen.draw (dy.closing settings host y)) :=
          (hinert _).trans (h.second'.screen hp)
      _ = part (u.screen.draw (dy.closing settings host y)) :=
          hp.draw ((h.first.screen hp).trans (hinert _)).symm _
  · calc part (u'.screen.draw (dx.closing settings host x))
        = part (t.screen.draw (dx.closing settings host x)) :=
          hp.draw ((h.second'.screen hp).trans (hinert _)) _
      _ = part (u.screen.draw (dy.closing settings host y)) :=
          ((hinert _).trans (h.first.screen hp)).symm

theorem statusLine (h : Crossed settings host x y dx dy t u u' s s') :
    s'.screen.statusLine = s.screen.statusLine := by
  refine h.screen Screen.independent_statusLine ?_
  by_cases ha : host.active = some x
  · exact .inr (Deal.statusLine_closing fun hy => h.ne (Option.some.inj (ha.symm.trans hy)))
  · exact .inl (Deal.statusLine_closing ha)

theorem published? (h : Crossed settings host x y dx dy t u u' s s')
    (hfiles : ∀ p q, t.entry? x = some p → t.entry? y = some q → p.file.same q.file = false)
    (file : Path) : s'.published? file = s.published? file := by
  refine h.screen (Screen.independent_published file) ?_
  by_cases hx : ∀ p, dx.drawn = some p → file.components ≠ p.file.components
  · exact .inl (Deal.published?_closing hx)
  · refine .inr (Deal.published?_closing fun q hq hsame => hx fun p hp hsame' => ?_)
    obtain ⟨p', hp', hpfile⟩ := h.ofFirst.drawn p hp
    obtain ⟨q', hq', hqfile⟩ := h.ofSecond.drawn q hq
    have hdiffer := hfiles p' q' hp' hq'
    rw [← hpfile, ← hqfile, Path.same, decide_eq_false_iff_not] at hdiffer
    exact hdiffer (hsame'.symm.trans hsame)

end Crossed

/-! ## The names given -/

/-- Two renamings make up for the order of two events: they do the same to the names that were given
before, and make the new names of one order those of the other. -/
structure Reconciles (host : Host) (x y : EditorId) (dx dy : Deal) (t u u' : Session)
    (r r' : Renaming) : Prop where
  old : ∀ e entry, t.entry? e = some entry → entry.rename r = entry.rename r'
  first : dx.Matches host x t u' r r'
  second : dy.Matches host y u t r r'

/-- Whatever is remembered of an editor is the same but for the names. -/
theorem Crossed.rename_entry (h : Crossed settings host x y dx dy t u u' s s') {r r' : Renaming}
    (hr : Reconciles host x y dx dy t u u' r r') (e : EditorId) :
    (s'.entry? e).map (Entry.rename r') = (s.entry? e).map (Entry.rename r) := by
  by_cases hex : e = x
  · subst hex
    rw [h.second.others e h.ne]
    exact h.first.rename_entry h.first' hr.first h.ofFirst (hr.old e)
  · by_cases hey : e = y
    · subst hey
      rw [h.first'.others e h.ne.symm]
      exact h.second.rename_entry h.second' hr.second h.ofSecond (hr.old e)
    · rw [h.first'.others e hex, h.second'.others e hey, h.second.others e hey,
        h.first.others e hex]
      exact Option.map_congr fun entry he => (hr.old e entry he).symm

theorem Crossed.perm_runs (h : Crossed settings host x y dx dy t u u' s s') {r : Renaming}
    (hr : Reconciles host x y dx dy t u u' r .same) (hold : ∀ run ∈ t.runs, run.rename r = run) :
    s'.runs.Perm (s.runs.map (Run.rename r)) := by
  rw [h.first'.runs, h.second'.runs, h.second.runs, h.first.runs, List.map_append, List.map_append,
    hr.first.map_run, hr.second.map_run, List.map_congr_left hold, List.map_id',
    List.append_assoc, List.append_assoc]
  exact List.perm_append_comm.append_left _

/-! ## Renaming the markers -/

noncomputable def crossed (hinj : Function.Injective names) (n p q : Nat) : Equiv.Perm MarkerId :=
  (Renaming.rotate n p q).viaEmbedding ⟨names, hinj⟩

theorem map_crossed (hinj : Function.Injective names) (n p q : Nat) (l : List Nat) :
    (l.map names).map (crossed hinj n p q) = (l.map (Renaming.rotate n p q)).map names := by
  rw [List.map_map, List.map_map]
  exact List.map_congr_left fun i _ =>
    Equiv.Perm.viaEmbedding_apply (Renaming.rotate n p q) ⟨names, hinj⟩ i

theorem Owned.crossed_eq_self (ho : Owned names t) (hinj : Function.Injective names) (p q : Nat)
    {m : MarkerId} (hm : m ∈ t.markersOf? e) : crossed hinj t.minted p q m = m := by
  obtain ⟨k, hk, -⟩ := ho.exists_live hm
  obtain ⟨stroke, hmem, hstroke⟩ := Screen.exists_stroke_of_live? hk
  obtain ⟨i, hlt, rfl⟩ := ho.named stroke hmem m hstroke
  refine (Equiv.Perm.viaEmbedding_apply _ ⟨names, hinj⟩ i).trans ?_
  exact congrArg names (Renaming.rotate_of_lt hlt)

/-- Apart from the numbers of runs and timers it is enough that the markers change places. -/
theorem Crossed.reconciles_ofMarker (h : Crossed settings host x y dx dy t u u' s s')
    (hinj : Function.Injective host.marker) (ho : Owned host.marker t) :
    Reconciles host x y dx dy t u u'
      (.ofMarker (crossed hinj t.minted (dx.gutter x).length (dy.gutter y).length))
      (.ofMarker id) where
  old e entry he := by
    refine Entry.rename_congr rfl (fun _ _ => rfl) fun m hm => ?_
    exact ho.crossed_eq_self hinj _ _ (markersOf?_of_entry he ▸ hm)
  first := by
    refine ⟨fun _ => rfl, fun _ => rfl, ?_⟩
    simp only [Renaming.ofMarker, nextNames, h.second'.minted, map_crossed,
      Renaming.map_rotate_first, List.map_id]
  second := by
    refine ⟨fun _ => rfl, fun _ => rfl, ?_⟩
    simp only [Renaming.ofMarker, nextNames, h.first.minted, map_crossed,
      Renaming.map_rotate_second, List.map_id]

/-! ## Renaming runs and timers -/

/-- The next two numbers of runs and of timers are not in use. -/
structure Spare (t : Session) : Prop where
  generation : ∀ e entry, t.entry? e = some entry →
    entry.generation ≠ t.clock.next ∧ entry.generation ≠ t.clock.next.next
  timer : ∀ e k, t.timer? e = some k → k ≠ t.nextTimer ∧ k ≠ t.nextTimer.next
  runs : ∀ r ∈ t.runs, r.generation ≠ t.clock.next ∧ r.generation ≠ t.clock.next.next
  alarms : ∀ a ∈ t.alarms, a.token ≠ t.nextTimer ∧ a.token ≠ t.nextTimer.next

/-- Where the next numbers are not in use, those that the two events take change places. -/
theorem Crossed.reconciles_exchange (h : Crossed settings host x y dx dy t u u' s s')
    (hs : t.Spare) {r : MarkerId → MarkerId}
    (hr : Reconciles host x y dx dy t u u' (.ofMarker r) (.ofMarker id)) :
    Reconciles host x y dx dy t u u'
      ⟨Renaming.exchange dx.asks.isSome dy.asks.isSome t.clock.next t.clock.next.next,
        Renaming.exchange dx.sets dy.sets t.nextTimer t.nextTimer.next, r⟩ .same where
  old e entry he := by
    obtain ⟨hn, ha⟩ := hs.generation e entry he
    refine Entry.rename_congr (Renaming.exchange_of_ne hn ha) (fun k hk => ?_) ?_
    · obtain ⟨hn, ha⟩ := hs.timer e k ((timer?_of_entry he).trans hk)
      exact Renaming.exchange_of_ne hn ha
    · have hmarkers := congrArg Entry.markers (hr.old e entry he)
      exact List.map_inj_left.mp hmarkers
  first := by
    refine ⟨fun hasks => ?_, fun hsets => ?_, hr.first.marker⟩
    · refine (Renaming.exchange_first hasks).trans ?_
      rw [h.second'.clock]
      cases dy.asks <;> rfl
    · rw [h.second'.nextTimer]
      exact Renaming.exchange_first hsets
  second := by
    refine ⟨fun hasks => ?_, fun hsets => ?_, hr.second.marker⟩
    · refine Eq.trans (congrArg _ ?_) (Renaming.exchange_second hasks)
      rw [h.first.clock]
      cases dx.asks <;> rfl
    · rw [h.first.nextTimer]
      exact Renaming.exchange_second hsets

theorem Spare.filter_alarm (hs : t.Spare) {settings : Settings} (hof : dy.Of (t.entry? y)) :
    (dx.alarm settings x t.nextTimer t.now).filter (fun a => a.token ∉ dy.stopped) =
      dx.alarm settings x t.nextTimer t.now := by
  refine List.filter_eq_self.mpr fun a ha => decide_eq_true fun hstopped => ?_
  rw [Deal.token_of_mem_alarm ha] at hstopped
  exact (hs.timer y _ (hof.stopped _ hstopped)).1 rfl

/-- The timers that have not rung are the same but for the tokens of the new ones. -/
theorem Crossed.perm_alarms (h : Crossed settings host x y dx dy t u u' s s') (hs : t.Spare)
    {r : Renaming} (hr : Reconciles host x y dx dy t u u' r .same)
    (hold : ∀ a ∈ t.alarms, a.rename r = a) :
    s'.alarms.Perm (s.alarms.map (Alarm.rename r)) := by
  have hkept : ∀ p : Alarm → Bool,
      (t.alarms.filter p).map (Alarm.rename r) = t.alarms.filter p := by
    intro p
    rw [List.map_congr_left fun a ha => hold a (List.mem_filter.mp ha).1, List.map_id']
  rw [h.first'.alarms, h.second'.alarms, h.second.alarms, h.first.alarms, h.second'.now,
    h.first.now, List.filter_append, List.filter_append, hs.filter_alarm h.ofFirst,
    hs.filter_alarm h.ofSecond, List.filter_filter, List.filter_filter, List.map_append,
    List.map_append, hkept, hr.first.map_alarm, hr.second.map_alarm, List.append_assoc,
    List.append_assoc]
  simp only [Bool.and_comm]
  exact List.perm_append_comm.append_left _

def Dated (s : Session) : Prop :=
  ∀ e entry, s.entry? e = some entry →
    entry.generation.number.toNat ≤ s.ledger.started.length

theorem dated_kept (v : Service) (H : Host → Prop) :
    Kept v H [] fun s => s.ledger.started.length < 2 ^ 64 → s.Accounted ∧ s.Dated := by
  refine kept_of_accounted ?_ ?_ ?_ ?_
  · intro s s' _ h hs e entry' he'
    rw [h.started]
    rcases h.entry e entry' he' with ⟨-, hg⟩ | ⟨entry, he, -, hg⟩
    · simp [hg, Generation.initial]
    · rw [hg]
      exact hs e entry he
  · intro s s' x ha _ h hs e entry' he'
    rw [h.started, List.length_append, List.length_singleton]
    by_cases hex : e = x
    · subst hex
      obtain ⟨entry, he, -, hg⟩ := h.running
      obtain rfl := Option.some.inj (he'.symm.trans he)
      have hclock := ha.sound.clock
      rw [hg, Generation.next, UInt64.toNat_add, UInt64.toNat_one]
      omega
    · rw [h.others e hex] at he'
      exact Nat.le_succ_of_le (hs e entry' he')
  · intro s s' r ha h hs e entry' he'
    rw [h.started]
    by_cases her : e = r.1
    · subst her
      obtain ⟨entry, he, -, hg⟩ := h.idle
      obtain rfl := Option.some.inj (he'.symm.trans he)
      rw [hg, ← ha.sound.clock]
      exact (ha.sound.mem_started (ha.sound.outstanding r h.mem)).2
    · rw [h.others e her] at he'
      exact hs e entry' he'
  · intro s s' r _ h hs e entry' he'
    rw [h.started]
    rw [h.entry] at he'
    exact hs e entry' he'

theorem Dated.spare (hd : t.Dated) (ha : t.Accounted) (ht : t.Timed)
    (hruns : t.ledger.started.length + 2 < 2 ^ 64) (htimers : t.timersSet.length + 2 < 2 ^ 64) :
    t.Spare := by
  have hclock : t.clock.number.toNat = t.ledger.started.length := ha.sound.clock
  have hold : ∀ g : Generation, g.number.toNat ≤ t.ledger.started.length →
      g ≠ t.clock.next ∧ g ≠ t.clock.next.next := by
    intro g hg
    constructor <;> rintro rfl
    all_goals
      simp only [Generation.next, UInt64.toNat_add, UInt64.toNat_one] at hg
      omega
  have htimer : ∀ e k, t.timer? e = some k → k ≠ t.nextTimer ∧ k ≠ t.nextTimer.next := by
    intro e k hk
    have hnext := ht.next
    have hmem := List.mem_map_of_mem (f := fun t : TimerName => t.2.number.toNat)
      (ht.set _ (ht.source e k hk))
    rw [ht.numbered, List.mem_range] at hmem
    constructor <;> rintro rfl
    · exact Nat.lt_irrefl _ (hnext ▸ hmem)
    · simp only [TimerToken.next, UInt64.toNat_add, UInt64.toNat_one] at hmem
      omega
  refine ⟨fun e entry he => hold _ (hd e entry he), htimer, fun r hr => ?_,
    fun a ha => htimer _ _ (ht.owned a ha)⟩
  · have hout : r.name ∈ t.ledger.outstanding := List.mem_append_left _ (List.mem_map_of_mem hr)
    exact hold _ (ha.sound.clock ▸ (ha.sound.mem_started (ha.sound.outstanding _ hout)).2)

theorem spare_play (v : Service) (host : Host) (moves : List Scene.Move)
    (hruns : ((Scene.opening v host).play moves).session.ledger.started.length + 2 < 2 ^ 64)
    (htimers : ((Scene.opening v host).play moves).session.timersSet.length + 2 < 2 ^ 64) :
    ((Scene.opening v host).play moves).session.Spare := by
  have hinit : initial.Accounted ∧ initial.Dated :=
    ⟨accounted_initial, fun e entry he => by simp at he⟩
  have hb : ((Scene.opening v host).play moves).session.ledger.started.length < 2 ^ 64 := by omega
  obtain ⟨haccounted, hdated⟩ := (dated_kept v fun _ => True).play (c := .opening v host) trivial
    (fun _ => hinit) (fun m _ => m.within_true) (by simp) hb
  exact hdated.spare haccounted (timed_play v host moves (by omega)) hruns htimers

/-! ## What is the same in either order -/

theorem markersOf?_rename (r : Renaming) (e : EditorId) (s : Session) :
    (s.markersOf? e).map r.marker =
      (((s.entry? e).map (Entry.rename r)).map Entry.markers).getD [] := by
  rw [markersOf?]
  cases s.entry? e <;> rfl

theorem gutter_rename (r : Renaming) (e : EditorId) (s : Session) :
    s.gutter e =
      (((s.entry? e).map (Entry.rename r)).map fun entry => entry.marked.gutter e).getD [] := by
  rw [gutter]
  cases s.entry? e <;> rfl

theorem Shown.live?_eq_none (h : Shown names s) {m : MarkerId} (hm : ∀ e, m ∉ s.markersOf? e) :
    s.screen.live? m = none := by
  cases hk : s.screen.live? m with
  | none => rfl
  | some k => exact absurd ((h.mem_iff k.editor m).mpr ⟨k, hk, rfl⟩) (hm k.editor)

/-- Where the entries differ in names only, so do the live markers. -/
theorem Shown.live?_rename (h : Shown names s) (h' : Shown names s') {μ : Equiv.Perm MarkerId}
    (hentry : ∀ e, (s'.entry? e).map (Entry.rename (.ofMarker id)) =
      (s.entry? e).map (Entry.rename (.ofMarker μ))) (m : MarkerId) :
    s'.screen.live? (μ m) = s.screen.live? m := by
  have hmarkers : ∀ e, s'.markersOf? e = (s.markersOf? e).map μ := by
    intro e
    have hid := markersOf?_rename (.ofMarker id) e s'
    rw [hentry, ← markersOf?_rename] at hid
    simpa [Renaming.ofMarker] using hid
  by_cases hm : ∃ e, m ∈ s.markersOf? e
  · obtain ⟨e, hm⟩ := hm
    have hgutter : s'.gutter e = s.gutter e := by
      rw [gutter_rename (.ofMarker id), hentry, ← gutter_rename]
    have hpainted := h'.painted e
    rw [Painted, hmarkers, hgutter, ← h.painted e, List.map_map] at hpainted
    exact List.map_inj_left.mp hpainted m hm
  · have hm' : ∀ e, μ m ∉ s'.markersOf? e := by
      intro e hmem
      rw [hmarkers, List.mem_map_of_injective μ.injective] at hmem
      exact hm ⟨e, hmem⟩
    rw [h'.live?_eq_none hm', h.live?_eq_none fun e hmem => hm ⟨e, hmem⟩]

theorem Shown.handle (v : Service) (hinj : Function.Injective names) (hnames : host.marker = names)
    (h : Shown names s) (event : Event) : Shown names (v.handle host event s) := by
  have hqueued : Shown names { s with queue := event :: s.queue } :=
    h.of_unmarked (unmarked_of_markers rfl rfl rfl rfl rfl) fun _ => rfl
  exact (shown_kept v hinj).handleNext hnames hqueued

/-- For each editor there are other names that lead from one entry to the other. -/
theorem exists_renames_of_ofMarker {μ : Equiv.Perm MarkerId}
    (h : ∀ e, (s'.entry? e).map (Entry.rename (.ofMarker id)) =
      (s.entry? e).map (Entry.rename (.ofMarker μ))) :
    ∃ r : EditorId → Renaming, ∀ e, (r e).Bijective ∧ (r e).marker = μ ∧
      s'.entry? e = (s.entry? e).map (Entry.rename (r e)) := by
  suffices hr : ∀ e, ∃ r : Renaming, r.Bijective ∧ r.marker = μ ∧
      s'.entry? e = (s.entry? e).map (Entry.rename r) from Classical.skolem.mp hr
  intro e
  have he := h e
  cases hs : s.entry? e with
  | none =>
      rw [hs, Option.map_none, Option.map_eq_none_iff] at he
      exact ⟨⟨id, id, μ⟩, ⟨Function.bijective_id, Function.bijective_id, μ.bijective⟩, rfl, he⟩
  | some entry =>
      rw [hs, Option.map_some, Option.map_eq_some_iff] at he
      obtain ⟨entry', hs', he⟩ := he
      obtain ⟨r, hr, hμ, rfl⟩ := Entry.exists_rename he
      exact ⟨r, hr, hμ, hs'⟩

/-- Two sessions have come of `t`, and they only differ in the names that they have given. A run is
named by its editor and a number, and so is a timer. -/
structure SameButNames (t s s' : Session) : Prop where
  counters : s'.counters = s.counters
  statusLine : s'.screen.statusLine = s.screen.statusLine
  published : ∀ file, s'.published? file = s.published? file
  requests : ∃ asked asked', s.journal.requests = t.journal.requests ++ asked ∧
    s'.journal.requests = t.journal.requests ++ asked' ∧ asked'.Perm asked
  entries : ∃ r : EditorId → Renaming, (∀ e, (r e).Bijective) ∧
    (∀ e, s'.entry? e = (s.entry? e).map (Entry.rename (r e))) ∧
    ∀ e m, s'.screen.live? ((r e).marker m) = s.screen.live? m

/-- The same other names for all editors turn one session into another one. -/
structure Renames (r : Renaming) (s s' : Session) : Prop where
  bijective : r.Bijective
  entry : ∀ e, s'.entry? e = (s.entry? e).map (Entry.rename r)
  live : ∀ m, s'.screen.live? (r.marker m) = s.screen.live? m
  runs : s'.runs.Perm (s.runs.map (Run.rename r))
  alarms : s'.alarms.Perm (s.alarms.map (Alarm.rename r))

theorem Crossed.sameButNames (h : Crossed settings host x y dx dy t u u' s s')
    (hfiles : ∀ p q, t.entry? x = some p → t.entry? y = some q → p.file.same q.file = false)
    {μ : Equiv.Perm MarkerId}
    (hr : Reconciles host x y dx dy t u u' (.ofMarker μ) (.ofMarker id))
    (hlive : ∀ m, s'.screen.live? (μ m) = s.screen.live? m) : SameButNames t s s' where
  counters := h.counters
  statusLine := h.statusLine
  published := h.published? hfiles
  requests := by
    refine ⟨dx.asks.toList ++ dy.asks.toList, dy.asks.toList ++ dx.asks.toList, ?_, ?_,
      List.perm_append_comm⟩
    · rw [h.second.requests, h.first.requests, List.append_assoc]
    · rw [h.first'.requests, h.second'.requests, List.append_assoc]
  entries := by
    obtain ⟨r, hr⟩ := exists_renames_of_ofMarker (h.rename_entry hr)
    exact ⟨r, fun e => (hr e).1, fun e => (hr e).2.2, fun e m => (hr e).2.1 ▸ hlive m⟩

theorem Crossed.exists_renames (h : Crossed settings host x y dx dy t u u' s s') (hs : t.Spare)
    {μ : Equiv.Perm MarkerId}
    (hr : Reconciles host x y dx dy t u u' (.ofMarker μ) (.ofMarker id))
    (hlive : ∀ m, s'.screen.live? (μ m) = s.screen.live? m) : ∃ r, Renames r s s' := by
  have hreconciles := h.reconciles_exchange hs hr
  refine ⟨_, ⟨Equiv.bijective _, Equiv.bijective _, μ.bijective⟩, fun e => ?_, hlive,
    h.perm_runs hreconciles fun run hrun => ?_, h.perm_alarms hs hreconciles fun a ha => ?_⟩
  · have hentry := h.rename_entry hreconciles e
    simpa using hentry
  · obtain ⟨hn, ha⟩ := hs.runs run hrun
    exact congrArg (fun g => { run with generation := g }) (Renaming.exchange_of_ne hn ha)
  · obtain ⟨hn, ha⟩ := hs.alarms a ha
    exact congrArg (fun k => { a with token := k }) (Renaming.exchange_of_ne hn ha)

/-- Events of editors with different documents may be handled in any order, whatever else is in the
queue. What they do is the same but for the names that they give. As long as no number of a run or a
timer is given again, the number alone names it, and other numbers turn one outcome into the
other. -/
theorem events_commute (v : Service) (names : Nat → MarkerId) (hinj : Function.Injective names)
    (host : Host) (hh : host.marker = names) (moves : List Scene.Move)
    (hm : ∀ m ∈ moves, m.Within (·.marker = names)) (now : Host) (hnow : now.marker = names)
    (x y : Event) (hne : x.editor ≠ y.editor) (rest : List Event) :
    let s := ((Scene.opening v host).play moves).session
    let t := { s with queue := rest }
    let one := v.handle now y (v.handle now x t)
    let other := v.handle now x (v.handle now y t)
    (∀ p q, s.entry? x.editor = some p → s.entry? y.editor = some q →
      p.file.same q.file = false) →
    SameButNames t one other ∧
      (s.ledger.started.length + 2 < 2 ^ 64 → s.timersSet.length + 2 < 2 ^ 64 →
        ∃ r, Renames r one other) := by
  intro s t one other hfiles
  subst hnow
  have hshown : Shown now.marker s :=
    (shown_kept v hinj).play hh ⟨owned_initial _, fun e => painted_of_none rfl⟩ hm (by simp)
  have ht : Shown now.marker t :=
    hshown.of_unmarked (unmarked_of_markers rfl rfl rfl rfl rfl) fun _ => rfl
  obtain ⟨dx, dy, hcrossed⟩ := exists_crossed v now hne t
  have hreconciles := hcrossed.reconciles_ofMarker hinj ht.toOwned
  have hlive := ((ht.handle v hinj rfl x).handle v hinj rfl y).live?_rename
    ((ht.handle v hinj rfl y).handle v hinj rfl x) (hcrossed.rename_entry hreconciles)
  refine ⟨hcrossed.sameButNames hfiles hreconciles hlive, fun hruns htimers => ?_⟩
  obtain ⟨hgeneration, htimer, hrun, halarm⟩ := spare_play v host moves hruns htimers
  exact hcrossed.exists_renames ⟨hgeneration, htimer, hrun, halarm⟩ hreconciles hlive

/-- The texts of two scripts change while they are checked. When the checks have ended, each editor
gets a marker and a timer, and the one that comes first gets the smaller numbers. -/
theorem events_commute_of_trailing :
    let v := Service.ofSettings .default
    let host := Host.sideBySide "let"
    let found : Except Failure (List Record) := .ok [⟨2, 4, "undefined", none, 2⟩]
    let moves : List Scene.Move := [.call .activate, .call (.textChanged .script),
      .call (.textChanged .script2), .finish ⟨1⟩ found, .finish ⟨2⟩ found]
    let s := ((Scene.opening v host).play moves).session
    let x : Event := .runDone ⟨0⟩ ⟨1⟩ found
    let y : Event := .runDone ⟨1⟩ ⟨2⟩ found
    let t := { s with queue := [] }
    let one := v.handle host y (v.handle host x t)
    let other := v.handle host x (v.handle host y t)
    s.queue.map Event.run? = [some (⟨0⟩, ⟨1⟩), some (⟨1⟩, ⟨2⟩)] ∧
      SameButNames t one other ∧ (∃ r, Renames r one other) ∧
      (one.markersOf? ⟨0⟩, one.timer? ⟨0⟩) = ([⟨0⟩], some ⟨0⟩) ∧
      (other.markersOf? ⟨0⟩, other.timer? ⟨0⟩) = ([⟨1⟩], some ⟨1⟩) := by
  intro v host found moves s x y t one other
  have hfiles : ∀ p q, s.entry? x.editor = some p → s.entry? y.editor = some q →
      p.file.same q.file = false := by
    have hp : (s.entry? x.editor).map Entry.file = some .script := by decide +kernel
    have hq : (s.entry? y.editor).map Entry.file = some .script2 := by decide +kernel
    intro p q hx hy
    rw [hx, Option.map_some, Option.some.injEq] at hp
    rw [hy, Option.map_some, Option.some.injEq] at hq
    rw [hp, hq]
    decide +kernel
  obtain ⟨hsame, hrenames⟩ := events_commute v MarkerId.mk (fun _ _ h => congrArg MarkerId.number h)
    host rfl moves (by simp [moves, Scene.Move.Within]) host rfl x y (by decide) [] hfiles
  refine ⟨?_, hsame, hrenames (by decide +kernel) (by decide +kernel), ?_, ?_⟩ <;> decide +kernel

end Session

end Gutter
