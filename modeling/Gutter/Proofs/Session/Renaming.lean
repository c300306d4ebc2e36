import Gutter.Proofs.Session.Deal
import Mathlib.GroupTheory.Perm.ViaEmbedding

/-!
# Other names

Runs, timers and markers are numbered over the whole session, so the editor that comes first gets
the smaller numbers. Where two editors come in another order, other names turn what is remembered
after one order into what is remembered after the other.
-/

namespace Gutter

/-- Other names for runs, timers and markers. -/
structure Renaming where
  generation : Generation → Generation
  timer : TimerToken → TimerToken
  marker : MarkerId → MarkerId

namespace Renaming

def same : Renaming := ⟨id, id, id⟩

def ofMarker (marker : MarkerId → MarkerId) : Renaming :=
  ⟨fun _ => .initial, fun _ => .initial, marker⟩

/-- No two names become one, and every name is used. -/
structure Bijective (r : Renaming) : Prop where
  generation : Function.Bijective r.generation
  timer : Function.Bijective r.timer
  marker : Function.Bijective r.marker

end Renaming

def Run.rename (r : Renaming) (run : Run) : Run :=
  { run with generation := r.generation run.generation }

def Alarm.rename (r : Renaming) (a : Alarm) : Alarm := { a with token := r.timer a.token }

namespace Entry

/-- The entry with other names. -/
def rename (r : Renaming) (entry : Entry) : Entry :=
  { entry with
    timer := entry.timer.map r.timer
    markers := entry.markers.map r.marker
    generation := r.generation entry.generation }

variable {r r' : Renaming} {entry old : Entry}

@[simp] theorem rename_same : rename .same = id := by
  funext entry
  simp [rename, Renaming.same]

theorem rename_congr (hg : r.generation entry.generation = r'.generation entry.generation)
    (ht : ∀ k, entry.timer = some k → r.timer k = r'.timer k)
    (hm : ∀ m ∈ entry.markers, r.marker m = r'.marker m) : entry.rename r = entry.rename r' := by
  have htimer : entry.timer.map r.timer = entry.timer.map r'.timer :=
    Option.map_congr fun k hk => ht k hk
  rw [rename, rename, hg, htimer, List.map_congr_left hm]

/-- Without new names there is nothing else to rename than before. -/
theorem ComesOf.rename_eq (h : old.ComesOf entry) (hr : old.rename r = old.rename r') :
    entry.rename r = entry.rename r' := by
  simp only [rename, Entry.mk.injEq, true_and] at hr
  obtain ⟨htimer, hmarkers, hgeneration⟩ := hr
  refine rename_congr (h.generation ▸ hgeneration) (fun k hk => ?_) ?_
  · rw [h.timer k hk] at htimer
    exact Option.some.inj htimer
  · rw [h.markers]
    exact List.map_inj_left.mp hmarkers

/-- Where two entries only differ in numbers and in the names of markers, other names turn one into
the other. -/
theorem exists_rename {entry' : Entry} {μ : Equiv.Perm MarkerId}
    (h : entry'.rename (.ofMarker id) = entry.rename (.ofMarker μ)) :
    ∃ r : Renaming, r.Bijective ∧ r.marker = μ ∧ entry' = entry.rename r := by
  obtain ⟨file, timer, isRunning, needsCheck, findings, markers, generation⟩ := entry
  obtain ⟨file', timer', isRunning', needsCheck', findings', markers', generation'⟩ := entry'
  simp only [rename, Renaming.ofMarker, Entry.mk.injEq, List.map_id] at h
  obtain ⟨rfl, htimer, rfl, rfl, rfl, rfl, -⟩ := h
  have hτ : ∃ τ : Equiv.Perm TimerToken, timer' = timer.map τ := by
    cases timer with
    | none => exact ⟨1, by simpa using htimer⟩
    | some k =>
        obtain ⟨k', rfl, -⟩ := Option.map_eq_some_iff.mp htimer
        exact ⟨Equiv.swap k k', congrArg some (Equiv.swap_apply_left k k').symm⟩
  obtain ⟨τ, rfl⟩ := hτ
  refine ⟨⟨Equiv.swap generation generation', τ, μ⟩,
    ⟨Equiv.bijective _, τ.bijective, μ.bijective⟩, rfl, ?_⟩
  simp [rename]

end Entry

/-! ## What comes of an event -/

namespace Deal

variable {d : Deal} {r r' : Renaming} {host : Host} {e : EditorId} {s s' : Session} {base : Entry}

/-- After the renamings the names that one session has for what comes of an event are those that the
other session has. -/
structure Matches (host : Host) (e : EditorId) (d : Deal) (s s' : Session) (r r' : Renaming) :
    Prop where
  generation : d.asks.isSome = true → r.generation s.clock.next = r'.generation s'.clock.next
  timer : d.sets = true → r.timer s.nextTimer = r'.timer s'.nextTimer
  marker : (s.nextNames host (d.gutter e).length).map r.marker =
    (s'.nextNames host (d.gutter e).length).map r'.marker

theorem Matches.rename_named (h : d.Matches host e s s' r r')
    (hbase : base.rename r = base.rename r') :
    (d.named host e s base).rename r = (d.named host e s' base).rename r' := by
  simp only [Entry.rename, Entry.mk.injEq, true_and] at hbase
  obtain ⟨htimer, hmarkers, hgeneration⟩ := hbase
  simp only [named, Entry.rename, Entry.mk.injEq, true_and]
  refine ⟨?_, ?_, ?_⟩
  · by_cases hsets : d.sets = true
    · rw [if_pos hsets, if_pos hsets, Option.map_some, Option.map_some, h.timer hsets]
    · rw [if_neg hsets, if_neg hsets, htimer]
  · split
    · exact h.marker
    · exact hmarkers
  · by_cases hasks : d.asks.isSome = true
    · rw [if_pos hasks, if_pos hasks, h.generation hasks]
    · rw [if_neg hasks, if_neg hasks, hgeneration]

theorem Matches.map_run (h : d.Matches host e s s' r .same) :
    (d.run e s.clock.next).map (Run.rename r) = d.run e s'.clock.next := by
  unfold run
  cases hasks : d.asks with
  | none => rfl
  | some request => exact congrArg (fun g => [Run.mk e g request]) (h.generation (by simp [hasks]))

theorem Matches.map_alarm (h : d.Matches host e s s' r .same) (settings : Settings) (now : Nat) :
    (d.alarm settings e s.nextTimer now).map (Alarm.rename r) =
      d.alarm settings e s'.nextTimer now := by
  unfold alarm
  split
  · next hsets => exact congrArg (fun token => [Alarm.mk token e _]) (h.timer hsets)
  · rfl

end Deal

/-- What is remembered of the editor is the same after the renamings. -/
theorem Session.Dealt.rename_entry {settings : Settings} {host : Host} {e : EditorId} {d : Deal}
    {r r' : Renaming} {s s' t t' : Session} {o : Option Entry} (h : Dealt settings host e d s s')
    (h' : Dealt settings host e d t t') (hm : d.Matches host e s t r r') (hof : d.Of o)
    (hold : ∀ entry, o = some entry → entry.rename r = entry.rename r') :
    (t'.entry? e).map (Entry.rename r') = (s'.entry? e).map (Entry.rename r) := by
  rw [h'.entry, h.entry, Option.map_map, Option.map_map]
  refine Option.map_congr fun base hb => ?_
  obtain ⟨old, ho, hbase⟩ := hof.base base hb
  exact (hm.rename_named (hbase.rename_eq (hold old ho))).symm

namespace Renaming

/-! ## Two readers of a counter -/

section Exchange

variable {α : Type} [DecidableEq α] {p q : Bool} {next after x : α}

/-- Two editors read a counter, each only if it needs to. What they read in one order becomes what
they read in the other. -/
def exchange (p q : Bool) (next after : α) : Equiv.Perm α :=
  if p && q then Equiv.swap next after else 1

theorem exchange_first (hp : p = true) :
    exchange p q next after next = if q then after else next := by
  subst hp
  cases q
  · rfl
  · exact Equiv.swap_apply_left next after

theorem exchange_second (hq : q = true) :
    exchange p q next after (if p then after else next) = next := by
  subst hq
  cases p
  · rfl
  · exact Equiv.swap_apply_right next after

theorem exchange_of_ne (hn : x ≠ next) (ha : x ≠ after) : exchange p q next after x = x := by
  rw [exchange]
  split
  · exact Equiv.swap_apply_of_ne_of_ne hn ha
  · rfl

end Exchange

/-! ## Two makers of markers -/

variable {n p q i : Nat}

/-- Of the numbers from `n` on, the first `p` change places with the next `q`. -/
def rotate (n p q : Nat) : Equiv.Perm Nat where
  toFun i := if i < n then i else if i < n + p then i + q else if i < n + p + q then i - p else i
  invFun i := if i < n then i else if i < n + q then i + p else if i < n + q + p then i - q else i
  left_inv i := by grind
  right_inv i := by grind

theorem rotate_of_lt (h : i < n) : rotate n p q i = i := if_pos h

theorem map_rotate_first : (List.range' n p).map (rotate n p q) = List.range' (n + q) p := by
  refine List.ext_getElem (by simp) fun i hi _ => ?_
  have hi : i < p := by simpa using hi
  simp only [List.getElem_map, List.getElem_range', rotate, Equiv.coe_fn_mk]
  grind

theorem map_rotate_second : (List.range' (n + p) q).map (rotate n p q) = List.range' n q := by
  refine List.ext_getElem (by simp) fun i hi _ => ?_
  have hi : i < q := by simpa using hi
  simp only [List.getElem_map, List.getElem_range', rotate, Equiv.coe_fn_mk]
  grind

end Renaming

end Gutter
