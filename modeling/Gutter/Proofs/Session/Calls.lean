import Gutter.Proofs.Session.Editor
import Gutter.Proofs.Session.Ledger

/-!
# What the linter is asked

Every run that starts asks the linter once, so the requests can be read off run by run, and with
them what was asked for one editor.
-/

namespace Gutter

theorem Log.Event.about?_of_started? {event : Log.Event} {r : RunName}
    (h : event.started? = some r) : event.about? = some r.1 := by
  cases event with
  | runStart => exact congrArg (Option.map Prod.fst) h
  | _ => cases h

namespace Session

variable {s s' : Session} {e : EditorId}

def calls (s : Session) : List (RunName × Request) := s.ledger.started.zip s.journal.requests

/-- What the linter was asked for an editor. -/
def callsOf (e : EditorId) (s : Session) : List Request :=
  (s.calls.filter (·.1.1 = e)).map Prod.snd

def Asked (s : Session) : Prop := s.ledger.started.length = s.journal.requests.length

theorem started_start (settings : Settings) (target : Target) (text : String) (s : Session) :
    (s.start settings target text).ledger.started =
      s.ledger.started ++ [(target.editor, s.clock.next)] := by
  change (s.start settings target text).record.filterMap _ = s.record.filterMap _ ++ _
  rw [record_start, List.filterMap_append]
  rfl

theorem Asked.calls_start (h : s.Asked) (settings : Settings) (target : Target) (text : String) :
    (s.start settings target text).calls =
      s.calls ++ [((target.editor, s.clock.next), ⟨text, target.kind, settings.locale⟩)] := by
  rw [calls, started_start]
  exact List.zip_append h

theorem Asked.start (h : s.Asked) (settings : Settings) (target : Target) (text : String) :
    (s.start settings target text).Asked := by
  have hrequests : (s.start settings target text).journal.requests =
      s.journal.requests ++ [⟨text, target.kind, settings.locale⟩] := rfl
  rw [Asked, started_start, hrequests, List.length_append, List.length_append, h]
  rfl

/-- What is kept whatever becomes of the calls is kept along every course. -/
theorem kept_of_calls {v : Service} {H : Host → Prop} {lasting : List EditorId}
    {P : Session → Prop}
    (same : ∀ {s s'}, s'.ledger.started = s.ledger.started →
      s'.journal.requests = s.journal.requests → P s → P s')
    (start : ∀ {s} (target text), P s → P (s.start v.settings target text)) :
    Kept v H lasting P := by
  have halike {s s'} (h : Session.Alike s s') : P s → P s' :=
    same (congrArg Ledger.started h.ledger) (congrArg Work.requests h.work)
  have hdeed : ∀ {host s s'}, H host → Deed v host s s' → P s → P s' := by
    intro host s s' _ hd
    cases hd.onChecks with
    | alike ha => exact halike ha
    | soil | meet => exact same rfl rfl
    | @setTimer e =>
        have hsame : SameRuns [] _ _ := sameRuns_setTimer v.settings e s
        exact same hsame.started rfl
    | start => exact start _ _
  have hevents : KeptByEvents v H P :=
    { deed := hdeed
      ignore := fun _ _ => same rfl rfl
      takeTimer := fun _ _ _ => same rfl rfl
      disregard := fun reason hq hw => same (disregards_disregard hq hw reason).started rfl
      abandon := fun hq hw => same (takes_abandon hq hw).started rfl
      store := fun _ hq hw hs => halike (alike_render _ _ _ _) <|
        same (takes_store hq hw _).started rfl hs }
  exact
    { deed := hdeed
      handleNext := hevents.handleNext
      close := fun _ => same rfl rfl
      refocus := fun e _ => halike (alike_refocus _ _ e _)
      blank := same rfl rfl
      pass := fun ms => same rfl rfl
      ring := fun {s} token => by
        refine same (congrArg Ledger.started (ledger_ring token s)) ?_
        rcases ring_cases token s with h | ⟨a, -, -, h⟩ <;> rw [h]
        rfl
      finish := fun {s} generation result => by
        have hsame : SameRuns [] _ _ := sameRuns_finish generation result s
        refine same hsame.started ?_
        rcases finish_cases generation result s with h | ⟨run, -, h⟩ <;> rw [h]
        rfl }

/-- No call is taken back. -/
theorem calls_kept (v : Service) (H : Host → Prop) (old : List (RunName × Request)) :
    Kept v H [] fun s => s.Asked ∧ old <+: s.calls := by
  refine kept_of_calls ?_ ?_
  · rintro s s' hstarted hrequests ⟨ha, hp⟩
    rw [Asked, calls, hstarted, hrequests]
    exact ⟨ha, hp⟩
  · rintro s target text ⟨ha, hp⟩
    rw [ha.calls_start]
    exact ⟨ha.start _ _ _, hp.trans (List.prefix_append _ _)⟩

theorem asked_initial : initial.Asked := rfl

theorem Asked.play {c : Scene} (h : c.session.Asked) (moves : List Scene.Move) :
    (c.play moves).session.Asked :=
  ((calls_kept c.service (fun _ => True) []).play trivial ⟨h, List.nil_prefix⟩
    (fun m _ => m.within_true) (by simp)).1

theorem Asked.map_fst_calls (h : s.Asked) (e : EditorId) :
    (s.calls.filter (·.1.1 = e)).map Prod.fst = s.ledger.started.filter (·.1 = e) := by
  rw [← List.map_fst_zip (Nat.le_of_eq h), List.filter_map]
  rfl

theorem callsOf_eq (h : s.Asked) (h' : s'.Asked) (hp : s.calls <+: s'.calls)
    (hf : s'.ledger.started.filter (·.1 = e) = s.ledger.started.filter (·.1 = e)) :
    s'.callsOf e = s.callsOf e := by
  obtain ⟨more, hmore⟩ := hp
  rw [← h.map_fst_calls, ← h'.map_fst_calls, ← hmore, List.filter_append, List.map_append,
    List.append_right_eq_self, List.map_eq_nil_iff] at hf
  rw [callsOf, callsOf, ← hmore, List.filter_append, hf, List.append_nil]

theorem Unnoticed.started (h : Unnoticed e s s') :
    s'.ledger.started.filter (·.1 = e) = s.ledger.started.filter (·.1 = e) := by
  obtain ⟨news, hr, hn⟩ := h.record
  have hstarted : s'.ledger.started =
      s.ledger.started ++ news.filterMap Log.Event.started? := by
    change s'.record.filterMap _ = s.record.filterMap _ ++ _
    rw [hr, List.filterMap_append]
  rw [hstarted, List.filter_append, List.append_right_eq_self, List.filter_eq_nil_iff]
  intro r hmem
  obtain ⟨event, hevent, hr⟩ := List.mem_filterMap.mp hmem
  have hne : r.1 ≠ e := by
    rintro rfl
    exact hn event hevent (Log.Event.about?_of_started? hr)
  simpa using hne

end Session

end Gutter
