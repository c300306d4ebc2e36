import Gutter.Proofs.Session.Found

/-!
# Who has published

Only the active editor publishes its issues, and when another editor becomes active everything that
was published before is withdrawn. The service hears of an editor that loses the focus to none, but
ignores it. So what is published belongs to the editor that was active last.
-/

namespace Gutter

theorem Host.keeps_sideBySide (text : String) :
    (Host.sideBySide text).Keeps fun e => if e = ⟨0⟩ then .script else .script2 := by
  intro e file h
  simp only [Host.sideBySide] at h
  by_cases he : e = ⟨0⟩
  · rw [if_pos he] at h
    simp [he, ← Option.some.inj h]
  · rw [if_neg he] at h
    split at h
    · simp [he, ← Option.some.inj h]
    · cases h

namespace Session

variable {files : EditorId → Path} {recent : Option EditorId} {host : Host} {v : Service}
  {s s' : Session} {e : EditorId}

/-- What is published is published for the document of one editor. -/
structure PublishedBy (files : EditorId → Path) (recent : Option EditorId) (s : Session) :
    Prop where
  filed : s.RemembersOnly fun e file => file.components = (files e).components
  recent : ∀ file, s.published? file ≠ none →
    ∃ a, recent = some a ∧ file.components = (files a).components

/-! ## Steps -/

namespace PublishedBy

variable (h : s.PublishedBy files recent)

include h

theorem of_published (hf : s'.RemembersOnly fun e file => file.components = (files e).components)
    (hp : ∀ file, s'.published? file = s.published? file) : s'.PublishedBy files recent :=
  ⟨hf, fun file hne => h.recent file (hp file ▸ hne)⟩

theorem present {entry : Entry} (ha : ∀ a, host.active = some a → recent = some a)
    (hp : Presents v host e entry s s') : s'.PublishedBy files recent := by
  have hfiled := h.filed.presents hp
  refine ⟨hfiled, fun file hne => ?_⟩
  have hpublished := (hp.screen (Screen.independent_published file)).trans
    (published?_closing v.settings host e entry s.screen file)
  change s'.published? file = _ at hpublished
  rw [hpublished] at hne
  split at hne
  · next hsame =>
    split at hne
    · next hactive =>
      have hself := (hp.found e).trans (if_pos rfl)
      exact ⟨e, ha e hactive, hsame.trans (hfiled e _ _ hself)⟩
    · exact absurd rfl hne
  · exact h.recent file hne

end PublishedBy

/-- The service may be told of any editor that it has the focus; only an active one publishes. -/
theorem publishedBy_refocus (settings : Settings)
    (h : s.RemembersOnly fun e file => file.components = (files e).components)
    (ha : host.active = some e → recent = some e) :
    Session.PublishedBy files recent (s.refocus settings host e) := by
  refine ⟨h.of_found (alike_refocus _ _ e s).found?, fun file hne => ?_⟩
  rw [published?_refocus] at hne
  cases he : s.entry? e with
  | none => simp [he] at hne
  | some entry =>
      rw [he, Option.bind_some] at hne
      split at hne
      · next hactive =>
        exact ⟨e, ha hactive.1, hactive.2.trans (h e _ _ (found?_of_entry he))⟩
      · exact absurd rfl hne

theorem publishedBy_keptByEvents (v : Service) (files : EditorId → Path)
    (recent : Option EditorId) :
    KeptByEvents v (fun host => host.Keeps files ∧ ∀ a, host.active = some a → recent = some a)
      (PublishedBy files recent) :=
  keptByEvents_of_silent
    (fun h hs => h.of_published
      (h.filed.silent (fun _ e file hh hmeets => hh.1 e file hmeets.1) hs)
      fun file => by rw [published?, hs.screen, ← published?])
    (fun h _ _ => h.of_published h.filed
      (published?_draw (by simp [isPublishing_statusStroke]) _))
    (fun h _ _ => h.of_published h.filed (published?_draw (by simp [Stroke.isPublishing]) _))
    fun h hh hp => h.present hh.2 hp

end Session

namespace Scene

open Session

variable {files : EditorId → Path} {recent : Option EditorId} {c : Scene} {m : Move}

/-! ## Along a course -/

def Move.active? : Move → Option EditorId
  | .rearrange host => host.active
  | _ => none

/-- The editor that was active last, where `recent` was before. -/
def lastActive? (recent : Option EditorId) (moves : List Move) : Option EditorId :=
  (moves.filterMap Move.active?).getLast?.or recent

theorem lastActive?_cons (recent : Option EditorId) (m : Move) (moves : List Move) :
    lastActive? recent (m :: moves) = lastActive? (m.active?.or recent) moves := by
  unfold lastActive?
  cases h : m.active? with
  | none => rw [List.filterMap_cons_none h, Option.none_or]
  | some a =>
      rw [List.filterMap_cons_some h, List.getLast?_cons]
      cases (moves.filterMap Move.active?).getLast? <;> rfl

/-- Every change of the active editor is followed at once by a call that tells the service, and the
answers of the host stay within bounds. -/
inductive Followed (H : Host → Prop) : Host → List Move → Prop where
  | nil {host} : Followed H host []
  | move {host m moves} (hm : ∀ host', m ≠ .rearrange host') (h : Followed H host moves) :
      Followed H host (m :: moves)
  | rearrange {host host' moves} (hh : H host') (ha : host'.active = host.active)
      (h : Followed H host' moves) : Followed H host (.rearrange host' :: moves)
  | switch {host host' moves} (hh : H host') (h : Followed H host' moves) :
      Followed H host (.rearrange host' :: .call (.activeChanged host'.active) :: moves)

/-- What is published is published by the editor that was active last, which is the active one if
there is one. -/
structure PublishedBy (files : EditorId → Path) (recent : Option EditorId) (c : Scene) : Prop where
  keeps : c.host.Keeps files
  active : ∀ a, c.host.active = some a → recent = some a
  publishedBy : c.session.PublishedBy files recent
  ended : c.isDisposed = true → ∀ file, c.session.published? file = none

namespace PublishedBy

theorem of_still (h : c.PublishedBy files recent) {s : Session} (hs : c.session.Still s) :
    PublishedBy files recent { c with session := s } := by
  have hpublished : ∀ file, s.published? file = c.session.published? file := by
    intro file
    rw [published?, hs.screen, ← published?]
  exact ⟨h.keeps, h.active,
    h.publishedBy.of_published (h.publishedBy.filed.of_found hs.found) hpublished,
    fun hd file => (hpublished file).trans (h.ended hd file)⟩

theorem perform (h : c.PublishedBy files recent) (hm : ∀ host, m ≠ .rearrange host) :
    (c.perform m).PublishedBy files recent := by
  have hfiled := h.publishedBy.filed
  cases m with
  | rearrange host => exact absurd rfl (hm host)
  | pass ms => exact h.of_still (still_pass ms _)
  | ring token => exact h.of_still (still_ring token _)
  | finish generation result => exact h.of_still (still_finish generation result _)
  | call call =>
      simp only [Scene.perform]
      split
      · exact h
      · next hd =>
        refine ⟨h.keeps, h.active, ?_, fun hd' => absurd hd' hd⟩
        refine (publishedBy_keptByEvents c.service files recent).call ⟨h.keeps, h.active⟩
          h.publishedBy (h.publishedBy.of_published (hfiled.close _) fun file => ?_)
          fun e _ => publishedBy_refocus _ hfiled (h.active e)
        exact screen_close (Screen.independent_published file) _ _
  | dispose =>
      simp only [Scene.perform]
      split
      · exact h
      · have hnone : ∀ file, (Service.dispose c.session).published? file = none := fun file => by
          rw [published?, screen_dispose]
          rfl
        refine ⟨h.keeps, h.active, ⟨fun e file findings he => ?_, fun file hne => ?_⟩,
          fun _ => hnone⟩
        · rw [found?_dispose] at he
          cases he
        · exact absurd (hnone file) hne

variable {host : Host}

theorem rearrange (h : c.PublishedBy files recent) (hk : host.Keeps files)
    (ha : host.active = c.host.active) :
    (c.perform (.rearrange host)).PublishedBy files (host.active.or recent) := by
  have hrecent : host.active.or recent = recent := by
    cases hactive : host.active with
    | none => rfl
    | some a => exact (h.active a (ha.symm.trans hactive)).symm
  rw [hrecent]
  exact ⟨hk, fun a hactive => h.active a (ha.symm.trans hactive), h.publishedBy, h.ended⟩

/-- Another editor gets the focus, or none. -/
theorem switch (h : c.PublishedBy files recent) (hk : host.Keeps files) :
    ((c.perform (.rearrange host)).perform (.call (.activeChanged host.active))).PublishedBy files
      (host.active.or recent) := by
  have hactive : ∀ a, host.active = some a → host.active.or recent = some a := fun a ha => by
    rw [ha, Option.some_or]
  have hfiled := h.publishedBy.filed
  by_cases hd : c.isDisposed = true
  · have hsame : (c.perform (.rearrange host)).perform (.call (.activeChanged host.active)) =
        c.perform (.rearrange host) := if_pos hd
    rw [hsame]
    exact ⟨hk, hactive, ⟨hfiled, fun file hne => absurd (h.ended hd file) hne⟩, h.ended⟩
  · have hopen : (c.perform (.rearrange host)).perform (.call (.activeChanged host.active)) =
        { c with host, session := c.service.activeChanged host host.active c.session } :=
      if_neg hd
    rw [hopen]
    refine ⟨hk, hactive, ?_, fun hd' => absurd hd' hd⟩
    cases ha : host.active with
    | none => exact h.publishedBy
    | some e =>
        exact chain_of_deed ((publishedBy_keptByEvents c.service files (some e)).deed
          ⟨hk, fun a ha' => ha.symm.trans ha'⟩)
          (Service.activeChanged_chain c.service host e c.session)
          (publishedBy_refocus _ hfiled fun _ => rfl)

theorem play {host : Host} {moves : List Move} (hm : Followed (·.Keeps files) host moves)
    (hc : c.host = host) (h : c.PublishedBy files recent) :
    (c.play moves).PublishedBy files (lastActive? recent moves) := by
  induction hm generalizing c recent with
  | nil => exact h
  | @move host m moves hm _ ih =>
      subst hc
      have hnone : m.active? = none := by
        cases m <;> first | rfl | exact absurd rfl (hm _)
      rw [lastActive?_cons, hnone]
      exact ih (host_perform_of_ne hm c) (h.perform hm)
  | @rearrange host host' moves hk ha _ ih =>
      subst hc
      rw [lastActive?_cons]
      exact ih (c := c.perform (.rearrange host')) rfl (h.rearrange hk ha)
  | @switch host host' moves hk _ ih =>
      subst hc
      rw [lastActive?_cons, lastActive?_cons]
      exact ih (c := (c.perform (.rearrange host')).perform _) (host_perform_call _ _) (h.switch hk)

end PublishedBy

/-- Issues are published for one document at most, and it is the one of the editor that was active
last, even if no editor is active now. -/
theorem published_by_lastActive (v : Service) (host : Host) (files : EditorId → Path)
    (moves : List Move) (hk : host.Keeps files) (hm : Followed (·.Keeps files) host moves) :
    (∀ file file', ((opening v host).play moves).session.published? file ≠ none →
      ((opening v host).play moves).session.published? file' ≠ none → file.same file' = true) ∧
    ∀ file, ((opening v host).play moves).session.published? file ≠ none →
      ∃ a, lastActive? host.active moves = some a ∧ file.same (files a) = true := by
  have hinit : (opening v host).PublishedBy files host.active :=
    ⟨hk, fun _ ha => ha,
      ⟨fun e file findings he => by simp [opening, found?] at he,
        fun file hne => absurd rfl hne⟩,
      fun hd => absurd hd (by simp [opening])⟩
  have hlast := (hinit.play hm rfl).publishedBy.recent
  refine ⟨fun file file' hfile hfile' => ?_, fun file hfile => ?_⟩
  · obtain ⟨a, ha, hsame⟩ := hlast file hfile
    obtain ⟨b, hb, hsame'⟩ := hlast file' hfile'
    obtain rfl := Option.some.inj (ha.symm.trans hb)
    exact decide_eq_true (hsame.trans hsame'.symm)
  · obtain ⟨a, ha, hsame⟩ := hlast file hfile
    exact ⟨a, ha, decide_eq_true hsame⟩

/-- The first of two editors publishes, loses the focus, and is checked again; then the second gets
the focus. Only the second has published anything in the end. -/
theorem published_by_lastActive_of_switch :
    let host := Host.sideBySide "let"
    let nobody : Host := { host with active := none }
    let second : Host := { host with active := some ⟨1⟩ }
    let moves : List Move := [.call (.activeChanged (some ⟨0⟩)), .call .activate,
      .finish ⟨1⟩ (.ok [⟨1, 1, "unused", none, 1⟩]), .call .handleNext, .rearrange nobody,
      .call (.activeChanged nobody.active), .finish ⟨2⟩ (.ok [⟨1, 1, "unused", none, 1⟩]),
      .call .handleNext, .rearrange second, .call (.activeChanged second.active),
      .call (.render ⟨0⟩)]
    let s := ((opening (.ofSettings .default) host).play moves).session
    (s.published? .script2).isSome = true ∧ s.published? .script = none := by
  intro host nobody second moves s
  have hkeeps : host.Keeps fun e => if e = ⟨0⟩ then .script else .script2 := Host.keeps_sideBySide _
  have hsome : (s.published? .script2).isSome = true := by decide +kernel
  refine ⟨hsome, ?_⟩
  by_contra hne
  have hsame := (published_by_lastActive (.ofSettings .default) host _ moves hkeeps
    (.move (by simp) <| .move (by simp) <| .move (by simp) <| .move (by simp) <|
      .switch hkeeps <| .move (by simp) <| .move (by simp) <| .switch hkeeps <|
      .move (by simp) .nil)).1 .script .script2 hne (Option.isSome_iff_ne_none.mp hsome)
  exact absurd hsame (by decide)

end Scene

end Gutter
