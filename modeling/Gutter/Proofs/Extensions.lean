import Gutter.Extensions
import Gutter.Proofs.Path
import Gutter.Proofs.Table
import Mathlib.Data.List.Induction
import Mathlib.Data.List.TakeWhile

/-!
# The kind of a file

Extensions are registered one after the other, and a later one takes the place of an earlier one.
What counts in the end is the last kind that lists an extension.
-/

namespace Gutter

/-! ## Listed extensions -/

namespace Settings

/-- An extension is listed for a kind when an entry is this extension with dots in front. -/
def Lists (s : Settings) (kind : DocKind) (ext : String) : Prop :=
  ∃ entry ∈ s.likeExt kind, ∃ n, entry.toList = List.replicate n '.' ++ ext.toList

/-- An entry that is nothing but dots, or has a dot after its leading dots. -/
def IsIdle (entry : String) : Prop :=
  (∀ c ∈ entry.toList, c = '.') ∨ '.' ∈ entry.toList.dropWhile (· = '.')

instance : DecidablePred IsIdle := fun entry =>
  inferInstanceAs (Decidable ((∀ c ∈ entry.toList, c = '.') ∨ _))

/-- The settings without the idle entries of their lists. -/
def withoutIdle (s : Settings) : Settings :=
  { s with
    jsLikeExt := s.jsLikeExt.filter (¬ IsIdle ·)
    cssLikeExt := s.cssLikeExt.filter (¬ IsIdle ·)
    htmlLikeExt := s.htmlLikeExt.filter (¬ IsIdle ·) }

theorem likeExt_withoutIdle (s : Settings) (kind : DocKind) :
    s.withoutIdle.likeExt kind = (s.likeExt kind).filter (¬ IsIdle ·) := by
  cases kind <;> rfl

end Settings

namespace Extensions

open Settings

variable {x : Extensions} {s : Settings} {kind t : DocKind} {entry ext : String}

/-- What is left of an entry without the dots in front of it. -/
theorem bare_eq_iff (hdot : '.' ∉ ext.toList) :
    bare entry = ext ↔ ∃ n, entry.toList = List.replicate n '.' ++ ext.toList := by
  rw [bare, ← String.toList_inj, String.toList_ofList]
  constructor
  · intro h
    refine ⟨(entry.toList.takeWhile (· = '.')).length, ?_⟩
    have hdots : entry.toList.takeWhile (· = '.') =
        List.replicate (entry.toList.takeWhile (· = '.')).length '.' :=
      List.eq_replicate_iff.mpr ⟨rfl, fun c hc => by simpa using List.mem_takeWhile_imp hc⟩
    rw [← hdots, ← h, List.takeWhile_append_dropWhile]
  · rintro ⟨n, h⟩
    have hext : ext.toList.dropWhile (· = '.') = ext.toList := by
      rw [List.dropWhile_eq_self_iff]
      intro hl h
      exact hdot (of_decide_eq_true h ▸ List.getElem_mem hl)
    rw [h, List.dropWhile_append_of_pos fun c hc => by simpa using List.eq_of_mem_replicate hc,
      hext]

/-! ## Registering -/

theorem kind?_register (hext : ext ≠ "") : (x.register entry kind).kind? ext =
    if bare entry = ext then some kind else x.kind? ext := by
  rw [register]
  split
  · next h => rw [if_neg fun he => hext (he.symm.trans h)]
  · rw [kind?, Table.get?_insert]
    exact if_congr eq_comm rfl rfl

/-- A list registers the extensions that are in it. -/
theorem kind?_registerAll (hext : ext ≠ "") (entries : List String) :
    (x.registerAll kind entries).kind? ext =
      if ∃ entry ∈ entries, bare entry = ext then some kind else x.kind? ext := by
  induction entries generalizing x with
  | nil => simp [registerAll]
  | cons entry entries ih =>
      have hstep : x.registerAll kind (entry :: entries) =
          (x.register entry kind).registerAll kind entries := rfl
      rw [hstep, ih, kind?_register hext]
      by_cases hrest : ∃ entry ∈ entries, bare entry = ext
      · rw [if_pos hrest, if_pos]
        exact hrest.imp fun _ h => ⟨List.mem_cons_of_mem _ h.1, h.2⟩
      · rw [if_neg hrest]
        refine if_congr ?_ rfl rfl
        rw [List.exists_mem_cons_iff, or_iff_left hrest]

/-- A kind is the last of some kinds to list an extension. -/
def LastLists (s : Settings) (kinds : List DocKind) (t : DocKind) (ext : String) : Prop :=
  ∃ earlier later, kinds = earlier ++ t :: later ∧ s.Lists t ext ∧
    ∀ kind ∈ later, ¬ s.Lists kind ext

theorem lastLists_concat {kinds : List DocKind} : LastLists s (kinds ++ [kind]) t ext ↔
    (s.Lists kind ext ∧ t = kind) ∨ (¬ s.Lists kind ext ∧ LastLists s kinds t ext) := by
  constructor
  · rintro ⟨earlier, later, hkinds, ht, hlater⟩
    obtain rfl | ⟨later, last, rfl⟩ := List.eq_nil_or_concat later
    · obtain ⟨-, hlast⟩ := List.append_inj' hkinds rfl
      cases hlast
      exact .inl ⟨ht, rfl⟩
    · rw [List.concat_eq_append, ← List.cons_append, ← List.append_assoc] at hkinds
      obtain ⟨rfl, hlast⟩ := List.append_inj' hkinds rfl
      cases hlast
      exact .inr ⟨hlater kind (by simp), earlier, later, rfl, ht,
        fun k hk => hlater k (by simp [hk])⟩
  · rintro (⟨hkind, rfl⟩ | ⟨hkind, earlier, later, rfl, ht, hlater⟩)
    · exact ⟨kinds, [], rfl, hkind, List.forall_mem_nil _⟩
    · refine ⟨earlier, later ++ [kind], by simp, ht, ?_⟩
      simpa [or_imp, forall_and] using ⟨hlater, hkind⟩

theorem kind?_ofSettings (hext : ext ≠ "") (hdot : '.' ∉ ext.toList) :
    (ofSettings s).kind? ext = some t ↔ LastLists s DocKind.all t ext := by
  rw [ofSettings]
  -- the kinds that are registered last take the place of the others
  induction DocKind.all using List.reverseRecOn generalizing t with
  | nil =>
      constructor
      · nofun
      · rintro ⟨earlier, later, hkinds, -⟩
        exact absurd hkinds.symm (by simp)
  | append_singleton kinds kind ih =>
      have hlists : (∃ entry ∈ s.likeExt kind, bare entry = ext) ↔ s.Lists kind ext :=
        exists_congr fun entry => and_congr_right fun _ => bare_eq_iff hdot
      rw [List.foldl_append, List.foldl_cons, List.foldl_nil, kind?_registerAll hext,
        lastLists_concat]
      by_cases h : s.Lists kind ext
      · rw [if_pos (hlists.mpr h)]
        simp [h, eq_comm]
      · rw [if_neg (mt hlists.mp h), ih]
        simp [h]

/-! ## Idle entries -/

theorem not_isIdle_of_toList_eq {n : Nat} (hext : ext ≠ "") (hdot : '.' ∉ ext.toList)
    (h : entry.toList = List.replicate n '.' ++ ext.toList) : ¬ IsIdle entry := by
  have hbare : entry.toList.dropWhile (· = '.') = ext.toList := by
    rw [← (bare_eq_iff hdot).mpr ⟨n, h⟩, bare, String.toList_ofList]
  rintro (hall | hmem)
  · obtain ⟨c, cs, hc⟩ := List.exists_cons_of_ne_nil (mt String.toList_eq_nil_iff.mp hext)
    have hfirst : c ∈ ext.toList := hc ▸ List.mem_cons_self
    exact hdot (hall c (h ▸ List.mem_append_right _ hfirst) ▸ hfirst)
  · exact hdot (hbare ▸ hmem)

theorem lists_withoutIdle (hext : ext ≠ "") (hdot : '.' ∉ ext.toList) :
    s.withoutIdle.Lists kind ext ↔ s.Lists kind ext := by
  rw [Settings.Lists, Settings.Lists, likeExt_withoutIdle]
  constructor
  · rintro ⟨entry, hmem, h⟩
    exact ⟨entry, List.mem_of_mem_filter hmem, h⟩
  · rintro ⟨entry, hmem, n, h⟩
    refine ⟨entry, List.mem_filter.mpr ⟨hmem, ?_⟩, n, h⟩
    exact decide_eq_true (not_isIdle_of_toList_eq hext hdot h)

/-! ## The kind of a path -/

theorem kindOf?_eq_some_iff {p : Path} : (ofSettings s).kindOf? p = some t ↔
    ∃ stem ext : String, p.IsNamed (Text.Utf8.encode (stem ++ "." ++ ext)) ∧ ext ≠ "" ∧
      '.' ∉ ext.toList ∧ LastLists s DocKind.all t ext := by
  rw [kindOf?, Option.bind_eq_some_iff]
  constructor
  · rintro ⟨ext, hext, hkind⟩
    obtain ⟨⟨stem, hnamed⟩, hne, hdot⟩ := Path.extension?_eq_some_iff.mp hext
    exact ⟨stem, ext, hnamed, hne, hdot, (kind?_ofSettings hne hdot).mp hkind⟩
  · rintro ⟨stem, ext, hnamed, hne, hdot, hlast⟩
    exact ⟨ext, Path.extension?_eq_some_iff.mpr ⟨⟨stem, hnamed⟩, hne, hdot⟩,
      (kind?_ofSettings hne hdot).mpr hlast⟩

/-- The kind of a path is the last that lists its extension, and idle entries change the kind of no
path. -/
theorem kindOf?_exact (s : Settings) (p : Path) :
    (∀ t, (ofSettings s).kindOf? p = some t ↔
      ∃ stem ext : String, p.IsNamed (Text.Utf8.encode (stem ++ "." ++ ext)) ∧ ext ≠ "" ∧
        '.' ∉ ext.toList ∧ LastLists s DocKind.all t ext) ∧
    (ofSettings s.withoutIdle).kindOf? p = (ofSettings s).kindOf? p := by
  refine ⟨fun t => kindOf?_eq_some_iff, Option.ext fun t => ?_⟩
  have hlast : ∀ ext : String, ext ≠ "" → '.' ∉ ext.toList →
      (LastLists s.withoutIdle DocKind.all t ext ↔ LastLists s DocKind.all t ext) := by
    intro ext hne hdot
    simp only [LastLists, lists_withoutIdle hne hdot]
  rw [kindOf?_eq_some_iff, kindOf?_eq_some_iff]
  refine exists_congr fun stem => exists_congr fun ext => and_congr_right fun _ => ?_
  exact and_congr_right fun hne => and_congr_right fun hdot => hlast ext hne hdot

/-- The last kind wins, whatever dots its entry has, and a name may begin with its only dot. -/
example : (ofSettings { Settings.default with
      jsLikeExt := ["tpl"], htmlLikeExt := ["..tpl", "a.js", "."] }).kindOf?
    (.ofString "dir.css/.tpl/./") = some .html := by
  decide +kernel

end Extensions

end Gutter
