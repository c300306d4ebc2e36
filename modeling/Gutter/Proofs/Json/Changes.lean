import Gutter.Proofs.Json.Shape
import Mathlib.Data.List.Find
import Mathlib.Data.List.Forall2
import Mathlib.Data.List.Nodup

/-!
# Changes to a record

An object that describes a record tells some changes to its initial state, one for each field that
is present. The order of the members does not matter, nor do members that are no fields, and no
field may be told twice.
-/

namespace Gutter.Json

open Value

variable {σ : Type} {n depth : Nat}

/-! ## Skimming -/

mutual

/-- What is spelled can be passed over, however deep its brackets are nested. -/
theorem Spells.skim {d : Draft} {t : List UInt8} : Spells d t → d.skim = .ok ()
  | .word _ => rfl
  | .positive _ _ _ => rfl
  | .negative _ _ _ => rfl
  | .string _ => rfl
  | .emptyList _ => rfl
  | .list ht => by
      rw [Draft.skim, ht.skimItems]
      rfl
  | .emptyObject _ => rfl
  | .object ht => by
      rw [Draft.skim, ht.skimMembers]
      rfl

theorem SpellsPadded.skim {d : Draft} {t : List UInt8} : SpellsPadded d t → d.skim = .ok ()
  | .gaps _ ht _ => ht.skim

theorem SpellsItems.skimItems {ds : List Draft} {t : List UInt8} :
    SpellsItems ds t → Draft.skimItems ds = .ok ()
  | .last ht => by
      rw [Draft.skimItems, ht.skim]
      rfl
  | .more ht hu => by
      rw [Draft.skimItems, ht.skim]
      exact hu.skimItems

theorem SpellsMembers.skimMembers {ms : List (Draft × Draft)} {t : List UInt8} :
    SpellsMembers ms t → Draft.skimMembers ms = .ok ()
  | .last (.string _ _ _) ht => by
      rw [Draft.skimMembers, Draft.skimKey, ht.skim]
      rfl
  | .more (.string _ _ _) ht hu => by
      rw [Draft.skimMembers, Draft.skimKey, ht.skim]
      exact hu.skimMembers

end

theorem skim_of_mem_items {ds : List Draft} (h : Draft.skimItems ds = .ok ()) :
    ∀ d ∈ ds, d.skim = .ok () := by
  induction ds with
  | nil => exact List.forall_mem_nil _
  | cons d ds ih =>
      obtain ⟨_, hd, hds⟩ := bind_eq_ok_iff.mp h
      exact List.forall_mem_cons.mpr ⟨hd, ih hds⟩

theorem skim_of_mem_members {ms : List (Draft × Draft)} (h : Draft.skimMembers ms = .ok ()) :
    ∀ m ∈ ms, m.2.skim = .ok () := by
  induction ms with
  | nil => exact List.forall_mem_nil _
  | cons m ms ih =>
      obtain ⟨_, -, h⟩ := bind_eq_ok_iff.mp h
      obtain ⟨_, hm, hms⟩ := bind_eq_ok_iff.mp h
      exact List.forall_mem_cons.mpr ⟨hm, ih hms⟩

theorem skim_of_mem_object {ms : List (Draft × Draft)} {close : Close}
    (h : (Draft.object ms close).skim = .ok ()) : ∀ m ∈ ms, m.2.skim = .ok () := by
  obtain ⟨_, hms, -⟩ := bind_eq_ok_iff.mp h
  exact skim_of_mem_members hms

theorem skim_of_mem_list {ds : List Draft} {close : Close}
    (h : (Draft.list ds close).skim = .ok ()) : ∀ d ∈ ds, d.skim = .ok () := by
  obtain ⟨_, hds, -⟩ := bind_eq_ok_iff.mp h
  exact skim_of_mem_items hds

/-! ## Changes -/

/-- A change of one field of a record, with the drafts that tell it. -/
structure Change (σ : Type) where
  key : String
  IsTold : Draft → Prop
  apply : σ → σ

namespace Change

def of (key : String) (v : Value) (apply : σ → σ) : Change σ := ⟨key, (· = v.draft), apply⟩

def applyAll (cs : List (Change σ)) (r : σ) : σ := cs.foldl (fun r c => c.apply r) r

/-- The members of an object, in whatever order, tell each of some changes once, and the others mean
no key. -/
def AreTold (means : String → String) (keys : List String) (cs : List (Change σ))
    (ms : List (Draft × Draft)) : Prop :=
  ∃ own extra, ms.Perm (own ++ extra) ∧
    List.Forall₂ (fun c m => ∃ name, m.1.key = .ok name ∧ means name = c.key ∧ c.IsTold m.2)
      cs own ∧
    ∀ m ∈ extra, ∃ name, m.1.key = .ok name ∧ means name ∉ keys

def Fits (s : Shape σ) (n : Nat) (c : Change σ) : Prop :=
  ∃ f, s.fields.find? (fun f => f.name = c.key) = some f ∧
    ∀ d, c.IsTold d → d.skim = .ok () → Accepts f.set n d c.apply

theorem fits_of {s : Shape σ} {f : Field σ} {key : String} {v : Value} {u : σ → σ}
    (hfind : s.fields.find? (fun f => f.name = key) = some f) (h : Reads f.set n v u) :
    (of key v u).Fits s n := by
  refine ⟨f, hfind, fun d hd _ => ?_⟩
  cases hd
  exact h

end Change

/-- Two members of an object mean the same key. -/
def Repeats (means : String → String) (keys : List String) (ms : List (Draft × Draft)) : Prop :=
  ∃ m m', [m, m'].Sublist ms ∧ ∃ name name', m.1.key = .ok name ∧ m'.1.key = .ok name' ∧
    means name = means name' ∧ means name ∈ keys

namespace Shape

open Change

variable {s : Shape σ} {means : String → String} {keys : List String} {cs : List (Change σ)}
  {ms ms' own extra : List (Draft × Draft)} {ds : List Draft}

def Calls (s : Shape σ) (means : String → String) : Prop :=
  ∀ name, s.fields.find? (fun f => f.answers name) = s.fields.find? (fun f => f.name = means name)

theorem answers_iff {f : Field σ} {name : String} :
    f.answers name = true ↔ f.name = name ∨ f.alias? = some name := by
  rw [Field.answers, Bool.or_eq_true, decide_eq_true_iff, decide_eq_true_iff, eq_comm]

theorem calls_of (h : ∀ f ∈ s.fields, ∀ name, f.answers name = true ↔ f.name = means name) :
    s.Calls means := by
  intro name
  refine List.find?_congr fun f hf => ?_
  rw [Bool.eq_iff_iff, decide_eq_true_iff]
  exact h f hf name

theorem find?_eq_none_of_notMem {key : String} (h : key ∉ s.fields.map Field.name) :
    s.fields.find? (fun f => f.name = key) = none := by
  rw [List.find?_eq_none]
  intro f hf hname
  exact h (of_decide_eq_true hname ▸ List.mem_map_of_mem hf)

/-! ## Objects -/

theorem fills_extra (hcalls : s.Calls means)
    (hextra : ∀ m ∈ extra, ∃ name, m.1.key = .ok name ∧ means name ∉ s.fields.map Field.name)
    (hskim : ∀ m ∈ extra, m.2.skim = .ok ()) : s.Fills n extra [] [] := by
  induction extra with
  | nil => exact .nil
  | cons m extra ih =>
      obtain ⟨⟨name, hkey, hname⟩, hextra⟩ := List.forall_mem_cons.mp hextra
      obtain ⟨hm, hskim⟩ := List.forall_mem_cons.mp hskim
      exact .other hkey ((hcalls name).trans (find?_eq_none_of_notMem hname)) hm (ih hextra hskim)

theorem fills_append (hcalls : s.Calls means) (hfits : ∀ c ∈ cs, c.Fits s n)
    (hown : List.Forall₂
      (fun c m => ∃ name, m.1.key = .ok name ∧ means name = c.key ∧ c.IsTold m.2) cs own)
    (hskim : ∀ m ∈ own, m.2.skim = .ok ()) (hextra : s.Fills n extra [] []) :
    s.Fills n (own ++ extra) (cs.map Change.key) (cs.map Change.apply) := by
  induction hown with
  | nil => exact hextra
  | @cons c m cs own hm _ ih =>
      obtain ⟨name, hkey, hname, htold⟩ := hm
      obtain ⟨⟨f, hf, hset⟩, hfits⟩ := List.forall_mem_cons.mp hfits
      obtain ⟨hm, hskim⟩ := List.forall_mem_cons.mp hskim
      have hfkey : f.name = c.key := by simpa using List.find?_some hf
      have hfind : s.fields.find? (fun f => f.answers name) = some f := by
        rw [hcalls name, hname, hf]
      have hfills := Fills.field hkey hfind (hset m.2 htold hm) (ih hfits hskim)
      rwa [hfkey] at hfills

/-- Changes of different fields can be made in any order. -/
theorem foldl_perm {updates : List (σ → σ)} (hkeys : (cs.map Change.key).Nodup)
    (hcomm : ∀ c ∈ cs, ∀ c' ∈ cs, c.key ≠ c'.key →
      ∀ r, c.apply (c'.apply r) = c'.apply (c.apply r))
    (hperm : (cs.map Change.apply).Perm updates) (r : σ) :
    updates.foldl (fun r u => u r) r = applyAll cs r := by
  rw [← hperm.foldl_eq' ?_ r, List.foldl_map]
  · rfl
  · simp only [List.forall_mem_map]
    intro c hc c' hc' r
    by_cases hkey : c.key = c'.key
    · rw [List.inj_on_of_nodup_map hkeys hc hc' hkey]
    · exact (hcomm c hc c' hc' hkey r).symm

/-- A record is read from an object as its initial state with the changes that the object tells. -/
theorem accepts_of_areTold (hcalls : s.Calls means) (hfits : ∀ c ∈ cs, c.Fits s n)
    (hcomm : ∀ c ∈ cs, ∀ c' ∈ cs, c.key ≠ c'.key →
      ∀ r, c.apply (c'.apply r) = c'.apply (c.apply r))
    (hkeys : (cs.map Change.key).Nodup)
    (hneeded : ∀ f ∈ s.fields, f.absence = .refused → f.name ∈ cs.map Change.key)
    (htold : AreTold means (s.fields.map Field.name) cs ms)
    (hskim : ∀ m ∈ ms, m.2.skim = .ok ()) :
    Accepts s.reader (n + 1) (.object ms .closed) (applyAll cs s.initial) := by
  obtain ⟨own, extra, hperm, hown, hextra⟩ := htold
  have hskim' : ∀ m ∈ own ++ extra, m.2.skim = .ok () := fun m hm =>
    hskim m (hperm.mem_iff.mpr hm)
  obtain ⟨hskimOwn, hskimExtra⟩ := List.forall_mem_append.mp hskim'
  have hfills := fills_append hcalls hfits hown hskimOwn (fills_extra hcalls hextra hskimExtra)
  obtain ⟨names, updates, hfills, hnames, hupdates⟩ := hfills.perm hperm.symm
  refine accepts_of_fills hfills (hnames.nodup_iff.mp hkeys) ?_
    (foldl_perm hkeys hcomm hupdates s.initial)
  exact fun f hf habsence => hnames.mem_iff.mp (hneeded f hf habsence)

/-! ## Lists -/

theorem readRow_nil {fs : List (Field σ)} (h : ∀ f ∈ fs, f.absence = .default) (index : Nat)
    (r : σ) : s.readRow depth .closed fs index [] r = .ok r := by
  induction fs generalizing index with
  | nil => rfl
  | cons f fs ih =>
      obtain ⟨hf, hfs⟩ := List.forall_mem_cons.mp h
      rw [readRow, if_pos hf]
      exact ih hfs index

theorem readRow_of_isTold {fs : List (Field σ)} (hnames : (s.fields.map Field.name).Nodup)
    (hfs : fs ⊆ s.fields) (hfits : ∀ c ∈ cs, c.Fits s n) (hdepth : n < depth)
    (hfirst : cs.map Change.key <+: fs.map Field.name)
    (hdefault : ∀ f ∈ fs.drop cs.length, f.absence = .default)
    (htold : List.Forall₂ Change.IsTold cs ds) (hskim : ∀ d ∈ ds, d.skim = .ok ()) (index : Nat)
    (r : σ) : s.readRow depth .closed fs index ds r = .ok (applyAll cs r) := by
  induction htold generalizing fs index r with
  | nil => exact readRow_nil hdefault index r
  | @cons c d cs ds hd _ ih =>
      cases fs with
      | nil => exact absurd (List.prefix_nil.mp hfirst) (List.cons_ne_nil _ _)
      | cons f fs =>
          obtain ⟨hname, hrest⟩ := List.cons_prefix_cons.mp hfirst
          obtain ⟨hf, hsub⟩ := List.cons_subset.mp hfs
          obtain ⟨⟨f', hfind, hset⟩, hfits⟩ := List.forall_mem_cons.mp hfits
          obtain ⟨hskim, hskims⟩ := List.forall_mem_cons.mp hskim
          have hname' : f'.name = c.key := by simpa using List.find?_some hfind
          obtain rfl : f' = f := List.inj_on_of_nodup_map hnames
            (List.mem_of_find?_eq_some hfind) hf (hname'.trans hname)
          rw [readRow, hset d hd hskim hdepth]
          exact ih hsub hfits hrest hdefault hskims (index + 1) (c.apply r)

/-- A record is read from a list that tells changes of its first fields. -/
theorem accepts_list (hnames : (s.fields.map Field.name).Nodup) (hfits : ∀ c ∈ cs, c.Fits s n)
    (hfirst : cs.map Change.key <+: s.fields.map Field.name)
    (hdefault : ∀ f ∈ s.fields.drop cs.length, f.absence = .default)
    (htold : List.Forall₂ Change.IsTold cs ds) (hskim : ∀ d ∈ ds, d.skim = .ok ()) :
    Accepts s.reader (n + 1) (.list ds .closed) (applyAll cs s.initial) := by
  intro depth hdepth
  obtain ⟨henter, hlt⟩ := enter_of_lt hdepth
  simp only [reader, henter, lift_ok, bind, Except.bind]
  exact readRow_of_isTold hnames (List.Subset.refl _) hfits hlt hfirst hdefault htold hskim 0 _

/-! ## Keys that mean the same -/

/-- What reading one more member means. -/
theorem readMembers_cons {m : Draft × Draft} {seen : List String} {r : σ}
    {x : List String × σ} (h : s.readMembers depth (m :: ms) seen r = .ok x) :
    ∃ name, m.1.key = .ok name ∧
      match s.fields.find? (fun f => f.answers name) with
      | none => s.readMembers depth ms seen r = .ok x
      | some f => f.name ∉ seen ∧ ∃ r', s.readMembers depth ms (f.name :: seen) r' = .ok x := by
  obtain ⟨name, hkey, h⟩ := bind_eq_ok_iff.mp h
  have hkey : m.1.key = .ok name := by
    cases hk : m.1.key with
    | error e => simp [hk, lift, Except.mapError] at hkey
    | ok k => simpa [hk, lift_ok] using hkey
  refine ⟨name, hkey, ?_⟩
  cases hfind : s.fields.find? (fun f => f.answers name) with
  | none =>
      rw [hfind] at h
      obtain ⟨_, -, h⟩ := bind_eq_ok_iff.mp h
      exact h
  | some f =>
      simp only [hfind] at h
      split at h
      · cases h
      · next hseen =>
          obtain ⟨u, -, h⟩ := bind_eq_ok_iff.mp h
          exact ⟨hseen, u r, h⟩

/-- A field that was seen is not read again. -/
theorem notMem_seen_of_readMembers {seen : List String} {r : σ} {x : List String × σ}
    (h : s.readMembers depth ms seen r = .ok x) {m : Draft × Draft} (hm : m ∈ ms)
    {name : String} (hkey : m.1.key = .ok name) {f : Field σ}
    (hf : s.fields.find? (fun f => f.answers name) = some f) : f.name ∉ seen := by
  induction ms generalizing seen r with
  | nil => exact absurd hm List.not_mem_nil
  | cons m' ms ih =>
      obtain ⟨name', hkey', h⟩ := readMembers_cons h
      rcases List.mem_cons.mp hm with rfl | hm
      · obtain rfl : name = name' := Except.ok.inj (hkey.symm.trans hkey')
        rw [hf] at h
        exact h.1
      · split at h
        · exact ih h hm
        · obtain ⟨-, r', h⟩ := h
          exact fun hseen => ih h hm (List.mem_cons_of_mem _ hseen)

/-- No two members that are read are the same field. -/
theorem pairwise_of_readMembers {seen : List String} {r : σ} {x : List String × σ}
    (h : s.readMembers depth ms seen r = .ok x) :
    ms.Pairwise fun m m' => ∀ name name' f, m.1.key = .ok name → m'.1.key = .ok name' →
      s.fields.find? (fun f => f.answers name) = some f →
      s.fields.find? (fun f => f.answers name') ≠ some f := by
  induction ms generalizing seen r with
  | nil => exact .nil
  | cons m ms ih =>
      obtain ⟨name, hkey, h⟩ := readMembers_cons h
      cases hfind : s.fields.find? (fun f => f.answers name) with
      | none =>
          rw [hfind] at h
          refine .cons (fun m' _ name' _ f hname _ hf => ?_) (ih h)
          obtain rfl : name = name' := Except.ok.inj (hkey.symm.trans hname)
          rw [hfind] at hf
          cases hf
      | some f =>
          rw [hfind] at h
          obtain ⟨-, r', h⟩ := h
          refine .cons (fun m' hm' name₁ name' f' hname hname' hf hf' => ?_) (ih h)
          obtain rfl : name = name₁ := Except.ok.inj (hkey.symm.trans hname)
          obtain rfl : f = f' := Option.some.inj (hfind.symm.trans hf)
          exact notMem_seen_of_readMembers h hm' hname' hf' List.mem_cons_self

/-- No record is read from an object in which a key repeats. -/
theorem exists_error_of_repeats (hcalls : s.Calls means)
    (h : Repeats means (s.fields.map Field.name) ms) (close : Close) :
    ∃ e, s.reader depth (.object ms close) = .error e := by
  cases hread : s.reader depth (.object ms close) with
  | error e => exact ⟨e, rfl⟩
  | ok r =>
      obtain ⟨_, -, hread⟩ := bind_eq_ok_iff.mp hread
      obtain ⟨_, hmembers, -⟩ := bind_eq_ok_iff.mp hread
      obtain ⟨m, m', hsub, name, name', hkey, hkey', hmeans, hmem⟩ := h
      obtain ⟨f, hf, hfname⟩ := List.mem_map.mp hmem
      have hsome : (s.fields.find? (fun f => f.name = means name)).isSome :=
        List.find?_isSome.mpr ⟨f, hf, by simpa using hfname⟩
      obtain ⟨f, hfind⟩ := Option.isSome_iff_exists.mp hsome
      have hdistinct := List.pairwise_iff_forall_sublist.mp (pairwise_of_readMembers hmembers) hsub
      refine absurd ?_ (hdistinct name name' f hkey hkey' ((hcalls name).trans hfind))
      rw [hcalls name', ← hmeans, hfind]

/-- Objects that differ only in keys that mean the same are read alike. -/
theorem readMembers_congr (hcalls : s.Calls means)
    (h : List.Forall₂ (fun m m' => m.1.key.map means = m'.1.key.map means ∧ m.2 = m'.2) ms ms')
    (seen : List String) (r : σ) :
    s.readMembers depth ms seen r = s.readMembers depth ms' seen r := by
  induction h generalizing seen r with
  | nil => rfl
  | @cons m m' ms ms' hm _ ih =>
      obtain ⟨key, d⟩ := m
      obtain ⟨key', d'⟩ := m'
      obtain ⟨hkey, rfl⟩ := hm
      rw [readMembers, readMembers]
      cases hk : key.key with
      | error e =>
          cases hk' : key'.key with
          | error e' =>
              rw [hk, hk', Except.map, Except.map, Except.error.injEq] at hkey
              rw [hkey]
              rfl
          | ok name' => simp [hk, hk', Except.map] at hkey
      | ok name =>
          cases hk' : key'.key with
          | error e' => simp [hk, hk', Except.map] at hkey
          | ok name' =>
              have hmeans : means name = means name' := by
                simpa [hk, hk', Except.map] using hkey
              simp only [lift_ok, bind, Except.bind, hcalls name, hcalls name', hmeans, ih]

theorem reader_congr (hcalls : s.Calls means)
    (h : List.Forall₂ (fun m m' => m.1.key.map means = m'.1.key.map means ∧ m.2 = m'.2) ms ms')
    (depth : Nat) (close : Close) :
    s.reader depth (.object ms close) = s.reader depth (.object ms' close) := by
  simp only [reader, readMembers_congr hcalls h]

end Shape

end Gutter.Json
