import Gutter.Table
import Mathlib.Data.List.Nodup

/-!
# Looking up in a finite map

What each operation on a finite map does to its pairs and to every look-up.
-/

namespace Gutter

/-- What alone has its key in a list is taken out by its key. -/
theorem perm_cons_filter_ne {α κ : Type} [DecidableEq α] [DecidableEq κ] {l : List α} {key : α → κ}
    {a : α} (hn : l.Nodup) (ha : a ∈ l) (hkey : ∀ b ∈ l, key b = key a → b = a) :
    l.Perm (a :: l.filter fun b => key b ≠ key a) := by
  have herase : l.erase a = l.filter fun b => key b ≠ key a := by
    rw [hn.erase_eq_filter]
    refine List.filter_congr fun b hb => ?_
    rw [Bool.eq_iff_iff, bne_iff_ne, decide_eq_true_eq, not_iff_not]
    exact ⟨congrArg key, hkey b hb⟩
  exact herase ▸ List.perm_cons_erase ha

namespace Table

variable {κ α : Type}

@[simp] theorem keys_filterKeys (t : Table κ α) (p : κ → Bool) :
    (t.filterKeys p).keys = t.keys.filter p := by
  simp only [keys, filterKeys, List.filter_map]
  rfl

theorem keys_nodup (t : Table κ α) : t.keys.Nodup := t.distinct

theorem length_keys (t : Table κ α) : t.keys.length = t.size := List.length_map _

theorem eq_of_mem_pairs {t : Table κ α} {k : κ} {a b : α}
    (ha : (k, a) ∈ t.pairs) (hb : (k, b) ∈ t.pairs) : a = b :=
  congrArg Prod.snd (List.inj_on_of_nodup_map t.distinct ha hb rfl)

variable [DecidableEq κ]

theorem get?_eq_some_iff {t : Table κ α} {k : κ} {a : α} :
    t.get? k = some a ↔ (k, a) ∈ t.pairs := by
  simp only [get?, Option.map_eq_some_iff]
  constructor
  · rintro ⟨⟨k', b⟩, hfind, rfl⟩
    have hk : k' = k := by simpa using List.find?_some hfind
    subst hk
    exact List.mem_of_find?_eq_some hfind
  · intro h
    cases hfind : t.pairs.find? (fun x => x.1 = k) with
    | none => simpa using List.find?_eq_none.mp hfind _ h
    | some x =>
        obtain ⟨k', b⟩ := x
        have hk : k' = k := by simpa using List.find?_some hfind
        subst hk
        exact ⟨(k', b), rfl, eq_of_mem_pairs (List.mem_of_find?_eq_some hfind) h⟩

theorem mem_keys_iff {t : Table κ α} {k : κ} : k ∈ t.keys ↔ ∃ a, t.get? k = some a := by
  simp only [keys, List.mem_map, Prod.exists, get?_eq_some_iff]
  constructor
  · rintro ⟨_, a, h, rfl⟩
    exact ⟨a, h⟩
  · rintro ⟨a, h⟩
    exact ⟨k, a, h, rfl⟩

@[simp] theorem get?_filterKeys (t : Table κ α) (p : κ → Bool) (k : κ) :
    (t.filterKeys p).get? k = if p k then t.get? k else none := by
  ext a
  rw [get?_eq_some_iff, filterKeys, List.mem_filter, ← get?_eq_some_iff]
  split <;> simp_all

@[simp] theorem get?_erase (t : Table κ α) (k x : κ) :
    (t.erase k).get? x = if x = k then none else t.get? x := by
  by_cases h : x = k <;> simp [erase, h]

@[simp] theorem get?_modify (t : Table κ α) (k : κ) (f : α → α) (x : κ) :
    (t.modify k f).get? x = if x = k then (t.get? x).map f else t.get? x := by
  ext a
  rw [get?_eq_some_iff]
  simp only [modify, List.mem_map, Prod.exists]
  by_cases h : x = k
  · subst h
    simp only [ite_true, Option.map_eq_some_iff, get?_eq_some_iff]
    constructor
    · rintro ⟨k', b, hb, he⟩
      split at he
      · next hk => subst hk; exact ⟨b, hb, congrArg Prod.snd he⟩
      · next hk => exact absurd (congrArg Prod.fst he) hk
    · rintro ⟨b, hb, rfl⟩
      exact ⟨x, b, hb, by simp⟩
  · simp only [h, ite_false, get?_eq_some_iff]
    constructor
    · rintro ⟨k', b, hb, he⟩
      split at he
      · next hk => exact absurd ((congrArg Prod.fst he).symm.trans hk) h
      · exact he ▸ hb
    · exact fun ha => ⟨x, a, ha, by simp [h]⟩

@[simp] theorem get?_insert (t : Table κ α) (k : κ) (v : α) (x : κ) :
    (t.insert k v).get? x = if x = k then some v else t.get? x := by
  by_cases hk : t.get? k = none
  · ext a
    rw [get?_eq_some_iff, insert, dif_pos hk]
    simp only [List.mem_append, List.mem_singleton, Prod.mk.injEq, ← get?_eq_some_iff]
    by_cases h : x = k
    · subst h
      simp [hk, eq_comm]
    · simp [h]
  · obtain ⟨b, hb⟩ := Option.ne_none_iff_exists'.mp hk
    rw [insert, dif_neg hk, get?_modify]
    split
    · next h => simp [h, hb]
    · rfl

@[simp] theorem get?_ensure (t : Table κ α) (k : κ) (v : α) (x : κ) :
    (t.ensure k v).get? x = if x = k then some ((t.get? k).getD v) else t.get? x := by
  rw [ensure, contains]
  cases hk : t.get? k with
  | none => simp
  | some b =>
      simp only [Option.isSome_some, ite_true, Option.getD_some]
      split
      · next h => rw [h, hk]
      · rfl

theorem size_insert_of_get?_eq_none {t : Table κ α} {k : κ} (h : t.get? k = none) (v : α) :
    (t.insert k v).size = t.size + 1 := by
  simp [insert, h, size]

theorem size_erase_of_get?_eq_some {t : Table κ α} {k : κ} {a : α} (h : t.get? k = some a) :
    (t.erase k).size + 1 = t.size := by
  have hmem : k ∈ t.keys := mem_keys_iff.mpr ⟨a, h⟩
  have hperm := perm_cons_filter_ne t.keys_nodup hmem (fun _ _ h => h)
  rw [← length_keys, ← length_keys, erase, keys_filterKeys, hperm.length_eq]
  rfl

end Table

end Gutter
