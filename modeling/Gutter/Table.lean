/-!
# Finite maps

A finite map as the list of its pairs, where each key stands once. A new key goes to the end, so
the pairs stand in the order in which their keys came in. The operations are described by what
`get?` finds afterwards.
-/

namespace Gutter

/-- A finite map from `κ` to `α`, the oldest key first. -/
structure Table (κ α : Type) where
  pairs : List (κ × α)
  distinct : (pairs.map Prod.fst).Nodup

namespace Table

variable {κ α : Type}

def empty : Table κ α := ⟨[], List.nodup_nil⟩

instance : Inhabited (Table κ α) := ⟨empty⟩

def keys (t : Table κ α) : List κ := t.pairs.map Prod.fst

def size (t : Table κ α) : Nat := t.pairs.length

def filterKeys (p : κ → Bool) (t : Table κ α) : Table κ α :=
  ⟨t.pairs.filter (fun x => p x.1), t.distinct.sublist (List.filter_sublist.map _)⟩

variable [DecidableEq κ]

def get? (t : Table κ α) (k : κ) : Option α :=
  (t.pairs.find? (fun x => x.1 = k)).map Prod.snd

def contains (t : Table κ α) (k : κ) : Bool := (t.get? k).isSome

def erase (t : Table κ α) (k : κ) : Table κ α := t.filterKeys (fun x => x ≠ k)

/-- The map with the value of one key changed; other keys, and a key without a value, stay. -/
def modify (t : Table κ α) (k : κ) (f : α → α) : Table κ α :=
  ⟨t.pairs.map (fun x => if x.1 = k then (x.1, f x.2) else x), by
    have h : (t.pairs.map (fun x => if x.1 = k then (x.1, f x.2) else x)).map Prod.fst =
        t.pairs.map Prod.fst := by
      rw [List.map_map]
      refine List.map_congr_left fun x _ => ?_
      simp only [Function.comp_apply]
      split <;> rfl
    rw [h]
    exact t.distinct⟩

/-- A key is not found exactly when it does not stand in the map. -/
theorem get?_eq_none_iff {t : Table κ α} {k : κ} : t.get? k = none ↔ k ∉ t.keys := by
  simp only [get?, keys, Option.map_eq_none_iff, List.find?_eq_none, List.mem_map, not_exists,
    not_and]
  exact ⟨fun h x hx e => h x hx (by simp [e]), fun h x hx e => h x hx (by simpa using e)⟩

/-- The map with a value for a key: a known key keeps its place, a new one goes to the end. -/
def insert (t : Table κ α) (k : κ) (v : α) : Table κ α :=
  if h : t.get? k = none then
    ⟨t.pairs ++ [(k, v)], by
      have hk := get?_eq_none_iff.1 h
      rw [List.map_append, List.nodup_append]
      refine ⟨t.distinct, by simp, ?_⟩
      intro a ha b hb
      simp only [List.map_cons, List.map_nil, List.mem_singleton] at hb
      subst hb
      exact fun e => hk (e ▸ ha)⟩
  else t.modify k (fun _ => v)

def ensure (t : Table κ α) (k : κ) (v : α) : Table κ α :=
  if t.contains k then t else t.insert k v

end Table

end Gutter
