/-!
# Sorted finite maps

A finite map whose pairs stand in strictly ascending order of their keys.
-/

namespace Gutter

/-- A finite map from `κ` to `α`, the least key first. -/
structure SortedTable (κ α : Type) [LT κ] where
  pairs : List (κ × α)
  ascending : (pairs.map Prod.fst).Pairwise (· < ·)
  deriving DecidableEq

namespace SortedTable

variable {κ α : Type} [LT κ]

def empty : SortedTable κ α := ⟨[], List.Pairwise.nil⟩

def keys (t : SortedTable κ α) : List κ := t.pairs.map Prod.fst

def get? [DecidableEq κ] (t : SortedTable κ α) (k : κ) : Option α :=
  (t.pairs.find? (fun x => x.1 = k)).map Prod.snd

/-- The pairs with the value of a key changed; a key without a value gets one in its place. -/
def alterPairs [DecidableLT κ] [DecidableEq κ] (k : κ) (f : Option α → α) :
    List (κ × α) → List (κ × α)
  | [] => [(k, f none)]
  | (k', v) :: rest =>
    if k < k' then (k, f none) :: (k', v) :: rest
    else if k = k' then (k', f (some v)) :: rest
    else (k', v) :: alterPairs k f rest

variable [LE κ] [DecidableLT κ] [DecidableEq κ] [Std.IsLinearOrder κ] [Std.LawfulOrderLT κ]

omit [LE κ] [Std.IsLinearOrder κ] [Std.LawfulOrderLT κ] in
/-- Changing a value adds its key and no other. -/
theorem mem_keys_alterPairs {k a : κ} {f : Option α → α} {xs : List (κ × α)} :
    a ∈ (alterPairs k f xs).map Prod.fst ↔ a = k ∨ a ∈ xs.map Prod.fst := by
  induction xs with
  | nil => simp [alterPairs]
  | cons x rest ih =>
    obtain ⟨k', v⟩ := x
    simp only [alterPairs]
    split
    · simp
    · split
      · next h => subst h; simp
      · rw [List.map_cons, List.mem_cons, ih]
        simp only [List.map_cons, List.mem_cons]
        exact ⟨fun h => by rcases h with h | h | h <;> simp [h],
          fun h => by rcases h with h | h | h <;> simp [h]⟩

/-- Changing a value keeps the keys in strictly ascending order. -/
theorem ascending_alterPairs {k : κ} {f : Option α → α} {xs : List (κ × α)}
    (h : (xs.map Prod.fst).Pairwise (· < ·)) :
    ((alterPairs k f xs).map Prod.fst).Pairwise (· < ·) := by
  induction xs with
  | nil => simp [alterPairs]
  | cons x rest ih =>
    obtain ⟨k', v⟩ := x
    rw [List.map_cons, List.pairwise_cons] at h
    simp only [alterPairs]
    split
    · next hlt =>
      simp only [List.map_cons, List.pairwise_cons, List.mem_cons]
      refine ⟨?_, h.1, h.2⟩
      rintro a (rfl | ha)
      · exact hlt
      · exact Std.lt_trans hlt (h.1 a ha)
    · split
      · simpa using h
      · next hge hne =>
        rw [List.map_cons, List.pairwise_cons]
        refine ⟨?_, ih h.2⟩
        intro a ha
        rcases mem_keys_alterPairs.1 ha with rfl | ha
        · exact Std.lt_of_le_of_ne (Std.not_lt.1 hge) (Ne.symm hne)
        · exact h.1 a ha

/-- The map with the value of a key changed; a key without a value gets one. -/
def alter (t : SortedTable κ α) (k : κ) (f : Option α → α) : SortedTable κ α :=
  ⟨alterPairs k f t.pairs, ascending_alterPairs t.ascending⟩

def insert (t : SortedTable κ α) (k : κ) (v : α) : SortedTable κ α := t.alter k (fun _ => v)

/-- The map of a list of pairs; of pairs with one key the last counts. -/
def ofList (pairs : List (κ × α)) : SortedTable κ α :=
  pairs.foldl (fun t x => t.insert x.1 x.2) empty

end SortedTable

end Gutter
