import Gutter.Proofs.Json.Value
import Mathlib.Data.List.Basic
import Mathlib.Data.List.Forall2

/-!
# What the members of an object say

A reader that knows the fields of an object finds each of them by its name, in whatever order the
members stand and whatever other members stand between them.
-/

namespace Gutter.Json

def named (name : String) (ms : List (String × Value)) : List (String × Value) :=
  ms.filter fun m => m.1 = name

/-- The members are the fields in any order, less some of those that have their default value, and
any members with other names. -/
def Carries (ms fields defaults : List (String × Value)) : Prop :=
  ∃ own extra, ms.Perm (own ++ extra) ∧ own.Sublist fields ∧
    (∀ m ∈ fields, m ∉ defaults → m ∈ own) ∧ ∀ m ∈ extra, m.1 ∉ fields.map Prod.fst

theorem named_eq_nil {name : String} {ms : List (String × Value)}
    (h : name ∉ ms.map Prod.fst) : named name ms = [] :=
  List.filter_eq_nil_iff.mpr fun _ hm hname =>
    h (of_decide_eq_true hname ▸ List.mem_map_of_mem hm)

theorem named_append {name : String} (ms ms' : List (String × Value)) :
    named name (ms ++ ms') = named name ms ++ named name ms' :=
  List.filter_append ..

theorem named_self {m : String × Value} {fields : List (String × Value)}
    (hkeys : (fields.map Prod.fst).Nodup) (hm : m ∈ fields) : named m.1 fields = [m] := by
  induction fields with
  | nil => exact absurd hm List.not_mem_nil
  | cons f fields ih =>
      rw [List.map_cons, List.nodup_cons] at hkeys
      rcases List.mem_cons.mp hm with rfl | hm
      · rw [named, List.filter_cons_of_pos (by simp)]
        exact congrArg (m :: ·) (named_eq_nil hkeys.1)
      · have hne : f.1 ≠ m.1 := fun h => hkeys.1 (h ▸ List.mem_map_of_mem hm)
        rw [named, List.filter_cons_of_neg (by simpa using hne)]
        exact ih hkeys.2 hm

/-- The members with one of some names, sorted by name. -/
theorem perm_flatMap_named {names : List String} (hnames : names.Nodup)
    (ms : List (String × Value)) :
    (ms.filter fun m => m.1 ∈ names).Perm (names.flatMap fun name => named name ms) := by
  induction names with
  | nil => simp
  | cons name names ih =>
      rw [List.nodup_cons] at hnames
      have hsplit := List.filter_append_perm (fun m => decide (m.1 = name))
        (ms.filter fun m => m.1 ∈ name :: names)
      have hfirst : (ms.filter fun m => m.1 ∈ name :: names).filter
          (fun m => decide (m.1 = name)) = named name ms := by
        rw [List.filter_filter]
        exact List.filter_congr fun m _ => by grind
      have hothers : (ms.filter fun m => m.1 ∈ name :: names).filter
          (fun m => !decide (m.1 = name)) = ms.filter fun m => m.1 ∈ names := by
        rw [List.filter_filter]
        exact List.filter_congr fun m _ => by grind
      rw [hfirst, hothers] at hsplit
      rw [List.flatMap_cons]
      exact hsplit.symm.trans ((ih hnames.2).append_left _)

variable {ms fields defaults : List (String × Value)}

/-- A field that is carried is there once under its name, or absent with its default value. -/
theorem Carries.named (h : Carries ms fields defaults) (hkeys : (fields.map Prod.fst).Nodup)
    {m : String × Value} (hm : m ∈ fields) :
    named m.1 ms = [m] ∨ m ∈ defaults ∧ named m.1 ms = [] := by
  obtain ⟨own, extra, hperm, hown, hneeded, hextra⟩ := h
  have hnone : Json.named m.1 extra = [] := named_eq_nil fun h => by
    obtain ⟨x, hx, hname⟩ := List.mem_map.mp h
    exact hextra x hx (hname ▸ List.mem_map_of_mem hm)
  have hperm : (Json.named m.1 ms).Perm (Json.named m.1 own) := by
    have h : (Json.named m.1 ms).Perm (Json.named m.1 (own ++ extra)) := hperm.filter _
    rwa [named_append, hnone, List.append_nil] at h
  have hsub : (Json.named m.1 own).Sublist [m] := by
    rw [← named_self hkeys hm]
    exact hown.filter _
  rcases List.sublist_singleton.mp hsub with hnil | hone
  · rw [hnil] at hperm
    refine .inr ⟨not_not.mp fun hdefault => ?_, hperm.eq_nil⟩
    have hmem : m ∈ Json.named m.1 own :=
      List.mem_filter.mpr ⟨hneeded m hm hdefault, decide_eq_true rfl⟩
    exact List.not_mem_nil (hnil ▸ hmem)
  · rw [hone] at hperm
    exact .inl (List.perm_singleton.mp hperm)

theorem sublist_flatMap_named
    (h : ∀ m ∈ fields, named m.1 ms = [m] ∨ m ∈ defaults ∧ named m.1 ms = []) :
    ((fields.map Prod.fst).flatMap fun name => named name ms).Sublist fields := by
  rw [List.flatMap_map]
  induction fields with
  | nil => exact .slnil
  | cons f fields ih =>
      obtain ⟨hf, hfields⟩ := List.forall_mem_cons.mp h
      rw [List.flatMap_cons]
      rcases hf with hone | ⟨-, hnil⟩
      · rw [hone]
        exact (ih hfields).cons_cons f
      · rw [hnil]
        exact (ih hfields).cons f

/-- Whether the members carry some fields is seen by looking at each name. -/
theorem carries_iff (hkeys : (fields.map Prod.fst).Nodup) :
    Carries ms fields defaults ↔
      ∀ m ∈ fields, named m.1 ms = [m] ∨ m ∈ defaults ∧ named m.1 ms = [] := by
  refine ⟨fun h m hm => h.named hkeys hm, fun h => ?_⟩
  refine ⟨(fields.map Prod.fst).flatMap fun name => named name ms,
    ms.filter fun m => !decide (m.1 ∈ fields.map Prod.fst), ?_, sublist_flatMap_named h, ?_, ?_⟩
  · exact (List.filter_append_perm (fun m => decide (m.1 ∈ fields.map Prod.fst)) ms).symm.trans
      ((perm_flatMap_named hkeys ms).append_right _)
  · intro m hm hdefault
    refine List.mem_flatMap.mpr ⟨m.1, List.mem_map_of_mem hm, ?_⟩
    rcases h m hm with hnamed | ⟨hd, -⟩
    · exact hnamed ▸ List.mem_singleton_self m
    · exact absurd hd hdefault
  · intro m hm
    simpa using (List.mem_filter.mp hm).2

end Gutter.Json
