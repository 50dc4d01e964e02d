import FieldGateway.Table
import Mathlib.Data.List.Dedup
import Mathlib.Data.List.Induction
import Mathlib.Data.List.Perm.Basic

/-!
# What is found in a table

A table is told by what is found in it, and holds of the pairs it was made of the last of each key.

* `Table.ext_find?`: when tables are the same.
* `Table.find?_ofList`, `Table.find?_modify`: what is found in a table that was made or changed.
* `Table.keys_ofList_perm`: which keys are in a table of pairs.
* `Table.ofList_congr`: what a table of pairs depends on.
-/

namespace FieldGateway.Table

section
variable {κ ν : Type} [Ord κ]

theorem valueIn?_eq_none {j : κ} {l : List (κ × ν)} (h : ∀ e ∈ l, compare j e.1 = .lt) :
    valueIn? j l = none := by
  induction l with
  | nil => rfl
  | cons e r ih =>
    obtain ⟨k, v⟩ := e
    have hk : compare j k = .lt := h (k, v) List.mem_cons_self
    simp only [valueIn?, hk, reduceCtorEq, if_false]
    exact ih fun e he => h e (List.mem_cons_of_mem _ he)

end

variable {κ ν : Type} [Ord κ] [Std.TransOrd κ] [Std.LawfulEqOrd κ]

theorem find?_modify (t : Table κ ν) (j k : κ) (f : ν → ν) :
    (t.modify k f).find? j = if compare j k = .eq then (t.find? k).map f else t.find? j := by
  unfold modify
  split
  · next h =>
    split
    · next hj => rw [Std.LawfulEqCmp.compare_eq_iff_eq.1 hj, h]; rfl
    · rfl
  · next v h => rw [find?_insert, h]; rfl

/-- Tables in which the same is found are the same. -/
theorem ext_find? {s t : Table κ ν} (h : ∀ k, s.find? k = t.find? k) : s = t := by
  have hnodup : ∀ u : Table κ ν, u.entries.Nodup := fun u =>
    u.ascending.imp fun hlt heq => by simp [heq] at hlt
  have hperm : s.entries.Perm t.entries :=
    (List.perm_ext_iff_of_nodup (hnodup s) (hnodup t)).2 fun ⟨k, v⟩ => by
      rw [← find?_eq_some_iff, ← find?_eq_some_iff, h]
  refine ext (hperm.eq_of_pairwise (fun a b _ _ hab hba => ?_) s.ascending t.ascending)
  exact absurd (Std.OrientedCmp.gt_of_lt hab) (by simp [hba])

/-- Under a key stands the last value that the pairs have for it. -/
theorem find?_ofList [DecidableEq κ] (l : List (κ × ν)) (k : κ) :
    (ofList l).find? k = ((l.filter (·.1 = k)).getLast?).map (·.2) := by
  induction l using List.reverseRecOn with
  | nil => rfl
  | append_singleton l e ih =>
    have hconcat : ofList (l ++ [e]) = (ofList l).insert e.1 e.2 := by simp [ofList]
    rw [hconcat, List.filter_append]
    by_cases hk : e.1 = k
    · simp [hk]
    · rw [find?_insert_of_ne _ _ (Ne.symm hk), ih]
      simp [hk]

/-- Every key of the pairs stands in the table once. -/
theorem keys_ofList_perm [DecidableEq κ] (l : List (κ × ν)) :
    (ofList l).keys.Perm (l.map (·.1)).dedup := by
  have hnodup : (ofList l).keys.Nodup :=
    List.pairwise_map.2 ((ofList l).ascending.imp fun hlt heq => by simp [heq] at hlt)
  refine (List.perm_ext_iff_of_nodup hnodup (List.nodup_dedup _)).2 fun k => ?_
  have hkeys : k ∈ (ofList l).keys ↔ ((ofList l).find? k).isSome = true := by
    simp only [keys, List.mem_map, Prod.exists, exists_and_right, exists_eq_right,
      ← find?_eq_some_iff, Option.isSome_iff_exists]
  rw [hkeys, find?_ofList, List.mem_dedup]
  simp

theorem size_ofList [DecidableEq κ] (l : List (κ × ν)) :
    (ofList l).size = (l.map (·.1)).dedup.length := by
  rw [← (keys_ofList_perm l).length_eq, keys, List.length_map, size]

/-- Only the order of pairs with one key counts. -/
theorem ofList_congr [DecidableEq κ] {l r : List (κ × ν)}
    (h : ∀ k, l.filter (·.1 = k) = r.filter (·.1 = k)) : ofList l = ofList r :=
  ext_find? fun k => by rw [find?_ofList, find?_ofList, h]

end FieldGateway.Table
