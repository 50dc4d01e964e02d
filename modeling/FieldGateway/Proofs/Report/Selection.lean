import FieldGateway.Proofs.Address.Parts
import FieldGateway.Report.Selection
import Mathlib.Data.List.Nodup
import Mathlib.Data.List.Perm.Subperm
import Mathlib.Order.Bounds.Basic

/-!
# Numbered reports

A report may have several instances, which are numbered from 1 on. Those of a selection are the
instances before the first number that is missing. There are no more of them than the device has
control blocks, since different numbers make different references, so that a search through that
many numbers finds them all.

* `Reference.report_inj`: different numbers make different references.
* `Selection.exists_instances`: the instances of a selected report.
-/

namespace FieldGateway

theorem Text.toString_inj {m n : Nat} (h : toString m = toString n) : m = n := by
  have hm := Text.digitsValue?_toString m
  rw [h, Text.digitsValue?_toString] at hm
  exact (Option.some.inj hm).symm

theorem Reference.report_inj {server device node : String} {i j : Nat}
    (h : report server device i node = report server device j node) : i = j := by
  apply Text.toString_inj
  apply String.toList_inj.1
  have hlist := congrArg String.toList h
  simp only [report, String.toList_append] at hlist
  exact List.append_cancel_left (List.append_cancel_right (List.append_cancel_right hlist))

/-- Of the numbers from 1 on, those up to the first that fails `p`: they go up to the greatest
number with all before it satisfying `p`, if that is within the search. -/
theorem takeWhile_range' {p : Nat → Bool} {n : Nat}
    (hbound : ∀ k, (∀ i, 1 ≤ i → i ≤ k → p i = true) → k ≤ n) :
    ∃ k, IsGreatest {k | ∀ i, 1 ≤ i → i ≤ k → p i = true} k ∧
      (List.range' 1 n).takeWhile p = List.range' 1 k := by
  let k := ((List.range' 1 n).takeWhile p).length
  have hsplit : ∀ j, j ≤ n → List.range' 1 n = List.range' 1 j ++ List.range' (1 + j) (n - j) := by
    intro j hj
    rw [List.range'_append_1]
    congr 1
    omega
  have hprefix : (List.range' 1 n).takeWhile p <+: List.range' 1 n := List.takeWhile_prefix p
  have hle : k ≤ n := by
    have hlength := hprefix.length_le
    rwa [List.length_range'] at hlength
  have htaken : (List.range' 1 n).takeWhile p = List.range' 1 k := by
    have hprefix' : List.range' 1 k <+: List.range' 1 n := ⟨_, (hsplit k hle).symm⟩
    have hlength : ((List.range' 1 n).takeWhile p).length = (List.range' 1 k).length :=
      List.length_range'.symm
    exact (List.prefix_of_prefix_length_le hprefix hprefix' hlength.le).eq_of_length hlength
  refine ⟨k, ⟨?_, ?_⟩, htaken⟩
  · intro i hi hik
    have hmem : i ∈ List.range' 1 k := List.mem_range'_1.2 ⟨hi, by omega⟩
    rw [← htaken] at hmem
    exact List.mem_takeWhile_imp hmem
  · intro j hj
    have hall : ∀ i ∈ List.range' 1 j, p i = true := by
      intro i hi
      obtain ⟨hpos, hlt⟩ := List.mem_range'_1.1 hi
      exact hj i hpos (by omega)
    show j ≤ ((List.range' 1 n).takeWhile p).length
    rw [hsplit j (hbound j hj), List.takeWhile_append_of_pos hall, List.length_append,
      List.length_range']
    omega

namespace Selection

variable {model : ServerModel} {server : String} {s : ReportSelection}

/-- The reference of an instance of a selected report. -/
def reference (server : String) (s : ReportSelection) (i : Nat) : String :=
  Reference.report server s.logicalDevice i s.logicalNode

/-- The numbers such that a model has all instances up to them. -/
def Unbroken (model : ServerModel) (server : String) (s : ReportSelection) : Set Nat :=
  {k | ∀ i, 1 ≤ i → i ≤ k → (model.block? (reference server s i)).isSome = true}

/-- There are at least as many control blocks as instances. -/
theorem le_length_of_unbroken {k : Nat} (h : k ∈ Unbroken model server s) :
    k ≤ model.blocks.length := by
  have hnodup : ((List.range' 1 k).map (reference server s)).Nodup := by
    apply List.Nodup.map _ (List.nodup_range' 1)
    intro i j hij
    exact Reference.report_inj hij
  have hsub : (List.range' 1 k).map (reference server s) ⊆ model.blocks.map (·.reference) := by
    intro r hr
    obtain ⟨i, hi, rfl⟩ := List.mem_map.1 hr
    obtain ⟨hpos, hlt⟩ := List.mem_range'_1.1 hi
    have hfound := h i hpos (by omega)
    rw [ServerModel.block?_eq_find?, List.find?_isSome] at hfound
    obtain ⟨b, hb, hreference⟩ := hfound
    exact List.mem_map.2 ⟨b, hb, beq_iff_eq.1 hreference⟩
  have hle := (hnodup.subperm hsub).length_le
  simpa using hle

/-- The instances of a selected report go up to the greatest number such that the model has all
instances up to it. -/
theorem exists_instances (model : ServerModel) (server : String) (s : ReportSelection) :
    ∃ k, IsGreatest (Unbroken model server s) k ∧
      instances model server s = (List.range' 1 k).map (reference server s) := by
  obtain ⟨k, hgreatest, htaken⟩ :=
    takeWhile_range' (p := fun i => (model.block? (reference server s i)).isSome)
      (n := model.blocks.length) fun k hk => le_length_of_unbroken hk
  refine ⟨k, hgreatest, ?_⟩
  rw [← htaken]
  exact List.takeWhile_map

/-- Whatever is wanted, the model has it. -/
theorem isSome_of_wanted {d : Device} {r : String} (h : r ∈ wanted model server d) :
    (model.block? r).isSome = true := by
  unfold wanted at h
  split at h
  · cases h
  · split at h
    · obtain ⟨b, hb, rfl⟩ := List.mem_map.1 h
      rw [ServerModel.block?_eq_find?, List.find?_isSome]
      exact ⟨b, hb, beq_self_eq_true _⟩
    · obtain ⟨s, -, hr⟩ := List.mem_flatMap.1 h
      unfold instances at hr
      exact List.mem_takeWhile_imp (p := fun r => (model.block? r).isSome) hr

end Selection

end FieldGateway
