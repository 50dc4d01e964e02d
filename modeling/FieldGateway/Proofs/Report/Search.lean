import FieldGateway.Proofs.Report.Selection

/-!
# The search for the instances of a report

The instances of a selected report are looked up one after the other, under the numbers from 1 on,
until one is missing. A number has 32 bits, and a search that would need more breaks off. Every
search comes to an end, since each instance that is found takes a control block of its own, and it
finds what `Selection.instances` says.

* `Search.after_eq_looking`: a search goes on as long as it finds something.
* `Search.after_eq_over`, `Search.after_eq_overflow`: how it ends.
* `Selection.search_ends`: how many lookups a search takes, and what it finds.
-/

namespace FieldGateway

/-- How far a search for the instances of a report is. -/
inductive Search where
  /-- This number is looked up next; these references were found before. -/
  | looking (number : UInt32) (found : List String)
  /-- A number was missing. -/
  | over (found : List String)
  /-- The last number of 32 bits was found; counting on from it breaks the search off. -/
  | overflow
deriving DecidableEq, Repr, Inhabited

namespace Search

open Selection (reference Unbroken)

/-- One lookup. -/
def step (model : ServerModel) (server : String) (s : ReportSelection) : Search → Search
  | .looking number found =>
    match model.block? (reference server s number.toNat) with
    | none => .over found
    | some b =>
      if number.toNat + 1 < UInt32.size then .looking (number + 1) (found ++ [b.reference])
      else .overflow
  | ended => ended

/-- The search after so many lookups. -/
def after (model : ServerModel) (server : String) (s : ReportSelection) : Nat → Search
  | 0 => .looking 1 []
  | n + 1 => step model server s (after model server s n)

variable {model : ServerModel} {server : String} {s : ReportSelection} {number : UInt32}
  {found : List String}

theorem step_of_missing (h : model.block? (reference server s number.toNat) = none) :
    step model server s (.looking number found) = .over found := by
  simp only [step, h]

theorem step_of_found (h : (model.block? (reference server s number.toNat)).isSome = true) :
    step model server s (.looking number found) =
      if number.toNat + 1 < UInt32.size then
        .looking (number + 1) (found ++ [reference server s number.toNat])
      else .overflow := by
  obtain ⟨b, hb⟩ := Option.isSome_iff_exists.1 h
  have hreference : b.reference = reference server s number.toNat := by
    rw [ServerModel.block?_eq_find?] at hb
    simpa using List.find?_some hb
  simp only [step, hb, hreference]

/-- A search goes on as long as it finds something and there are numbers left. -/
theorem after_eq_looking {k n : Nat} (h : k ∈ Unbroken model server s) (hn : n ≤ k)
    (hsize : n + 1 < UInt32.size) :
    after model server s n =
      .looking (UInt32.ofNat (n + 1)) ((List.range' 1 n).map (reference server s)) := by
  induction n with
  | zero => rfl
  | succ n ih =>
    have hnumber : (UInt32.ofNat (n + 1)).toNat = n + 1 := UInt32.toNat_ofNat_of_lt' (by omega)
    have hfound := h (n + 1) (by omega) hn
    rw [after, ih (by omega) (by omega), step_of_found (by rw [hnumber]; exact hfound), hnumber,
      if_pos hsize, UInt32.ofNat_add (n + 1) 1, List.range'_1_concat, List.map_append,
      Nat.add_comm 1 n]
    rfl

/-- After the greatest number that was found, the next one is looked up in vain. -/
theorem after_eq_over {k n : Nat} (h : IsGreatest (Unbroken model server s) k)
    (hsize : k + 1 < UInt32.size) (hn : k < n) :
    after model server s n = .over ((List.range' 1 k).map (reference server s)) := by
  induction n, hn using Nat.le_induction with
  | base =>
    have hnumber : (UInt32.ofNat (k + 1)).toNat = k + 1 := UInt32.toNat_ofNat_of_lt' hsize
    have hmissing : model.block? (reference server s (k + 1)) = none := by
      by_contra hfound
      -- with one more number the greatest would not be the greatest
      have hmore : k + 1 ∈ Unbroken model server s := by
        intro i hi hik
        rcases Nat.lt_or_eq_of_le hik with hlt | rfl
        · exact h.1 i hi (by omega)
        · exact Option.isSome_iff_ne_none.2 hfound
      exact absurd (h.2 hmore) (by omega)
    rw [Nat.succ_eq_add_one, after, after_eq_looking h.1 (le_refl k) hsize,
      step_of_missing (by rw [hnumber]; exact hmissing)]
  | succ n _ ih => rw [after, ih]; rfl

/-- Where the last of all numbers is found, the search breaks off. -/
theorem after_eq_overflow {k : Nat} (h : k ∈ Unbroken model server s)
    (hsize : UInt32.size ≤ k + 1) : after model server s (UInt32.size - 1) = .overflow := by
  have hlast := after_eq_looking h (n := UInt32.size - 2)
    (by simp only [UInt32.size] at hsize ⊢; omega) (by decide)
  have hnumber : (UInt32.ofNat (UInt32.size - 2 + 1)).toNat = UInt32.size - 1 := by decide
  have hfound := h (UInt32.size - 1) (by decide) (by omega)
  show step model server s (after model server s (UInt32.size - 2)) = .overflow
  rw [hlast, step_of_found (by rw [hnumber]; exact hfound), hnumber, if_neg (by decide)]

end Search

namespace Selection

open Search (after step)

/-- A search for the instances of a selected report looks up the numbers 1, 2 and so on, and has
come to an end after at most one lookup more than there are control blocks. Then it has found the
instances, unless it has run out of numbers; and it does not run out of them if the device has fewer
control blocks than there are numbers. -/
theorem search_ends (model : ServerModel) (server : String) (s : ReportSelection) :
    (∃ n ≤ model.blocks.length + 1,
      (∀ m < n, ∃ number : UInt32, number.toNat = m + 1 ∧
        after model server s m = .looking number ((instances model server s).take m)) ∧
      (after model server s n = .over (instances model server s) ∨
        after model server s n = .overflow)) ∧
    (model.blocks.length < UInt32.size - 1 → ∀ n, after model server s n ≠ .overflow) := by
  obtain ⟨k, hgreatest, hinstances⟩ := exists_instances model server s
  have hk : k ≤ model.blocks.length := le_length_of_unbroken hgreatest.1
  have hlooking : ∀ m ≤ k, m + 1 < UInt32.size → ∃ number : UInt32, number.toNat = m + 1 ∧
      after model server s m = .looking number ((instances model server s).take m) := by
    intro m hm hsize
    refine ⟨UInt32.ofNat (m + 1), UInt32.toNat_ofNat_of_lt' hsize, ?_⟩
    rw [Search.after_eq_looking hgreatest.1 hm hsize, hinstances, ← List.map_take,
      List.take_range'_of_length_ge hm]
  constructor
  · -- the number after the instances is there to be looked up, or it is one too many
    by_cases hsize : k + 1 < UInt32.size
    · refine ⟨k + 1, by omega, fun m hm => hlooking m (by omega) (by omega), .inl ?_⟩
      rw [hinstances, Search.after_eq_over hgreatest hsize (Nat.lt_succ_self k)]
    · have hlast : UInt32.size - 1 ≤ k := by omega
      refine ⟨UInt32.size - 1, by omega, fun m hm => hlooking m (by omega) (by omega), .inr ?_⟩
      exact Search.after_eq_overflow hgreatest.1 (by omega)
  · intro hblocks n
    have hsize : k + 1 < UInt32.size := by omega
    rcases Nat.lt_or_ge k n with hn | hn
    · rw [Search.after_eq_over hgreatest hsize hn]
      exact Search.noConfusion
    · obtain ⟨number, -, hafter⟩ := hlooking n hn (by omega)
      rw [hafter]
      exact Search.noConfusion

/-- A device with a report that has the instances 1, 2 and 4. -/
def gapped : ServerModel :=
  ⟨[], [.fresh "WPV1/LLN0.S" true], [.fresh "WPV4/LLN0.S" false, .fresh "WPV2/LLN0.S" false]⟩

theorem search_ends_gapped :
    gapped.blocks.length < UInt32.size - 1 ∧
      after gapped "W" ⟨"PV", "LLN0.S"⟩ 2 = .looking 3 ["WPV1/LLN0.S", "WPV2/LLN0.S"] ∧
      after gapped "W" ⟨"PV", "LLN0.S"⟩ 3 = .over ["WPV1/LLN0.S", "WPV2/LLN0.S"] ∧
      ∀ n, after gapped "W" ⟨"PV", "LLN0.S"⟩ n ≠ .overflow := by
  have hblocks : gapped.blocks.length < UInt32.size - 1 := by decide
  exact ⟨hblocks, by decide +kernel, by decide +kernel,
    (search_ends gapped "W" ⟨"PV", "LLN0.S"⟩).2 hblocks⟩

end Selection

end FieldGateway
