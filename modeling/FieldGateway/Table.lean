/-!
# Tables in key order

A table is a finite map whose entries stand in strictly ascending order of their keys, so that two
tables with the same entries are equal and a walk through a table needs no sorting.

* `find?_insert`: reading after an insertion.
* `insertEntry_ascending`: an insertion keeps the order.
-/

namespace FieldGateway

/-- Entries in strictly ascending order of their keys. -/
structure Table (κ ν : Type) [Ord κ] where
  entries : List (κ × ν)
  /-- Every key is below all that follow it. -/
  ascending : entries.Pairwise (fun a b => compare a.1 b.1 = .lt)

namespace Table

variable {κ ν : Type} [Ord κ]

@[ext] theorem ext {s t : Table κ ν} (h : s.entries = t.entries) : s = t := by
  cases s; cases t; simp_all

instance [DecidableEq κ] [DecidableEq ν] : DecidableEq (Table κ ν) := fun s t =>
  decidable_of_iff (s.entries = t.entries) ⟨ext, fun h => h ▸ rfl⟩

def empty : Table κ ν := ⟨[], .nil⟩

instance : Inhabited (Table κ ν) := ⟨empty⟩

instance [Repr κ] [Repr ν] : Repr (Table κ ν) := ⟨fun t n => reprPrec t.entries n⟩

def valueIn? (k : κ) : List (κ × ν) → Option ν
  | [] => none
  | (j, v) :: r => if compare k j = .eq then some v else valueIn? k r

/-- The entries with `v` under `k`, in place of what stood there. -/
def insertEntry (k : κ) (v : ν) : List (κ × ν) → List (κ × ν)
  | [] => [(k, v)]
  | (j, w) :: r =>
    match compare k j with
    | .lt => (k, v) :: (j, w) :: r
    | .eq => (k, v) :: r
    | .gt => (j, w) :: insertEntry k v r

def find? (t : Table κ ν) (k : κ) : Option ν := valueIn? k t.entries

/-- The keys in ascending order. -/
def keys (t : Table κ ν) : List κ := t.entries.map (·.1)

/-- The values in ascending order of their keys. -/
def values (t : Table κ ν) : List ν := t.entries.map (·.2)

def size (t : Table κ ν) : Nat := t.entries.length

theorem mem_insertEntry {k : κ} {v : ν} {e : κ × ν} {l : List (κ × ν)}
    (h : e ∈ insertEntry k v l) : e = (k, v) ∨ e ∈ l := by
  induction l with
  | nil => simpa [insertEntry] using h
  | cons p r ih =>
    obtain ⟨j, w⟩ := p
    rw [insertEntry] at h
    split at h <;> simp only [List.mem_cons] at h ⊢
    · exact h
    · exact h.imp id .inr
    · rcases h with h | h
      · exact .inr (.inl h)
      · exact (ih h).imp id .inr

section Lawful

variable [Std.TransOrd κ] [Std.LawfulEqOrd κ]

theorem insertEntry_ascending (k : κ) (v : ν) {l : List (κ × ν)}
    (h : l.Pairwise (fun a b => compare a.1 b.1 = .lt)) :
    (insertEntry k v l).Pairwise (fun a b => compare a.1 b.1 = .lt) := by
  induction l with
  | nil => simp [insertEntry]
  | cons p r ih =>
    obtain ⟨j, w⟩ := p
    rw [List.pairwise_cons] at h
    rw [insertEntry]
    split
    · next hk =>
      refine List.pairwise_cons.mpr ⟨fun e he => ?_, List.pairwise_cons.mpr h⟩
      rcases List.mem_cons.mp he with rfl | he
      · exact hk
      · exact Std.TransCmp.lt_trans hk (h.1 e he)
    · next hk =>
      obtain rfl := Std.LawfulEqCmp.compare_eq_iff_eq.mp hk
      exact List.pairwise_cons.mpr h
    · next hk =>
      refine List.pairwise_cons.mpr ⟨fun e he => ?_, ih h.2⟩
      rcases mem_insertEntry he with rfl | he
      · exact Std.OrientedCmp.lt_of_gt hk
      · exact h.1 e he

/-- The table with `v` under `k`, in place of what stood there. -/
def insert (t : Table κ ν) (k : κ) (v : ν) : Table κ ν :=
  ⟨insertEntry k v t.entries, insertEntry_ascending k v t.ascending⟩

/-- The table of the pairs of a list; of two pairs with one key the later counts. -/
def ofList (l : List (κ × ν)) : Table κ ν := l.foldl (fun t e => t.insert e.1 e.2) empty

/-- The table with the value under `k`, if there is one, changed by `f`. -/
def modify (t : Table κ ν) (k : κ) (f : ν → ν) : Table κ ν :=
  match t.find? k with
  | none => t
  | some v => t.insert k (f v)

omit [Std.TransOrd κ] in
theorem valueIn?_insertEntry (j k : κ) (v : ν) (l : List (κ × ν)) :
    valueIn? j (insertEntry k v l) = if compare j k = .eq then some v else valueIn? j l := by
  induction l with
  | nil => simp [insertEntry, valueIn?]
  | cons p r ih =>
    obtain ⟨i, w⟩ := p
    rw [insertEntry]
    split
    · simp only [valueIn?]
    · next hk =>
      obtain rfl := Std.LawfulEqCmp.compare_eq_iff_eq.mp hk
      simp only [valueIn?]
      split <;> rfl
    · next hk =>
      simp only [valueIn?, ih]
      split
      · next hj =>
        obtain rfl := Std.LawfulEqCmp.compare_eq_iff_eq.mp hj
        rw [if_neg]
        intro hjk
        obtain rfl := Std.LawfulEqCmp.compare_eq_iff_eq.mp hjk
        simp [Std.compare_self] at hk
      · rfl

/-- Reading after an insertion finds the new value under its key and the old ones elsewhere. -/
theorem find?_insert (t : Table κ ν) (j k : κ) (v : ν) :
    (t.insert k v).find? j = if compare j k = .eq then some v else t.find? j :=
  valueIn?_insertEntry j k v t.entries

@[simp] theorem find?_insert_self (t : Table κ ν) (k : κ) (v : ν) :
    (t.insert k v).find? k = some v := by
  simp [find?_insert, Std.compare_self]

theorem find?_insert_of_ne (t : Table κ ν) {j k : κ} (v : ν) (h : j ≠ k) :
    (t.insert k v).find? j = t.find? j := by
  rw [find?_insert, if_neg]
  exact fun hjk => h (Std.LawfulEqCmp.compare_eq_iff_eq.mp hjk)

omit [Std.TransOrd κ] in
theorem mem_of_valueIn? {l : List (κ × ν)} {k : κ} {v : ν} (h : valueIn? k l = some v) :
    (k, v) ∈ l := by
  induction l with
  | nil => simp [valueIn?] at h
  | cons p r ih =>
    obtain ⟨j, w⟩ := p
    rw [valueIn?] at h
    split at h
    · next hk =>
      obtain rfl := Std.LawfulEqCmp.compare_eq_iff_eq.mp hk
      simp_all
    · exact List.mem_cons_of_mem _ (ih h)

/-- In ascending order an entry is found under its key. -/
theorem find?_eq_some_iff {t : Table κ ν} {k : κ} {v : ν} :
    t.find? k = some v ↔ (k, v) ∈ t.entries := by
  refine ⟨mem_of_valueIn?, fun h => ?_⟩
  obtain ⟨l, hl⟩ := t
  simp only [find?] at h ⊢
  induction l with
  | nil => cases h
  | cons e r ih =>
    obtain ⟨j, w⟩ := e
    obtain ⟨hj, hr⟩ := List.pairwise_cons.1 hl
    rw [valueIn?]
    rcases List.mem_cons.1 h with he | he
    · cases he
      rw [if_pos Std.compare_self]
    · have hgt : compare k j = .gt := Std.OrientedCmp.gt_of_lt (hj _ he)
      rw [if_neg (by simp [hgt])]
      exact ih hr he

end Lawful

@[simp] theorem find?_empty (k : κ) : (empty : Table κ ν).find? k = none := rfl

end Table

end FieldGateway
