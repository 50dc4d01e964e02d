import FieldGateway.Proofs.Tables
import FieldGateway.Registry
import Mathlib.Data.List.Dedup

/-!
# What the registry holds

A registry that was made of some devices, and into which others were put afterwards, knows of every
identifier the device that came last with it.

* `Registry.foldl_insert_ofList`: putting devices in goes on where the making left off.
* `Registry.find?_ofList`: the device of an identifier.
* `Registry.toList_ascending`, `Registry.mem_toList_iff`: the order of the devices, and which they
  are.
* `Registry.last_given_listed`: all of this for every history of a registry.
-/

namespace FieldGateway

/-- The last of some devices with an identifier. -/
def Device.lastOf? (id : String) (ds : List Device) : Option Device :=
  (ds.filter (·.id = id)).getLast?

namespace Device

variable {id : String} {ds : List Device} {d : Device}

theorem mem_of_lastOf? (h : lastOf? id ds = some d) : d ∈ ds ∧ d.id = id := by
  simpa using List.mem_of_getLast? h

end Device

namespace Registry

open Device (lastOf?)

variable {r : Registry} {d : Device} {id : String}

theorem ofList_eq (ds : List Device) : ofList ds = ⟨.ofList (ds.map fun d => (d.id, d))⟩ := by
  rw [ofList, Table.ofList, List.foldl_map]
  exact List.foldl_hom Registry.mk fun _ _ => rfl

/-- Putting devices in goes on where the making of the registry left off. -/
theorem foldl_insert_ofList (ds es : List Device) :
    es.foldl insert (ofList ds) = ofList (ds ++ es) := by
  rw [ofList, ofList, List.foldl_append]

/-- Of the devices with one identifier the last is found. -/
theorem find?_ofList (ds : List Device) (id : String) :
    (ofList ds).find? id = lastOf? id ds := by
  rw [ofList_eq, find?, Table.find?_ofList, lastOf?, List.filter_map, List.getLast?_map,
    Option.map_map]
  exact congrFun Option.map_id _

/-- A registry whose entries stand under the identifiers of their devices. -/
def IsKeyed (r : Registry) : Prop := ∀ e ∈ r.devices.entries, e.1 = e.2.id

theorem isKeyed_ofList (ds : List Device) : (ofList ds).IsKeyed := by
  intro e he
  have hfound : (ofList ds).find? e.1 = some e.2 := Table.find?_eq_some_iff.2 he
  rw [find?_ofList] at hfound
  exact (Device.mem_of_lastOf? hfound).2.symm

theorem IsKeyed.mem_toList_iff (h : r.IsKeyed) : d ∈ r.toList ↔ r.find? d.id = some d := by
  unfold toList Table.values find?
  rw [List.mem_map, Table.find?_eq_some_iff]
  constructor
  · rintro ⟨e, he, rfl⟩
    rwa [← h e he]
  · exact fun he => ⟨_, he, rfl⟩

/-- The devices are listed in ascending order of their identifiers. -/
theorem IsKeyed.toList_ascending (h : r.IsKeyed) : r.toList.Pairwise (·.id < ·.id) := by
  refine List.pairwise_map.2 (r.devices.ascending.imp_of_mem fun {a b} ha hb hlt => ?_)
  rw [← h a ha, ← h b hb]
  exact compareOfLessAndEq_eq_lt.1 hlt

/-- Each identifier that was given is listed once. -/
theorem perm_dedup_ids (ds : List Device) :
    ((ofList ds).toList.map Device.id).Perm (ds.map Device.id).dedup := by
  have hkeys : (ofList ds).toList.map Device.id = (ofList ds).devices.keys := by
    rw [toList, Table.values, Table.keys, List.map_map]
    exact List.map_congr_left fun e he => (isKeyed_ofList ds e he).symm
  have hids : (ds.map fun d => (d.id, d)).map (·.1) = ds.map Device.id := by
    rw [List.map_map]
    rfl
  rw [hkeys, ofList_eq, ← hids]
  exact Table.keys_ofList_perm _

/-- Whatever devices a registry was made of and whichever were put in afterwards: under every
identifier the device is found that came last with it, and none under the others; every device that
is held is found under its own identifier; the devices are listed in strictly ascending order of
their identifiers, which are the last ones of all identifiers given; and there are as many of them
as the registry counts, one for each identifier. -/
theorem last_given_listed (made putIn : List Device) :
    let r := putIn.foldl insert (ofList made)
    let given := made ++ putIn
    (∀ id, r.find? id = lastOf? id given) ∧
      (∀ e ∈ r.devices.entries, e.1 = e.2.id ∧ r.find? e.2.id = some e.2) ∧
      r.toList.Pairwise (·.id < ·.id) ∧
      (∀ d, d ∈ r.toList ↔ lastOf? d.id given = some d) ∧
      r.toList.length = r.size ∧ r.size = (given.map Device.id).dedup.length := by
  intro r given
  have hr : r = ofList given := foldl_insert_ofList made putIn
  have hkeyed : r.IsKeyed := hr ▸ isKeyed_ofList given
  have hfind (id : String) : r.find? id = lastOf? id given := by rw [hr, find?_ofList]
  have hsize : r.toList.length = r.size := List.length_map _
  refine ⟨hfind, fun e he => ?_, hkeyed.toList_ascending, fun d => ?_, hsize, ?_⟩
  · have hkey := hkeyed e he
    exact ⟨hkey, hkey ▸ Table.find?_eq_some_iff.2 he⟩
  · rw [hkeyed.mem_toList_iff, hfind]
  · rw [← hsize, ← (perm_dedup_ids given).length_eq, List.length_map, hr]

end Registry

end FieldGateway
