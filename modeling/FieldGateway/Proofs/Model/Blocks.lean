import FieldGateway.Proofs.Lists

/-!
# The report control blocks of a model

The blocks are searched for by their references, the buffered ones before the others. Looking one up
and changing one come to the same block, although references may be shared.

* `ServerModel.blocks_modifyBlock`, `ServerModel.blocks_addBlock`: the blocks after a change.
* `ServerModel.designates_findIdx?`: which block a reference stands for.
-/

namespace FieldGateway

namespace ServerModel

variable {m : ServerModel}

/-- The block of a reference is the one at a position in the list of all blocks, for who looks it up
and for who changes it. -/
def Designates (m : ServerModel) (reference : String) : Option Nat → Prop
  | none => m.block? reference = none ∧ ∀ f, m.modifyBlock reference f = m
  | some i =>
    (∃ b, b.reference = reference ∧ m.blocks[i]? = some b ∧ m.block? reference = some b) ∧
      ∀ f, (m.modifyBlock reference f).nodes = m.nodes ∧
        (m.modifyBlock reference f).buffered.length = m.buffered.length ∧
        (m.modifyBlock reference f).blocks = m.blocks.modify i f

theorem blocks_modifyBlock (m : ServerModel) (r : String) (f : ControlBlock → ControlBlock) :
    (m.modifyBlock r f).blocks = modifyFirst (·.reference == r) f m.blocks := by
  unfold modifyBlock blocks buffered?
  rw [modifyFirst_append]
  split <;> rfl

theorem length_buffered_modifyBlock (m : ServerModel) (r : String)
    (f : ControlBlock → ControlBlock) :
    (m.modifyBlock r f).buffered.length = m.buffered.length := by
  unfold modifyBlock
  split
  · exact length_modifyFirst m.buffered
  · rfl

theorem nodes_modifyBlock (m : ServerModel) (r : String) (f : ControlBlock → ControlBlock) :
    (m.modifyBlock r f).nodes = m.nodes := by
  unfold modifyBlock
  split <;> rfl

theorem modifyBlock_of_none {r : String} (h : m.block? r = none) (f : ControlBlock → ControlBlock) :
    m.modifyBlock r f = m := by
  obtain ⟨hb, hu⟩ := Option.or_eq_none_iff.1 h
  rw [modifyBlock, hb, if_neg (by simp), modifyFirst_of_none hu]

/-- Whoever looks a block up and whoever changes it come to the first block of the reference, the
buffered ones before the others. -/
theorem designates_findIdx? (m : ServerModel) (r : String) :
    m.Designates r (m.blocks.findIdx? (·.reference == r)) := by
  cases hidx : m.blocks.findIdx? (·.reference == r) with
  | none =>
    have hnone : m.block? r = none := by
      rw [block?_eq_find?]
      exact List.find?_eq_none.2 fun b hb => by simpa using List.findIdx?_eq_none_iff.1 hidx b hb
    exact ⟨hnone, modifyBlock_of_none hnone⟩
  | some i =>
    obtain ⟨hi, hp, hfirst⟩ := List.findIdx?_eq_some_iff_getElem.1 hidx
    have hfind : m.blocks.find? (·.reference == r) = some m.blocks[i] :=
      List.find?_eq_some_iff_getElem.2 ⟨hp, i, hi, rfl, fun j hj => by simpa using hfirst j hj⟩
    refine ⟨⟨m.blocks[i], by simpa using hp, List.getElem?_eq_getElem hi, ?_⟩, fun f =>
      ⟨nodes_modifyBlock m r f, length_buffered_modifyBlock m r f, ?_⟩⟩
    · rw [block?_eq_find?, hfind]
    · refine List.ext_getElem? fun k => ?_
      rw [blocks_modifyBlock, getElem?_modifyFirst, hidx, List.getElem?_modify]
      simp

theorem blocks_addBlock (m : ServerModel) (b : ControlBlock) :
    m.buffered <+: (m.addBlock b).buffered ∧ m.unbuffered <+: (m.addBlock b).unbuffered ∧
      (m.addBlock b).blocks.Perm (b :: m.blocks) := by
  unfold addBlock
  split
  · refine ⟨List.prefix_append _ _, List.prefix_rfl, ?_⟩
    simp [blocks]
  · refine ⟨List.prefix_rfl, List.prefix_append _ _, ?_⟩
    rw [blocks, ← List.append_assoc]
    exact List.perm_append_singleton _ _

end ServerModel

end FieldGateway
