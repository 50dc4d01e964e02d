import FieldGateway.Address.Reference
import FieldGateway.Proofs.Text.Numerals
import Mathlib.Data.List.TakeWhile
import Mathlib.Data.List.Infix

/-!
# Parts of references

The reference of an address is put together from texts that are told apart again by the marks
between them: the slash, the point, and the digits at the end of the logical device.

* `Text.trailingDigits_append`: the digits at the end of a text.
* `Reference.resolve_eq_ok`: when an address has a reference, and which.
* `Reference.split?_resolve`: the parts of the reference of an address.
* `Reference.resolve_inj`: two addresses with one reference agree in all their parts.
* `Reference.resolves_into_parts`: all of this for every server name and every address whose logical
  device can be named in a reference.
-/

namespace FieldGateway

/-! ## Digits at the end -/

namespace Text

/-- Holds of a text that does not end in a digit. -/
def EndsPlain (s : List Char) : Prop := ∀ c, s.getLast? = some c → c.isDigit = false

variable {s t : List Char}

theorem takeWhile_reverse_append (hs : EndsPlain s) (ht : ∀ c ∈ t, c.isDigit = true) :
    (s ++ t).reverse.takeWhile Char.isDigit = t.reverse ∧
      (s ++ t).reverse.dropWhile Char.isDigit = s.reverse := by
  have hstop : s.reverse.takeWhile Char.isDigit = [] ∧ s.reverse.dropWhile Char.isDigit =
      s.reverse := by
    cases hr : s.reverse with
    | nil => exact ⟨rfl, rfl⟩
    | cons c r =>
      have hlast : s.getLast? = some c := by rw [List.getLast?_eq_head?_reverse, hr]; rfl
      simp [hs c hlast]
  have hall : ∀ c ∈ t.reverse, c.isDigit = true := fun c hc => ht c (List.mem_reverse.1 hc)
  rw [List.reverse_append, List.takeWhile_append_of_pos hall, List.dropWhile_append_of_pos hall,
    hstop.1, hstop.2, List.append_nil]
  exact ⟨rfl, rfl⟩

theorem trailingDigits_append (hs : EndsPlain s) (ht : ∀ c ∈ t, c.isDigit = true) :
    trailingDigits (s ++ t) = t := by
  rw [trailingDigits, (takeWhile_reverse_append hs ht).1, List.reverse_reverse]

theorem beforeDigits_append (hs : EndsPlain s) (ht : ∀ c ∈ t, c.isDigit = true) :
    beforeDigits (s ++ t) = s := by
  rw [beforeDigits, (takeWhile_reverse_append hs ht).2, List.reverse_reverse]

end Text

/-! ## References -/

/-- The name of a kind of logical device keeps off the marks of a reference. -/
structure LogicalDevice.IsPlain (d : LogicalDevice) : Prop where
  slash : '/' ∉ d.token.toList
  digits : Text.EndsPlain d.token.toList

theorem LogicalDevice.isPlain_of_mem_known {d : LogicalDevice} (h : d ∈ known) : d.IsPlain := by
  have hplain : ∀ d ∈ known, '/' ∉ d.token.toList ∧
      (d.token.toList.getLast?.all fun c => !c.isDigit) = true := by decide +kernel
  refine ⟨(hplain d h).1, fun c hc => ?_⟩
  have := (hplain d h).2
  simpa [hc] using this

/-- A kind of logical device that can be named in a reference. -/
structure LogicalDevice.IsNameable (d : LogicalDevice) : Prop extends d.IsPlain where
  named : d.token.isEmpty = false

theorem LogicalDevice.isNameable_of_mem_known {d : LogicalDevice} (h : d ∈ known) :
    d.IsNameable := by
  have hnamed : ∀ d ∈ known, d.token.isEmpty = false := by decide +kernel
  exact ⟨isPlain_of_mem_known h, hnamed d h⟩

theorem LogicalDevice.ofFamily_mem_known (f : Family) : ofFamily f ∈ known := by
  cases f <;> decide

theorem LogicalDevice.isPlain_ofFamily (f : Family) : (ofFamily f).IsPlain :=
  isPlain_of_mem_known (ofFamily_mem_known f)

theorem Attribute.token_marks (a : Attribute) : a.token.toList ≠ [] ∧ '.' ∉ a.token.toList := by
  cases a <;> decide +kernel

theorem Attribute.named_token (a : Attribute) : named a.token = .ok a := by
  cases a <;> decide +kernel

/-- The number of a logical device as its reference shows it. -/
def Address.shownInstance (a : Address) : Option UInt8 :=
  if a.logicalDevice.single then none else a.instanceId

namespace Reference

/-- The number of a logical device in its full name. -/
def numeral : Option UInt8 → String
  | none => ""
  | some i => toString i.toNat

theorem isLogicalNode_iff {node : String} : isLogicalNode node = true ↔
    node.toList ≠ [] ∧ '/' ∉ node.toList ∧ '.' ∉ node.toList := by
  simp [isLogicalNode, and_assoc]

/-- When a logical device has a full name, and which. -/
theorem logicalDeviceName_eq_ok {server name : String} {a : Address} :
    logicalDeviceName server a.logicalDevice a.instanceId = .ok name ↔
      a.logicalDevice.token.isEmpty = false ∧
        (a.logicalDevice.single = true ∨ ∃ i, i ≠ 0 ∧ a.instanceId = some i) ∧
        name = server ++ a.logicalDevice.token ++ numeral a.shownInstance := by
  unfold logicalDeviceName Address.shownInstance
  cases hempty : a.logicalDevice.token.isEmpty with
  | true => simp
  | false =>
    cases hsingle : a.logicalDevice.single with
    | true => simp [numeral, eq_comm]
    | false =>
      cases hi : a.instanceId with
      | none => simp
      | some i => by_cases hzero : i = 0 <;> simp [hzero, numeral, eq_comm]

variable {server r : String} {a b : Address}

/-- When an address has a reference, and which. -/
theorem resolve_eq_ok : resolve server a = .ok r ↔
    isLogicalNode a.logicalNode = true ∧ a.logicalDevice.token.isEmpty = false ∧
      (a.logicalDevice.single = true ∨ ∃ i, i ≠ 0 ∧ a.instanceId = some i) ∧
      r = server ++ a.logicalDevice.token ++ numeral a.shownInstance ++ "/" ++ a.logicalNode ++
        "." ++ a.attr.token := by
  unfold resolve
  constructor
  · intro h
    split at h
    · next hnode =>
      split at h
      · cases h
      · next name hname =>
        cases h
        obtain ⟨htoken, hinstance, rfl⟩ := logicalDeviceName_eq_ok.1 hname
        exact ⟨hnode, htoken, hinstance, rfl⟩
    · cases h
  · rintro ⟨hnode, htoken, hinstance, rfl⟩
    rw [if_pos hnode, logicalDeviceName_eq_ok.2 ⟨htoken, hinstance, rfl⟩]

theorem isDigit_of_mem_numeral {i : Option UInt8} {c : Char} (h : c ∈ (numeral i).toList) :
    c.isDigit = true := by
  cases i with
  | none => cases h
  | some i => exact Text.isDigit_of_mem_toString h

theorem splitDevice?_numeral {token : List Char} (h : Text.EndsPlain token) (i : Option UInt8) :
    splitDevice? (token ++ (numeral i).toList) = some (token, i) := by
  have hdigits : ∀ c ∈ (numeral i).toList, c.isDigit = true := fun _ => isDigit_of_mem_numeral
  unfold splitDevice?
  rw [Text.trailingDigits_append h hdigits, Text.beforeDigits_append h hdigits]
  cases i with
  | none => rfl
  | some i =>
    simp only [numeral]
    split
    · next hnil => exact absurd hnil (Text.toList_toString_ne_nil _)
    · rw [Text.digitsByte?_toString]
      rfl

/-- What stands before a mark, and the mark with what stands behind it. -/
theorem takeWhile_mark {mark : Char} {s : List Char} (h : mark ∉ s) (t : List Char) :
    (s ++ mark :: t).takeWhile (· != mark) = s ∧
      (s ++ mark :: t).dropWhile (· != mark) = mark :: t := by
  have hall : ∀ c ∈ s, (c != mark) = true := by
    intro c hc
    have hne : c ≠ mark := fun he => h (he ▸ hc)
    simpa using hne
  rw [List.takeWhile_append_of_pos hall, List.dropWhile_append_of_pos hall]
  simp

theorem firstSegments?_append {node attr : List Char} (hnode : node ≠ []) (hpoint : '.' ∉ node)
    (hattr : attr ≠ []) (hpoint' : '.' ∉ attr) :
    firstSegments? (node ++ '.' :: attr) = some (node, attr) := by
  have hall : ∀ c ∈ attr, (c != '.') = true := by
    intro c hc
    have hne : c ≠ '.' := fun he => hpoint' (he ▸ hc)
    simpa using hne
  obtain ⟨c, node', rfl⟩ := List.exists_cons_of_ne_nil hnode
  obtain ⟨c', attr', rfl⟩ := List.exists_cons_of_ne_nil hattr
  unfold firstSegments?
  rw [(takeWhile_mark hpoint _).1, (takeWhile_mark hpoint _).2]
  simp only [List.takeWhile_eq_self_iff.2 hall]

/-- The parts of the reference of an address are those that it was put together from. -/
theorem split?_resolve (hplain : a.logicalDevice.IsPlain) (h : resolve server a = .ok r) :
    split? server r =
      some ⟨a.logicalDevice.token, a.shownInstance, a.logicalNode, a.attr.token⟩ := by
  obtain ⟨hnode, -, -, rfl⟩ := resolve_eq_ok.1 h
  obtain ⟨hne, -, hpoint⟩ := isLogicalNode_iff.1 hnode
  obtain ⟨hattr, hattrPoint⟩ := a.attr.token_marks
  have hslash : '/' ∉ a.logicalDevice.token.toList ++ (numeral a.shownInstance).toList := by
    intro hmem
    rcases List.mem_append.1 hmem with htoken | hdigit
    · exact hplain.slash htoken
    · exact absurd (isDigit_of_mem_numeral hdigit) (by decide)
  have hlist : (server ++ a.logicalDevice.token ++ numeral a.shownInstance ++ "/" ++
      a.logicalNode ++ "." ++ a.attr.token).toList = server.toList ++
        ((a.logicalDevice.token.toList ++ (numeral a.shownInstance).toList) ++
          '/' :: (a.logicalNode.toList ++ '.' :: a.attr.token.toList)) := by
    simp [String.toList_append]
  unfold split?
  rw [hlist, List.isPrefixOf?_eq_some_iff_append_eq.2 rfl]
  simp only [Option.bind_eq_bind, Option.bind_some, (takeWhile_mark hslash _).1,
    (takeWhile_mark hslash _).2, splitDevice?_numeral hplain.digits,
    firstSegments?_append hne hpoint hattr hattrPoint, String.ofList_toList]
  rfl

theorem resolve_inj (ha : a.logicalDevice.IsPlain) (hb : b.logicalDevice.IsPlain)
    (h : resolve server a = .ok r) (h' : resolve server b = .ok r) :
    a.logicalDevice.token = b.logicalDevice.token ∧ a.shownInstance = b.shownInstance ∧
      a.logicalNode = b.logicalNode ∧ a.attr = b.attr := by
  have hparts := (split?_resolve ha h).symm.trans (split?_resolve hb h')
  obtain ⟨htoken, hinstance, hnode, hattr⟩ := ReferenceParts.mk.inj (Option.some.inj hparts)
  refine ⟨htoken, hinstance, hnode, ?_⟩
  have hnamed := Attribute.named_token a.attr
  rw [hattr, Attribute.named_token] at hnamed
  exact (Except.ok.inj hnamed).symm

theorem single_of_resolve (h : resolve server a = .ok r) :
    a.logicalDevice.single = a.shownInstance.isNone := by
  obtain ⟨-, -, hinstance, -⟩ := resolve_eq_ok.1 h
  unfold Address.shownInstance
  cases hsingle : a.logicalDevice.single with
  | true => rfl
  | false =>
    obtain ⟨i, -, hi⟩ := hinstance.resolve_left (by simp [hsingle])
    simp [hi]

/-- What does not fit about an address, if its logical device has a name. -/
theorem misfit_of_resolve (hnamed : a.logicalDevice.token.isEmpty = false) {m : Misfit}
    (h : resolve server a = .error m) :
    m = .invalidLogicalNode a.logicalNode ∨ m = .instanceMissing a.logicalDevice.token ∨
      m = .instanceZero a.logicalDevice.token := by
  unfold resolve at h
  split at h
  · simp only [logicalDeviceName, hnamed, Bool.false_eq_true, if_false] at h
    split at h
    · next e hname =>
      cases h
      split at hname
      · cases hname
      · split at hname
        · cases hname
          exact .inr (.inl rfl)
        · split at hname <;> cases hname
          exact .inr (.inr rfl)
    · cases h
  · cases h
    exact .inl rfl

/-- An address whose logical device can be named has a reference exactly if its logical node can
stand in one and it is told which of several logical devices is meant; anything else does not fit.
The reference is split into the parts that it was put together from, the number of the logical
device among them unless there is only one of the kind, so that two such addresses with one
reference agree in these parts. -/
theorem resolves_into_parts {server : String} {a : Address} (ha : a.logicalDevice.IsNameable) :
    ((∃ r, resolve server a = .ok r) ↔
      (a.logicalNode.toList ≠ [] ∧ '/' ∉ a.logicalNode.toList ∧ '.' ∉ a.logicalNode.toList) ∧
        (a.logicalDevice.single = true ∨ ∃ i : UInt8, 1 ≤ i ∧ a.instanceId = some i)) ∧
    ((∃ r, resolve server a = .ok r) ∨
      ∃ m, (resolve server a).mapError .configuration = .error (Failure.configuration m) ∧
        (m = .invalidLogicalNode a.logicalNode ∨ m = .instanceMissing a.logicalDevice.token ∨
          m = .instanceZero a.logicalDevice.token)) ∧
    ∀ r, resolve server a = .ok r →
      split? server r =
        some ⟨a.logicalDevice.token, a.shownInstance, a.logicalNode, a.attr.token⟩ ∧
      ∀ b : Address, b.logicalDevice.IsNameable → resolve server b = .ok r →
        a.logicalDevice = b.logicalDevice ∧ a.shownInstance = b.shownInstance ∧
          a.logicalNode = b.logicalNode ∧ a.attr = b.attr := by
  refine ⟨?_, ?_, fun r hr => ⟨split?_resolve ha.toIsPlain hr, fun b hb hr' => ?_⟩⟩
  · have hpos : ∀ i : UInt8, i ≠ 0 ↔ 1 ≤ i := by
      intro i
      rw [UInt8.le_iff_toNat_le, ne_eq, ← UInt8.toNat_inj]
      exact Nat.one_le_iff_ne_zero.symm
    simp only [resolve_eq_ok, isLogicalNode_iff, ha.named, hpos, true_and]
    constructor
    · rintro ⟨r, hnode, hinstance, -⟩
      exact ⟨hnode, hinstance⟩
    · rintro ⟨hnode, hinstance⟩
      exact ⟨_, hnode, hinstance, rfl⟩
  · cases h : resolve server a with
    | ok r => exact .inl ⟨r, rfl⟩
    | error m => exact .inr ⟨m, rfl, misfit_of_resolve ha.named h⟩
  · obtain ⟨htoken, hinstance, hrest⟩ := resolve_inj ha.toIsPlain hb.toIsPlain hr hr'
    have hsingle : a.logicalDevice.single = b.logicalDevice.single := by
      rw [single_of_resolve hr, single_of_resolve hr', hinstance]
    refine ⟨?_, hinstance, hrest⟩
    cases hd : a.logicalDevice
    cases hd' : b.logicalDevice
    simp_all

/-- An address in a plant whose server name ends in a digit and holds the marks of a reference. -/
def feeder : Address := ⟨.pv, some 12, "MMXU1", .actualPower, .measurand⟩

theorem resolves_into_parts_feeder :
    feeder.logicalDevice.IsNameable ∧
      resolve "SITE/7.A1" feeder = .ok "SITE/7.A1PV12/MMXU1.TotW" ∧
      split? "SITE/7.A1" "SITE/7.A1PV12/MMXU1.TotW" = some ⟨"PV", some 12, "MMXU1", "TotW"⟩ := by
  have hnameable : feeder.logicalDevice.IsNameable :=
    LogicalDevice.isNameable_of_mem_known (by decide)
  have hresolve : resolve "SITE/7.A1" feeder = .ok "SITE/7.A1PV12/MMXU1.TotW" := by
    decide +kernel
  exact ⟨hnameable, hresolve, ((resolves_into_parts hnameable).2.2 _ hresolve).1⟩

end Reference

end FieldGateway
