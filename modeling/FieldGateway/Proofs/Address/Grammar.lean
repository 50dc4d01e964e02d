import FieldGateway.Proofs.Address.Parts

/-!
# The grammar of references

Which texts a reference can be, and what its parts are then. The kind of a logical device ends
where the last run of digits before the slash begins, so that the parts are told apart in one way
only.

* `Reference.Segments`: a text put together from the segments of a reference.
* `Reference.split?_text`: the parts of such a text.
* `Reference.exists_segments`: a text that has parts is such a text.
* `Reference.Segments.text_inj`: the segments of a text are unique.
* `Reference.split?_iff_segments`: all of this for every server name and every text.
-/

namespace FieldGateway

namespace Text

variable {s t : List Char}

theorem isDigit_of_mem_trailingDigits {c : Char} (h : c ∈ trailingDigits s) : c.isDigit = true := by
  rw [trailingDigits, List.mem_reverse] at h
  exact List.mem_takeWhile_imp h

theorem endsPlain_beforeDigits (s : List Char) : EndsPlain (beforeDigits s) := by
  intro c hc
  rw [beforeDigits, List.getLast?_reverse] at hc
  have hhead := List.head?_dropWhile_not Char.isDigit s.reverse
  rw [hc] at hhead
  simpa using hhead

theorem digitsByte?_eq_some {i : UInt8} (hne : s ≠ []) (hs : ∀ c ∈ s, c.isDigit = true) :
    digitsByte? s = some i ↔
      Nat.ofDigitChars 10 s 0 ≤ 255 ∧ UInt8.ofNat (Nat.ofDigitChars 10 s 0) = i := by
  have hall : s.all Char.isDigit = true := List.all_eq_true.2 hs
  rw [digitsByte?, digitsValue?, if_pos ⟨hne, hall⟩, digitsFrom_eq, Option.filter_some]
  by_cases hsmall : Nat.ofDigitChars 10 s 0 < 256
  · simp [hsmall, Nat.le_of_lt_succ hsmall]
  · have hlarge : ¬ Nat.ofDigitChars 10 s 0 ≤ 255 := by omega
    simp [hsmall, hlarge]

end Text

namespace Reference

/-- The segments that the text of a reference is put together from, without the server name. -/
@[ext] structure Segments where
  /-- The kind of the logical device. -/
  token : String
  /-- The number of the logical device, as it is written. -/
  digits : String
  node : String
  attr : String
  /-- What stands behind the attribute, if a point follows it. -/
  tail : Option String
  token_slash : '/' ∉ token.toList
  token_plain : Text.EndsPlain token.toList
  digits_digit : ∀ c ∈ digits.toList, c.isDigit = true
  digits_small : Nat.ofDigitChars 10 digits.toList 0 ≤ 255
  node_ne : node ≠ ""
  node_point : '.' ∉ node.toList
  attr_ne : attr ≠ ""
  attr_point : '.' ∉ attr.toList

namespace Segments

/-- What stands behind the attribute, with the point before it. -/
def ending (s : Segments) : String := s.tail.elim "" ("." ++ ·)

/-- The text that begins with the server name and goes on with the segments. -/
def text (server : String) (s : Segments) : String :=
  server ++ s.token ++ s.digits ++ "/" ++ s.node ++ "." ++ s.attr ++ s.ending

/-- The parts of a reference with these segments. -/
def parts (s : Segments) : ReferenceParts where
  logicalDevice := s.token
  instanceId :=
    if s.digits = "" then none else some (UInt8.ofNat (Nat.ofDigitChars 10 s.digits.toList 0))
  logicalNode := s.node
  attr := s.attr

variable {server : String} {s t : Segments}

/-- What stands before the slash. -/
def device (s : Segments) : List Char := s.token.toList ++ s.digits.toList

/-- What stands behind the slash. -/
def path (s : Segments) : List Char :=
  s.node.toList ++ '.' :: (s.attr.toList ++ s.ending.toList)

theorem toList_text (server : String) (s : Segments) :
    (s.text server).toList = server.toList ++ (s.device ++ '/' :: s.path) := by
  simp [text, device, path, String.toList_append]

theorem slash_notMem_device (s : Segments) : '/' ∉ s.device := by
  intro hmem
  rcases List.mem_append.1 hmem with htoken | hdigit
  · exact s.token_slash htoken
  · exact absurd (s.digits_digit _ hdigit) (by decide)

theorem takeWhile_path (s : Segments) : s.path.takeWhile (· != '.') = s.node.toList ∧
    s.path.dropWhile (· != '.') = '.' :: (s.attr.toList ++ s.ending.toList) :=
  takeWhile_mark s.node_point _

theorem takeWhile_attr (s : Segments) :
    (s.attr.toList ++ s.ending.toList).takeWhile (· != '.') = s.attr.toList ∧
      (s.attr.toList ++ s.ending.toList).dropWhile (· != '.') = s.ending.toList := by
  unfold ending
  cases s.tail with
  | none =>
    have hall : ∀ c ∈ s.attr.toList, (c != '.') = true := by
      intro c hc
      have hne : c ≠ '.' := fun he => s.attr_point (he ▸ hc)
      simpa using hne
    rw [Option.elim_none, String.toList_empty, List.append_nil]
    exact ⟨List.takeWhile_eq_self_iff.2 hall, List.dropWhile_eq_nil_iff.2 hall⟩
  | some rest =>
    rw [Option.elim_some, String.toList_append, show ".".toList = ['.'] from rfl]
    exact takeWhile_mark s.attr_point _

theorem firstSegments?_path (s : Segments) :
    firstSegments? s.path = some (s.node.toList, s.attr.toList) := by
  obtain ⟨c, node, hnode⟩ := List.exists_cons_of_ne_nil (mt String.toList_eq_nil_iff.1 s.node_ne)
  obtain ⟨c', attr, hattr⟩ := List.exists_cons_of_ne_nil (mt String.toList_eq_nil_iff.1 s.attr_ne)
  unfold firstSegments?
  rw [s.takeWhile_path.1, s.takeWhile_path.2, hnode]
  simp only [s.takeWhile_attr.1]
  rw [hattr]

theorem splitDevice?_device (s : Segments) :
    splitDevice? s.device = some (s.token.toList, s.parts.instanceId) := by
  unfold splitDevice? device
  rw [Text.trailingDigits_append s.token_plain s.digits_digit,
    Text.beforeDigits_append s.token_plain s.digits_digit]
  by_cases hempty : s.digits = ""
  · simp [parts, hempty]
  · have hne : s.digits.toList ≠ [] := mt String.toList_eq_nil_iff.1 hempty
    have hbyte := (Text.digitsByte?_eq_some hne s.digits_digit).2 ⟨s.digits_small, rfl⟩
    split
    · next hnil => exact absurd hnil hne
    · rw [hbyte]
      simp [parts, hempty]

/-- The segments of a text are unique. -/
theorem text_inj (h : s.text server = t.text server) : s = t := by
  have hlist := congrArg String.toList h
  rw [toList_text, toList_text] at hlist
  have hrest := List.append_cancel_left hlist
  have hdevice := takeWhile_mark s.slash_notMem_device s.path
  rw [hrest, (takeWhile_mark t.slash_notMem_device t.path).1,
    (takeWhile_mark t.slash_notMem_device t.path).2] at hdevice
  have hpath : t.path = s.path := (List.cons.inj hdevice.2).2
  have htoken := Text.beforeDigits_append s.token_plain s.digits_digit
  have hdigits := Text.trailingDigits_append s.token_plain s.digits_digit
  rw [show s.token.toList ++ s.digits.toList = t.token.toList ++ t.digits.toList from
    hdevice.1.symm] at htoken hdigits
  rw [Text.beforeDigits_append t.token_plain t.digits_digit] at htoken
  rw [Text.trailingDigits_append t.token_plain t.digits_digit] at hdigits
  have hnode := t.takeWhile_path
  rw [hpath, s.takeWhile_path.1, s.takeWhile_path.2] at hnode
  have hbehind := (List.cons.inj hnode.2).2
  have hattr := t.takeWhile_attr
  rw [← hbehind, s.takeWhile_attr.1, s.takeWhile_attr.2] at hattr
  have hending : s.ending = t.ending := String.toList_injective hattr.2
  refine Segments.ext (String.toList_injective htoken.symm) (String.toList_injective hdigits.symm)
    (String.toList_injective hnode.1) (String.toList_injective hattr.1) ?_
  unfold ending at hending
  cases hs : s.tail <;> cases ht : t.tail <;> simp_all

end Segments

variable {server r : String} {p : ReferenceParts}

/-- The parts of a text that is put together from segments. -/
theorem split?_text (server : String) (s : Segments) :
    split? server (s.text server) = some s.parts := by
  unfold split?
  rw [s.toList_text, List.isPrefixOf?_eq_some_iff_append_eq.2 rfl]
  simp only [Option.bind_eq_bind, Option.bind_some, (takeWhile_mark s.slash_notMem_device _).1,
    (takeWhile_mark s.slash_notMem_device _).2, s.splitDevice?_device, s.firstSegments?_path,
    String.ofList_toList]
  rfl

theorem notMem_takeWhile (mark : Char) (s : List Char) : mark ∉ s.takeWhile (· != mark) :=
  fun hmem => by simpa using List.mem_takeWhile_imp hmem

/-- A text in which a mark is found is parted by it. -/
theorem eq_append_mark {mark c : Char} {s t : List Char} (h : s.dropWhile (· != mark) = c :: t) :
    s = s.takeWhile (· != mark) ++ mark :: t := by
  have hhead := List.head?_dropWhile_not (· != mark) s
  rw [h] at hhead
  have hc : c = mark := by simpa using hhead
  rw [← hc, ← h, hc, List.takeWhile_append_dropWhile]

/-- What a path is that has a node and an attribute. -/
theorem firstSegments?_eq_some {path node attr : List Char}
    (h : firstSegments? path = some (node, attr)) :
    ∃ ending, path = node ++ '.' :: (attr ++ ending) ∧
      (ending = [] ∨ ∃ tail, ending = '.' :: tail) ∧
      node ≠ [] ∧ '.' ∉ node ∧ attr ≠ [] ∧ '.' ∉ attr := by
  unfold firstSegments? at h
  split at h
  · next c node' mark behind hnode hbehind =>
    split at h
    · cases h
    · next attr' hattr =>
      cases h
      have hpath := eq_append_mark hbehind
      rw [hnode] at hpath
      refine ⟨behind.dropWhile (· != '.'), ?_, ?_, List.cons_ne_nil _ _,
        hnode ▸ notMem_takeWhile '.' path, fun hnil => hattr hnil, notMem_takeWhile '.' behind⟩
      · rw [List.takeWhile_append_dropWhile]
        exact hpath
      · cases hending : behind.dropWhile (· != '.') with
        | nil => exact .inl rfl
        | cons c' tail =>
          have hbehind' := eq_append_mark hending
          refine .inr ⟨tail, ?_⟩
          refine (List.append_right_inj (behind.takeWhile (· != '.'))).1 ?_
          rw [← hending, List.takeWhile_append_dropWhile]
          exact hbehind'
  · cases h

/-- What a text is that has the kind of a logical device and its number. -/
theorem splitDevice?_eq_some {device token : List Char} {i : Option UInt8}
    (h : splitDevice? device = some (token, i)) :
    token = Text.beforeDigits device ∧
      Nat.ofDigitChars 10 (Text.trailingDigits device) 0 ≤ 255 := by
  unfold splitDevice? at h
  split at h
  · next hnil =>
    cases h
    rw [hnil]
    exact ⟨rfl, by decide⟩
  · next digits hne =>
    obtain ⟨i', hbyte, hpair⟩ := Option.map_eq_some_iff.1 h
    cases hpair
    exact ⟨rfl, ((Text.digitsByte?_eq_some (fun hnil => hne hnil)
      fun _ => Text.isDigit_of_mem_trailingDigits).1 hbyte).1⟩

/-- A text that has parts is put together from segments. -/
theorem exists_segments (h : split? server r = some p) : ∃ s : Segments, s.text server = r := by
  unfold split? at h
  obtain ⟨rest, hprefix, h⟩ := Option.bind_eq_some_iff.1 h
  have hr : server.toList ++ rest = r.toList := List.isPrefixOf?_eq_some_iff_append_eq.1 hprefix
  split at h
  · cases h
  · next slash path hpath =>
    obtain ⟨⟨token, i⟩, hdevice, h⟩ := Option.bind_eq_some_iff.1 h
    obtain ⟨⟨node, attr⟩, hsegments, -⟩ := Option.bind_eq_some_iff.1 h
    obtain ⟨rfl, hsmall⟩ := splitDevice?_eq_some hdevice
    obtain ⟨ending, rfl, hending, hnode, hnodePoint, hattr, hattrPoint⟩ :=
      firstSegments?_eq_some hsegments
    have hslash := notMem_takeWhile '/' rest
    have hparts := Text.beforeDigits_append_trailingDigits (rest.takeWhile (· != '/'))
    obtain ⟨tail, htail⟩ : ∃ tail : Option String,
        (tail.elim "" ("." ++ ·)).toList = ending := by
      rcases hending with rfl | ⟨tail, rfl⟩
      · exact ⟨none, rfl⟩
      · exact ⟨some (String.ofList tail), by simp [String.toList_append]⟩
    let s : Segments :=
      { token := String.ofList (Text.beforeDigits (rest.takeWhile (· != '/')))
        digits := String.ofList (Text.trailingDigits (rest.takeWhile (· != '/')))
        node := String.ofList node
        attr := String.ofList attr
        tail
        token_slash := by
          rw [String.toList_ofList]
          exact fun hmem => hslash (hparts ▸ List.mem_append_left _ hmem)
        token_plain := by
          rw [String.toList_ofList]
          exact Text.endsPlain_beforeDigits _
        digits_digit := by
          rw [String.toList_ofList]
          exact fun _ => Text.isDigit_of_mem_trailingDigits
        digits_small := by rwa [String.toList_ofList]
        node_ne := fun hempty => hnode (by simpa using hempty)
        node_point := by rwa [String.toList_ofList]
        attr_ne := fun hempty => hattr (by simpa using hempty)
        attr_point := by rwa [String.toList_ofList] }
    refine ⟨s, String.toList_injective ?_⟩
    have hdevice' : s.device = rest.takeWhile (· != '/') := by
      simp only [Segments.device, s, String.toList_ofList, hparts]
    have hpath' : s.path = node ++ '.' :: (attr ++ ending) := by
      simp only [Segments.path, Segments.ending, s, String.toList_ofList, htail]
    rw [s.toList_text, hdevice', hpath', ← eq_append_mark hpath, hr]

/-- A text has parts exactly when it is the server name, the kind of a logical device, its number,
a slash, a node, a point, an attribute and what else follows behind a point; there is one such way
to read it, and the parts are read off it. -/
theorem split?_iff_segments (server r : String) :
    (∀ p, split? server r = some p ↔ ∃ s : Segments, s.text server = r ∧ s.parts = p) ∧
      ∀ s t : Segments, s.text server = r → t.text server = r → s = t := by
  refine ⟨fun p => ⟨fun h => ?_, ?_⟩, fun s t hs ht => Segments.text_inj (hs.trans ht.symm)⟩
  · obtain ⟨s, rfl⟩ := exists_segments h
    rw [split?_text] at h
    exact ⟨s, rfl, Option.some.inj h⟩
  · rintro ⟨s, rfl, rfl⟩
    exact split?_text server s

example : split? "S" "S007/N.a.b" = some ⟨"", some 7, "N", "a"⟩ ∧ split? "S" "SPV256/N.a" = none ∧
    split? "S" "SPV1/N" = none := by decide +kernel

end Reference

end FieldGateway
