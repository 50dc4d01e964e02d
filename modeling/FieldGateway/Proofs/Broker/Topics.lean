import FieldGateway.Broker.Topic
import Mathlib.Data.List.Infix
import Mathlib.Data.List.TakeWhile

/-!
# Topics and slashes

A root may be set with slashes around it, and a topic may come in with more of them. Every text is
slashes around a core, which is what trimming leaves of it; whatever stands around the core of the
root, what follows the level of requests alone decides which device a topic names.

* `Topic.exists_core`, `Topic.trimSlashes_eq_core`: every text has a core, and trimming finds it.
* `Topic.deviceOf?_of_core`: what a topic around the core of the root names.
* `Topic.deviceOf?_under_append`: what a topic names that the subscription matches.
* `Topic.device_of_subscribed`: the device that a topic below the subscription names.
-/

namespace FieldGateway.Topic

def slashes (n : Nat) : List Char := List.replicate n '/'

/-- Holds of a text with no slash at either end. -/
structure Bare (s : List Char) : Prop where
  front : s.head? ≠ some '/'
  back : s.getLast? ≠ some '/'

variable {s t core : List Char} {i j : Nat}

theorem slashes_append_slashes (i j : Nat) : slashes i ++ slashes j = slashes (i + j) :=
  List.replicate_append_replicate

theorem reverse_slashes (n : Nat) : (slashes n).reverse = slashes n := List.reverse_replicate

theorem bare_of_not_mem (h : '/' ∉ s) : Bare s :=
  ⟨fun hs => h (List.mem_of_head? hs), fun hs => h (List.mem_of_getLast? hs)⟩

/-! ## Trimming -/

theorem trimEnd_eq_reverse (s : List Char) : trimEnd s = (trimStart s.reverse).reverse := rfl

theorem trimStart_slashes_append (n : Nat) (s : List Char) :
    trimStart (slashes n ++ s) = trimStart s :=
  List.dropWhile_append_of_pos fun _ hc => beq_iff_eq.2 (List.eq_of_mem_replicate hc)

theorem trimEnd_append_slashes (s : List Char) (n : Nat) :
    trimEnd (s ++ slashes n) = trimEnd s := by
  rw [trimEnd_eq_reverse, List.reverse_append, reverse_slashes, trimStart_slashes_append]
  rfl

theorem trimStart_eq_self (h : s.head? ≠ some '/') : trimStart s = s := by
  cases s with
  | nil => rfl
  | cons c s =>
    have hc : isSlash c = false := by simpa [isSlash] using h
    simp [trimStart, hc]

theorem trimEnd_eq_self (h : s.getLast? ≠ some '/') : trimEnd s = s := by
  rw [trimEnd_eq_reverse, trimStart_eq_self (by simpa using h), List.reverse_reverse]

/-- Every text is slashes and a text that does not begin with one. -/
theorem exists_slashes_append (s : List Char) :
    ∃ n t, s = slashes n ++ t ∧ t.head? ≠ some '/' := by
  induction s with
  | nil => exact ⟨0, [], rfl, by simp⟩
  | cons c s ih =>
    by_cases hc : c = '/'
    · obtain ⟨n, t, rfl, ht⟩ := ih
      exact ⟨n + 1, t, by rw [hc]; rfl, ht⟩
    · exact ⟨0, c :: s, rfl, by simpa using hc⟩

theorem exists_append_slashes (s : List Char) :
    ∃ t n, s = t ++ slashes n ∧ t.getLast? ≠ some '/' := by
  obtain ⟨n, t, hs, ht⟩ := exists_slashes_append s.reverse
  refine ⟨t.reverse, n, ?_, by simpa using ht⟩
  rw [← reverse_slashes, ← List.reverse_append, ← hs, List.reverse_reverse]

theorem exists_core (s : List Char) :
    ∃ i core j, s = slashes i ++ core ++ slashes j ∧ Bare core := by
  obtain ⟨i, t, rfl, ht⟩ := exists_slashes_append s
  obtain ⟨core, j, rfl, hcore⟩ := exists_append_slashes t
  refine ⟨i, core, j, (List.append_assoc ..).symm, fun hfront => ht ?_, hcore⟩
  rw [List.head?_append, hfront, Option.some_or]

/-- Behind a text that does not end with a slash only what follows it is trimmed. -/
theorem trimEnd_append (h : s.getLast? ≠ some '/') (t : List Char) :
    trimEnd (s ++ t) = s ++ trimEnd t := by
  obtain ⟨u, n, rfl, hu⟩ := exists_append_slashes t
  have hback : (s ++ u).getLast? ≠ some '/' := by
    rw [List.getLast?_append]
    cases hlast : u.getLast? with
    | none => simpa using h
    | some c => simpa [hlast] using hu
  rw [← List.append_assoc, trimEnd_append_slashes, trimEnd_append_slashes, trimEnd_eq_self hback,
    trimEnd_eq_self hu]

theorem trimStart_append (hs : s ≠ []) (h : s.head? ≠ some '/') (t : List Char) :
    trimStart (s ++ t) = s ++ t := by
  refine trimStart_eq_self ?_
  cases s with
  | nil => exact absurd rfl hs
  | cons c s => exact h

theorem trimSlashes_eq_core (h : Bare core) (i j : Nat) :
    trimSlashes (slashes i ++ core ++ slashes j) = core := by
  rw [trimSlashes, List.append_assoc, trimStart_slashes_append]
  by_cases hcore : core = []
  · have hnone := trimStart_slashes_append j []
    rw [List.append_nil] at hnone
    rw [hcore, List.nil_append, hnone]
    rfl
  · rw [trimStart_append hcore h.front, trimEnd_append_slashes, trimEnd_eq_self h.back]

/-- A text has one core only. -/
theorem core_unique (hs : Bare s) (ht : Bare t) {i j i' j' : Nat}
    (h : slashes i ++ s ++ slashes j = slashes i' ++ t ++ slashes j') : s = t := by
  rw [← trimSlashes_eq_core hs i j, h, trimSlashes_eq_core ht]

theorem trimEnd_slashes_append (h : Bare core) (hne : core ≠ []) (i : Nat) :
    trimEnd (slashes i ++ core) = slashes i ++ core := by
  refine trimEnd_eq_self ?_
  rw [List.getLast?_append_of_ne_nil _ hne]
  exact h.back

theorem trimEnd_slashes (n : Nat) : trimEnd (slashes n) = [] := trimEnd_append_slashes [] n

/-- If a name stands behind a slash, there are slashes in front of it. -/
theorem ne_zero_of_head? (hne : s ≠ []) (hplain : '/' ∉ s) {i : Nat}
    (h : (slashes i ++ s ++ t).head? = some '/') : i ≠ 0 := by
  rintro rfl
  obtain ⟨c, rest, rfl⟩ := List.exists_cons_of_ne_nil hne
  obtain rfl : c = '/' := Option.some.inj h
  exact hplain List.mem_cons_self

/-! ## The device that a topic names -/

theorem any_isSlash (s : List Char) : s.any isSlash = decide ('/' ∈ s) :=
  List.any_beq'.trans (List.contains_eq_mem ..)

theorem deviceLevel?_cons (c : Char) (rest : List Char) :
    deviceLevel? (c :: rest) =
      if c = '/' ∧ trimSlashes (c :: rest) ≠ [] ∧ '/' ∉ trimSlashes (c :: rest) then
        some (trimSlashes (c :: rest))
      else none := by
  simp only [deviceLevel?, any_isSlash]
  simp [isSlash, and_assoc]

/-- A name counts as a level if there is a slash in front of it and none in it. -/
theorem deviceLevel?_slashes_append (h : Bare core) (hne : core ≠ []) (i : Nat) :
    deviceLevel? (slashes i ++ core) = if i ≠ 0 ∧ '/' ∉ core then some core else none := by
  cases i with
  | zero =>
    -- without a slash in front the name goes on with the word before it
    obtain ⟨c, rest, rfl⟩ := List.exists_cons_of_ne_nil hne
    have hc : c ≠ '/' := by simpa using h.front
    change deviceLevel? (c :: rest) = _
    rw [deviceLevel?_cons, if_neg fun h => hc h.1, if_neg fun h => h.1 rfl]
  | succ i =>
    have htrim := trimSlashes_eq_core h (i + 1) 0
    change trimSlashes ('/' :: (slashes i ++ core) ++ []) = core at htrim
    rw [List.append_nil] at htrim
    change deviceLevel? ('/' :: (slashes i ++ core)) = _
    rw [deviceLevel?_cons, htrim]
    simp [hne]

/-- A level names a device if it is the device's name with slashes in front and perhaps behind. -/
theorem deviceLevel?_trimEnd {d : List Char} :
    deviceLevel? (trimEnd s) = some d ↔
      d ≠ [] ∧ '/' ∉ d ∧ ∃ i j, s = slashes (i + 1) ++ d ++ slashes j := by
  obtain ⟨i, core, j, rfl, hcore⟩ := exists_core s
  rw [trimEnd_append_slashes]
  by_cases hne : core = []
  · rw [hne, List.append_nil, trimEnd_slashes]
    refine ⟨fun h => (nomatch h), fun ⟨hd, hplain, i', j', h⟩ => ?_⟩
    rw [← List.append_nil (slashes i)] at h
    exact absurd (core_unique (bare_of_not_mem hplain) (hne ▸ hcore) h.symm) hd
  · rw [trimEnd_slashes_append hcore hne, deviceLevel?_slashes_append hcore hne,
      Option.ite_none_right_eq_some]
    constructor
    · rintro ⟨⟨hi, hplain⟩, h⟩
      obtain rfl := Option.some.inj h
      obtain ⟨i, rfl⟩ := Nat.exists_eq_succ_of_ne_zero hi
      exact ⟨hne, hplain, i, j, rfl⟩
    · rintro ⟨-, hplain, i', j', h⟩
      obtain rfl := core_unique (bare_of_not_mem hplain) hcore h.symm
      exact ⟨⟨ne_zero_of_head? hne hplain (congrArg List.head? h), hplain⟩, rfl⟩

/-- The level under which requests come in. -/
abbrev requestLevel : List Char := "requests".toList

/-- Around the core of the root any slashes may stand: after it the level of requests is found, and
behind it only slashes at the end of the topic are lost. -/
theorem exists_afterRoot? (h : Bare core) (a b : Nat) (s : List Char) :
    ∃ rest, afterRoot? core
        (trimSlashes (slashes a ++ core ++ slashes b ++ requestLevel ++ s)) = some rest ∧
      trimStart rest = requestLevel ++ trimEnd s := by
  have hstart (t : List Char) : trimStart (requestLevel ++ t) = requestLevel ++ t :=
    trimStart_append (by decide) (by decide) t
  have hend (t : List Char) : (t ++ requestLevel).getLast? ≠ some '/' := by
    rw [List.getLast?_append_of_ne_nil _ (by decide)]
    decide
  by_cases hcore : core = []
  · refine ⟨requestLevel ++ trimEnd s, ?_, hstart _⟩
    have htrim : trimStart (slashes a ++ core ++ slashes b ++ requestLevel ++ s) =
        requestLevel ++ s := by
      rw [hcore, List.append_nil, slashes_append_slashes, List.append_assoc,
        trimStart_slashes_append, hstart]
    have hlevel : trimEnd (requestLevel ++ s) = requestLevel ++ trimEnd s :=
      trimEnd_append (by decide) s
    rw [trimSlashes, htrim, hlevel, afterRoot?, if_pos hcore]
  · refine ⟨slashes b ++ (requestLevel ++ trimEnd s), ?_, ?_⟩
    · have htrim : trimStart (slashes a ++ core ++ slashes b ++ requestLevel ++ s) =
          core ++ slashes b ++ requestLevel ++ s := by
        simp only [List.append_assoc]
        rw [trimStart_slashes_append, trimStart_append hcore h.front]
      rw [trimSlashes, htrim, trimEnd_append (hend _), afterRoot?, if_neg hcore]
      exact List.isPrefixOf?_eq_some_iff_append_eq.2 (by simp only [List.append_assoc])
    · rw [trimStart_slashes_append, hstart]

/-- What follows the level of requests names the device, whatever stands around the core of the
root. -/
theorem deviceOf?_of_core {root d : String} (h : Bare core)
    (hroot : root.toList = slashes i ++ core ++ slashes j) (a b : Nat) (s : List Char) :
    deviceOf? root (String.ofList (slashes a ++ core ++ slashes b ++ requestLevel ++ s)) = some d ↔
      d ≠ "" ∧ '/' ∉ d.toList ∧ ∃ i j, s = slashes (i + 1) ++ d.toList ++ slashes j := by
  obtain ⟨rest, hafter, hstart⟩ := exists_afterRoot? h a b s
  have hlevel : requestLevel.isPrefixOf? (trimStart rest) = some (trimEnd s) := by
    rw [hstart]
    exact List.isPrefixOf?_eq_some_iff_append_eq.2 rfl
  have hdevice : deviceOf? root
      (String.ofList (slashes a ++ core ++ slashes b ++ requestLevel ++ s)) =
        (deviceLevel? (trimEnd s)).map String.ofList := by
    rw [deviceOf?, hroot, trimSlashes_eq_core h, String.toList_ofList, hafter]
    change (requestLevel.isPrefixOf? (trimStart rest)).bind _ = _
    rw [hlevel]
    exact bind_pure_comp ..
  have hname : (deviceLevel? (trimEnd s)).map String.ofList = some d ↔
      deviceLevel? (trimEnd s) = some d.toList := by
    rw [Option.map_eq_some_iff]
    constructor
    · rintro ⟨name, hname, rfl⟩
      rw [hname, String.toList_ofList]
    · exact fun hname => ⟨d.toList, hname, String.ofList_toList⟩
  rw [hdevice, hname, deviceLevel?_trimEnd, Ne, String.toList_eq_nil_iff]

/-- What is left of a root without the slashes behind it: its core, perhaps with some in front. -/
theorem exists_trimEnd_eq (h : Bare core) (i j : Nat) :
    ∃ a, trimEnd (slashes i ++ core ++ slashes j) = slashes a ++ core := by
  rw [trimEnd_append_slashes]
  by_cases hne : core = []
  · rw [hne, List.append_nil, trimEnd_slashes]
    exact ⟨0, rfl⟩
  · exact ⟨i, trimEnd_slashes_append h hne i⟩

/-- A topic below the subscription names what is left of its end without the slashes around it. -/
theorem deviceOf?_under_append (root : String) {below : String}
    (hslash : below = "" ∨ below.toList.head? = some '/') (d : String) :
    deviceOf? root (under root "/requests" ++ below) = some d ↔
      d ≠ "" ∧ '/' ∉ d.toList ∧ ∃ i j, below.toList = slashes i ++ d.toList ++ slashes j := by
  obtain ⟨i, core, j, hroot, hcore⟩ := exists_core root.toList
  obtain ⟨a, htrim⟩ := exists_trimEnd_eq hcore i j
  have htopic : under root "/requests" ++ below =
      String.ofList (slashes a ++ core ++ slashes 1 ++ requestLevel ++ below.toList) := by
    rw [under, hroot, htrim, ← String.toList_inj]
    simp [slashes, requestLevel]
  rw [htopic, deviceOf?_of_core hcore hroot]
  refine and_congr_right fun hd => and_congr_right fun hplain => ?_
  refine ⟨fun ⟨i, j, h⟩ => ⟨i + 1, j, h⟩, fun ⟨i, j, h⟩ => ?_⟩
  have hname : d.toList ≠ [] := fun hnil => hd (String.toList_eq_nil_iff.1 hnil)
  have hfirst : below.toList.head? = some '/' := hslash.resolve_left fun hnil => by
    simp [hnil, hname] at h
  obtain ⟨i, rfl⟩ := Nat.exists_eq_succ_of_ne_zero (ne_zero_of_head? hname hplain (h ▸ hfirst))
  exact ⟨i, j, h⟩

/-- With its own slashes, too, a root gives back each device. -/
theorem deviceOf?_append (root : String) {d : String} (hd : d ≠ "") (hplain : '/' ∉ d.toList) :
    deviceOf? root (root ++ "/requests/" ++ d) = some d := by
  obtain ⟨i, core, j, hroot, hcore⟩ := exists_core root.toList
  have htopic : root ++ "/requests/" ++ d = String.ofList
      (slashes i ++ core ++ slashes (j + 1) ++ requestLevel ++ ("/" ++ d).toList) := by
    rw [← String.toList_inj, String.toList_append, String.toList_append, hroot]
    simp [slashes, requestLevel, List.replicate_succ']
  rw [htopic, deviceOf?_of_core hcore hroot]
  exact ⟨hd, hplain, 0, 0, by simp [slashes]⟩

/-- Whatever slashes stand around the root, and there may be nothing else in it: a topic below the
subscription names the device that is left of what follows the level of requests when the slashes
at both ends are taken away, if something is left and no slash stands in it, and else no device. So
each device is named by its own topic. -/
theorem device_of_subscribed (root : String) :
    subscription root = under root "/requests" ++ "/#" ∧
      (∀ below, below = "" ∨ below.toList.head? = some '/' →
        ∀ d, deviceOf? root (under root "/requests" ++ below) = some d ↔
          d ≠ "" ∧ '/' ∉ d.toList ∧
            ∃ i j, below.toList = slashes i ++ d.toList ++ slashes j) ∧
      ∀ d, d ≠ "" → '/' ∉ d.toList →
        deviceOf? root (under root ("/requests/" ++ d)) = some d ∧
          deviceOf? root (root ++ "/requests/" ++ d) = some d := by
  refine ⟨?_, fun below hslash => deviceOf?_under_append root hslash, fun d hd hplain =>
    ⟨?_, deviceOf?_append root hd hplain⟩⟩
  · rw [← String.toList_inj]
    simp [subscription, under]
  · have htopic : under root ("/requests/" ++ d) = under root "/requests" ++ ("/" ++ d) := by
      rw [← String.toList_inj]
      simp [under]
    rw [htopic, deviceOf?_under_append root (.inr (by simp))]
    exact ⟨hd, hplain, 1, 0, by simp [slashes]⟩

/-- A root with slashes around it, and a topic with more of them than it needs. -/
theorem device_of_subscribed_slashed :
    "//SSLD-1/".toList.head? = some '/' ∧ "SSLD-1" ≠ "" ∧ '/' ∉ "SSLD-1".toList ∧
      under "/osgp/iec61850//" "/requests" ++ "//SSLD-1/" = "/osgp/iec61850/requests//SSLD-1/" ∧
      deviceOf? "/osgp/iec61850//" (under "/osgp/iec61850//" "/requests" ++ "//SSLD-1/") =
        some "SSLD-1" ∧
      deviceOf? "/osgp/iec61850//" ("/osgp/iec61850//" ++ "/requests/" ++ "SSLD-1") =
        some "SSLD-1" := by
  have hslash : "//SSLD-1/".toList.head? = some '/' := by decide
  have hplain : '/' ∉ "SSLD-1".toList := by decide
  obtain ⟨-, hbelow, hnamed⟩ := device_of_subscribed "/osgp/iec61850//"
  refine ⟨hslash, by decide, hplain, by decide +kernel, ?_, (hnamed _ (by decide) hplain).2⟩
  exact (hbelow _ (.inr hslash) _).2 ⟨by decide, hplain, 2, 1, by decide⟩

end FieldGateway.Topic
