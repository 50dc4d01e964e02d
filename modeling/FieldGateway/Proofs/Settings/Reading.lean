import FieldGateway.Proofs.Text.Numerals
import FieldGateway.Settings
import Mathlib.Data.List.Forall2
import Mathlib.Data.List.Induction

/-!
# Reading the settings

The quantities among the settings are read one after the other. The first whose variable gives no
number tells the fault, and where there is none, every quantity of the settings is the number that
its variable gives. A variable that holds no text is passed over as if it were unset.

* `Environment.texts_eq`: which variables are seen as they are.
* `Quantity.gives_of_read`, `Quantity.offends_of_read`: what comes of reading one quantity.
* `Settings.read_in_order`: the settings are read quantity by quantity.
* `Settings.quantities_as_held`: what the reading follows from, and when this is what the variables
  hold.
-/

namespace FieldGateway

/-! ## Variables -/

/-- The bytes of a text. -/
def Text.bytes (s : String) : List UInt8 := s.toByteArray.data.toList

theorem Text.fromUTF8?_eq_some {bytes : List UInt8} {s : String} :
    String.fromUTF8? ⟨bytes.toArray⟩ = some s ↔ Text.bytes s = bytes := by
  unfold String.fromUTF8?
  split
  · rw [Option.some.injEq, ← String.toByteArray_inj, eq_comm, String.fromUTF8, ByteArray.ext_iff]
    constructor
    · rintro h
      rw [Text.bytes, h]
    · rintro rfl
      rfl
  · next h =>
    simp only [reduceCtorEq, false_iff]
    rintro rfl
    exact h s.isValidUTF8

theorem Text.bytes_inj {s t : String} (h : bytes s = bytes t) : s = t :=
  Option.some.inj ((fromUTF8?_eq_some.2 h).symm.trans (fromUTF8?_eq_some.2 rfl))

/-- What is held under the names of variables: bytes, or nothing where one is unset. -/
abbrev Holding := String → Option (List UInt8)

namespace Environment

variable {env : Environment} {key : String}

/-- What the variables hold. -/
def held (env : Environment) : Holding := fun key => env.lookup key

/-- What those variables hold that hold texts. -/
def texts (env : Environment) : Holding := fun key => (env.text? key).map Text.bytes

/-- Holds of a variable that is set, but to no text. -/
def IsGarbled (env : Environment) (key : String) : Prop :=
  ∃ bytes, env.held key = some bytes ∧ ∀ s, Text.bytes s ≠ bytes

theorem text?_eq_some {s : String} :
    env.text? key = some s ↔ env.held key = some (Text.bytes s) := by
  simp only [text?, held, Option.bind_eq_some_iff, Text.fromUTF8?_eq_some]
  exact ⟨fun ⟨_, h, hs⟩ => hs ▸ h, fun h => ⟨_, h, rfl⟩⟩

theorem text?_of_isGarbled (h : env.IsGarbled key) : env.text? key = none := by
  obtain ⟨bytes, hbytes, hno⟩ := h
  refine Option.eq_none_iff_forall_ne_some.2 fun s hs => hno s ?_
  exact Option.some.inj ((text?_eq_some.1 hs).symm.trans hbytes)

/-- A variable that is unset or holds a text is seen as it is. -/
theorem texts_eq (h : ¬ env.IsGarbled key) : env.texts key = env.held key := by
  unfold texts
  cases ht : env.text? key with
  | some s => exact (text?_eq_some.1 ht).symm
  | none =>
    refine (Option.eq_none_iff_forall_ne_some.2 fun bytes hbytes => h ⟨bytes, hbytes, ?_⟩).symm
    rintro s rfl
    rw [text?_eq_some.2 hbytes] at ht
    cases ht

end Environment

/-! ## Quantities -/

/-- A setting that is a number, and the variable that it is read from. -/
structure Quantity where
  key : String
  /-- What its number has to be below. -/
  bound : Nat
  /-- The number where the variable is unset; `none` if it has to be set. -/
  unset : Option Nat
  /-- The number in the settings. -/
  value : Settings → Nat
  unset_lt : ∀ n, unset = some n → n < bound

namespace Quantity

variable {q : Quantity} {env : Environment} {held : Option (List UInt8)} {n : Nat}

/-- The number of a quantity by what its variable holds: the one that it writes, or the one that
counts where it is unset. -/
inductive Gives (q : Quantity) : Option (List UInt8) → Nat → Prop
  | written {s : String} {n : Nat} : Text.Writes s n → n < q.bound → q.Gives (some (Text.bytes s)) n
  | unset {n : Nat} : q.unset = some n → q.Gives none n

/-- The fault of a variable that gives no number: it is unset though it has to be set, or what it
holds writes no number of the right size. -/
inductive Offends (q : Quantity) : Option (List UInt8) → SettingFault → Prop
  | missing : q.unset = none → q.Offends none (.missing q.key)
  | invalid {bytes : List UInt8} {value : String} : (∀ n, ¬ q.Gives (some bytes) n) →
      (∀ s, Text.bytes s = bytes → s = value) → q.Offends (some bytes) (.invalid q.key value)

theorem Gives.lt (h : q.Gives held n) : n < q.bound := by
  cases h with
  | written _ hlt => exact hlt
  | unset hunset => exact q.unset_lt n hunset

theorem Gives.not_offends (h : q.Gives held n) (f : SettingFault) : ¬ q.Offends held f := by
  intro hf
  cases hf with
  | missing hunset =>
    cases h with
    | unset h => rw [hunset] at h; cases h
  | invalid hno _ => exact hno n h

theorem Offends.of_some {bytes : List UInt8} {f : SettingFault} (h : q.Offends (some bytes) f) :
    ∃ value, f = .invalid q.key value := by
  cases h with
  | invalid _ _ => exact ⟨_, rfl⟩

theorem Offends.of_missing {key : String} (h : q.Offends held (.missing key)) :
    q.unset = none ∧ held = none := by
  cases h with
  | missing hunset => exact ⟨hunset, rfl⟩

theorem Offends.of_invalid {key value : String} (h : q.Offends held (.invalid key value)) :
    q.key = key ∧ held ≠ none := by
  cases h with
  | invalid _ _ => exact ⟨rfl, nofun⟩

theorem gives_bytes_iff {s : String} :
    q.Gives (some (Text.bytes s)) n ↔ Text.Writes s n ∧ n < q.bound := by
  refine ⟨fun h => ?_, fun h => .written h.1 h.2⟩
  generalize hbytes : some (Text.bytes s) = held at h
  cases h with
  | written hs hlt =>
    obtain rfl := Text.bytes_inj (Option.some.inj hbytes)
    exact ⟨hs, hlt⟩
  | unset => cases hbytes

/-- What is no text writes no number. -/
theorem not_gives_of_isGarbled (h : env.IsGarbled q.key) : ¬ q.Gives (env.held q.key) n := by
  obtain ⟨bytes, hbytes, hno⟩ := h
  rw [hbytes]
  generalize hheld : some bytes = held
  rintro (⟨-, -⟩ | ⟨-⟩)
  · exact hno _ (Option.some.inj hheld).symm
  · cases hheld

/-- The quantity is read from its variable. -/
def read (q : Quantity) (env : Environment) : Except SettingFault Nat :=
  match q.unset with
  | none => env.number q.bound q.key
  | some n => env.numberOr q.bound q.key n

theorem parsed_eq_ok {s : String} :
    Environment.parsed q.bound q.key s = .ok n ↔ q.Gives (some (Text.bytes s)) n := by
  rw [gives_bytes_iff, ← Text.unsigned?_eq_some, Environment.parsed]
  cases Text.unsigned? q.bound s <;> simp

theorem parsed_eq_error {s : String} {f : SettingFault}
    (h : Environment.parsed q.bound q.key s = .error f) : q.Offends (some (Text.bytes s)) f := by
  have hno (n : Nat) : ¬ q.Gives (some (Text.bytes s)) n := by
    rw [← parsed_eq_ok, h]
    exact nofun
  unfold Environment.parsed at h
  split at h
  · cases h
  · cases h
    exact .invalid hno fun _ => Text.bytes_inj

/-- A quantity that is read is the number that its variable gives. -/
theorem gives_of_read (h : q.read env = .ok n) : q.Gives (env.texts q.key) n := by
  unfold read Environment.number Environment.numberOr at h
  unfold Environment.texts
  cases ht : env.text? q.key with
  | none =>
    simp only [ht] at h
    cases hunset : q.unset with
    | none => simp [hunset] at h
    | some m =>
      simp only [hunset, Except.ok.injEq] at h
      exact .unset (h ▸ hunset)
  | some s =>
    simp only [ht] at h
    refine parsed_eq_ok.1 ?_
    split at h <;> exact h

/-- A quantity that cannot be read tells the fault of its variable. -/
theorem offends_of_read {f : SettingFault} (h : q.read env = .error f) :
    q.Offends (env.texts q.key) f := by
  unfold read Environment.number Environment.numberOr at h
  unfold Environment.texts
  cases ht : env.text? q.key with
  | none =>
    simp only [ht] at h
    cases hunset : q.unset with
    | none =>
      simp only [hunset, Except.error.injEq] at h
      exact h ▸ .missing hunset
    | some m => simp [hunset] at h
  | some s =>
    simp only [ht] at h
    refine parsed_eq_error ?_
    split at h <;> exact h

end Quantity

/-- Things that are done one after the other are all done, or up to the first that fails. -/
theorem Except.cases_mapM {α β ε : Type} (f : α → Except ε β) (l : List α) :
    (∃ bs, l.mapM f = .ok bs ∧ List.Forall₂ (fun a b => f a = .ok b) l bs) ∨
      ∃ e before a after, l.mapM f = .error e ∧ l = before ++ a :: after ∧
        (∀ b ∈ before, ∃ x, f b = .ok x) ∧ f a = .error e := by
  induction l with
  | nil => exact .inl ⟨[], rfl, .nil⟩
  | cons a l ih =>
    rw [List.mapM_cons]
    cases ha : f a with
    | error e => exact .inr ⟨e, [], a, l, rfl, rfl, nofun, ha⟩
    | ok b =>
      rcases ih with ⟨bs, hbs, hall⟩ | ⟨e, before, a', after, he, rfl, hbefore, ha'⟩
      · exact .inl ⟨b :: bs, by rw [hbs]; rfl, .cons ha hall⟩
      · refine .inr ⟨e, a :: before, a', after, by rw [he]; rfl, rfl, ?_, ha'⟩
        exact List.forall_mem_cons.2 ⟨⟨b, ha⟩, hbefore⟩

namespace Settings

variable {env : Environment} {held : Holding} {result : Except SettingFault Settings}

/-- The quantities among the settings, in the order in which they are read. -/
def quantities : List Quantity :=
  [⟨"IEC61850_CONNECT_TIMEOUT_MS", UInt64.size, none, (·.connectTimeout.toNat), by simp⟩,
    ⟨"IEC61850_SSLD_PORT", UInt16.size, some 102, (·.streetlightPort.toNat), by decide⟩,
    ⟨"IEC61850_RTU_PORT", UInt16.size, some 102, (·.rtuPort.toNat), by decide⟩,
    ⟨"IEC61850_MAX_RETRY_COUNT", UInt32.size, some 2, (·.retries.toNat), by decide⟩,
    ⟨"IEC61850_RETRY_BACKOFF_MS", UInt64.size, some 200, (·.backoff.toNat), by decide⟩,
    ⟨"IEC61850_DISCONNECT_DELAY_MS", UInt64.size, some 5000, (·.disconnectDelay.toNat),
      by decide⟩,
    ⟨"IEC61850_REGISTRATION_REPORTING_DELAY_MS", UInt64.size, some 5000,
      (·.registrationDelay.toNat), by decide⟩,
    ⟨"IEC61850_MQTT_PORT", UInt16.size, some 1883, (·.brokerPort.toNat), by decide⟩,
    ⟨"IEC61850_MQTT_QOS", UInt8.size, some 1, (·.qualityOfService.toNat), by decide⟩]

/-- What is read by what the variables hold: the settings have the numbers that the variables of
their quantities give; or else the first variable that gives none tells the fault. -/
def Follows (held : Holding) : Except SettingFault Settings → Prop
  | .ok s => ∀ q ∈ quantities, q.Gives (held q.key) (q.value s)
  | .error f => ∃ before q after, quantities = before ++ q :: after ∧
      (∀ p ∈ before, ∃ n, p.Gives (held p.key) n) ∧ q.Offends (held q.key) f

/-- The settings are read quantity by quantity, up to the first that cannot be read. -/
theorem read_in_order (env : Environment) :
    match quantities.mapM (·.read env) with
    | .ok ns => ∃ s, ofEnvironment env = .ok s ∧
        (List.Forall₂ (fun q n => n < q.bound) quantities ns → quantities.map (·.value s) = ns)
    | .error f => ofEnvironment env = .error f := by
  unfold ofEnvironment quantities
  simp only [List.mapM_cons, List.mapM_nil, Quantity.read]
  cases env.number UInt64.size "IEC61850_CONNECT_TIMEOUT_MS" with
  | error f => rfl
  | ok connectTimeout =>
  cases env.numberOr UInt16.size "IEC61850_SSLD_PORT" 102 with
  | error f => rfl
  | ok streetlightPort =>
  cases env.numberOr UInt16.size "IEC61850_RTU_PORT" 102 with
  | error f => rfl
  | ok rtuPort =>
  cases env.numberOr UInt32.size "IEC61850_MAX_RETRY_COUNT" 2 with
  | error f => rfl
  | ok retries =>
  cases env.numberOr UInt64.size "IEC61850_RETRY_BACKOFF_MS" 200 with
  | error f => rfl
  | ok backoff =>
  cases env.numberOr UInt64.size "IEC61850_DISCONNECT_DELAY_MS" 5000 with
  | error f => rfl
  | ok disconnectDelay =>
  cases env.numberOr UInt64.size "IEC61850_REGISTRATION_REPORTING_DELAY_MS" 5000 with
  | error f => rfl
  | ok registrationDelay =>
  cases env.numberOr UInt16.size "IEC61850_MQTT_PORT" 1883 with
  | error f => rfl
  | ok brokerPort =>
  cases env.numberOr UInt8.size "IEC61850_MQTT_QOS" 1 with
  | error f => rfl
  | ok qualityOfService =>
    refine ⟨_, rfl, fun hbounds => ?_⟩
    simp only [List.forall₂_cons] at hbounds
    obtain ⟨h₁, h₂, h₃, h₄, h₅, h₆, h₇, h₈, h₉, -⟩ := hbounds
    simp only [List.map_cons, List.map_nil, UInt64.toNat_ofNat_of_lt' h₁,
      UInt16.toNat_ofNat_of_lt' h₂, UInt16.toNat_ofNat_of_lt' h₃, UInt32.toNat_ofNat_of_lt' h₄,
      UInt64.toNat_ofNat_of_lt' h₅, UInt64.toNat_ofNat_of_lt' h₆, UInt64.toNat_ofNat_of_lt' h₇,
      UInt16.toNat_ofNat_of_lt' h₈, UInt8.toNat_ofNat_of_lt' h₉]

/-- The reading follows from the variables that hold texts. -/
theorem follows_texts (env : Environment) : Follows env.texts (ofEnvironment env) := by
  have horder := read_in_order env
  rcases Except.cases_mapM (·.read env) quantities with
    ⟨ns, hns, hread⟩ | ⟨f, before, q, after, hf, hquantities, hbefore, hq⟩
  · simp only [hns] at horder
    obtain ⟨s, hs, hvalues⟩ := horder
    have hgives : List.Forall₂ (fun q n => q.Gives (env.texts q.key) n) quantities ns :=
      hread.imp fun _ _ => Quantity.gives_of_read
    rw [← hvalues (hgives.imp fun _ _ => Quantity.Gives.lt), List.forall₂_map_right_iff,
      List.forall₂_same] at hgives
    rw [hs]
    exact hgives
  · simp only [hf] at horder
    rw [horder]
    refine ⟨before, q, after, hquantities, fun p hp => ?_, Quantity.offends_of_read hq⟩
    obtain ⟨n, hn⟩ := hbefore p hp
    exact ⟨n, Quantity.gives_of_read hn⟩

/-- The first variable of a quantity that does not give a number is set, but to no text. -/
def IsMisled (env : Environment) : Prop :=
  ∃ before q after, quantities = before ++ q :: after ∧
    (∀ p ∈ before, ∃ n, p.Gives (env.held p.key) n) ∧ env.IsGarbled q.key

/-- Unless the reading is misled, what gives a number for a text holds a text. -/
theorem not_isGarbled_of_gives (h : ¬ IsMisled env) {before after : List Quantity}
    (hsplit : quantities = before ++ after)
    (hgives : ∀ p ∈ before, ∃ n, p.Gives (env.texts p.key) n) :
    ∀ p ∈ before, ¬ env.IsGarbled p.key := by
  induction before using List.reverseRecOn generalizing after with
  | nil => exact nofun
  | append_singleton before q ih =>
    rw [List.append_assoc] at hsplit
    have hbefore := ih hsplit fun p hp => hgives p (List.mem_append_left _ hp)
    refine List.forall_mem_append.2 ⟨hbefore, List.forall_mem_singleton.2 fun hq => ?_⟩
    refine h ⟨before, q, after, hsplit, fun p hp => ?_, hq⟩
    rw [← Environment.texts_eq (hbefore p hp)]
    exact hgives p (List.mem_append_left _ hp)

theorem follows_held_of_not_isMisled (h : ¬ IsMisled env) (hfollows : Follows env.texts result) :
    Follows env.held result := by
  cases result with
  | ok s =>
    intro q hq
    have hall := not_isGarbled_of_gives h (List.append_nil _).symm fun p hp => ⟨_, hfollows p hp⟩
    exact Environment.texts_eq (hall q hq) ▸ hfollows q hq
  | error f =>
    obtain ⟨before, q, after, hsplit, hbefore, hq⟩ := hfollows
    have hlegible := not_isGarbled_of_gives h hsplit hbefore
    have hgives : ∀ p ∈ before, ∃ n, p.Gives (env.held p.key) n := fun p hp =>
      Environment.texts_eq (hlegible p hp) ▸ hbefore p hp
    have hlast : ¬ env.IsGarbled q.key := fun hg => h ⟨before, q, after, hsplit, hgives, hg⟩
    exact ⟨before, q, after, hsplit, hgives, Environment.texts_eq hlast ▸ hq⟩

/-- What comes first of that which does not have a property is the same in every split. -/
theorem eq_of_first {α : Type} {P : α → Prop} {before before' after after' : List α} {a a' : α}
    (h : before ++ a :: after = before' ++ a' :: after') (hbefore : ∀ b ∈ before, P b)
    (ha : ¬ P a) (hbefore' : ∀ b ∈ before', P b) (ha' : ¬ P a') : a = a' := by
  rcases List.append_eq_append_iff.1 h with ⟨between, hb, hr⟩ | ⟨between, hb, hr⟩ <;>
    cases between with
    | nil => simp_all
    | cons b between => simp_all

theorem not_isMisled_of_follows (h : Follows env.held result)
    (hfollows : Follows env.texts result) : ¬ IsMisled env := by
  rintro ⟨before, q, after, hsplit, hbefore, hq⟩
  have hno : ¬ ∃ n, q.Gives (env.held q.key) n := fun ⟨n, hn⟩ =>
    Quantity.not_gives_of_isGarbled hq hn
  cases result with
  | ok s => exact hno ⟨_, h q (hsplit ▸ List.mem_append_right _ List.mem_cons_self)⟩
  | error f =>
    obtain ⟨before', q', after', hsplit', hbefore', hq'⟩ := h
    obtain rfl := eq_of_first (P := fun p : Quantity => ∃ n, p.Gives (env.held p.key) n)
      (hsplit.symm.trans hsplit') hbefore hno hbefore' fun ⟨n, hn⟩ => hn.not_offends f hq'
    -- the fault tells of what the variable holds, which is not seen in the texts
    obtain ⟨bytes, hbytes, -⟩ := id hq
    rw [hbytes] at hq'
    obtain ⟨value, rfl⟩ := hq'.of_some
    obtain ⟨-, p, -, -, -, hp⟩ := hfollows
    obtain ⟨hkey, hheld⟩ := hp.of_invalid
    rw [hkey, Environment.texts, Environment.text?_of_isGarbled hq] at hheld
    exact hheld rfl

/-- A variable is missing exactly if the timeout for connecting holds no text. -/
theorem missing_iff (env : Environment) : (∃ key, ofEnvironment env = .error (.missing key)) ↔
    env.texts "IEC61850_CONNECT_TIMEOUT_MS" = none := by
  constructor
  · rintro ⟨key, h⟩
    have hfollows := follows_texts env
    rw [h] at hfollows
    obtain ⟨before, q, after, hsplit, -, hq⟩ := hfollows
    have hrequired : ∀ q ∈ quantities, q.unset = none → q.key = "IEC61850_CONNECT_TIMEOUT_MS" := by
      decide
    obtain ⟨hunset, hheld⟩ := hq.of_missing
    rw [← hrequired q (hsplit ▸ List.mem_append_right _ List.mem_cons_self) hunset, hheld]
  · intro h
    have htext : env.text? "IEC61850_CONNECT_TIMEOUT_MS" = none := Option.map_eq_none_iff.1 h
    refine ⟨"IEC61850_CONNECT_TIMEOUT_MS", ?_⟩
    simp only [ofEnvironment, Environment.number, htext]
    rfl

/-- For every environment: the settings have, for each quantity, the number that its variable
writes, or the one for an unset variable if the variable is unset or holds no text; or else the
first variable in the order of reading that gives no number tells the fault, which is that one is
missing exactly if the timeout for connecting is unset or holds no text. With a variable that holds
no text taken for what it is, and not for unset, this is so exactly if the first variable that gives
no number then is none of those that hold no text. -/
theorem quantities_as_held (env : Environment) :
    Follows env.texts (ofEnvironment env) ∧
      ((∃ key, ofEnvironment env = .error (.missing key)) ↔
        env.texts "IEC61850_CONNECT_TIMEOUT_MS" = none) ∧
      (Follows env.held (ofEnvironment env) ↔ ¬ IsMisled env) := by
  have hfollows := follows_texts env
  exact ⟨hfollows, missing_iff env, fun h => not_isMisled_of_follows h hfollows,
    fun h => follows_held_of_not_isMisled h hfollows⟩

/-- An environment with a port that is no text. -/
def garbledPort : Environment :=
  [("IEC61850_CONNECT_TIMEOUT_MS", [0x35]), ("IEC61850_SSLD_PORT", [0xff])]

/-- A port that is set, but to no number, is replaced as if it were unset. -/
theorem garbled_port_replaced :
    (∃ s, ofEnvironment garbledPort = .ok s ∧ s.streetlightPort = 102) ∧
      garbledPort.held "IEC61850_SSLD_PORT" = some [0xff] ∧
      ¬ Follows garbledPort.held (ofEnvironment garbledPort) := by
  have hport : (ofEnvironment garbledPort).toOption.map (·.streetlightPort) = some 102 := by
    decide +kernel
  have hgarbled : garbledPort.IsGarbled "IEC61850_SSLD_PORT" := by
    refine ⟨[0xff], rfl, fun s hs => ?_⟩
    have hno : String.fromUTF8? ⟨#[0xff]⟩ = none := by decide +kernel
    rw [Text.fromUTF8?_eq_some.2 hs] at hno
    cases hno
  refine ⟨?_, rfl, fun h => not_isMisled_of_follows h (follows_texts _) ?_⟩
  · cases hs : ofEnvironment garbledPort with
    | error f => simp [hs, Except.toOption] at hport
    | ok s => exact ⟨s, rfl, by simpa [hs, Except.toOption] using hport⟩
  · refine ⟨quantities.take 1, quantities[1], quantities.drop 2, rfl, ?_, hgarbled⟩
    refine List.forall_mem_singleton.2 ⟨5, ?_⟩
    have hwrites : Text.Writes "5" 5 :=
      ⟨['5'], by simp, List.forall_mem_singleton.2 rfl, .inl rfl, rfl⟩
    exact .written hwrites (by decide)

end Settings

end FieldGateway
