/-!
# Courses of action

A course says what is to be done next, depending on the answers so far: it is finished, or it asks a
question and goes on with the answer, or it waits for some time. Nothing happens between the
question and the answer, but while a course waits, and between its questions, other courses may go
on.

* `bind_assoc`: courses are put one behind the other in any grouping.
* `spell_le`: nothing waits longer than thirty years at once.
-/

namespace FieldGateway

/-- A course of questions `Q` with answers `A` that ends with an `α`. -/
inductive Course (Q : Type) (A : Q → Type) (α : Type) : Type where
  | done (a : α)
  | ask (q : Q) (next : A q → Course Q A α)
  /-- It waits for some milliseconds. -/
  | wait (ms : Nat) (next : Course Q A α)

namespace Course

variable {Q : Type} {A : Q → Type} {α β γ : Type}

/-- One course and then another, which may depend on how the first one ended. -/
def bind : Course Q A α → (α → Course Q A β) → Course Q A β
  | done a, f => f a
  | ask q next, f => ask q fun a => (next a).bind f
  | wait ms next, f => wait ms (next.bind f)

instance : Monad (Course Q A) where
  pure := done
  bind := bind

/-- The longest time that can be waited at once, in milliseconds: thirty years of 365 days. -/
def longestSpell : Nat := 30 * 365 * 24 * 60 * 60 * 1000

/-- How long is waited at once by what wants to wait for some milliseconds. -/
def spell (ms : Nat) : Nat := min ms longestSpell

theorem spell_le (ms : Nat) : spell ms ≤ longestSpell := Nat.min_le_right ms longestSpell

/-- The course of a single question. -/
def query (q : Q) : Course Q A (A q) := ask q done

/-- The course that waits, though not longer than can be waited at once; no time at all is no
waiting. -/
def pause (ms : Nat) : Course Q A Unit := if ms = 0 then done () else wait (spell ms) (done ())

instance [Inhabited α] : Inhabited (Course Q A α) := ⟨done default⟩

@[simp] theorem bind_done (c : Course Q A α) : c.bind done = c := by
  induction c with
  | done a => rfl
  | ask q next ih => exact congrArg (ask q) (funext ih)
  | wait ms next ih => exact congrArg (wait ms) ih

theorem bind_assoc (c : Course Q A α) (f : α → Course Q A β) (g : β → Course Q A γ) :
    (c.bind f).bind g = c.bind fun a => (f a).bind g := by
  induction c with
  | done a => rfl
  | ask q next ih => exact congrArg (ask q) (funext ih)
  | wait ms next ih => exact congrArg (wait ms) ih

instance : LawfulMonad (Course Q A) := LawfulMonad.mk' _ bind_done (fun _ _ => rfl) bind_assoc

end Course

end FieldGateway
