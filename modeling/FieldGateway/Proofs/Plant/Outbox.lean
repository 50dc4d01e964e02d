import FieldGateway.Proofs.Crew.Basic

/-!
# What is sent

Only two actions send anything, a response or a batch of events, and what befalls the plant from
outside sends neither.

* `Plant.outbox_perform`: what was sent after an action.
* `Plant.Answers.outbox`, `Plant.sent_meet`: what was sent after a step of a crew.
-/

namespace FieldGateway

/-- What was sent after an action. -/
def Action.sent (o : Outbox) : Action → Outbox
  | sendResponse r => { o with responses := o.responses ++ [r] }
  | sendEvents batch => { o with events := o.events ++ [batch] }
  | _ => o

namespace Plant

variable {p q : Plant} {link : Nat} {α : Type}

theorem outbox_ask (f : Ied → Except Fault α × Ied) : (p.ask link f).2.outbox = p.outbox := by
  unfold ask
  split <;> rfl

theorem outbox_retrieve : (p.retrieve link).2.outbox = p.outbox := by
  unfold retrieve
  split
  · rfl
  · exact outbox_ask _

theorem outbox_enable (reference : String) : (p.enable link reference).2.outbox = p.outbox := by
  unfold enable
  split
  · rfl
  · exact outbox_ask _

theorem outbox_disable (reference : String) : (p.disable link reference).2.outbox = p.outbox := by
  unfold disable
  split
  · rfl
  · exact outbox_ask _

theorem outbox_associate (host : String) (port : UInt16) (listener : Listener) (direct : Bool) :
    (p.associate host port listener direct).2.outbox = p.outbox := by
  unfold associate
  split <;> rfl

theorem outbox_release : (p.release link).outbox = p.outbox := by
  unfold release
  split <;> rfl

theorem outbox_hangUp : (p.hangUp link).2.outbox = p.outbox := by
  unfold hangUp
  split <;> rfl

theorem outbox_perform (a : Action) : (p.perform a).2.outbox = a.sent p.outbox := by
  cases a with
  | associate host port listener => exact outbox_associate _ _ _ _
  | retrieve l => exact outbox_retrieve
  | read l reference constraint => exact outbox_ask _
  | write l node => exact outbox_ask _
  | enable l reference => exact outbox_enable reference
  | disable l reference => exact outbox_disable reference
  | release l => exact outbox_release
  | hangUp l => exact outbox_hangUp
  | _ => rfl

theorem Answers.outbox {a : Action} {answer : a.Answer} (h : p.Answers a answer q) :
    q.outbox = a.sent p.outbox := by
  rcases h with h | ⟨⟨f, h⟩, rfl⟩
  · rw [← outbox_perform, h]
  · cases a <;> first | rfl | cases h

/-- From outside, measurements may be sent, but neither responses nor events. -/
theorem sent_meet (e : Incident) :
    (p.meet e).outbox.responses = p.outbox.responses ∧
      (p.meet e).outbox.events = p.outbox.events := by
  cases e with
  | report l readings r =>
    simp only [meet, deliver]
    split
    · unfold collect
      dsimp only
      split <;> exact ⟨rfl, rfl⟩
    · unfold forward
      dsimp only
      split <;> exact ⟨rfl, rfl⟩
    all_goals exact ⟨rfl, rfl⟩
  | _ => exact ⟨rfl, rfl⟩

end Plant

end FieldGateway
