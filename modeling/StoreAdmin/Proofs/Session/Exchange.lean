import StoreAdmin.Proofs.Session.Activity

/-!
# What an exchange can do

An exchange sends nothing, or takes the next turn of the network.  All ways in
which it can go are listed once, so that a proof about an activity never opens
the exchanges in it.  What a series of exchanges for one purpose leaves alone
is a preorder of worlds.
-/

namespace StoreAdmin

namespace World

/-- Nobody but the client replaces the token. -/
def Alone (w : World) : Prop :=
  ∀ turn ∈ w.turns, turn.replacement = none

/-- Nothing is cancelled, now or during an exchange. -/
def Running (cancellable : Bool) (w : World) : Prop :=
  cancellable = true →
    w.cancelled = false ∧ w.later ≠ .silence ∧ ∀ turn ∈ w.turns, turn.reply ≠ .silence

theorem Running.going {cancellable : Bool} {w : World} (hrunning : w.Running cancellable) :
    ¬(cancellable = true ∧ w.cancelled = true) := by
  rintro ⟨hcancellable, hcancelled⟩
  have hnow := (hrunning hcancellable).1
  rw [hcancelled] at hnow
  cases hnow

theorem Alone.of_suffix {before after : World} (halone : before.Alone)
    (hturns : after.turns <:+ before.turns) : after.Alone :=
  fun turn hturn => halone turn (hturns.subset hturn)

theorem Running.of_suffix {cancellable : Bool} {before after : World}
    (hrunning : before.Running cancellable) (hturns : after.turns <:+ before.turns)
    (hlater : after.later = before.later)
    (hcancelled : after.cancelled = before.cancelled) : after.Running cancellable := by
  intro hcancellable
  obtain ⟨hnow, hend, hreplies⟩ := hrunning hcancellable
  exact ⟨hcancelled.trans hnow, hlater ▸ hend,
    fun turn hturn => hreplies turn (hturns.subset hturn)⟩

theorem nextTurn_suffix (w : World) : w.nextTurn.2 <:+ w.turns := by
  unfold nextTurn
  cases w.turns with
  | nil => exact List.suffix_refl []
  | cons turn rest => exact List.suffix_cons turn rest

theorem Alone.nextTurn {w : World} (halone : w.Alone) :
    w.nextTurn.1.replacement = none := by
  unfold World.nextTurn
  cases hturns : w.turns with
  | nil => rfl
  | cons turn rest => exact halone turn (by simp [hturns])

theorem Running.nextTurn {cancellable : Bool} {w : World}
    (hrunning : w.Running cancellable) (hcancellable : cancellable = true) :
    w.nextTurn.1.reply ≠ .silence := by
  obtain ⟨-, hend, hreplies⟩ := hrunning hcancellable
  unfold World.nextTurn
  cases hturns : w.turns with
  | nil => exact hend
  | cons turn rest => exact hreplies turn (by simp [hturns])

/-! ## The world after an exchange -/

variable (w : World) (purpose : Purpose) (m : Message)

@[simp]
theorem afterExchange_token :
    (w.afterExchange purpose m).token = w.nextTurn.1.replacement.getD w.token := rfl

@[simp]
theorem afterExchange_turns : (w.afterExchange purpose m).turns = w.nextTurn.2 := rfl

@[simp]
theorem afterExchange_later : (w.afterExchange purpose m).later = w.later := rfl

@[simp]
theorem afterExchange_cancelled :
    (w.afterExchange purpose m).cancelled = w.cancelled := rfl

@[simp]
theorem afterExchange_log :
    (w.afterExchange purpose m).log =
      w.log ++ [.exchange purpose m w.nextTurn.1.reply] := rfl

end World

/-- The outcomes of an exchange, each with what leads to it and the world that
it leaves behind. -/
inductive Exchanged (cancellable : Bool) (purpose : Purpose) (m : Message) (w : World) :
    Except Error Response → World → Prop
  | unsendable (fault : TransportFault) (hfault : m.fault? = some fault) :
      Exchanged cancellable purpose m w (.error (.transport fault)) w
  | answered (response : Response) (hsent : m.fault? = none)
      (hreply : w.nextTurn.1.reply = .answer response) :
      Exchanged cancellable purpose m w (.ok response) (w.afterExchange purpose m)
  | cutShort (response : Response) (hsent : m.fault? = none)
      (hreply : w.nextTurn.1.reply = .cutShort response) :
      Exchanged cancellable purpose m w (.error (.transport .incomplete))
        (w.afterExchange purpose m)
  | unanswered (hsent : m.fault? = none)
      (hreply : w.nextTurn.1.reply = .lost ∨ w.nextTurn.1.reply = .unreachable ∨
        w.nextTurn.1.reply = .silence ∧ cancellable = false) :
      Exchanged cancellable purpose m w (.error (exchange.unanswered m))
        (w.afterExchange purpose m)
  | interrupted (hsent : m.fault? = none) (hreply : w.nextTurn.1.reply = .silence)
      (hcancellable : cancellable = true) :
      Exchanged cancellable purpose m w (.error .cancelled)
        { w.afterExchange purpose m with cancelled := true }

theorem exchanged (cancellable : Bool) (purpose : Purpose) (m : Message) (w : World) :
    Exchanged cancellable purpose m w ((exchange cancellable purpose m).exec w).1
      ((exchange cancellable purpose m).exec w).2 := by
  unfold exchange
  cases hfault : m.fault? with
  | some fault => exact .unsendable fault hfault
  | none =>
      simp only [Act.exec_bind, Act.exec_get, Act.exec_set]
      cases hreply : w.nextTurn.1.reply with
      | answer response => exact .answered response hfault hreply
      | cutShort response => exact .cutShort response hfault hreply
      | lost => exact .unanswered hfault (.inl hreply)
      | unreachable => exact .unanswered hfault (.inr (.inl hreply))
      | silence =>
          cases cancellable with
          | true => exact .interrupted hfault hreply rfl
          | false => exact .unanswered hfault (.inr (.inr ⟨hreply, rfl⟩))

/-- One world follows another by exchanges for one purpose.  They use up turns
of the network, and only someone else replaces the token or cancels. -/
structure Exchanges (cancellable : Bool) (purpose : Purpose) (before after : World) :
    Prop where
  log : ∃ events, after.log = before.log ++ events ∧
    ∀ event ∈ events, ∃ m reply, event = .exchange purpose m reply
  turns : after.turns <:+ before.turns
  later : after.later = before.later
  token : before.Alone → after.token = before.token
  cancelled : before.Running cancellable → after.cancelled = before.cancelled

namespace Exchanges

variable {cancellable : Bool} {purpose : Purpose} {before after : World}

theorem alone (h : Exchanges cancellable purpose before after) (halone : before.Alone) :
    after.Alone :=
  halone.of_suffix h.turns

theorem running (h : Exchanges cancellable purpose before after)
    (hrunning : before.Running cancellable) : after.Running cancellable :=
  hrunning.of_suffix h.turns h.later (h.cancelled hrunning)

instance : IsPreorder World (Exchanges cancellable purpose) where
  refl w := ⟨⟨[], by simp⟩, List.suffix_refl _, rfl, fun _ => rfl, fun _ => rfl⟩
  trans first second third hfirst hsecond := by
    obtain ⟨early, hearly, hearlyEvents⟩ := hfirst.log
    obtain ⟨late, hlate, hlateEvents⟩ := hsecond.log
    refine ⟨⟨early ++ late, ?_, ?_⟩, hsecond.turns.trans hfirst.turns,
      hsecond.later.trans hfirst.later, ?_, ?_⟩
    · rw [hlate, hearly, List.append_assoc]
    · intro event hevent
      rcases List.mem_append.1 hevent with hevent | hevent
      · exact hearlyEvents event hevent
      · exact hlateEvents event hevent
    · intro halone
      exact (hsecond.token (hfirst.alone halone)).trans (hfirst.token halone)
    · intro hrunning
      exact (hsecond.cancelled (hfirst.running hrunning)).trans (hfirst.cancelled hrunning)

theorem afterExchange (m : Message) (w : World) :
    Exchanges cancellable purpose w (w.afterExchange purpose m) where
  log := ⟨[.exchange purpose m w.nextTurn.1.reply], rfl, by simp⟩
  turns := w.nextTurn_suffix
  later := rfl
  token halone := by simp [halone.nextTurn]
  cancelled _ := rfl

theorem exchange_moves (m : Message) :
    (exchange cancellable purpose m).Moves (Exchanges cancellable purpose) := by
  intro w
  have hafter : Exchanges cancellable purpose w (w.afterExchange purpose m) :=
    afterExchange m w
  generalize houtcome : (exchange cancellable purpose m).exec w = result
  have hexchanged := exchanged cancellable purpose m w
  rw [houtcome] at hexchanged
  obtain ⟨outcome, next⟩ := result
  cases hexchanged with
  | unsendable => exact refl _
  | answered | cutShort | unanswered => exact hafter
  | interrupted hsent hreply hcancellable =>
      exact { hafter with
        cancelled := fun hrunning => absurd hreply (hrunning.nextTurn hcancellable) }

end Exchanges
end StoreAdmin
