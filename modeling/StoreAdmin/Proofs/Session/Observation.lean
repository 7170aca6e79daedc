import StoreAdmin.Proofs.Session.Exchange

/-!
# What is seen of an activity

Somebody who sees all results, all tokens and all exchanges, but not what a login
sends as its credentials, sees redacted worlds.  Two activities are alike if they
cannot be told apart that way, wherever they start.  The relation is closed under
the constructions that activities are made of, so two activities of the same form
are alike as soon as the exchanges in them are.
-/

namespace StoreAdmin

variable {α β ρ σ : Type}

/-- What is seen of a message: a login hides the credentials in its headers and
in its body. -/
def Message.redacted (m : Message) : Purpose → Message
  | .call => m
  | .login => { m with
      headers := m.headers.map fun h => if h.1 = "authorization" then (h.1, "") else h
      body := m.body.map fun _ => "" }

theorem Message.redacted_url (m : Message) (purpose : Purpose) :
    (m.redacted purpose).url = m.url := by
  cases purpose <;> rfl

/-- What is seen of an event. -/
def Event.redacted : Event → Event
  | .login => .login
  | .exchange purpose m reply => .exchange purpose (m.redacted purpose) reply

namespace World

/-- What is seen of a world. -/
def redacted (w : World) : World :=
  { w with log := w.log.map Event.redacted }

theorem redacted_afterExchange (w : World) (purpose : Purpose) (m : Message) :
    (w.afterExchange purpose m).redacted =
      w.redacted.afterExchange purpose (m.redacted purpose) := by
  have hlog : (w.afterExchange purpose m).log.map Event.redacted =
      w.log.map Event.redacted ++
        [.exchange purpose (m.redacted purpose) w.nextTurn.1.reply] := by
    rw [afterExchange_log, List.map_append]
    rfl
  unfold redacted
  rw [hlog]
  rfl

/-- Worlds that look the same differ in nothing but their logs. -/
theorem exists_log_of_redacted {w w' : World} (h : w.redacted = w'.redacted) :
    ∃ log, w' = { w with log } := by
  cases w
  cases w'
  simp only [redacted, World.mk.injEq] at h
  obtain ⟨rfl, rfl, rfl, rfl, rfl, rfl, -⟩ := h
  exact ⟨_, rfl⟩

/-- A change that can be made to what is seen of a world cannot tell worlds apart. -/
theorem redacted_change {w w' : World} (h : w.redacted = w'.redacted) {f : World → World}
    (hf : ∀ v, (f v).redacted = f v.redacted) : (f w).redacted = (f w').redacted :=
  calc
    (f w).redacted = f w.redacted := hf w
    _ = f w'.redacted := by rw [h]
    _ = (f w').redacted := (hf w').symm

end World

/-- What is seen of a result and the world behind it. -/
def observed (s : ρ × World) : ρ × World :=
  (s.1, s.2.redacted)

/-- Two activities that cannot be told apart. -/
def Alike (act other : StateM World ρ) : Prop :=
  ∀ w w' : World, w.redacted = w'.redacted → observed (act.run w) = observed (other.run w')

theorem observed_eq {r : ρ} {w w' : World} (h : w.redacted = w'.redacted) :
    observed (r, w) = observed (r, w') :=
  congrArg (Prod.mk r) h

theorem Alike.pure (r : ρ) : Alike (pure r) (pure r) :=
  fun _ _ hw => observed_eq hw

theorem Alike.modify {f : World → World} (hf : ∀ w, (f w).redacted = f w.redacted) :
    Alike (modify f) (modify f) :=
  fun _ _ hw => observed_eq (World.redacted_change hw hf)

/-- What is done next may depend on what was returned, which is the same. -/
theorem Alike.bind {act other : StateM World ρ} {f g : ρ → StateM World σ}
    (hact : Alike act other) (hf : ∀ r, Alike (f r) (g r)) :
    Alike (act >>= f) (other >>= g) := by
  intro w w' hw
  have hseen := hact w w' hw
  rw [StateT.run_bind, StateT.run_bind]
  cases hrun : act.run w with
  | mk result after =>
      cases hrun' : other.run w' with
      | mk result' after' =>
          rw [hrun, hrun'] at hseen
          obtain rfl : result = result' := congrArg Prod.fst hseen
          exact hf result after after' (congrArg Prod.snd hseen)

namespace Act

/-- Two activities that cannot be told apart. -/
protected abbrev Alike (act other : Act α) : Prop :=
  StoreAdmin.Alike act.run other.run

theorem alike_pure (a : α) : (pure a : Act α).Alike (pure a) :=
  Alike.pure (Except.ok a)

theorem alike_throw (e : Error) : (throw e : Act α).Alike (throw e) :=
  Alike.pure (Except.error e)

theorem alike_lift (outcome : Except Error α) :
    (liftM outcome : Act α).Alike (liftM outcome) :=
  Alike.pure outcome

theorem alike_set {w w' : World} (h : w.redacted = w'.redacted) :
    (set w : Act PUnit).Alike (set w') :=
  fun _ _ _ => observed_eq h

theorem alike_modify {f : World → World} (hf : ∀ w, (f w).redacted = f w.redacted) :
    (modify f : Act PUnit).Alike (modify f) :=
  fun _ _ hw => observed_eq (World.redacted_change hw hf)

theorem alike_bind {act other : Act α} {f g : α → Act β} (hact : act.Alike other)
    (hf : ∀ a, (f a).Alike (g a)) : (act >>= f).Alike (other >>= g) := by
  rw [Act.Alike, ExceptT.run_bind, ExceptT.run_bind]
  refine Alike.bind hact fun outcome => ?_
  cases outcome with
  | ok a => exact hf a
  | error e => exact alike_throw e

/-- A first part that cannot fail may return different values. -/
theorem alike_bind_ok {a b : α} {f g : α → Act β} (hf : (f a).Alike (g b)) :
    ((liftM (.ok a : Except Error α) : Act α) >>= f).Alike
      ((liftM (.ok b : Except Error α) : Act α) >>= g) :=
  hf

theorem alike_tryCatch {act other : Act α} {f g : Error → Act α} (hact : act.Alike other)
    (hf : ∀ e, (f e).Alike (g e)) : (tryCatch act f).Alike (tryCatch other g) := by
  rw [Act.Alike, ExceptT.run_tryCatch, ExceptT.run_tryCatch]
  refine Alike.bind hact fun outcome => ?_
  cases outcome with
  | ok a => exact alike_pure a
  | error e => exact hf e

/-- What follows a look at the world may read everything but its log. -/
theorem alike_get_bind {f g : World → Act β}
    (hf : ∀ (w : World) (log : List Event), w.redacted = { w with log }.redacted →
      (f w).Alike (g { w with log })) :
    (get >>= f).Alike (get >>= g) := by
  intro w w' hw
  obtain ⟨log, rfl⟩ := World.exists_log_of_redacted hw
  exact hf w log hw w _ hw

end Act

/-- Two messages that look the same and are both fit to be sent, or both unfit for
the same reason, are exchanged alike. -/
theorem exchange_alike (cancellable : Bool) {purpose : Purpose} {m m' : Message}
    (hseen : m.redacted purpose = m'.redacted purpose) (hfault : m.fault? = m'.fault?) :
    (exchange cancellable purpose m).Alike (exchange cancellable purpose m') := by
  have hurl : m.url = m'.url := by
    rw [← m.redacted_url purpose, hseen, m'.redacted_url purpose]
  unfold exchange exchange.unanswered
  rw [hfault, hurl]
  cases m'.fault? with
  | some fault => exact Act.alike_throw _
  | none =>
      refine Act.alike_get_bind fun w log hw => Act.alike_bind (Act.alike_set ?_) fun _ => ?_
      · rw [World.redacted_afterExchange, World.redacted_afterExchange, hw, hseen]
      · have hturn : { w with log }.nextTurn = w.nextTurn := rfl
        rw [hturn]
        cases w.nextTurn.1.reply with
        | answer response => exact Act.alike_pure response
        | cutShort | lost | unreachable => exact Act.alike_throw _
        | silence =>
            cases cancellable with
            | true =>
                exact Act.alike_bind (Act.alike_modify fun _ => rfl) fun _ =>
                  Act.alike_throw _
            | false => exact Act.alike_throw _

end StoreAdmin
