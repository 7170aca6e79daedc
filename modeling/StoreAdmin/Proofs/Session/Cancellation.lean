import StoreAdmin.Proofs.Session.Session

/-!
# Cancellation

Whoever can cancel does so while an exchange waits for its answer.  A call that
is cancelled ends there and then: the interrupted exchange is the last one, the
bare error of the cancellation comes through every layer, and the token stays as
it is.  Afterwards no call changes anything.
-/

namespace StoreAdmin

/-- Whether an event is an exchange that never got an answer. -/
def Event.isSilent : Event → Bool
  | .exchange _ _ .silence => true
  | _ => false

@[simp]
theorem Event.isSilent_login : Event.login.isSilent = false := rfl

theorem Event.isSilent_exchange (purpose : Purpose) (m : Message) (reply : Reply) :
    (Event.exchange purpose m reply).isSilent ↔ reply = .silence := by
  cases reply <;> simp [Event.isSilent]

namespace World

/-- One world follows another without being cancelled. -/
def Proceeds (before after : World) : Prop :=
  after.cancelled = false ∧
    ∃ events, after.log = before.log ++ events ∧ ∀ event ∈ events, ¬event.isSilent

/-- One world follows another by being cancelled: during an exchange, behind which
nothing happens any more. -/
def Breaks (before after : World) : Prop :=
  ∃ last purpose m, before.Proceeds last ∧ last.nextTurn.1.reply = .silence ∧
    after = { last.afterExchange purpose m with cancelled := true }

variable {first second third before after : World}

theorem Proceeds.refl (hcancelled : before.cancelled = false) : before.Proceeds before :=
  ⟨hcancelled, [], by simp⟩

theorem Proceeds.trans (hfirst : first.Proceeds second) (hsecond : second.Proceeds third) :
    first.Proceeds third := by
  obtain ⟨-, early, hearly, hearlyEvents⟩ := hfirst
  obtain ⟨hcancelled, late, hlate, hlateEvents⟩ := hsecond
  refine ⟨hcancelled, early ++ late, ?_, ?_⟩
  · rw [hlate, hearly, List.append_assoc]
  · intro event hevent
    rcases List.mem_append.1 hevent with hevent | hevent
    · exact hearlyEvents event hevent
    · exact hlateEvents event hevent

theorem Proceeds.breaks (hfirst : first.Proceeds second) (hsecond : second.Breaks third) :
    first.Breaks third := by
  obtain ⟨last, purpose, m, hlast, hreply, hafter⟩ := hsecond
  exact ⟨last, purpose, m, hfirst.trans hlast, hreply, hafter⟩

/-- An exchange that is answered or fails is no cancellation. -/
theorem proceeds_afterExchange (hcancelled : before.cancelled = false)
    (hreply : before.nextTurn.1.reply ≠ .silence) (purpose : Purpose) (m : Message) :
    before.Proceeds (before.afterExchange purpose m) := by
  refine ⟨hcancelled, [_], rfl, ?_⟩
  intro event hevent
  rw [List.mem_singleton.1 hevent, Event.isSilent_exchange]
  exact hreply

theorem breaks_afterExchange (hcancelled : before.cancelled = false)
    (hreply : before.nextTurn.1.reply = .silence) (purpose : Purpose) (m : Message) :
    before.Breaks { before.afterExchange purpose m with cancelled := true } :=
  ⟨before, purpose, m, .refl hcancelled, hreply, rfl⟩

end World

/-! ## Activities that stop when they are cancelled -/

/-- What comes of an activity: it is not cancelled, or it is cancelled and says so. -/
def Stopped {α : Type} (w : World) (outcome : Except Error α) (after : World) : Prop :=
  w.Proceeds after ∨ outcome = .error .cancelled ∧ w.Breaks after

namespace Stopped

variable {α β : Type} {w middle after : World} {outcome : Except Error α} {e : Error}

theorem of_proceeds (hfirst : w.Proceeds middle) (hrest : Stopped middle outcome after) :
    Stopped w outcome after := by
  rcases hrest with hproceeds | ⟨houtcome, hbreaks⟩
  · exact .inl (hfirst.trans hproceeds)
  · exact .inr ⟨houtcome, hfirst.breaks hbreaks⟩

/-- What does not end as cancelled was not cancelled. -/
theorem proceeds (h : Stopped w outcome after) (houtcome : outcome ≠ .error .cancelled) :
    w.Proceeds after :=
  h.resolve_right fun hcancelled => houtcome hcancelled.1

/-- A cancellation comes through whatever else is said about errors. -/
theorem map_error (h : Stopped w (.error e : Except Error α) after) {f : Error → Error}
    (hf : f .cancelled = .cancelled) : Stopped w (.error (f e) : Except Error β) after := by
  rcases h with hproceeds | ⟨houtcome, hbreaks⟩
  · exact .inl hproceeds
  · cases houtcome
    exact .inr ⟨by rw [hf], hbreaks⟩

end Stopped

/-- Whenever the activity is cancelled it stops. -/
def Act.Stops {α : Type} (act : Act α) : Prop :=
  ∀ w, w.cancelled = false → Stopped w (act.exec w).1 (act.exec w).2

namespace Act

variable {α β : Type}

theorem stops_throw (e : Error) : Stops (throw e : Act α) :=
  fun _ hcancelled => .inl (.refl hcancelled)

theorem stops_lift (outcome : Except Error α) : Stops (liftM outcome : Act α) :=
  fun _ hcancelled => .inl (.refl hcancelled)

theorem stops_get : Stops (get : Act World) :=
  fun _ hcancelled => .inl (.refl hcancelled)

theorem stops_bind {act : Act α} {f : α → Act β} (hact : Stops act)
    (hf : ∀ a, Stops (f a)) : Stops (act >>= f) := by
  intro w hcancelled
  have hfirst := hact w hcancelled
  rw [exec_bind]
  cases hexec : exec act w with
  | mk outcome after =>
      rw [hexec] at hfirst
      cases outcome with
      | error e => exact hfirst.map_error (f := id) rfl
      | ok a =>
          have hproceeds := hfirst.proceeds (by simp)
          exact .of_proceeds hproceeds (hf a after hproceeds.1)

/-- Nothing is tried in the place of what was cancelled. -/
theorem stops_tryCatch {act : Act α} {f : Error → Act α} (hact : Stops act)
    (hf : ∀ e, Stops (f e)) (hcancel : f .cancelled = throw .cancelled) :
    Stops (tryCatch act f) := by
  intro w hcancelled
  have hfirst := hact w hcancelled
  rw [exec_tryCatch]
  cases hexec : exec act w with
  | mk outcome after =>
      rw [hexec] at hfirst
      cases outcome with
      | ok a => exact hfirst
      | error e =>
          rcases hfirst with hproceeds | ⟨houtcome, hbreaks⟩
          · exact .of_proceeds hproceeds (hf e after hproceeds.1)
          · cases houtcome
            simp only [hcancel]
            exact .inr ⟨rfl, hbreaks⟩

end Act

theorem exchange_stops (purpose : Purpose) (m : Message) :
    (exchange true purpose m).Stops := by
  intro w hcancelled
  generalize houtcome : (exchange true purpose m).exec w = result
  have hexchanged := exchanged true purpose m w
  rw [houtcome] at hexchanged
  obtain ⟨outcome, after⟩ := result
  cases hexchanged with
  | unsendable => exact .inl (.refl hcancelled)
  | answered _ _ hreply | cutShort _ _ hreply =>
      exact .inl (World.proceeds_afterExchange hcancelled (by simp [hreply]) purpose m)
  | unanswered _ hreply =>
      refine .inl (World.proceeds_afterExchange hcancelled ?_ purpose m)
      rcases hreply with hreply | hreply | ⟨-, hnever⟩
      · simp [hreply]
      · simp [hreply]
      · cases hnever
  | interrupted _ hreply =>
      exact .inr ⟨rfl, World.breaks_afterExchange hcancelled hreply purpose m⟩

namespace Login

theorem byPassword_stops (gateway path user password : String) :
    (byPassword true gateway path user password).Stops :=
  Act.stops_bind (Act.stops_lift _) fun _ =>
    Act.stops_bind (exchange_stops _ _) fun _ => Act.stops_lift _

theorem byDocument_stops (gateway user password : String) :
    (byDocument true gateway user password).Stops :=
  Act.stops_bind (Act.stops_lift _) fun _ => Act.stops_bind (Act.stops_lift _) fun _ =>
    Act.stops_bind (exchange_stops _ _) fun _ => Act.stops_lift _

theorem asUser_stops (gateway user password : String) :
    (asUser true gateway user password).Stops := by
  refine Act.stops_tryCatch (byDocument_stops gateway user password) ?_ rfl
  intro e
  split
  · exact Act.stops_throw _
  · exact byPassword_stops gateway passwordPath user password

theorem obtain_stops (method : LoginMethod) : (obtain true method).Stops := by
  cases method with
  | withCredentials credentials =>
      cases credentials with
      | user gateway user password => exact asUser_stops gateway user password
      | legacy gateway user password =>
          exact byPassword_stops gateway passwordPath user password
      | service gateway sharedSecret podName namespaceName objectScaleId =>
          exact Act.stops_bind Act.stops_get fun w => byPassword_stops gateway _ _ _
  | granted =>
      intro w hcancelled
      have hproceeds : w.Proceeds { w with grants := w.grants.drop 1 } :=
        ⟨hcancelled, [], by simp⟩
      simp only [obtain, Act.exec_bind, Act.exec_get, Act.exec_modify]
      split <;> exact .inl hproceeds

end Login

namespace Client

variable {c : Client} {r : Request} {url : Url} {format : Format} {method : LoginMethod}
variable {w after : World} {steps : List Step} {outcome : Except Error Payload}

/-! ## A call that is cancelled -/

section Cancellable

variable (hcancellable : c.cancellable = true) (hcancelled : w.cancelled = false)

include hcancellable hcancelled

theorem Visited.stopped {visit : Except Error Unit}
    (h : c.Visited method w visit after) : Stopped w visit after := by
  have hbegins : w.Proceeds w.beginLogin := ⟨hcancelled, [.login], rfl, by simp⟩
  have hobtains := Login.obtain_stops method w.beginLogin hcancelled
  cases h with
  | cancelled hnow =>
      rw [hcancelled] at hnow
      cases hnow.2
  | kept => exact .inl (.refl hcancelled)
  | failed e _ _ _ hobtain =>
      rw [hcancellable] at hobtain
      rw [hobtain] at hobtains
      exact .of_proceeds hbegins (hobtains.map_error (f := id) rfl)
  | obtained token last _ _ hobtain =>
      rw [hcancellable] at hobtain
      rw [hobtain] at hobtains
      exact .inl (hbegins.trans (hobtains.proceeds (by simp)))

theorem Attempted.stopped (h : c.Attempted r url format w outcome after) :
    Stopped w outcome after := by
  have hproceeds (hreply : w.nextTurn.1.reply ≠ .silence) :
      w.Proceeds (w.afterExchange .call (c.messageIn r url format w)) :=
    World.proceeds_afterExchange hcancelled hreply .call _
  cases h with
  | cancelled hnow =>
      rw [hcancelled] at hnow
      cases hnow.2
  | unsendable => exact .inl (.refl hcancelled)
  | judged _ _ _ hreply | cutShort _ _ _ hreply => exact .inl (hproceeds (by simp [hreply]))
  | unanswered _ _ hreply =>
      refine .inl (hproceeds ?_)
      rcases hreply with hreply | hreply | ⟨-, hnever⟩
      · simp [hreply]
      · simp [hreply]
      · rw [hcancellable] at hnever
        cases hnever
  | interrupted _ _ hreply =>
      exact .inr ⟨rfl, World.breaks_afterExchange hcancelled hreply .call _⟩
  | refused _ _ _ hreply =>
      have hafter := hproceeds (by simp [hreply])
      unfold afterRefusal
      split
      · exact .inl (by simpa [World.Proceeds] using hafter)
      · exact .inl hafter

/-- The rounds of a call stop when they are cancelled: a refused attempt was answered,
and a login that succeeds was not cancelled. -/
theorem stopped_of_rounds {left number : Nat}
    (hrounds : c.Rounds r url format method left number w steps outcome after) :
    Stopped w outcome after := by
  induction hrounds with
  | exhausted => exact .inl (.refl hcancelled)
  | settled hattempt =>
      exact (attempted_of_exec c r url format hattempt).stopped hcancellable hcancelled
  | spent hattempt =>
      have hattempted := attempted_of_exec c r url format hattempt
      exact .inl ((hattempted.stopped hcancellable hcancelled).proceeds (by simp))
  | lockedOut hattempt hlogin =>
      have hattempted := attempted_of_exec c r url format hattempt
      have hproceeds := (hattempted.stopped hcancellable hcancelled).proceeds (by simp)
      have hvisited := (visited_of_exec c method hlogin).stopped hcancellable hproceeds.1
      exact .of_proceeds hproceeds (hvisited.map_error rfl)
  | again hattempt hlogin _ ih =>
      have hattempted := attempted_of_exec c r url format hattempt
      have hproceeds := (hattempted.stopped hcancellable hcancelled).proceeds (by simp)
      have hvisited := (visited_of_exec c method hlogin).stopped hcancellable hproceeds.1
      have hmiddle := hproceeds.trans (hvisited.proceeds (by simp))
      exact .of_proceeds hmiddle (ih hmiddle.1)

theorem Performs.stopped (h : c.Performs r w steps outcome after) :
    Stopped w outcome after := by
  cases h with
  | unresolved => exact .inl (.refl hcancelled)
  | single _ _ hattempt =>
      exact (attempted_of_exec c r _ _ hattempt).stopped hcancellable hcancelled
  | lockedOut _ _ _ hvisit =>
      exact ((visited_of_exec c _ hvisit).stopped hcancellable hcancelled).map_error rfl
  | loggedIn _ _ _ hvisit hrounds =>
      have hvisited := (visited_of_exec c _ hvisit).stopped hcancellable hcancelled
      have hmiddle := hvisited.proceeds (by simp)
      exact .of_proceeds hmiddle (stopped_of_rounds hcancellable hmiddle.1 hrounds)
  | resumed _ _ _ hrounds => exact stopped_of_rounds hcancellable hcancelled hrounds

end Cancellable

/-! ## Calls after a cancellation -/

section Cancelled

variable (hcancelled : c.cancellable = true ∧ w.cancelled = true)

include hcancelled

end Cancelled

end Client
end StoreAdmin
