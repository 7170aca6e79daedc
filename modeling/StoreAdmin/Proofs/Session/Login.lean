import StoreAdmin.Client.Session
import StoreAdmin.Proofs.Session.Answer
import StoreAdmin.Proofs.Session.Exchange

/-!
# What a login can do

A login with credentials makes exchanges for a login and nothing else, and it
never returns an empty token.  A client visits its login before a call and
between two attempts; the ways in which such a visit can go are listed once.
-/

namespace StoreAdmin

namespace Login

/-! ## Logins with credentials -/

/-- Credentials that never lead to a token document. -/
def findsHeader : Credentials → Bool
  | .user _ _ _ => false
  | .legacy _ _ _ => true
  | .service _ _ _ _ _ => true

section Credentials

variable (cancellable : Bool)

theorem byPassword_returns (gateway path user password : String) :
    (byPassword cancellable gateway path user password).Returns (· ≠ "") := by
  unfold byPassword
  refine Act.returns_bind fun url => Act.returns_bind fun response => ?_
  exact Act.returns_lift fun token htoken => (reads_header.eq_ok_iff.1 htoken).2.2

theorem byDocument_returns (gateway user password : String) :
    (byDocument cancellable gateway user password).Returns (· ≠ "") := by
  unfold byDocument
  refine Act.returns_bind fun url => Act.returns_bind fun body =>
    Act.returns_bind fun response => ?_
  exact Act.returns_lift fun token htoken => (reads_document.eq_ok_iff.1 htoken).2.2

theorem asUser_returns (gateway user password : String) :
    (asUser cancellable gateway user password).Returns (· ≠ "") := by
  refine Act.returns_tryCatch (byDocument_returns cancellable gateway user password)
    fun e => ?_
  split
  · exact Act.returns_throw _
  · exact byPassword_returns cancellable gateway passwordPath user password

/-- A login with credentials never returns an empty token. -/
theorem obtain_returns (credentials : Credentials) :
    (obtain cancellable (.withCredentials credentials)).Returns (· ≠ "") := by
  cases credentials with
  | user gateway user password => exact asUser_returns cancellable gateway user password
  | legacy gateway user password =>
      exact byPassword_returns cancellable gateway passwordPath user password
  | service gateway sharedSecret podName namespaceName objectScaleId =>
      exact Act.returns_bind fun w => byPassword_returns cancellable gateway _ _ _

variable {R : World → World → Prop} [IsPreorder World R]
variable (hexchange : ∀ m, (exchange cancellable .login m).Moves R)

include hexchange

theorem byPassword_moves (gateway path user password : String) :
    (byPassword cancellable gateway path user password).Moves R :=
  Act.moves_bind (Act.moves_lift _) fun _ =>
    Act.moves_bind (hexchange _) fun _ => Act.moves_lift _

theorem byDocument_moves (gateway user password : String) :
    (byDocument cancellable gateway user password).Moves R :=
  Act.moves_bind (Act.moves_lift _) fun _ => Act.moves_bind (Act.moves_lift _) fun _ =>
    Act.moves_bind (hexchange _) fun _ => Act.moves_lift _

theorem asUser_moves (gateway user password : String) :
    (asUser cancellable gateway user password).Moves R := by
  refine Act.moves_tryCatch (byDocument_moves cancellable hexchange gateway user password)
    fun e => ?_
  split
  · exact Act.moves_throw _
  · exact byPassword_moves cancellable hexchange gateway passwordPath user password

/-- Whatever the exchanges of a login leave alone, the login leaves alone,
however the token is obtained. -/
theorem obtain_moves (hgrant : ∀ w : World, R w { w with grants := w.grants.drop 1 })
    (method : LoginMethod) : (obtain cancellable method).Moves R := by
  cases method with
  | withCredentials credentials =>
      cases credentials with
      | user gateway user password =>
          exact asUser_moves cancellable hexchange gateway user password
      | legacy gateway user password =>
          exact byPassword_moves cancellable hexchange gateway passwordPath user password
      | service gateway sharedSecret podName namespaceName objectScaleId =>
          exact Act.moves_bind Act.moves_get fun w =>
            byPassword_moves cancellable hexchange gateway _ _ _
  | granted =>
      intro w
      simp only [obtain, Act.exec_bind, Act.exec_get, Act.exec_modify]
      split
      · exact hgrant w
      · exact hgrant w

end Credentials

/-- A login makes exchanges for a login and nothing else. -/
theorem obtain_exchanges (cancellable : Bool) (method : LoginMethod) (w : World) :
    Exchanges cancellable .login w ((obtain cancellable method).exec w).2 :=
  obtain_moves cancellable Exchanges.exchange_moves
    (fun _ => ⟨⟨[], by simp⟩, List.suffix_refl _, rfl, fun _ => rfl, fun _ => rfl⟩) method w

end Login

/-! ## Visits to the login -/

/-- The world in which a login begins. -/
def World.beginLogin (w : World) : World :=
  { w with log := w.log ++ [.login] }

/-- A login leaves its beginning and then exchanges for a login in the log. -/
def World.Begins (before after : World) : Prop :=
  ∃ events, after.log = before.log ++ .login :: events ∧
    ∀ event ∈ events, ∃ m reply, event = .exchange .login m reply

theorem World.begins_of_exchanges {cancellable : Bool} {w last after : World}
    (hmoves : Exchanges cancellable .login w.beginLogin last) (hlast : after.log = last.log) :
    w.Begins after := by
  obtain ⟨events, hlog, hevents⟩ := hmoves.log
  refine ⟨events, ?_, hevents⟩
  rw [hlast, hlog, World.beginLogin, List.append_assoc]
  rfl

namespace Client

variable (c : Client) (method : LoginMethod)

/-- The outcomes of a visit to the login, each with what leads to it and the
world that it leaves behind.  A login begins only if no token is kept. -/
inductive Visited (w : World) : Except Error Unit → World → Prop
  | cancelled (hcancelled : c.cancellable = true ∧ w.cancelled = true) :
      Visited w (.error .cancelled) w
  | kept (hgoing : ¬(c.cancellable = true ∧ w.cancelled = true)) (htoken : w.token ≠ "") :
      Visited w (.ok ()) w
  | failed (e : Error) (after : World)
      (hgoing : ¬(c.cancellable = true ∧ w.cancelled = true)) (htoken : w.token = "")
      (hobtain : (Login.obtain c.cancellable method).exec w.beginLogin = (.error e, after))
      (hmoves : Exchanges c.cancellable .login w.beginLogin after) :
      Visited w (.error e) after
  | obtained (token : String) (after : World)
      (hgoing : ¬(c.cancellable = true ∧ w.cancelled = true)) (htoken : w.token = "")
      (hobtain : (Login.obtain c.cancellable method).exec w.beginLogin = (.ok token, after))
      (hmoves : Exchanges c.cancellable .login w.beginLogin after) :
      Visited w (.ok ()) { after with token }

theorem checkCancelled_exec (cancellable : Bool) (w : World) :
    (checkCancelled cancellable).exec w =
      if cancellable = true ∧ w.cancelled = true then (.error .cancelled, w)
      else (.ok (), w) := by
  simp only [checkCancelled, Act.exec_bind, Act.exec_get, Bool.and_eq_true]
  split <;> rfl

theorem visited (w : World) :
    c.Visited method w ((c.ensureLogin method).exec w).1 ((c.ensureLogin method).exec w).2 := by
  unfold ensureLogin
  rw [Act.exec_bind, checkCancelled_exec]
  by_cases hcancelled : c.cancellable = true ∧ w.cancelled = true
  · rw [if_pos hcancelled]
    exact .cancelled hcancelled
  · rw [if_neg hcancelled]
    simp only [Act.exec_bind, Act.exec_get]
    by_cases htoken : w.token = ""
    · rw [if_pos htoken]
      simp only [Act.exec_bind, Act.exec_modify, Login.run]
      have hmoves := Login.obtain_exchanges c.cancellable method w.beginLogin
      generalize hobtain : (Login.obtain c.cancellable method).exec _ = result
      rw [World.beginLogin, hobtain] at hmoves
      obtain ⟨outcome, after⟩ := result
      cases outcome with
      | error e => exact .failed e after hcancelled htoken hobtain hmoves
      | ok token => exact .obtained token after hcancelled htoken hobtain hmoves
    · rw [if_neg htoken]
      exact .kept hcancelled htoken

theorem visited_of_exec {w after : World} {outcome : Except Error Unit}
    (hvisit : (c.ensureLogin method).exec w = (outcome, after)) :
    c.Visited method w outcome after := by
  have hvisited := c.visited method w
  rw [hvisit] at hvisited
  exact hvisited

/-! ## What every visit leaves alone -/

namespace Visited

variable {c : Client} {method : LoginMethod} {w after : World} {outcome : Except Error Unit}

theorem alone (h : c.Visited method w outcome after) (halone : w.Alone) : after.Alone := by
  cases h with
  | cancelled | kept => exact halone
  | failed e last hgoing htoken hobtain hmoves => exact hmoves.alone halone
  | obtained token last hgoing htoken hobtain hmoves => exact hmoves.alone halone

theorem running (h : c.Visited method w outcome after)
    (hrunning : w.Running c.cancellable) : after.Running c.cancellable := by
  cases h with
  | cancelled | kept => exact hrunning
  | failed e last hgoing htoken hobtain hmoves => exact hmoves.running hrunning
  | obtained token last hgoing htoken hobtain hmoves => exact hmoves.running hrunning

/-- A visit begins a login, unless it is cancelled before or a token is kept. -/
theorem begins_or_eq (h : c.Visited method w outcome after) :
    w.Begins after ∨ after = w ∧
      ((c.cancellable = true ∧ w.cancelled = true) ∧ outcome = .error .cancelled ∨
        w.token ≠ "") := by
  cases h with
  | cancelled hcancelled => exact .inr ⟨rfl, .inl ⟨hcancelled, rfl⟩⟩
  | kept hgoing hkept => exact .inr ⟨rfl, .inr hkept⟩
  | failed e last hgoing hempty hobtain hmoves =>
      exact .inl (World.begins_of_exchanges hmoves rfl)
  | obtained token last hgoing hempty hobtain hmoves =>
      exact .inl (World.begins_of_exchanges hmoves rfl)

/-- Where no token is kept, a visit that is not cancelled beforehand is a login. -/
theorem begins_of_going (h : c.Visited method w outcome after)
    (hgoing : ¬(c.cancellable = true ∧ w.cancelled = true)) (htoken : w.token = "") :
    w.Begins after := by
  rcases h.begins_or_eq with hbegins | ⟨-, ⟨hcancelled, -⟩ | hkept⟩
  · exact hbegins
  · exact absurd hcancelled hgoing
  · exact absurd htoken hkept

theorem begins (h : c.Visited method w outcome after) (hrunning : w.Running c.cancellable)
    (htoken : w.token = "") : w.Begins after :=
  h.begins_of_going hrunning.going htoken

/-- Where a token is kept, a visit that is not cancelled beforehand changes nothing. -/
theorem eq_of_token (h : c.Visited method w outcome after)
    (hgoing : ¬(c.cancellable = true ∧ w.cancelled = true)) (htoken : w.token ≠ "") :
    outcome = .ok () ∧ after = w := by
  cases h with
  | cancelled hcancelled => exact absurd hcancelled hgoing
  | kept => exact ⟨rfl, rfl⟩
  | failed _ _ _ hempty | obtained _ _ _ hempty => exact absurd hempty htoken

theorem log_grows (h : c.Visited method w outcome after) : w.log <+: after.log := by
  rcases h.begins_or_eq with ⟨events, hlog, -⟩ | ⟨rfl, -⟩
  · exact ⟨_, hlog.symm⟩
  · exact List.prefix_refl _

/-- A visit that fails keeps the token as it is. -/
theorem token_of_error {e : Error} (h : c.Visited method w (.error e) after)
    (halone : w.Alone) : after.token = w.token := by
  cases h with
  | cancelled => rfl
  | failed _ _ hgoing htoken hobtain hmoves => exact hmoves.token halone

/-- After a visit that succeeds a token is kept, if it comes from credentials. -/
theorem token_ne_empty {credentials : Credentials}
    (h : c.Visited (.withCredentials credentials) w (.ok ()) after) : after.token ≠ "" := by
  cases h with
  | kept hgoing htoken => exact htoken
  | obtained token last hgoing htoken hobtain hmoves =>
      exact Login.obtain_returns c.cancellable credentials w.beginLogin token last hobtain

end Visited
end Client
end StoreAdmin
