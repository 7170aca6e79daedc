import StoreAdmin.Proofs.Session.Attempt
import StoreAdmin.Proofs.Session.Rounds

/-!
# The steps of a call

A call is a list of steps, each a visit to the login or an attempt that starts
in the world the step before left behind.  Every call is made of such steps, and
what is made of them is the call.
-/

namespace StoreAdmin.Client

/-- A step of a call, with the worlds around it. -/
abbrev Step := Retry.Step World Payload

namespace Step

/-- What a step adds to the log. -/
def events (step : Step) : List Event :=
  step.after.log.drop step.before.log.length

theorem events_eq (step : Step) {events : List Event}
    (hlog : step.after.log = step.before.log ++ events) : step.events = events := by
  rw [Step.events, hlog, List.drop_left]

theorem log_eq (step : Step) (hgrows : step.before.log <+: step.after.log) :
    step.after.log = step.before.log ++ step.events := by
  obtain ⟨events, hlog⟩ := hgrows
  rw [events_eq step hlog.symm, hlog]

end Step

/-- What an attempt leaves in the log. -/
theorem Attempted.events_eq {c : Client} {r : Request} {url : Url} {format : Format}
    {w after : World} {outcome : Except Error Payload}
    (h : c.Attempted r url format w outcome after) (number : Nat) :
    Step.events (.attempt number w outcome after) = [] ∧ outcome ≠ .error .unauthorized ∨
    Step.events (.attempt number w outcome after) =
        [.exchange .call (c.messageIn r url format w) w.nextTurn.1.reply] ∧
      (outcome = .error .unauthorized ↔
        ∃ response, w.nextTurn.1.reply = .answer response ∧
          response.status = Status.refused) := by
  rcases h.sends with ⟨-, rfl, rfl⟩ | ⟨fault, -, rfl, rfl⟩ | ⟨hlog, hrefused⟩
  · exact .inl ⟨Step.events_eq _ (List.append_nil _).symm, by simp⟩
  · exact .inl ⟨Step.events_eq _ (List.append_nil _).symm, by simp⟩
  · exact .inr ⟨Step.events_eq _ hlog, hrefused⟩

/-- The format and the address of a request, if it can be made at all. -/
def resolve (c : Client) (r : Request) : Except Error (Format × Url) := do
  let format ← r.validate
  let url ← r.url c.endpoint
  return (format, url)

/-- Steps of a call that follow each other. -/
abbrev Path (c : Client) (r : Request) (url : Url) (format : Format) (method : LoginMethod) :=
  Retry.Path (fun _ => (c.attempt r url format).run) (c.ensureLogin method).run

/-- The rounds of a call. -/
abbrev Rounds (c : Client) (r : Request) (url : Url) (format : Format)
    (method : LoginMethod) :=
  Retry.Rounds (fun _ => (c.attempt r url format).run) (c.ensureLogin method).run

/-- The steps of a call, and what comes of it. -/
inductive Performs (c : Client) (r : Request) (w : World) :
    List Step → Except Error Payload → World → Prop
  | unresolved {e : Error} (hresolve : c.resolve r = .error e) :
      Performs c r w [] (.error e) w
  | single {format : Format} {url : Url} {outcome : Except Error Payload} {after : World}
      (hresolve : c.resolve r = .ok (format, url)) (hlogin : c.login = none)
      (hattempt : (c.attempt r url format).exec w = (outcome, after)) :
      Performs c r w [.attempt 1 w outcome after] outcome after
  | lockedOut {format : Format} {url : Url} {method : LoginMethod} {e : Error} {after : World}
      (hresolve : c.resolve r = .ok (format, url)) (hlogin : c.login = some method)
      (htoken : w.token = "") (hvisit : (c.ensureLogin method).exec w = (.error e, after)) :
      Performs c r w [.login w (.error e) after] (.error (loginError e)) after
  | loggedIn {format : Format} {url : Url} {method : LoginMethod} {middle after : World}
      {steps : List Step} {outcome : Except Error Payload}
      (hresolve : c.resolve r = .ok (format, url)) (hlogin : c.login = some method)
      (htoken : w.token = "") (hvisit : (c.ensureLogin method).exec w = (.ok (), middle))
      (hrounds : c.Rounds r url format method c.attempts 1 middle steps outcome after) :
      Performs c r w (.login w (.ok ()) middle :: steps) outcome after
  | resumed {format : Format} {url : Url} {method : LoginMethod} {after : World}
      {steps : List Step} {outcome : Except Error Payload}
      (hresolve : c.resolve r = .ok (format, url)) (hlogin : c.login = some method)
      (htoken : w.token ≠ "")
      (hrounds : c.Rounds r url format method c.attempts 1 w steps outcome after) :
      Performs c r w steps outcome after

/-- A request that cannot be made ends the call before anything happens. -/
theorem exec_call_of_unresolved {c : Client} {r : Request} {e : Error}
    (hresolve : c.resolve r = .error e) (w : World) :
    (c.call r).exec w = (.error e, w) := by
  unfold resolve at hresolve
  unfold call
  simp only [Act.exec_bind, Act.exec_lift]
  cases hvalidate : r.validate with
  | error fault =>
      rw [hvalidate] at hresolve
      cases hresolve
      rfl
  | ok format =>
      rw [hvalidate] at hresolve
      cases hurl : r.url c.endpoint with
      | error fault =>
          rw [hurl] at hresolve
          cases hresolve
          rfl
      | ok url =>
          rw [hurl] at hresolve
          cases hresolve

section Resolved

variable {c : Client} {r : Request} {format : Format} {url : Url}
variable (hresolve : c.resolve r = .ok (format, url))

include hresolve

theorem validate_and_url : r.validate = .ok format ∧ r.url c.endpoint = .ok url := by
  obtain ⟨checked, hvalidate, hrest⟩ := exists_of_bind_ok hresolve
  obtain ⟨address, hurl, hpair⟩ := exists_of_bind_ok hrest
  cases hpair
  exact ⟨hvalidate, hurl⟩

theorem exec_call_single (hlogin : c.login = none) (w : World) :
    (c.call r).exec w = (c.attempt r url format).exec w := by
  obtain ⟨hvalidate, hurl⟩ := validate_and_url hresolve
  unfold call
  simp only [Act.exec_bind, Act.exec_lift, hvalidate, hurl, hlogin]

theorem exec_call_loggedOut {method : LoginMethod} (hlogin : c.login = some method)
    {w : World} (htoken : w.token = "") :
    (c.call r).exec w =
      match (c.ensureLogin method).exec w with
      | (.error e, after) => (.error (loginError e), after)
      | (.ok (), middle) =>
        (Retry.run c.attempts (fun _ => (c.attempt r url format).run)
          (c.ensureLogin method).run).run middle := by
  obtain ⟨hvalidate, hurl⟩ := validate_and_url hresolve
  unfold call
  simp only [Act.exec_bind, Act.exec_lift, Act.exec_get, hvalidate, hurl, hlogin, htoken,
    if_true, Act.exec_tryCatch]
  cases (c.ensureLogin method).exec w with
  | mk visit middle => cases visit <;> rfl

theorem exec_call_resumed {method : LoginMethod} (hlogin : c.login = some method)
    {w : World} (htoken : w.token ≠ "") :
    (c.call r).exec w =
      (Retry.run c.attempts (fun _ => (c.attempt r url format).run)
        (c.ensureLogin method).run).run w := by
  obtain ⟨hvalidate, hurl⟩ := validate_and_url hresolve
  unfold call
  simp only [Act.exec_bind, Act.exec_lift, Act.exec_get, hvalidate, hurl, hlogin, htoken,
    if_false, Act.exec_mk]
  rfl

end Resolved

/-- Every call is made of steps. -/
theorem exists_performs (c : Client) (r : Request) (w : World) :
    ∃ steps, c.Performs r w steps ((c.call r).exec w).1 ((c.call r).exec w).2 := by
  cases hresolve : c.resolve r with
  | error e =>
      rw [exec_call_of_unresolved hresolve]
      exact ⟨[], .unresolved hresolve⟩
  | ok resolved =>
      obtain ⟨format, url⟩ := resolved
      cases hlogin : c.login with
      | none =>
          rw [exec_call_single hresolve hlogin]
          exact ⟨_, .single hresolve hlogin rfl⟩
      | some method =>
          by_cases htoken : w.token = ""
          · rw [exec_call_loggedOut hresolve hlogin htoken]
            cases hvisit : (c.ensureLogin method).exec w with
            | mk visit middle =>
                cases visit with
                | error e => exact ⟨_, .lockedOut hresolve hlogin htoken hvisit⟩
                | ok _ =>
                    obtain ⟨steps, hrounds⟩ := Retry.exists_rounds c.attempts 1 middle
                    exact ⟨_, .loggedIn hresolve hlogin htoken hvisit hrounds⟩
          · rw [exec_call_resumed hresolve hlogin htoken]
            obtain ⟨steps, hrounds⟩ := Retry.exists_rounds c.attempts 1 w
            exact ⟨_, .resumed hresolve hlogin htoken hrounds⟩

/-- What is made of the steps of a call is the call. -/
theorem Performs.exec_eq {c : Client} {r : Request} {w after : World} {steps : List Step}
    {outcome : Except Error Payload} (h : c.Performs r w steps outcome after) :
    (c.call r).exec w = (outcome, after) := by
  cases h with
  | unresolved hresolve => exact exec_call_of_unresolved hresolve w
  | single hresolve hlogin hattempt =>
      rw [exec_call_single hresolve hlogin, hattempt]
  | lockedOut hresolve hlogin htoken hvisit =>
      rw [exec_call_loggedOut hresolve hlogin htoken, hvisit]
  | loggedIn hresolve hlogin htoken hvisit hrounds =>
      rw [exec_call_loggedOut hresolve hlogin htoken, hvisit]
      exact hrounds.run_eq
  | resumed hresolve hlogin htoken hrounds =>
      rw [exec_call_resumed hresolve hlogin htoken]
      exact hrounds.run_eq

/-! ## The log of a call -/

section Path

variable {c : Client} {r : Request} {url : Url} {format : Format} {method : LoginMethod}
variable {w after : World} {steps : List Step}

theorem log_eq_of_path (hpath : c.Path r url format method w steps after) :
    after.log = w.log ++ steps.flatMap Step.events := by
  induction hpath with
  | nil => exact (List.append_nil _).symm
  | @attempt number s next _ outcome _ hattempt _ ih =>
      have hgrows := (attempted_of_exec c r url format hattempt).log_grows
      have hlog : next.log = s.log ++ Step.events (.attempt number s outcome next) :=
        Step.log_eq (.attempt number s outcome next) hgrows
      rw [ih, List.flatMap_cons, ← List.append_assoc, ← hlog]
  | @login s next _ outcome _ hvisit _ ih =>
      have hgrows := (visited_of_exec c method hvisit).log_grows
      have hlog : next.log = s.log ++ Step.events (.login s outcome next) :=
        Step.log_eq (.login s outcome next) hgrows
      rw [ih, List.flatMap_cons, ← List.append_assoc, ← hlog]

/-- The steps of a call that is not cut off before its first one follow each
other, as those of some login. -/
theorem Performs.path {outcome : Except Error Payload}
    (h : c.Performs r w steps outcome after) :
    (steps = [] ∧ after = w) ∨ ∃ url format method,
      c.Path r url format method w steps after := by
  cases h with
  | unresolved => exact .inl ⟨rfl, rfl⟩
  | single hresolve hlogin hattempt =>
      exact .inr ⟨_, _, .granted, .attempt hattempt (.nil after)⟩
  | @lockedOut format url method _ _ hresolve hlogin htoken hvisit =>
      exact .inr ⟨url, format, method, .login hvisit (.nil after)⟩
  | loggedIn hresolve hlogin htoken hvisit hrounds =>
      exact .inr ⟨_, _, _, .login hvisit hrounds.path⟩
  | resumed hresolve hlogin htoken hrounds => exact .inr ⟨_, _, _, hrounds.path⟩

theorem Performs.log_eq {outcome : Except Error Payload}
    (h : c.Performs r w steps outcome after) : after.log = w.log ++ steps.flatMap Step.events := by
  rcases h.path with ⟨rfl, rfl⟩ | ⟨url, format, method, hpath⟩
  · exact (List.append_nil _).symm
  · exact log_eq_of_path hpath

theorem Performs.after_eq {outcome : Except Error Payload}
    (h : c.Performs r w steps outcome after) :
    ∀ step ∈ steps.getLast?, step.after = after := by
  rcases h.path with ⟨rfl, rfl⟩ | ⟨url, format, method, hpath⟩
  · simp
  · exact hpath.after_eq

end Path

/-! ## A call that is refused -/

/-- A client of the machine itself, which logs in with a name and a password. -/
def loopback : Client where
  endpoint := "http://[::1]:4443"
  login := some (.withCredentials (.legacy "http://[::1]:4443" "root" "secret"))
  cancellable := true

/-- The same for an operator, who first asks for a token document. -/
def operator : Client :=
  { loopback with
    login := some (.withCredentials (.user "http://[::1]:4443" "root" "secret")) }

def listing : Request :=
  .get ["object", "bucket"]

def listingUrl : Url where
  scheme := "http".toList
  authority := some { host := .ipv6 [0, 0, 0, 0, 0, 0, 0, 1], port := some 4443 }
  path := .segments ["object".toList, "bucket".toList]

theorem resolve_operator_listing : operator.resolve listing = .ok (.xml, listingUrl) := rfl

theorem resolve_listing : loopback.resolve listing = .ok (.xml, listingUrl) := rfl

/-- A network that hands out a token, refuses it and is gone. -/
def refusing : World where
  turns := [{ reply := .answer { headers := [("x-sds-auth-token", "one")] } },
    { reply := .answer { status := 401 } }]

end StoreAdmin.Client
