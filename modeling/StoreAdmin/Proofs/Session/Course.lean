import StoreAdmin.Proofs.Session.Call

/-!
# The course of a call

Where nothing is cancelled and nobody else touches the token, the list of steps
of a call has a definite shape.  This file proves who logs in when, how often,
what is sent, and what comes of it, for every ceiling and every script of the
network.
-/

namespace StoreAdmin.Client

/-- What comes of a call, read off its last step.  A login in front of the first
attempt has an error of its own. -/
def concluded : List Step → Except Error Payload
  | [.login _ (.error e) _] => .error (loginError e)
  | steps => (steps.getLast?.map Retry.Step.ending).getD (.error .exhausted)

theorem concluded_of_isLogin_head {steps : List Step}
    (hhead : ∀ step ∈ steps.head?, step.isLogin = false) :
    concluded steps = (steps.getLast?.map Retry.Step.ending).getD (.error .exhausted) := by
  unfold concluded
  split
  · next before e after =>
      have hlogin := hhead (.login before (.error e) after) rfl
      cases hlogin
  · rfl

theorem concluded_cons_of_ok {before after : World} (steps : List Step) :
    concluded (.login before (.ok ()) after :: steps) =
      (steps.getLast?.map Retry.Step.ending).getD (.error .exhausted) := by
  cases steps with
  | nil => rfl
  | cons step steps => rw [concluded, List.getLast?_cons_cons]; simp

/-- The course of a call of a client that logs in. -/
structure Course (c : Client) (r : Request) (url : Url) (format : Format)
    (method : LoginMethod) (w : World) (steps : List Step) (outcome : Except Error Payload)
    (after : World) : Prop where
  path : c.Path r url format method w steps after
  /-- A call begins with a login exactly if no token is kept. -/
  opens : (∃ step ∈ steps.head?, step.isLogin = true) ↔ w.token = ""
  /-- Between two attempts there is one login, and only what goes on is followed by
  anything. -/
  alternates : steps.IsChain fun step next => step.goesOn ∧ next.isLogin = !step.isLogin
  begins : ∀ before visit next, .login before visit next ∈ steps → before.Begins next
  sends : ∀ number before result next, .attempt number before result next ∈ steps →
    c.Sends r url format before result next
  attempts_le : Retry.countAttempts steps ≤ c.attempts
  logins_le : 1 ≤ c.attempts → Retry.countLogins steps ≤ c.attempts
  /-- If everything is refused and every login succeeds, all attempts are made. -/
  counts_of_goesOn : (∀ step ∈ steps, step.goesOn) →
    Retry.countAttempts steps = c.attempts ∧
    Retry.countLogins steps = if w.token = "" then max 1 c.attempts else c.attempts - 1
  outcome_eq : outcome = concluded steps

variable {c : Client} {r : Request} {url : Url} {format : Format} {method : LoginMethod}
variable {w after : World} {steps : List Step} {outcome : Except Error Payload}

/-- Nothing is cancelled, so every attempt sends its message or cannot. -/
theorem Attempted.sends_of_running (h : c.Attempted r url format w outcome after)
    (hrunning : w.Running c.cancellable) : c.Sends r url format w outcome after :=
  h.sends_of_going hrunning.going

section Rounds

variable {left number : Nat}
variable (hrounds : c.Rounds r url format method left number w steps outcome after)

include hrounds

/-- Nobody else touches the token and nothing is cancelled all along the rounds. -/
theorem quiet_of_rounds (halone : w.Alone) (hrunning : w.Running c.cancellable) :
    ∀ step ∈ steps, step.before.Alone ∧ step.before.Running c.cancellable := by
  refine hrounds.path.forall_before (P := fun w => w.Alone ∧ w.Running c.cancellable)
    ?_ ?_ ⟨halone, hrunning⟩
  · intro number before result next hattempt hquiet
    have hattempted := attempted_of_exec c r url format hattempt
    exact ⟨hattempted.alone hquiet.1, hattempted.running hquiet.2⟩
  · intro before visit next hlogin hquiet
    have hvisited := visited_of_exec c method hlogin
    exact ⟨hvisited.alone hquiet.1, hvisited.running hquiet.2⟩

theorem sends_of_rounds (halone : w.Alone) (hrunning : w.Running c.cancellable)
    (number : Nat) (before : World) (result : Except Error Payload) (next : World)
    (hstep : .attempt number before result next ∈ steps) :
    c.Sends r url format before result next := by
  have hquiet := quiet_of_rounds hrounds halone hrunning _ hstep
  have hattempt := hrounds.path.attempt_run hstep
  exact (attempted_of_exec c r url format hattempt).sends_of_running hquiet.2

/-- A login of the loop finds no token, because the attempt before it forgot the
token that was refused. -/
theorem token_of_rounds (hlogin : c.login.isSome) (halone : w.Alone)
    (hrunning : w.Running c.cancellable) {before next : World} {visit : Except Error Unit}
    (hstep : .login before visit next ∈ steps) : before.token = "" := by
  obtain ⟨number, first, hrefused⟩ := hrounds.exists_refused_of_login hstep
  have hquiet := quiet_of_rounds hrounds halone hrunning _ hrefused
  have hattempt := hrounds.path.attempt_run hrefused
  exact (attempted_of_exec c r url format hattempt).token_eq_empty rfl hlogin
    hquiet.1.nextTurn

theorem begins_of_rounds (hlogin : c.login.isSome) (halone : w.Alone)
    (hrunning : w.Running c.cancellable) (before : World) (visit : Except Error Unit)
    (next : World) (hstep : .login before visit next ∈ steps) : before.Begins next := by
  have hquiet := quiet_of_rounds hrounds halone hrunning _ hstep
  have htoken := token_of_rounds hrounds hlogin halone hrunning hstep
  exact (visited_of_exec c method (hrounds.path.login_run hstep)).begins hquiet.2 htoken

end Rounds

/-! ## The three ways into a call -/

section Ways

variable (hlogin : c.login = some method) (halone : w.Alone)
variable (hrunning : w.Running c.cancellable)

include hrunning in
theorem course_of_lockedOut {e : Error} (htoken : w.token = "")
    (hvisit : (c.ensureLogin method).exec w = (.error e, after)) :
    c.Course r url format method w [.login w (.error e) after] (.error (loginError e))
      after where
  path := .login hvisit (.nil after)
  opens := by simp [htoken]
  alternates := .singleton _
  begins := by
    intro before visit next hstep
    cases List.mem_singleton.1 hstep
    exact (visited_of_exec c method hvisit).begins hrunning htoken
  sends := by simp
  attempts_le := by simp
  logins_le := by
    intro hattempts
    simpa using hattempts
  counts_of_goesOn := by
    intro hall
    cases hall _ (List.mem_singleton_self _)
  outcome_eq := rfl

include hlogin halone hrunning in
theorem course_of_loggedIn {middle : World} (htoken : w.token = "")
    (hvisit : (c.ensureLogin method).exec w = (.ok (), middle))
    (hrounds : c.Rounds r url format method c.attempts 1 middle steps outcome after) :
    c.Course r url format method w (.login w (.ok ()) middle :: steps) outcome after := by
  have hvisited := visited_of_exec c method hvisit
  have hsome : c.login.isSome := by rw [hlogin]; rfl
  have hlogins := hrounds.logins_le
  exact {
    path := .login hvisit hrounds.path
    opens := by simp [htoken]
    alternates := List.isChain_cons.2
      ⟨fun step hstep => ⟨rfl, hrounds.isLogin_head step hstep⟩, hrounds.alternates⟩
    begins := by
      intro before visit next hstep
      rcases List.mem_cons.1 hstep with hstep | hstep
      · cases hstep
        exact hvisited.begins hrunning htoken
      · exact begins_of_rounds hrounds hsome (hvisited.alone halone)
          (hvisited.running hrunning) before visit next hstep
    sends := by
      intro number before result next hstep
      rcases List.mem_cons.1 hstep with hstep | hstep
      · cases hstep
      · exact sends_of_rounds hrounds (hvisited.alone halone) (hvisited.running hrunning)
          number before result next hstep
    attempts_le := by simpa using hrounds.attempts_le
    logins_le := by
      intro hattempts
      rw [Retry.countLogins_login]
      omega
    counts_of_goesOn := by
      intro hall
      obtain ⟨hattempts, hlast⟩ := hrounds.counts_of_goesOn fun step hstep =>
        hall step (List.mem_cons_of_mem _ hstep)
      rw [Retry.countAttempts_login, Retry.countLogins_login, if_pos htoken, hlast]
      exact ⟨hattempts, by omega⟩
    outcome_eq := by rw [hrounds.outcome_eq, concluded_cons_of_ok] }

include hlogin halone hrunning in
theorem course_of_resumed (htoken : w.token ≠ "")
    (hrounds : c.Rounds r url format method c.attempts 1 w steps outcome after) :
    c.Course r url format method w steps outcome after := by
  have hsome : c.login.isSome := by rw [hlogin]; rfl
  have hlogins := hrounds.logins_le
  exact {
    path := hrounds.path
    opens := by
      refine iff_of_false ?_ htoken
      rintro ⟨step, hstep, hbegins⟩
      rw [hrounds.isLogin_head step hstep] at hbegins
      cases hbegins
    alternates := hrounds.alternates
    begins := begins_of_rounds hrounds hsome halone hrunning
    sends := sends_of_rounds hrounds halone hrunning
    attempts_le := hrounds.attempts_le
    logins_le := by omega
    counts_of_goesOn := by
      intro hall
      rw [if_neg htoken]
      exact hrounds.counts_of_goesOn hall
    outcome_eq := by
      rw [concluded_of_isLogin_head hrounds.isLogin_head]
      exact hrounds.outcome_eq }

end Ways

/-- The steps of a call of a client that logs in take their course. -/
theorem Performs.course (h : c.Performs r w steps outcome after)
    (hresolve : c.resolve r = .ok (format, url)) (hlogin : c.login = some method)
    (halone : w.Alone) (hrunning : w.Running c.cancellable) :
    c.Course r url format method w steps outcome after := by
  cases h with
  | unresolved hunresolved =>
      rw [hresolve] at hunresolved
      cases hunresolved
  | single _ hnone =>
      rw [hlogin] at hnone
      cases hnone
  | lockedOut hresolved hmethod htoken hvisit =>
      rw [hlogin] at hmethod
      cases hmethod
      exact course_of_lockedOut hrunning htoken hvisit
  | loggedIn hresolved hmethod htoken hvisit hrounds =>
      rw [hresolve] at hresolved
      cases hresolved
      rw [hlogin] at hmethod
      cases hmethod
      exact course_of_loggedIn hlogin halone hrunning htoken hvisit hrounds
  | resumed hresolved hmethod htoken hrounds =>
      rw [hresolve] at hresolved
      cases hresolved
      rw [hlogin] at hmethod
      cases hmethod
      exact course_of_resumed hlogin halone hrunning htoken hrounds

/-- The shape and the outcome of a call.  A request that cannot be made changes
nothing.  Without a login there is one attempt, whatever the ceiling is.  With a
login the call takes its course. -/
theorem call_course (c : Client) (r : Request) (w : World) (halone : w.Alone)
    (hrunning : w.Running c.cancellable) :
    match c.resolve r, c.login with
    | .error e, _ => (c.call r).exec w = (.error e, w)
    | .ok (format, url), none =>
        (c.call r).exec w = (c.attempt r url format).exec w ∧
        c.Sends r url format w ((c.call r).exec w).1 ((c.call r).exec w).2
    | .ok (format, url), some method =>
        ∃ steps, c.Course r url format method w steps ((c.call r).exec w).1
          ((c.call r).exec w).2 := by
  cases hresolve : c.resolve r with
  | error e => exact exec_call_of_unresolved hresolve w
  | ok resolved =>
      obtain ⟨format, url⟩ := resolved
      cases hlogin : c.login with
      | none =>
          have hcall := exec_call_single hresolve hlogin w
          refine ⟨hcall, ?_⟩
          rw [hcall]
          exact (c.attempted r url format w).sends_of_running hrunning
      | some method =>
          obtain ⟨steps, hperforms⟩ := exists_performs c r w
          exact ⟨steps, hperforms.course hresolve hlogin halone hrunning⟩

theorem call_course_refusing :
    refusing.Alone ∧ refusing.Running loopback.cancellable ∧
    ∃ steps, loopback.Course listing listingUrl .xml
      (.withCredentials (.legacy "http://[::1]:4443" "root" "secret")) refusing steps
      ((loopback.call listing).exec refusing).1 ((loopback.call listing).exec refusing).2 := by
  have halone : refusing.Alone := by simp [World.Alone, refusing]
  have hrunning : refusing.Running loopback.cancellable := by
    simp [World.Running, refusing]
  have hcourse := call_course loopback listing refusing halone hrunning
  rw [resolve_listing] at hcourse
  exact ⟨halone, hrunning, hcourse⟩

end StoreAdmin.Client
