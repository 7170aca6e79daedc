import StoreAdmin.Proofs.Session.Session

/-!
# A token that is shared

While an attempt waits for its answer, another party may put any token in the
place of the one that is kept.  An answer by 401 is about the token that the
attempt carried, so only that token is forgotten.  A newer one stays and is
carried by the next attempt without a login; only where no token is left, there
is a login.
-/

namespace StoreAdmin

/-- The token that is kept when the next answer arrives: the last one that anyone
has put there. -/
def World.tokenAtAnswer (w : World) : String :=
  w.nextTurn.1.replacement.getD w.token

namespace Client

variable {c : Client} {r : Request} {url : Url} {format : Format} {method : LoginMethod}
variable {w after before next : World} {steps later : List Step} {number : Nat}
variable {outcome result : Except Error Payload}

/-- A refused attempt forgets the token that it carried, and no other. -/
theorem Attempted.token_of_refused (h : c.Attempted r url format w outcome after)
    (hrefused : outcome = .error .unauthorized) (hlogin : c.login.isSome) :
    after.token = if w.tokenAtAnswer = w.token then "" else w.tokenAtAnswer := by
  cases h with
  | cancelled | unsendable | cutShort | unanswered | interrupted => cases hrefused
  | judged response hgoing hsent hreply hstatus =>
      exact absurd ((response.judge_eq_unauthorized_iff format).1 hrefused) hstatus
  | refused =>
      unfold afterRefusal
      rw [if_pos hlogin, World.forget_token]
      rfl

/-- What follows a refused attempt, the last of `number` so far, that has left the
world `next` behind. -/
inductive Continues (c : Client) (r : Request) (url : Url) (format : Format) (number : Nat)
    (next : World) : List Step → Except Error Payload → Prop
  | exhausted (hlast : number = c.attempts) :
      Continues c r url format number next [] (.error .exhausted)
  /-- A token that is left is carried by the next attempt, and nobody logs in. -/
  | carries {result outcome : Except Error Payload} {last : World} {rest : List Step}
      (hmore : number < c.attempts) (htoken : next.token ≠ "")
      (hcarried : (c.messageIn r url format next).tokens = [next.token])
      (hsends : c.Sends r url format next result last) :
      Continues c r url format number next
        (.login next (.ok ()) next :: .attempt (number + 1) next result last :: rest) outcome
  /-- Without a token there is one login in front of the next attempt. -/
  | renews {result outcome : Except Error Payload} {middle last : World} {rest : List Step}
      (hmore : number < c.attempts) (htoken : next.token = "")
      (hbegins : next.Begins middle) :
      Continues c r url format number next
        (.login next (.ok ()) middle :: .attempt (number + 1) middle result last :: rest) outcome
  | lockedOut {e : Error} {last : World} (hmore : number < c.attempts)
      (htoken : next.token = "") (hbegins : next.Begins last) :
      Continues c r url format number next [.login next (.error e) last]
        (.error (Retry.loginError e))

/-- The token that is left decides how a refused attempt is followed. -/
theorem continues_of_rounds (hlogin : c.login.isSome)
    (hrounds : c.Rounds r url format method c.attempts 1 w steps outcome after)
    (hsuffix : .attempt number before (.error .unauthorized) next :: later <:+ steps) :
    c.Continues r url format number next later outcome := by
  have hpath := hrounds.path
  have hattempt := hpath.attempt_run (hsuffix.subset List.mem_cons_self)
  have hgoing := (attempted_of_exec c r url format hattempt).going_of_refused rfl
  rcases hrounds.refused_of_suffix hsuffix with ⟨hlast, rfl, rfl⟩ | ⟨hmore, hnext⟩
  · exact .exhausted (by omega)
  have hmore : number < c.attempts := by omega
  rcases hnext with ⟨e, last, rfl, rfl⟩ | ⟨middle, result, last, rest, rfl⟩
  · have hstep : .login next (.error e) last ∈ steps := hsuffix.subset (by simp)
    have hvisited := visited_of_exec c method (hpath.login_run hstep)
    have htoken : next.token = "" := by
      by_contra hkept
      cases (hvisited.eq_of_token hgoing hkept).1
    exact .lockedOut hmore htoken (hvisited.begins_of_going hgoing htoken)
  · have hstep : .login next (.ok ()) middle ∈ steps := hsuffix.subset (by simp)
    have hvisited := visited_of_exec c method (hpath.login_run hstep)
    by_cases htoken : next.token = ""
    · exact .renews hmore htoken (hvisited.begins_of_going hgoing htoken)
    · obtain rfl := (hvisited.eq_of_token hgoing htoken).2
      have hagain : .attempt (number + 1) middle result last ∈ steps :=
        hsuffix.subset (by simp)
      have hattempted := attempted_of_exec c r url format (hpath.attempt_run hagain)
      exact .carries hmore htoken (tokens_message hlogin r url format middle.token)
        (hattempted.sends_of_going hgoing)

namespace Performs

variable (h : c.Performs r w steps outcome after) (hlogin : c.login = some method)

include h hlogin

theorem attempts_le : Retry.countAttempts steps ≤ c.attempts := by
  cases h with
  | unresolved => simp
  | single _ hnone =>
      rw [hlogin] at hnone
      cases hnone
  | lockedOut => simp
  | loggedIn _ _ _ _ hrounds => simpa using hrounds.attempts_le
  | resumed _ _ _ hrounds => exact hrounds.attempts_le

/-- The attempts of a call are in its rounds, whether it begins with a login or not. -/
theorem exists_rounds_of_suffix
    (hsuffix : .attempt number before result next :: later <:+ steps) :
    ∃ url format first rounds, c.resolve r = .ok (format, url) ∧
      c.Rounds r url format method c.attempts 1 first rounds outcome after ∧
      .attempt number before result next :: later <:+ rounds := by
  cases h with
  | unresolved => simp at hsuffix
  | single _ hnone =>
      rw [hlogin] at hnone
      cases hnone
  | lockedOut =>
      rcases List.suffix_cons_iff.1 hsuffix with hstep | hsuffix
      · cases hstep
      · simp at hsuffix
  | loggedIn hresolve hmethod htoken hvisit hrounds =>
      rw [hlogin] at hmethod
      cases hmethod
      rcases List.suffix_cons_iff.1 hsuffix with hstep | hsuffix
      · cases hstep
      · exact ⟨_, _, _, _, hresolve, hrounds, hsuffix⟩
  | resumed hresolve hmethod htoken hrounds =>
      rw [hlogin] at hmethod
      cases hmethod
      exact ⟨_, _, _, _, hresolve, hrounds, hsuffix⟩

end Performs

/-- A newer token survives a late 401.  Whatever other parties put in the place of the
token, and whenever they do so, an attempt that is answered by a complete 401 makes
the client forget the token that the attempt carried and no other; the call goes on
with the token that is left, and logs in once if there is none. -/
theorem newer_token_survives (c : Client) (method : LoginMethod) (hlogin : c.login = some method)
    (r : Request) (w : World) (steps : List Step) (outcome : Except Error Payload)
    (after : World) (h : c.Performs r w steps outcome after) :
    Retry.countAttempts steps ≤ c.attempts ∧
    ∀ number before result next later,
      .attempt number before result next :: later <:+ steps →
    ∀ m response,
      .exchange .call m (.answer response) ∈
        Step.events (.attempt number before result next) →
      response.status = Status.refused →
    ∃ url format, c.resolve r = .ok (format, url) ∧
      m.tokens = [before.token] ∧
      (next.token = if before.tokenAtAnswer = before.token then "" else before.tokenAtAnswer) ∧
      c.Continues r url format number next later outcome := by
  refine ⟨h.attempts_le hlogin, ?_⟩
  intro number before result next later hsuffix m response hevent hstatus
  have hsome : c.login.isSome := by rw [hlogin]; rfl
  obtain ⟨url, format, first, rounds, hresolve, hrounds, hlast⟩ :=
    h.exists_rounds_of_suffix hlogin hsuffix
  have hstep : .attempt number before result next ∈ rounds :=
    hlast.subset List.mem_cons_self
  have hattempted := attempted_of_exec c r url format (hrounds.path.attempt_run hstep)
  rcases hattempted.events_eq number with ⟨hevents, -⟩ | ⟨hevents, hrefused⟩
  · rw [hevents] at hevent
    cases hevent
  rw [hevents, List.mem_singleton] at hevent
  injection hevent with _ hmessage hreply
  have hresult : result = .error .unauthorized :=
    hrefused.2 ⟨response, hreply.symm, hstatus⟩
  refine ⟨url, format, hresolve, ?_, hattempted.token_of_refused hresult hsome, ?_⟩
  · rw [hmessage]
    exact tokens_message hsome r url format before.token
  · rw [hresult] at hlast
    exact continues_of_rounds hsome hrounds hlast

/-! ## A token that is renewed elsewhere -/

/-- Another party renews the token while the first attempt waits for its answer. -/
def rotating : World where
  token := "stale"
  turns := [{ reply := .answer { status := 401 }, replacement := some "newer" },
    { reply := .answer {} }]

/-- The world behind the first attempt. -/
def rotated : World :=
  rotating.afterExchange .call (loopback.messageIn listing listingUrl .xml rotating)

theorem exec_rotating :
    (loopback.attempt listing listingUrl .xml).exec rotating =
      (.error .unauthorized, rotated) := rfl

theorem exec_rotated :
    (loopback.attempt listing listingUrl .xml).exec rotated =
      (.ok { format := .xml, body := [] },
        rotated.afterExchange .call (loopback.messageIn listing listingUrl .xml rotated)) :=
  rfl

/-- The visit to the login in front of the next attempt finds the newer token. -/
theorem exec_ensureLogin_rotated :
    (loopback.ensureLogin
      (.withCredentials (.legacy "http://[::1]:4443" "root" "secret"))).exec rotated =
      (.ok (), rotated) := rfl

theorem newer_token_survives_rotating :
    ∃ method steps outcome after number before next later m response,
      loopback.login = some method ∧
      loopback.Performs listing rotating steps outcome after ∧
      .attempt number before (.error .unauthorized) next :: later <:+ steps ∧
      .exchange .call m (.answer response) ∈
        Step.events (.attempt number before (.error .unauthorized) next) ∧
      response.status = Status.refused ∧
      (Retry.countAttempts steps = 2 ∧ 2 ≤ loopback.attempts) ∧
      m.tokens = ["stale"] ∧ next.token = "newer" ∧
      loopback.Continues listing listingUrl .xml number next later outcome := by
  have hperforms : loopback.Performs listing rotating _ _ _ :=
    .resumed resolve_listing rfl (by decide)
      (.again exec_rotating exec_ensureLogin_rotated (.settled exec_rotated (by simp)))
  have hevent := List.mem_singleton_self (Event.exchange .call
    (loopback.messageIn listing listingUrl .xml rotating) (.answer { status := 401 }))
  obtain ⟨hattempts, hall⟩ := newer_token_survives loopback _ rfl listing _ _ _ _ hperforms
  obtain ⟨url, format, hresolve, hcarried, htoken, hcontinues⟩ :=
    hall _ _ _ _ _ (List.suffix_refl _) _ _ hevent rfl
  rw [resolve_listing] at hresolve
  cases hresolve
  exact ⟨_, _, _, _, _, _, _, _, _, _, rfl, hperforms, List.suffix_refl _, hevent, rfl,
    ⟨rfl, hattempts⟩, hcarried, htoken, hcontinues⟩

end Client
end StoreAdmin
