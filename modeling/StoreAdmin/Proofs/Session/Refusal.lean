import StoreAdmin.Proofs.Session.Session

/-!
# Answers by 401

A complete answer by 401 is taken as a refusal: the token is forgotten, and the
call logs in and makes another attempt, or gives up at its ceiling.  The body of
an answer is read before its status is looked at.  Hence an answer by 401 whose
body is cut short is not taken as a refusal, and the token stays.
-/

namespace StoreAdmin.Client

/-- A call takes the answer to one of its attempts as a refusal of the token.  The
last two arguments are the steps behind the attempt and what comes of the call. -/
def TakesAsRefusal (c : Client) (number : Nat) (before next : World) (later : List Step)
    (outcome : Except Error Payload) : Prop :=
  match c.login with
  | none => later = [] ∧ outcome = .error .unauthorized
  | some _ =>
      (before.nextTurn.1.replacement = none → next.token = "") ∧
      (number = c.attempts ∧ later = [] ∧ outcome = .error .exhausted ∨
        number < c.attempts ∧
          ((∃ e last, later = [.login next (.error e) last] ∧
              outcome = .error (Retry.loginError e)) ∨
            ∃ middle result last rest,
              later = .login next (.ok ()) middle ::
                .attempt (number + 1) middle result last :: rest))

variable {c : Client} {r : Request} {w after before next : World} {steps later : List Step}
variable {outcome result : Except Error Payload} {number : Nat}

theorem takesAsRefusal_of_rounds {url : Url} {format : Format} {method : LoginMethod}
    (hlogin : c.login = some method)
    (hforgets : c.login.isSome → before.nextTurn.1.replacement = none → next.token = "")
    (hrounds : c.Rounds r url format method c.attempts 1 w steps outcome after)
    (hsuffix : .attempt number before (.error .unauthorized) next :: later <:+ steps) :
    c.TakesAsRefusal number before next later outcome := by
  have hsome : c.login.isSome := by rw [hlogin]; rfl
  unfold TakesAsRefusal
  rw [hlogin]
  refine ⟨hforgets hsome, ?_⟩
  rcases hrounds.refused_of_suffix hsuffix with ⟨hlast, hend⟩ | ⟨hearlier, hnext⟩
  · exact .inl ⟨by omega, hend⟩
  · exact .inr ⟨by omega, hnext⟩

namespace Performs

theorem attempted_of_mem (h : c.Performs r w steps outcome after)
    (hstep : .attempt number before result next ∈ steps) :
    ∃ url format, c.Attempted r url format before result next := by
  rcases h.path with ⟨rfl, -⟩ | ⟨url, format, method, hpath⟩
  · cases hstep
  · exact ⟨url, format, attempted_of_exec c r url format (hpath.attempt_run hstep)⟩

/-- An attempt that is not refused ends the call. -/
theorem settled_of_suffix (h : c.Performs r w steps outcome after)
    (hsuffix : .attempt number before result next :: later <:+ steps)
    (hsettled : result ≠ .error .unauthorized) : later = [] ∧ outcome = result := by
  cases h with
  | unresolved => simp at hsuffix
  | single =>
      rcases List.suffix_cons_iff.1 hsuffix with hstep | hsuffix
      · cases hstep
        exact ⟨rfl, rfl⟩
      · simp at hsuffix
  | lockedOut =>
      rcases List.suffix_cons_iff.1 hsuffix with hstep | hsuffix
      · cases hstep
      · simp at hsuffix
  | loggedIn _ _ _ _ hrounds =>
      rcases List.suffix_cons_iff.1 hsuffix with hstep | hsuffix
      · cases hstep
      · exact hrounds.settled_of_suffix hsuffix hsettled
  | resumed _ _ _ hrounds => exact hrounds.settled_of_suffix hsuffix hsettled

/-- An attempt that is refused is taken as such. -/
theorem takesAsRefusal (h : c.Performs r w steps outcome after)
    (hsuffix : .attempt number before (.error .unauthorized) next :: later <:+ steps) :
    c.TakesAsRefusal number before next later outcome := by
  have hforgets : c.login.isSome →
      before.nextTurn.1.replacement = none → next.token = "" := by
    intro hlogin hturn
    obtain ⟨url, format, hattempted⟩ :=
      h.attempted_of_mem (hsuffix.subset List.mem_cons_self)
    exact hattempted.token_eq_empty rfl hlogin hturn
  cases h with
  | unresolved => simp at hsuffix
  | single hresolve hlogin hattempt =>
      rcases List.suffix_cons_iff.1 hsuffix with hstep | hsuffix
      · cases hstep
        unfold TakesAsRefusal
        rw [hlogin]
        exact ⟨rfl, rfl⟩
      · simp at hsuffix
  | lockedOut =>
      rcases List.suffix_cons_iff.1 hsuffix with hstep | hsuffix
      · cases hstep
      · simp at hsuffix
  | loggedIn _ hlogin _ _ hrounds =>
      rcases List.suffix_cons_iff.1 hsuffix with hstep | hsuffix
      · cases hstep
      · exact takesAsRefusal_of_rounds hlogin hforgets hrounds hsuffix
  | resumed _ hlogin _ hrounds =>
      exact takesAsRefusal_of_rounds hlogin hforgets hrounds hsuffix

/-- A call whose answer was cut short ends at once and keeps its token. -/
theorem of_cutShort {response : Response} (h : c.Performs r w steps outcome after)
    (hsuffix : .attempt number before result next :: later <:+ steps)
    (hsent : next.log ≠ before.log) (hreply : before.nextTurn.1.reply = .cutShort response) :
    later = [] ∧ outcome = .error (.transport .incomplete) ∧
      (before.nextTurn.1.replacement = none → next.token = before.token) := by
  obtain ⟨url, format, hattempted⟩ := h.attempted_of_mem (hsuffix.subset List.mem_cons_self)
  have hresult := hattempted.of_cutShort hsent hreply
  have hsettled : result ≠ .error .unauthorized := by simp [hresult]
  obtain ⟨hlast, hend⟩ := h.settled_of_suffix hsuffix hsettled
  exact ⟨hlast, hend.trans hresult, fun hturn => hattempted.token_eq hturn hsettled⟩

end Performs

/-- What is cut short is not taken as a refusal. -/
theorem not_takesAsRefusal_of_incomplete :
    ¬c.TakesAsRefusal number before next [] (.error (.transport .incomplete)) := by
  unfold TakesAsRefusal
  cases c.login with
  | none => simp
  | some method => simp [Error.exhausted]

/-- The message of an attempt is answered by what the network does next. -/
theorem Performs.reply_eq {m : Message} {reply : Reply}
    (h : c.Performs r w steps outcome after)
    (hstep : .attempt number before result next ∈ steps)
    (hevent : .exchange .call m reply ∈ Step.events (.attempt number before result next)) :
    next.log ≠ before.log ∧ before.nextTurn.1.reply = reply ∧
      (result = .error .unauthorized ↔
        ∃ response, reply = .answer response ∧ response.status = Status.refused) := by
  obtain ⟨url, format, hattempted⟩ := h.attempted_of_mem hstep
  rcases hattempted.events_eq number with ⟨hevents, -⟩ | ⟨hevents, hrefused⟩
  · rw [hevents] at hevent
    cases hevent
  · have hlog : next.log = before.log ++ Step.events (.attempt number before result next) :=
      Step.log_eq (.attempt number before result next) hattempted.log_grows
    rw [hevents, List.mem_singleton] at hevent
    cases hevent
    exact ⟨by simp [hlog, hevents], rfl, hrefused⟩

/-- An answer by 401 is taken as a refusal exactly if it is complete. -/
theorem Performs.takesAsRefusal_iff {m : Message} {reply : Reply} {response : Response}
    (h : c.Performs r w steps outcome after)
    (hsuffix : .attempt number before result next :: later <:+ steps)
    (hevent : .exchange .call m reply ∈ Step.events (.attempt number before result next))
    (hreply : reply = .answer response ∨ reply = .cutShort response)
    (hstatus : response.status = Status.refused) :
    c.TakesAsRefusal number before next later outcome ↔ reply = .answer response := by
  have hstep := hsuffix.subset List.mem_cons_self
  obtain ⟨hsent, hturn, hrefused⟩ := h.reply_eq hstep hevent
  rcases hreply with rfl | rfl
  · have hresult := hrefused.2 ⟨response, rfl, hstatus⟩
    rw [hresult] at hsuffix
    exact iff_of_true (h.takesAsRefusal hsuffix) rfl
  · obtain ⟨rfl, rfl, -⟩ := h.of_cutShort hsuffix hsent hturn
    exact iff_of_false not_takesAsRefusal_of_incomplete (by simp)

/-- What the clients of a store make of the answers by 401 that they get.  An answer
is taken as a refusal exactly if it is complete; if it is cut short, the call ends
with an error of the transport and the token stays.  After a complete one nothing
is sent before another login has succeeded. -/
theorem refusal_iff_complete (c : Client) :
    (∀ r w steps outcome after, c.Performs r w steps outcome after →
      ∀ number before result next later,
        .attempt number before result next :: later <:+ steps →
      ∀ m reply response,
        .exchange .call m reply ∈ Step.events (.attempt number before result next) →
        (reply = .answer response ∨ reply = .cutShort response) →
        response.status = Status.refused →
        (c.TakesAsRefusal number before next later outcome ↔ reply = .answer response) ∧
        (reply = .cutShort response →
          later = [] ∧ outcome = .error (.transport .incomplete) ∧
            (before.nextTurn.1.replacement = none → next.token = before.token))) ∧
    (∀ credentials start history w, c.login = some (.withCredentials credentials) →
      start.Alone → start.token = "" → c.Session start history w →
      ∀ early refused late sender rest,
        history = early ++ refused :: late ++ sender :: rest →
      ∀ m response n reply,
        .exchange .call m (.answer response) ∈ refused.events →
        response.status = Status.refused → .exchange .call n reply ∈ sender.events →
        ∃ login ∈ late, login.token?.isSome) := by
  constructor
  · intro r w steps outcome after hperforms number before result next later hsuffix m reply
      response hevent hreply hstatus
    refine ⟨hperforms.takesAsRefusal_iff hsuffix hevent hreply hstatus, ?_⟩
    intro hcut
    have hstep := hsuffix.subset List.mem_cons_self
    obtain ⟨hsent, hturn, -⟩ := hperforms.reply_eq hstep hevent
    exact hperforms.of_cutShort hsuffix hsent (hturn.trans hcut)
  · intro credentials start history w hlogin halone hempty hsession early refused late sender
      rest hsplit m response n reply hrefusal hstatus hsends
    have hfaithful := (hsession.faithful_and_alone hlogin halone hempty).1
    have hsound := hfaithful.sound (early ++ refused :: late) sender rest hsplit
    exact hsound.renews n reply hsends early refused late rfl
      ⟨_, hrefusal, (Event.isRefusal_exchange m _).2 ⟨response, rfl, hstatus⟩⟩

/-! ## A network that keeps refusing -/

/-- A network that gives the same answer to everything. -/
def steady (reply : Reply) (log : List Event) : World where
  token := "stale"
  later := reply
  log := log

/-- The client with a single attempt. -/
def once : Client :=
  { loopback with attempts := 1 }

theorem exec_refused :
    (once.attempt listing listingUrl .xml).exec (steady (.answer { status := 401 }) []) =
      (.error .unauthorized,
        { (steady (.answer { status := 401 }) []).afterExchange .call
          (once.message listing listingUrl .xml "stale") with token := "" }) := rfl

theorem refusal_iff_complete_steady :
    ∃ steps outcome after number before result next later m response,
      once.Performs listing (steady (.answer { status := 401 }) []) steps outcome after ∧
      .attempt number before result next :: later <:+ steps ∧
      .exchange .call m (.answer response) ∈
        Step.events (.attempt number before result next) ∧
      response.status = Status.refused ∧
      once.TakesAsRefusal number before next later outcome := by
  have hperforms : once.Performs listing _ _ _ _ :=
    .resumed resolve_listing rfl (by decide) (.spent exec_refused)
  have hevent := List.mem_singleton_self (Event.exchange .call
    (once.message listing listingUrl .xml "stale") (.answer { status := 401 }))
  exact ⟨_, _, _, _, _, _, _, _, _, _, hperforms, List.suffix_refl _, hevent, rfl,
    ((refusal_iff_complete once).1 listing _ _ _ _ hperforms _ _ _ _ _ (List.suffix_refl _)
      _ _ _ hevent (.inl rfl) rfl).1.2 rfl⟩

/-- The message of the listing is answered by 401, and the answer is cut short. -/
def cutOff : Event :=
  .exchange .call (loopback.message listing listingUrl .xml "stale")
    (.cutShort { status := 401 })

theorem exec_cutShort :
    (loopback.attempt listing listingUrl .xml).exec
        (steady (.cutShort { status := 401 }) []) =
      (.error (.transport .incomplete), steady (.cutShort { status := 401 }) [cutOff]) := rfl

theorem exec_cutShort_again :
    (loopback.attempt listing listingUrl .xml).exec
        (steady (.cutShort { status := 401 }) [cutOff]) =
      (.error (.transport .incomplete),
        steady (.cutShort { status := 401 }) [cutOff, cutOff]) := rfl

/-- An answer by 401 that is cut short is not taken as a refusal, and the next call
sends the same token again without a login. -/
theorem not_takesAsRefusal_cutShort :
    ∃ steps outcome after number before result next later m response,
      loopback.Performs listing (steady (.cutShort { status := 401 }) []) steps outcome
        after ∧
      .attempt number before result next :: later <:+ steps ∧
      .exchange .call m (.cutShort response) ∈
        Step.events (.attempt number before result next) ∧
      response.status = Status.refused ∧
      ¬loopback.TakesAsRefusal number before next later outcome ∧
      ∃ again last, loopback.Performs listing after [again] outcome last ∧
        again.isLogin = false ∧ .exchange .call m (.cutShort response) ∈ again.events := by
  have hsettled : (.error (.transport .incomplete) : Except Error Payload) ≠
      .error .unauthorized := by simp
  have hperforms : loopback.Performs listing _ _ _ _ :=
    .resumed resolve_listing rfl (by decide) (.settled exec_cutShort hsettled)
  have hagain : loopback.Performs listing _ _ _ _ :=
    .resumed resolve_listing rfl (by decide) (.settled exec_cutShort_again hsettled)
  exact ⟨_, _, _, _, _, _, _, _, _, _, hperforms, List.suffix_refl _,
    List.mem_singleton_self cutOff, rfl, not_takesAsRefusal_of_incomplete, _, _, hagain, rfl,
    List.mem_singleton_self cutOff⟩

end StoreAdmin.Client
