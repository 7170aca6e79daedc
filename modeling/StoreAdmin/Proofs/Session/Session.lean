import StoreAdmin.Proofs.Session.Call

/-!
# The token over a session

A session is a sequence of calls, between which it may be cancelled and time may
pass.  Its history is the list of all steps of its calls.  The token that a
client keeps is determined by the history, and so is every token that it sends.
-/

namespace StoreAdmin

/-- Whether an event is a complete answer by 401 to a call. -/
def Event.isRefusal : Event → Bool
  | .exchange .call _ (.answer response) => response.status = Status.refused
  | _ => false

theorem Event.isRefusal_exchange (m : Message) (reply : Reply) :
    (Event.exchange .call m reply).isRefusal ↔
      ∃ response, reply = .answer response ∧ response.status = Status.refused := by
  cases reply <;> simp [Event.isRefusal]

/-- The tokens that a message carries. -/
def Message.tokens (m : Message) : List String :=
  (m.headers.filter fun h => h.1 = Login.tokenHeader).map (·.2)

namespace Client

/-- A client that logs in sends the token that it is given, and no other. -/
theorem tokens_message {c : Client} (hlogin : c.login.isSome) (r : Request) (url : Url)
    (format : Format) (token : String) : (c.message r url format token).tokens = [token] := by
  unfold Message.tokens message Message.addressed
  simp only [hlogin, if_true]
  cases url.userInfo? with
  | none => cases c.overrideHeader <;> simp [Login.tokenHeader]
  | some user => cases c.overrideHeader <;> simp [Login.tokenHeader, Message.basicAuthorization]

namespace Step

/-- The token that a login brought. -/
def token? : Step → Option String
  | .login _ (.ok ()) after => some after.token
  | _ => none

/-- Whether the credentials are at fault for a step: its attempt was refused, or its
login failed or was cancelled. -/
def Denied (step : Step) : Prop :=
  (∃ event ∈ step.events, event.isRefusal) ∨
    ∃ before e after, step = .login before (.error e) after

end Step

/-- The tokens that the logins of a history brought, in order. -/
def tokens (history : List Step) : List String :=
  history.filterMap Step.token?

/-- The number of complete answers by 401 to calls. -/
def refusals (history : List Step) : Nat :=
  (history.flatMap Step.events).countP Event.isRefusal

/-- A session from a world, with its history and the world that it has come to. -/
inductive Session (c : Client) (start : World) : List Step → World → Prop
  | start : Session c start [] start
  | call {history steps : List Step} {w after : World} {r : Request}
      {outcome : Except Error Payload} (hsession : Session c start history w)
      (hperforms : c.Performs r w steps outcome after) :
      Session c start (history ++ steps) after
  | cancel {history : List Step} {w : World} (hsession : Session c start history w) :
      Session c start history { w with cancelled := true }
  | wait {history : List Step} {w : World} (now : Int)
      (hsession : Session c start history w) : Session c start history { w with now }

/-- What is right about a step behind the steps before it. -/
structure Step.Sound (c : Client) (method : LoginMethod) (earlier : List Step)
    (step : Step) : Prop where
  /-- A login begins only where no token is kept. -/
  begins : .login ∈ step.events → step.before.token = ""
  brings : ∀ token ∈ step.token?, step.before.token = "" ∧
    ∃ after, (Login.obtain c.cancellable method).exec step.before.beginLogin =
      (.ok token, after)
  /-- A call sends the token of the login before it. -/
  carries : ∀ m reply, .exchange .call m reply ∈ step.events →
    ∃ token, token ≠ "" ∧ m.tokens = [token] ∧ (tokens earlier).getLast? = some token
  /-- Without valid credentials no token is kept. -/
  forgets : step.Denied → step.after.token = ""
  /-- Nothing is sent after a refusal before a login has succeeded. -/
  renews : ∀ m reply, .exchange .call m reply ∈ step.events →
    ∀ early refused late, earlier = early ++ refused :: late →
      (∃ event ∈ refused.events, event.isRefusal) → ∃ login ∈ late, login.token?.isSome

/-- The token of a world is what the history of a session makes of it. -/
structure Faithful (c : Client) (method : LoginMethod) (history : List Step)
    (w : World) : Prop where
  sound : ∀ earlier step later, history = earlier ++ step :: later →
    step.Sound c method earlier
  keeps : w.token = "" ∨ (tokens history).getLast? = some w.token
  counts : (tokens history).length ≤ refusals history + if w.token = "" then 0 else 1
  renewed : ∀ early refused late, history = early ++ refused :: late →
    (∃ event ∈ refused.events, event.isRefusal) →
      w.token = "" ∨ ∃ login ∈ late, login.token?.isSome

theorem tokens_append (history steps : List Step) :
    tokens (history ++ steps) = tokens history ++ tokens steps :=
  List.filterMap_append

theorem refusals_append (history steps : List Step) :
    refusals (history ++ steps) = refusals history + refusals steps := by
  simp [refusals, List.flatMap_append, List.countP_append]

theorem refusals_singleton (step : Step) :
    refusals [step] = step.events.countP Event.isRefusal := by
  simp [refusals]

namespace Faithful

variable {c : Client} {method : LoginMethod} {history : List Step} {w after : World}

theorem split_concat {step middle : Step} {earlier later : List Step}
    (hsplit : history ++ [step] = earlier ++ middle :: later) :
    (later = [] ∧ earlier = history ∧ middle = step) ∨
    ∃ rest, later = rest ++ [step] ∧ history = earlier ++ middle :: rest := by
  rcases later.eq_nil_or_concat with rfl | ⟨rest, last, rfl⟩
  · obtain ⟨rfl, hlast⟩ := List.append_inj' hsplit rfl
    cases hlast
    exact .inl ⟨rfl, rfl, rfl⟩
  · rw [List.concat_eq_append, ← List.cons_append, ← List.append_assoc] at hsplit
    obtain ⟨hinit, hlast⟩ := List.append_inj' hsplit rfl
    cases hlast
    exact .inr ⟨rest, List.concat_eq_append, hinit⟩

/-- A history grows by a step that is sound behind it. -/
theorem sound_concat (h : c.Faithful method history w) {step : Step}
    (hstep : step.Sound c method history) (earlier : List Step) (middle : Step)
    (later : List Step) (hsplit : history ++ [step] = earlier ++ middle :: later) :
    middle.Sound c method earlier := by
  rcases split_concat hsplit with ⟨-, rfl, rfl⟩ | ⟨rest, -, hhistory⟩
  · exact hstep
  · exact h.sound earlier middle rest hhistory

/-- Only a login puts a token in the place of none. -/
theorem renewed_concat (h : c.Faithful method history w) {step : Step}
    (hstep : step.Sound c method history)
    (htoken : step.after.token = "" ∨ w.token ≠ "" ∨ step.token?.isSome)
    (early : List Step) (refused : Step) (late : List Step)
    (hsplit : history ++ [step] = early ++ refused :: late)
    (hrefused : ∃ event ∈ refused.events, event.isRefusal) :
    step.after.token = "" ∨ ∃ login ∈ late, login.token?.isSome := by
  rcases split_concat hsplit with ⟨-, -, rfl⟩ | ⟨rest, rfl, hhistory⟩
  · exact .inl (hstep.forgets (.inl hrefused))
  rcases h.renewed early refused rest hhistory hrefused with hempty | ⟨login, hmem, hlogin⟩
  · rcases htoken with hafter | hkept | hbrought
    · exact .inl hafter
    · exact absurd hempty hkept
    · exact .inr ⟨step, List.mem_append_right _ (List.mem_singleton_self step), hbrought⟩
  · exact .inr ⟨login, List.mem_append_left _ hmem, hlogin⟩

variable {r : Request} {url : Url} {format : Format} {credentials : Credentials}

theorem sound_attempt {outcome : Except Error Payload} (h : c.Faithful method history w)
    (halone : w.Alone) (hlogin : c.login.isSome) (htoken : w.token ≠ "") (number : Nat)
    (hattempted : c.Attempted r url format w outcome after) :
    Step.Sound c method history (.attempt number w outcome after) := by
  have hkept : (tokens history).getLast? = some w.token := h.keeps.resolve_left htoken
  have htokens : (c.messageIn r url format w).tokens = [w.token] :=
    tokens_message hlogin r url format w.token
  rcases hattempted.events_eq number with ⟨hevents, -⟩ | ⟨hevents, hrefused⟩
  · exact {
      begins := by simp [hevents]
      brings := by simp [Step.token?]
      carries := by simp [hevents]
      forgets := by simp [Step.Denied, hevents]
      renews := by simp [hevents] }
  · exact {
      begins := by simp [hevents]
      brings := by simp [Step.token?]
      carries := by
        intro m answer hevent
        rw [hevents, List.mem_singleton] at hevent
        cases hevent
        exact ⟨w.token, htoken, htokens, hkept⟩
      forgets := by
        rintro (⟨event, hevent, hrefusal⟩ | ⟨before, e, last, hstep⟩)
        · rw [hevents, List.mem_singleton] at hevent
          rw [hevent, Event.isRefusal_exchange] at hrefusal
          exact hattempted.token_eq_empty (hrefused.2 hrefusal) hlogin
            halone.nextTurn
        · cases hstep
      renews := fun _ _ _ early refused late hsplit hrefusal =>
        (h.renewed early refused late hsplit hrefusal).resolve_left htoken }

/-- The step of an attempt that has a token to send. -/
theorem attempt {outcome : Except Error Payload} (h : c.Faithful method history w)
    (halone : w.Alone) (hlogin : c.login.isSome) (htoken : w.token ≠ "") (number : Nat)
    (hattempted : c.Attempted r url format w outcome after) :
    c.Faithful method (history ++ [.attempt number w outcome after]) after := by
  have hsound := sound_attempt h halone hlogin htoken number hattempted
  have htokens : tokens (history ++ [.attempt number w outcome after]) = tokens history := by
    rw [tokens_append]
    exact List.append_nil _
  have hrenewed := h.renewed_concat hsound (.inr (.inl htoken))
  have hcounts := h.counts
  rw [if_neg htoken] at hcounts
  by_cases houtcome : outcome = .error .unauthorized
  · have hafter := hattempted.token_eq_empty houtcome hlogin halone.nextTurn
    refine ⟨h.sound_concat hsound, .inl hafter, ?_, hrenewed⟩
    rcases hattempted.events_eq number with ⟨-, hsettled⟩ | ⟨hevents, hrefused⟩
    · exact absurd houtcome hsettled
    · have hrefusal := (Event.isRefusal_exchange (c.messageIn r url format w) _).2
        (hrefused.1 houtcome)
      rw [htokens, refusals_append, refusals_singleton, hevents, if_pos hafter,
        List.countP_cons_of_pos hrefusal]
      simpa using hcounts
  · have hafter := hattempted.token_eq halone.nextTurn houtcome
    refine ⟨h.sound_concat hsound, ?_, ?_, hrenewed⟩
    · rw [htokens, hafter]
      exact h.keeps
    · rw [htokens, hafter, if_neg htoken, refusals_append]
      omega

/-- What a visit to the login leaves in the log, where no token is kept. -/
theorem events_login {outcome : Except Error Unit} (htoken : w.token = "")
    (hvisited : c.Visited method w outcome after) :
    ∀ event ∈ Step.events (.login w outcome after),
      event = .login ∨ ∃ m reply, event = .exchange .login m reply := by
  rcases hvisited.begins_or_eq with ⟨events, hlog, hevents⟩ | ⟨rfl, -⟩
  · have hstep : Step.events (.login w outcome after) = .login :: events :=
      Step.events_eq _ hlog
    rw [hstep]
    exact List.forall_mem_cons.2 ⟨.inl rfl, fun event hevent => .inr (hevents event hevent)⟩
  · have hstep : Step.events (.login after outcome after) = [] :=
      Step.events_eq _ (List.append_nil _).symm
    simp [hstep]

theorem sound_login (history : List Step) {outcome : Except Error Unit} (halone : w.Alone)
    (htoken : w.token = "") (hvisited : c.Visited method w outcome after) :
    Step.Sound c method history (.login w outcome after) := by
  have hevents := events_login htoken hvisited
  exact {
    begins := fun _ => htoken
    brings := by
      intro token htaken
      refine ⟨htoken, ?_⟩
      cases hvisited with
      | cancelled | failed => cases htaken
      | kept hgoing hkept => exact absurd htoken hkept
      | obtained brought last hgoing hempty hobtain hmoves =>
          cases htaken
          exact ⟨last, hobtain⟩
    carries := by
      intro m reply hevent
      rcases hevents _ hevent with hlogin | ⟨m, reply, hexchange⟩
      · cases hlogin
      · cases hexchange
    forgets := by
      rintro (⟨event, hevent, hrefusal⟩ | ⟨before, e, last, hstep⟩)
      · rcases hevents event hevent with rfl | ⟨m, reply, rfl⟩
        · cases hrefusal
        · cases hrefusal
      · cases hstep
        exact (hvisited.token_of_error halone).trans htoken
    renews := by
      intro m reply hevent
      rcases hevents _ hevent with hlogin | ⟨m, reply, hexchange⟩
      · cases hlogin
      · cases hexchange }

/-- The step of a visit to the login that finds no token. -/
theorem login {outcome : Except Error Unit}
    (h : c.Faithful (.withCredentials credentials) history w) (halone : w.Alone)
    (htoken : w.token = "")
    (hvisited : c.Visited (.withCredentials credentials) w outcome after) :
    c.Faithful (.withCredentials credentials) (history ++ [.login w outcome after]) after := by
  have hsound := sound_login history halone htoken hvisited
  have hcounts := h.counts
  rw [if_pos htoken] at hcounts
  cases outcome with
  | error e =>
      have hafter := (hvisited.token_of_error halone).trans htoken
      refine ⟨h.sound_concat hsound, .inl hafter, ?_, h.renewed_concat hsound (.inl hafter)⟩
      rw [tokens_append, refusals_append]
      have htokens : tokens [.login w (.error e) after] = [] := rfl
      rw [htokens, List.append_nil]
      omega
  | ok done =>
      have hafter := hvisited.token_ne_empty
      have htokens : tokens [.login w (.ok done) after] = [after.token] := rfl
      refine ⟨h.sound_concat hsound, .inr ?_, ?_,
        h.renewed_concat hsound (.inr (.inr rfl))⟩
      · rw [tokens_append, htokens, List.getLast?_concat]
      · rw [tokens_append, htokens, refusals_append, List.length_append, if_neg hafter,
          List.length_singleton]
        omega

/-- The rounds of a call that has a token to begin with. -/
theorem rounds {left number : Nat} {steps : List Step} {outcome : Except Error Payload}
    (hlogin : c.login = some (.withCredentials credentials))
    (hrounds : c.Rounds r url format (.withCredentials credentials) left number w steps
      outcome after)
    (h : c.Faithful (.withCredentials credentials) history w) (halone : w.Alone)
    (htoken : w.token ≠ "") :
    c.Faithful (.withCredentials credentials) (history ++ steps) after ∧ after.Alone := by
  have hsome : c.login.isSome := by rw [hlogin]; rfl
  induction hrounds generalizing history with
  | exhausted =>
      rw [List.append_nil]
      exact ⟨h, halone⟩
  | @settled _ number _ _ _ hattempt | @spent number _ _ hattempt =>
      have hattempted := attempted_of_exec c r url format hattempt
      exact ⟨h.attempt halone hsome htoken number hattempted, hattempted.alone halone⟩
  | @lockedOut _ number s middle last e hattempt hvisit =>
      have hattempted := attempted_of_exec c r url format hattempt
      have hvisited := visited_of_exec c _ hvisit
      have hmiddle := hattempted.alone halone
      have hfirst := h.attempt halone hsome htoken number hattempted
      have hforgotten := hattempted.token_eq_empty rfl hsome halone.nextTurn
      have hboth := hfirst.login hmiddle hforgotten hvisited
      rw [List.append_assoc] at hboth
      exact ⟨hboth, hvisited.alone hmiddle⟩
  | @again _ number s middle next last steps outcome hattempt hvisit hrest ih =>
      have hattempted := attempted_of_exec c r url format hattempt
      have hvisited := visited_of_exec c _ hvisit
      have hmiddle := hattempted.alone halone
      have hfirst := h.attempt halone hsome htoken number hattempted
      have hforgotten := hattempted.token_eq_empty rfl hsome halone.nextTurn
      have hboth := hfirst.login hmiddle hforgotten hvisited
      have hall := ih hboth (hvisited.alone hmiddle) hvisited.token_ne_empty
      rw [List.append_assoc, List.append_assoc] at hall
      exact hall

/-- A call keeps to the history, whatever comes of it. -/
theorem performs {steps : List Step} {outcome : Except Error Payload}
    (h : c.Faithful (.withCredentials credentials) history w) (halone : w.Alone)
    (hlogin : c.login = some (.withCredentials credentials))
    (hperforms : c.Performs r w steps outcome after) :
    c.Faithful (.withCredentials credentials) (history ++ steps) after ∧ after.Alone := by
  cases hperforms with
  | unresolved =>
      rw [List.append_nil]
      exact ⟨h, halone⟩
  | single hresolve hnone =>
      rw [hlogin] at hnone
      cases hnone
  | lockedOut hresolve hmethod htoken hvisit =>
      rw [hlogin] at hmethod
      cases hmethod
      have hvisited := visited_of_exec c _ hvisit
      exact ⟨h.login halone htoken hvisited, hvisited.alone halone⟩
  | @loggedIn _ _ _ middle _ steps _ hresolve hmethod htoken hvisit hrounds =>
      rw [hlogin] at hmethod
      cases hmethod
      have hvisited := visited_of_exec c _ hvisit
      have hfirst := h.login halone htoken hvisited
      have hall := rounds hlogin hrounds hfirst (hvisited.alone halone) hvisited.token_ne_empty
      rw [List.append_assoc] at hall
      exact hall
  | resumed hresolve hmethod htoken hrounds =>
      rw [hlogin] at hmethod
      cases hmethod
      exact rounds hlogin hrounds h halone htoken

end Faithful

namespace Session

variable {c : Client} {start : World} {history : List Step} {w : World}

/-- The history of a session accounts for everything that happened in it. -/
theorem log_eq (hsession : c.Session start history w) :
    w.log = start.log ++ history.flatMap Step.events := by
  induction hsession with
  | start => exact (List.append_nil _).symm
  | call _ hperforms ih =>
      rw [hperforms.log_eq, ih, List.flatMap_append, List.append_assoc]
  | cancel _ ih | wait _ _ ih => exact ih

variable {credentials : Credentials} (hlogin : c.login = some (.withCredentials credentials))
variable (halone : start.Alone) (hempty : start.token = "")

include hlogin halone hempty

theorem faithful_and_alone (hsession : c.Session start history w) :
    c.Faithful (.withCredentials credentials) history w ∧ w.Alone := by
  induction hsession with
  | start =>
      exact ⟨⟨by simp, .inl hempty, Nat.zero_le _, by simp⟩, halone⟩
  | call _ hperforms ih => exact ih.1.performs ih.2 hlogin hperforms
  | cancel _ ih | wait _ _ ih =>
      exact ⟨⟨ih.1.sound, ih.1.keeps, ih.1.counts, ih.1.renewed⟩, ih.2⟩

end Session

/-- The life of the token over a session, with its history and the world that it has
come to. -/
structure TokenLife (c : Client) (method : LoginMethod) (start : World)
    (history : List Step) (w : World) : Prop where
  log_eq : w.log = start.log ++ history.flatMap Step.events
  sound : ∀ earlier step later, history = earlier ++ step :: later →
    step.Sound c method earlier
  keeps : w.token = "" ∨ (tokens history).getLast? = some w.token
  logins_le : (tokens history).length ≤ 1 + refusals history
  /-- A call whose last step was denied leaves no token. -/
  calls : ∀ r steps outcome after, c.Performs r w steps outcome after →
    (after.token = "" ∨ (tokens (history ++ steps)).getLast? = some after.token) ∧
    ∀ step ∈ steps.getLast?, step.Denied → after.token = ""

/-- In every session that starts without a token, every token that is sent or kept is
that of the last login, and there is at most one login that succeeds more than
there are complete answers by 401. -/
theorem session_token {c : Client} {credentials : Credentials} {start w : World}
    {history : List Step} (hlogin : c.login = some (.withCredentials credentials))
    (halone : start.Alone) (hempty : start.token = "")
    (hsession : c.Session start history w) :
    c.TokenLife (.withCredentials credentials) start history w := by
  have hfaithful := (hsession.faithful_and_alone hlogin halone hempty).1
  have hcounts := hfaithful.counts
  refine ⟨hsession.log_eq, hfaithful.sound, hfaithful.keeps, ?_, ?_⟩
  · split at hcounts <;> omega
  intro r steps outcome after hperforms
  have hnext := ((Session.call hsession hperforms).faithful_and_alone hlogin halone hempty).1
  refine ⟨hnext.keeps, ?_⟩
  intro step hstep hdenied
  rw [← hperforms.after_eq step hstep]
  obtain ⟨early, rfl⟩ := List.getLast?_eq_some_iff.1 hstep
  have hsplit : history ++ (early ++ [step]) = (history ++ early) ++ step :: [] :=
    (List.append_assoc history early [step]).symm
  exact (hnext.sound _ step [] hsplit).forgets hdenied

theorem session_token_refusing :
    refusing.Alone ∧ refusing.token = "" ∧ ∃ history w,
      loopback.Session refusing history w ∧ w.log.length = 5 ∧
      loopback.TokenLife
        (.withCredentials (.legacy "http://[::1]:4443" "root" "secret")) refusing history w := by
  have halone : refusing.Alone := by simp [World.Alone, refusing]
  obtain ⟨steps, hperforms⟩ := exists_performs loopback listing refusing
  have hsession := Session.call .start hperforms
  exact ⟨halone, rfl, _, _, hsession, by decide +kernel,
    session_token rfl halone rfl hsession⟩

end Client
end StoreAdmin
