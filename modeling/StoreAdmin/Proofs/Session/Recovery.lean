import StoreAdmin.Proofs.Session.Cancellation

/-!
# What a session recovers from

A token that the service no longer accepts is replaced during the next call.  A
token that may not be sent in a header is not: no message with it leaves the client, so it
is never refused and never forgotten.  Logins that find their token in a header
cannot bring such a token, whereas a token document can.
-/

namespace StoreAdmin

/-! ## Texts that may be sent in a header -/

theorem Base64.isPrintableAscii_of_mem {c : Char} (bytes : List UInt8)
    (hc : c ∈ Base64.encode bytes) : Url.isPrintableAscii c = true := by
  have hsymbol : ∀ n < 64, Url.isPrintableAscii (symbol n) = true := by decide
  have hfill : Url.isPrintableAscii '=' = true := rfl
  fun_induction Base64.encode bytes with
  | case1 => cases hc
  | case2 a =>
      have ha := a.toNat_lt
      simp only [List.mem_cons, List.not_mem_nil, or_false] at hc
      rcases hc with rfl | rfl | rfl | rfl
      · exact hsymbol _ (by omega)
      · exact hsymbol _ (by omega)
      · exact hfill
      · exact hfill
  | case3 a b =>
      have ha := a.toNat_lt
      have hb := b.toNat_lt
      simp only [List.mem_cons, List.not_mem_nil, or_false] at hc
      rcases hc with rfl | rfl | rfl | rfl
      · exact hsymbol _ (by omega)
      · exact hsymbol _ (by omega)
      · exact hsymbol _ (by omega)
      · exact hfill
  | case4 a b d rest ih =>
      have ha := a.toNat_lt
      have hb := b.toNat_lt
      have hd := d.toNat_lt
      simp only [List.mem_cons] at hc
      rcases hc with rfl | rfl | rfl | rfl | hc
      · exact hsymbol _ (by omega)
      · exact hsymbol _ (by omega)
      · exact hsymbol _ (by omega)
      · exact hsymbol _ (by omega)
      · exact ih hc

namespace Message

/-- What can be read in a header may be sent in one. -/
theorem isHeaderValue_of_isHeaderText {text : String} (htext : isHeaderText text = true) :
    isHeaderValue text = true := by
  simp only [isHeaderText, isHeaderValue, List.all_eq_true, Bool.or_eq_true, Bool.and_eq_true,
    decide_eq_true_eq, Url.isPrintableAscii] at htext ⊢
  intro c hc
  exact (htext c hc).imp_right fun hvisible => ⟨hvisible.1, by omega⟩

/-- Not everything that may be sent can be read again. -/
example : isHeaderValue "tökén" = true ∧ isHeaderText "tökén" = false := by
  decide

theorem isHeaderValue_basicAuthorization (user : String) (password : Option String) :
    isHeaderValue (basicAuthorization user password).2 = true := by
  apply isHeaderValue_of_isHeaderText
  have hstart : "Basic ".toList.all (fun c => c = '\t' || Url.isPrintableAscii c) = true := rfl
  unfold isHeaderText basicAuthorization
  rw [String.toList_append, List.all_append, hstart, String.toList_ofList, Bool.true_and,
    List.all_eq_true]
  intro c hc
  simp [Base64.isPrintableAscii_of_mem _ hc]

theorem isHeaderValue_mediaType (format : Format) : isHeaderValue format.mediaType = true := by
  cases format <;> rfl

end Message

theorem Response.isHeaderValue_of_header? {response : Response} {name value : String}
    (hheader : response.header? name = some value) : Message.isHeaderValue value = true := by
  unfold header? at hheader
  split at hheader
  · dsimp only at hheader
    split at hheader
    · next htext =>
        cases hheader
        exact Message.isHeaderValue_of_isHeaderText htext
    · cases hheader
  · cases hheader

namespace Login

theorem byPassword_returns_headerValue (cancellable : Bool)
    (gateway path user password : String) :
    (byPassword cancellable gateway path user password).Returns
      (Message.isHeaderValue · = true) := by
  unfold byPassword
  refine Act.returns_bind fun url => Act.returns_bind fun response => ?_
  exact Act.returns_lift fun token htoken =>
    response.isHeaderValue_of_header? (reads_header.eq_ok_iff.1 htoken).2.1

theorem obtain_returns_headerValue (cancellable : Bool) {credentials : Credentials}
    (hheader : findsHeader credentials = true) :
    (obtain cancellable (.withCredentials credentials)).Returns
      (Message.isHeaderValue · = true) := by
  cases credentials with
  | user => cases hheader
  | legacy gateway user password =>
      exact byPassword_returns_headerValue cancellable gateway passwordPath user password
  | service gateway sharedSecret podName namespaceName objectScaleId =>
      exact Act.returns_bind fun w => byPassword_returns_headerValue cancellable gateway _ _ _

end Login

namespace Client

variable {c : Client} {r : Request} {url : Url} {format : Format} {method : LoginMethod}
variable {w after : World} {steps : List Step} {outcome : Except Error Payload}
variable {token fresh : String}

/-! ## Messages that can be sent -/

/-- Everything but the token may always be sent in a header. -/
theorem all_headers_message (hlogin : c.login.isSome) (r : Request) (url : Url)
    (format : Format) (token : String) :
    ((c.message r url format token).headers.any fun h => !Message.isHeaderValue h.2) =
      !Message.isHeaderValue token := by
  have hoverride : Message.isHeaderValue "true" = true := rfl
  unfold message Message.addressed
  cases url.userInfo? with
  | none =>
      cases c.overrideHeader <;>
        simp [hlogin, Message.isHeaderValue_mediaType, hoverride]
  | some user =>
      cases c.overrideHeader <;>
        simp [hlogin, Message.isHeaderValue_mediaType,
          Message.isHeaderValue_basicAuthorization, hoverride]

theorem fault?_message (hlogin : c.login.isSome) (r : Request) (format : Format)
    (hsendable : url.withoutUser.isSendable = true)
    (htoken : Message.isHeaderValue token = true) :
    (c.message r url format token).fault? = none := by
  have haddress : (c.message r url format token).url = url.withoutUser := rfl
  unfold Message.fault?
  rw [all_headers_message hlogin, htoken, haddress, hsendable]
  rfl

theorem fault?_message_of_unsendable (hlogin : c.login.isSome) (r : Request) (url : Url)
    (format : Format) (htoken : Message.isHeaderValue token = false) :
    (c.message r url format token).fault? = some (.unsendable none) := by
  unfold Message.fault?
  rw [all_headers_message hlogin, htoken]
  rfl

/-! ## A service that hands out a new token -/

/-- The service answers the steps of a call: it hands out a new token to whoever logs
in, and accepts this token and no other. -/
structure Obliging (c : Client) (fresh : String) (steps : List Step) : Prop where
  logins : ∀ before visit next, .login before visit next ∈ steps →
    .login ∈ Step.events (.login before visit next) → visit = .ok () ∧ next.token = fresh
  accepts : ∀ step ∈ steps, ∀ m reply, .exchange .call m reply ∈ step.events →
    m.tokens = [fresh] → ∃ response, reply = .answer response ∧
      response.status = 200 ∧ response.body = []
  refuses : ∀ step ∈ steps, ∀ m reply, .exchange .call m reply ∈ step.events →
    m.tokens ≠ [fresh] → ∃ response, reply = .answer response ∧
      response.status = Status.refused

/-- Whatever the network has in store, the next call succeeds if the service hands out
a new token and accepts it. -/
def Recovers (c : Client) (r : Request) (w : World) : Prop :=
  ∀ turns later fresh steps outcome after,
    (∀ turn ∈ turns, turn.replacement = none) → Message.isHeaderValue fresh = true →
    c.Performs r { w with turns, later } steps outcome after → c.Obliging fresh steps →
    ∃ payload, outcome = .ok payload ∧ payload.body = []

/-- An answer of success without a body comes to an empty payload. -/
theorem judge_of_accepted {response : Response} (hstatus : response.status = 200)
    (hbody : response.body = []) (format : Format) :
    ∃ payload, response.judge format = .ok payload ∧ payload.body = [] := by
  have hcontent : response.content = [] := by simp [Response.content, hbody]
  have hcheck (format : Format) : Answer.checkCall response.status format [] = .ok () := by
    simp [Answer.checkCall, hstatus, Status.refused]
  unfold Response.judge
  rw [hcontent, hcheck]
  exact ⟨_, rfl, rfl⟩

section Attempts

variable (hlogin : c.login.isSome) (hsendable : url.withoutUser.isSendable = true)
variable (hgoing : ¬(c.cancellable = true ∧ w.cancelled = true))
variable (hattempted : c.Attempted r url format w outcome after)

include hlogin hsendable hgoing hattempted

/-- An attempt with a token that may be sent is answered. -/
theorem Attempted.exchange_mem (htoken : Message.isHeaderValue w.token = true) (number : Nat) :
    .exchange .call (c.messageIn r url format w) w.nextTurn.1.reply ∈
      Step.events (.attempt number w outcome after) := by
  have hsent : (c.messageIn r url format w).fault? = none :=
    fault?_message hlogin r format hsendable htoken
  rcases hattempted.sends_of_going hgoing with ⟨fault, hfault, -⟩ | ⟨hlog, -⟩
  · rw [hsent] at hfault
    cases hfault
  · rw [Step.events_eq (.attempt number w outcome after) hlog]
    exact List.mem_singleton_self _

/-- The attempt with the new token succeeds. -/
theorem Attempted.ok_of_fresh (hfresh : Message.isHeaderValue w.token = true)
    (hobliging : c.Obliging w.token steps) {number : Nat}
    (hstep : .attempt number w outcome after ∈ steps) :
    ∃ payload, outcome = .ok payload ∧ payload.body = [] := by
  have hevent := hattempted.exchange_mem hlogin hsendable hgoing hfresh number
  have htokens := tokens_message hlogin r url format w.token
  obtain ⟨response, hreply, hstatus, hbody⟩ :=
    hobliging.accepts _ hstep _ _ hevent htokens
  have hsent : (c.messageIn r url format w).fault? = none :=
    fault?_message hlogin r format hsendable hfresh
  cases hattempted with
  | cancelled hcancelled => exact absurd hcancelled hgoing
  | unsendable fault _ hfault =>
      rw [hsent] at hfault
      cases hfault
  | refused answer _ _ hanswer hrefused =>
      rw [hreply] at hanswer
      cases hanswer
      rw [hstatus] at hrefused
      cases hrefused
  | judged answer _ _ hanswer =>
      rw [hreply] at hanswer
      cases hanswer
      exact judge_of_accepted hstatus hbody format
  | cutShort _ _ _ hanswer | interrupted _ _ hanswer =>
      rw [hreply] at hanswer
      cases hanswer
  | unanswered _ _ hanswer =>
      rw [hreply] at hanswer
      rcases hanswer with hanswer | hanswer | ⟨hanswer, -⟩ <;> cases hanswer

/-- The attempt with any other token is refused, and the token is forgotten. -/
theorem Attempted.refused_of_stale (htoken : Message.isHeaderValue w.token = true)
    (hstale : w.token ≠ fresh) (hobliging : c.Obliging fresh steps) {number : Nat}
    (hstep : .attempt number w outcome after ∈ steps) (halone : w.Alone) :
    outcome = .error .unauthorized ∧ after.token = "" := by
  have hevent := hattempted.exchange_mem hlogin hsendable hgoing htoken number
  have htokens : (c.messageIn r url format w).tokens ≠ [fresh] := by
    rw [messageIn, tokens_message hlogin]
    simpa using hstale
  obtain ⟨response, hreply, hstatus⟩ := hobliging.refuses _ hstep _ _ hevent htokens
  rcases hattempted.events_eq number with ⟨hevents, -⟩ | ⟨-, hrefused⟩
  · rw [hevents] at hevent
    cases hevent
  have houtcome := hrefused.2 ⟨response, hreply, hstatus⟩
  exact ⟨houtcome, hattempted.token_eq_empty houtcome hlogin halone.nextTurn⟩

end Attempts

/-! ## The next call -/

section Calls

variable {credentials : Credentials} {number left : Nat}
variable (hgoing : ¬(c.cancellable = true ∧ w.cancelled = true))

include hgoing

/-- A login that the service obliges brings the new token, and is not cancelled. -/
theorem Visited.of_obliging {visit : Except Error Unit} {all : List Step}
    (h : c.Visited (.withCredentials credentials) w visit after) (htoken : w.token = "")
    (hobliging : c.Obliging fresh all) (hstep : .login w visit after ∈ all) :
    visit = .ok () ∧ after.token = fresh ∧
      ¬(c.cancellable = true ∧ after.cancelled = true) := by
  obtain ⟨events, hlog, -⟩ := h.begins_of_going hgoing htoken
  have hevents : Step.events (.login w visit after) = .login :: events :=
    Step.events_eq _ hlog
  obtain ⟨hvisit, hfresh⟩ := hobliging.logins _ _ _ hstep (by simp [hevents])
  refine ⟨hvisit, hfresh, ?_⟩
  rintro ⟨hcancellable, hafter⟩
  have hcancelled : w.cancelled = false := by
    simpa [hcancellable] using hgoing
  have hproceeds := (h.stopped hcancellable hcancelled).proceeds (by simp [hvisit])
  rw [hproceeds.1] at hafter
  cases hafter

variable (hlogin : c.login = some (.withCredentials credentials))
variable (hsendable : url.withoutUser.isSendable = true)

include hlogin hsendable

/-- Rounds that begin with the new token succeed. -/
theorem ok_of_rounds_fresh
    (hrounds : c.Rounds r url format method (left + 1) number w steps outcome after)
    (hfresh : Message.isHeaderValue w.token = true) {all : List Step}
    (hobliging : c.Obliging w.token all) (hsteps : ∀ step ∈ steps, step ∈ all) :
    ∃ payload, outcome = .ok payload ∧ payload.body = [] := by
  have hsome : c.login.isSome := by rw [hlogin]; rfl
  have hfirst {result : Except Error Payload} {next : World}
      (hattempt : (c.attempt r url format).exec w = (result, next))
      (hstep : .attempt number w result next ∈ steps) :
      ∃ payload, result = .ok payload ∧ payload.body = [] :=
    (attempted_of_exec c r url format hattempt).ok_of_fresh hsome hsendable hgoing hfresh
      hobliging (hsteps _ hstep)
  cases hrounds with
  | settled hattempt => exact hfirst hattempt List.mem_cons_self
  | spent hattempt | lockedOut hattempt | again hattempt =>
      obtain ⟨payload, hpayload, -⟩ := hfirst hattempt List.mem_cons_self
      cases hpayload

/-- Rounds that begin with any token that may be sent succeed: if it is refused, it is
forgotten, and the login brings the new one. -/
theorem ok_of_rounds
    (hrounds : c.Rounds r url format (.withCredentials credentials) (left + 2) number w steps
      outcome after)
    (htoken : Message.isHeaderValue w.token = true)
    (hfresh : Message.isHeaderValue fresh = true) (halone : w.Alone) {all : List Step}
    (hobliging : c.Obliging fresh all) (hsteps : ∀ step ∈ steps, step ∈ all) :
    ∃ payload, outcome = .ok payload ∧ payload.body = [] := by
  have hsome : c.login.isSome := by rw [hlogin]; rfl
  by_cases hstale : w.token = fresh
  · rw [← hstale] at hobliging
    exact ok_of_rounds_fresh hgoing hlogin hsendable hrounds htoken hobliging hsteps
  have hrefused {result : Except Error Payload} {next : World}
      (hattempt : (c.attempt r url format).exec w = (result, next))
      (hstep : .attempt number w result next ∈ steps) :
      result = .error .unauthorized ∧ next.token = "" :=
    (attempted_of_exec c r url format hattempt).refused_of_stale hsome hsendable hgoing
      htoken hstale hobliging (hsteps _ hstep) halone
  cases hrounds with
  | settled hattempt hsettled =>
      exact absurd (hrefused hattempt List.mem_cons_self).1 hsettled
  | lockedOut hattempt hvisit =>
      have hattempted := attempted_of_exec c r url format hattempt
      have hempty := (hrefused hattempt List.mem_cons_self).2
      obtain ⟨hdone, -⟩ := (visited_of_exec c _ hvisit).of_obliging
        (hattempted.going_of_refused rfl) hempty hobliging (hsteps _ (by simp))
      cases hdone
  | again hattempt hvisit hrest =>
      have hattempted := attempted_of_exec c r url format hattempt
      have hempty := (hrefused hattempt List.mem_cons_self).2
      obtain ⟨-, hnew, hnext⟩ := (visited_of_exec c _ hvisit).of_obliging
        (hattempted.going_of_refused rfl) hempty hobliging (hsteps _ (by simp))
      rw [← hnew] at hfresh hobliging
      exact ok_of_rounds_fresh hnext hlogin hsendable hrest hfresh hobliging
        fun step hstep => hsteps step (by simp [hstep])

/-- A call that begins with a token that may be sent, or with none, succeeds. -/
theorem Performs.ok_of_obliging (h : c.Performs r w steps outcome after)
    (hresolve : c.resolve r = .ok (format, url)) (hattempts : 2 ≤ c.attempts)
    (htoken : Message.isHeaderValue w.token = true)
    (hfresh : Message.isHeaderValue fresh = true) (halone : w.Alone)
    (hobliging : c.Obliging fresh steps) :
    ∃ payload, outcome = .ok payload ∧ payload.body = [] := by
  obtain ⟨left, hleft⟩ := Nat.exists_eq_add_of_le' hattempts
  cases h with
  | unresolved hunresolved =>
      rw [hresolve] at hunresolved
      cases hunresolved
  | single _ hnone =>
      rw [hlogin] at hnone
      cases hnone
  | lockedOut _ hmethod hempty hvisit =>
      rw [hlogin] at hmethod
      cases hmethod
      obtain ⟨hdone, -⟩ := (visited_of_exec c _ hvisit).of_obliging hgoing hempty hobliging
        List.mem_cons_self
      cases hdone
  | loggedIn hresolved hmethod hempty hvisit hrounds =>
      rw [hresolve] at hresolved
      cases hresolved
      rw [hlogin] at hmethod
      cases hmethod
      obtain ⟨-, hnew, hnext⟩ := (visited_of_exec c _ hvisit).of_obliging hgoing hempty
        hobliging List.mem_cons_self
      rw [← hnew] at hfresh hobliging
      rw [hleft] at hrounds
      exact ok_of_rounds_fresh hnext hlogin hsendable hrounds hfresh hobliging
        fun step hstep => List.mem_cons_of_mem _ hstep
  | resumed hresolved hmethod _ hrounds =>
      rw [hresolve] at hresolved
      cases hresolved
      rw [hlogin] at hmethod
      cases hmethod
      rw [hleft] at hrounds
      exact ok_of_rounds hgoing hlogin hsendable hrounds htoken hfresh halone hobliging
        fun step hstep => hstep

end Calls

/-! ## A token that blocks a session -/

section Stuck

variable (hgoing : ¬(c.cancellable = true ∧ w.cancelled = true))
variable (htoken : Message.isHeaderValue w.token = false)

include hgoing htoken

/-- No attempt can be made with a token that may not be sent in a header. -/
theorem exec_attempt_of_unsendable (hlogin : c.login.isSome) :
    (c.attempt r url format).exec w = (.error (.transport (.unsendable none)), w) := by
  have hfault : (c.messageIn r url format w).fault? = some (.unsendable none) :=
    fault?_message_of_unsendable hlogin r url format htoken
  generalize hattempt : (c.attempt r url format).exec w = result
  obtain ⟨outcome, after⟩ := result
  have hattempted := attempted_of_exec c r url format hattempt
  cases hattempted with
  | cancelled hcancelled => exact absurd hcancelled hgoing
  | unsendable fault _ hfound =>
      rw [hfault] at hfound
      cases hfound
      rfl
  | refused _ _ hsent | judged _ _ hsent | cutShort _ _ hsent | unanswered _ hsent
  | interrupted _ hsent =>
      rw [hfault] at hsent
      cases hsent

/-- A call with such a token is a single attempt that sends nothing. -/
theorem performs_of_unsendable (hlogin : c.login = some method)
    (hresolve : c.resolve r = .ok (format, url)) (hattempts : 1 ≤ c.attempts) :
    c.Performs r w [.attempt 1 w (.error (.transport (.unsendable none))) w]
      (.error (.transport (.unsendable none))) w := by
  have hkept : w.token ≠ "" := by
    intro hempty
    rw [hempty] at htoken
    cases htoken
  have hsome : c.login.isSome := by rw [hlogin]; rfl
  obtain ⟨left, hleft⟩ := Nat.exists_eq_add_of_le' hattempts
  refine .resumed hresolve hlogin hkept ?_
  rw [hleft]
  exact .settled (exec_attempt_of_unsendable hgoing htoken hsome) (by simp)

end Stuck

/-- The next call recovers exactly if the token that is kept may be sent in a header. -/
theorem recovers_iff {credentials : Credentials}
    (hlogin : c.login = some (.withCredentials credentials)) (hattempts : 2 ≤ c.attempts)
    (hresolve : c.resolve r = .ok (format, url))
    (hsendable : url.withoutUser.isSendable = true)
    (hgoing : ¬(c.cancellable = true ∧ w.cancelled = true)) :
    c.Recovers r w ↔ Message.isHeaderValue w.token = true := by
  constructor
  · intro hrecovers
    by_contra htoken
    have hstuck : Message.isHeaderValue w.token = false := by simpa using htoken
    have hperforms := performs_of_unsendable (w := { w with turns := [], later := .lost })
      hgoing hstuck hlogin hresolve (by omega)
    obtain ⟨payload, houtcome, -⟩ := hrecovers [] .lost "fresh" _ _ _ (by simp) rfl hperforms
      { logins := by simp
        accepts := by simp [Step.events, Retry.Step.before, Retry.Step.after]
        refuses := by simp [Step.events, Retry.Step.before, Retry.Step.after] }
    cases houtcome
  · intro htoken turns later fresh steps outcome after halone hfresh hperforms hobliging
    exact Performs.ok_of_obliging (w := { w with turns, later }) hgoing hlogin hsendable
      hperforms hresolve hattempts htoken hfresh halone hobliging

/-- Every token of a session comes from a login. -/
theorem Session.token_obtained {credentials : Credentials} {start : World}
    {history : List Step} (hlogin : c.login = some (.withCredentials credentials))
    (halone : start.Alone) (hempty : start.token = "")
    (hsession : c.Session start history w) :
    w.token = "" ∨ ∃ before after,
      (Login.obtain c.cancellable (.withCredentials credentials)).exec before =
        (.ok w.token, after) := by
  have hfaithful := (hsession.faithful_and_alone hlogin halone hempty).1
  rcases hfaithful.keeps with hnone | hlast
  · exact .inl hnone
  · obtain ⟨step, hstep, htoken⟩ := List.mem_filterMap.1 (List.mem_of_getLast? hlast)
    obtain ⟨earlier, later, hsplit⟩ := List.append_of_mem hstep
    obtain ⟨-, after, hobtain⟩ :=
      (hfaithful.sound earlier step later hsplit).brings w.token htoken
    exact .inr ⟨_, after, hobtain⟩

/-- Which sessions recover.  With credentials that never lead to a token document all of
them do.  In general a session recovers exactly if the token that it keeps may be sent
in a header; if not, no call ever sends anything again, whatever the network does. -/
theorem session_recovers_iff (c : Client) (credentials : Credentials)
    (hlogin : c.login = some (.withCredentials credentials)) (hattempts : 2 ≤ c.attempts)
    (start : World) (halone : start.Alone) (hempty : start.token = "")
    (history : List Step) (w : World) (hsession : c.Session start history w)
    (hgoing : ¬(c.cancellable = true ∧ w.cancelled = true)) :
    (Login.findsHeader credentials = true → Message.isHeaderValue w.token = true) ∧
    ∀ r format url, c.resolve r = .ok (format, url) →
      (url.withoutUser.isSendable = true →
        (c.Recovers r w ↔ Message.isHeaderValue w.token = true)) ∧
      (Message.isHeaderValue w.token = false → ∀ turns later,
        (c.call r).exec { w with turns, later } =
          (.error (.transport (.unsendable none)), { w with turns, later })) := by
  constructor
  · intro hheader
    rcases hsession.token_obtained hlogin halone hempty with hnone | ⟨before, after, hobtain⟩
    · rw [hnone]
      rfl
    · exact Login.obtain_returns_headerValue c.cancellable hheader before w.token after hobtain
  · intro r format url hresolve
    refine ⟨fun hsendable => recovers_iff hlogin hattempts hresolve hsendable hgoing, ?_⟩
    intro htoken turns later
    exact (performs_of_unsendable (w := { w with turns, later }) hgoing htoken hlogin hresolve
      (by omega)).exec_eq

/-! ## A session that goes on, and one that does not -/

/-- A network that hands out a token and accepts it. -/
def accepting : World where
  turns := [{ reply := .answer { headers := [("x-sds-auth-token", "one")] } },
    { reply := .answer {} }]

/-- A network that refuses the token that is kept, hands out a new one and accepts it. -/
def renewing : List Turn :=
  [{ reply := .answer { status := 401 } },
    { reply := .answer { headers := [("x-sds-auth-token", "two")] } },
    { reply := .answer {} }]

/-- The message of a login of the client of the machine itself. -/
def passwordMessage : Message where
  method := "GET"
  url := { listingUrl with path := .segments ["mgmt".toList, "login".toList] }
  headers := [Message.basicAuthorization "root" "secret"]

/-- The world behind an attempt. -/
def behindAttempt (w : World) : World :=
  w.afterExchange .call (loopback.messageIn listing listingUrl .xml w)

/-- The world behind a login that brings a token. -/
def behindLogin (w : World) (token : String) : World :=
  { w.beginLogin.afterExchange .login passwordMessage with token }

/-- The world behind the first login. -/
def granted : World :=
  behindLogin accepting "one"

/-- The world behind the first call. -/
def served : World :=
  behindAttempt granted

/-- The same world when the service accepts its token no longer. -/
def outdated : World :=
  { served with turns := renewing }

/-- The world behind the refusal. -/
def forgotten : World :=
  { behindAttempt outdated with token := "" }

/-- The world behind the second login. -/
def renewed : World :=
  behindLogin forgotten "two"

theorem exec_accepting :
    (loopback.ensureLogin (.withCredentials (.legacy "http://[::1]:4443" "root" "secret"))).exec
      accepting = (.ok (), granted) := rfl

theorem exec_granted :
    (loopback.attempt listing listingUrl .xml).exec granted =
      (.ok { format := .xml, body := [] }, served) := rfl

theorem exec_outdated :
    (loopback.attempt listing listingUrl .xml).exec outdated =
      (.error .unauthorized, forgotten) := rfl

theorem exec_forgotten :
    (loopback.ensureLogin (.withCredentials (.legacy "http://[::1]:4443" "root" "secret"))).exec
      forgotten = (.ok (), renewed) := rfl

theorem exec_renewed :
    (loopback.attempt listing listingUrl .xml).exec renewed =
      (.ok { format := .xml, body := [] }, behindAttempt renewed) := rfl

/-- The steps of a call that meets a refusal, a login and an answer. -/
def renewal : List Step :=
  [.attempt 1 outdated (.error .unauthorized) forgotten,
    .login forgotten (.ok ()) renewed,
    .attempt 2 renewed (.ok { format := .xml, body := [] }) (behindAttempt renewed)]

theorem performs_renewal :
    loopback.Performs listing outdated renewal (.ok { format := .xml, body := [] })
      (behindAttempt renewed) :=
  .resumed resolve_listing rfl (by decide)
    (.again exec_outdated exec_forgotten (.settled exec_renewed (by simp)))

/-- The first attempt carries the old token and is refused, the second one carries the new token
and is answered. -/
theorem answered_of_renewal {step : Step} (hstep : step ∈ renewal) {m : Message} {reply : Reply}
    (hevent : .exchange .call m reply ∈ step.events) :
    (m.tokens = ["one"] ∧ reply = .answer { status := 401 }) ∨
      (m.tokens = ["two"] ∧ reply = .answer {}) := by
  have hrefusal : Step.events (.attempt 1 outdated (.error .unauthorized) forgotten) =
      [.exchange .call (loopback.messageIn listing listingUrl .xml outdated)
        (.answer { status := 401 })] := rfl
  have hlogin : Step.events (.login forgotten (.ok ()) renewed) =
      [.login, .exchange .login passwordMessage
        (.answer { headers := [("x-sds-auth-token", "two")] })] := rfl
  have hanswer : Step.events (.attempt 2 renewed (.ok { format := .xml, body := [] })
      (behindAttempt renewed)) =
      [.exchange .call (loopback.messageIn listing listingUrl .xml renewed) (.answer {})] := rfl
  simp only [renewal, List.mem_cons, List.not_mem_nil, or_false] at hstep
  rcases hstep with rfl | rfl | rfl
  · rw [hrefusal, List.mem_singleton] at hevent
    cases hevent
    exact .inl ⟨tokens_message rfl listing listingUrl .xml "one", rfl⟩
  · simp [hlogin] at hevent
  · rw [hanswer, List.mem_singleton] at hevent
    cases hevent
    exact .inr ⟨tokens_message rfl listing listingUrl .xml "two", rfl⟩

theorem obliging_renewal : loopback.Obliging "two" renewal := by
  refine ⟨?_, ?_, ?_⟩
  · intro before visit next hstep _
    simp only [renewal, List.mem_cons, List.not_mem_nil, or_false, reduceCtorEq,
      false_or] at hstep
    cases hstep
    exact ⟨rfl, rfl⟩
  · intro step hstep m reply hevent hfresh
    rcases answered_of_renewal hstep hevent with ⟨hold, -⟩ | ⟨-, rfl⟩
    · rw [hold] at hfresh
      exact absurd hfresh (by decide)
    · exact ⟨_, rfl, rfl, rfl⟩
  · intro step hstep m reply hevent hstale
    rcases answered_of_renewal hstep hevent with ⟨-, rfl⟩ | ⟨hnew, -⟩
    · exact ⟨_, rfl, rfl⟩
    · exact absurd hnew hstale

/-- A session keeps its first token.  The next call recovers from a refusal of it, and the
service obliges the client in a run of that call. -/
theorem session_recovers_iff_accepting :
    ∃ history w, loopback.Session accepting history w ∧ w.token = "one" ∧
      loopback.Recovers listing w ∧ ∃ payload after,
        loopback.Performs listing { w with turns := renewing, later := .unreachable } renewal
          (.ok payload) after ∧
        loopback.Obliging "two" renewal ∧ payload.body = [] := by
  have hserved : loopback.Performs listing accepting _ _ served :=
    .loggedIn resolve_listing rfl rfl exec_accepting (.settled exec_granted (by simp))
  have hsession := Session.call .start hserved
  have halone : accepting.Alone := by simp [World.Alone, accepting]
  obtain ⟨hheader, hcalls⟩ := session_recovers_iff loopback _ rfl (by decide) _ halone rfl _ _
    hsession (by decide)
  have hrecovers : loopback.Recovers listing served :=
    ((hcalls listing _ _ resolve_listing).1 rfl).2 (hheader rfl)
  obtain ⟨payload, hpayload, hbody⟩ := hrecovers renewing .unreachable "two" _ _ _
    (by simp [renewing]) rfl performs_renewal obliging_renewal
  have hperforms := performs_renewal
  rw [hpayload] at hperforms
  exact ⟨_, served, hsession, rfl, hrecovers, payload, _, hperforms, obliging_renewal, hbody⟩

/-- A network that hands out a token document. The token in it ends a line. -/
def misleading : World where
  turns := [{ reply := .answer {
    body := Utf8.encode "\x7b\"access_token\":\"one\\n\"\x7d".toList } }]

theorem not_recovers_misleading :
    ∃ history w, misleading.Alone ∧ misleading.token = "" ∧
      operator.Session misleading history w ∧
      ¬(operator.cancellable = true ∧ w.cancelled = true) ∧ 2 ≤ operator.attempts ∧
      w.token = "one\n" ∧ ¬operator.Recovers listing w := by
  obtain ⟨steps, hperforms⟩ := exists_performs operator listing misleading
  have hsession := Session.call .start hperforms
  have halone : misleading.Alone := by simp [World.Alone, misleading]
  have hgoing : ((operator.call listing).exec misleading).2.cancelled = false := by
    decide +kernel
  have htoken : ((operator.call listing).exec misleading).2.token = "one\n" := by
    decide +kernel
  refine ⟨_, _, halone, rfl, hsession, by simp [hgoing], by decide, htoken, ?_⟩
  rw [recovers_iff rfl (by decide) resolve_operator_listing rfl (by simp [hgoing]), htoken]
  decide

end Client
end StoreAdmin
