import StoreAdmin.Proofs.Session.Login

/-!
# What a login brings

A login asks for a token with one message, and an operator asks a second time in
the other way if the first brings none.  This file proves for every script of
the network when a login succeeds, which token it keeps, and that a login that
fails leaves the kept token alone.
-/

namespace StoreAdmin

/-! ## Asking for a token -/

namespace World

/-- The world after a token was asked for with a message, if there is one. -/
def asking (w : World) : Option Message → World
  | some m => w.afterExchange .login m
  | none => w

theorem asking_log (w : World) (sent : Option Message) :
    (w.asking sent).log =
      w.log ++ (sent.map fun m => .exchange .login m w.nextTurn.1.reply).toList := by
  cases sent with
  | none => exact (List.append_nil w.log).symm
  | some m => rfl

/-- A message is sent, and the complete answer to it brings a token. -/
def Brought (w : World) (sent : Option Message) (find : Response → Option String)
    (token : String) : Prop :=
  sent.isSome = true ∧
    ∃ response, w.nextTurn.1.reply = .answer response ∧ response.Brings find token

/-- A message is sent, and whoever waits for the answer gives up. -/
def Abandoned (w : World) (cancellable : Bool) (sent : Option Message) : Prop :=
  cancellable = true ∧ sent.isSome = true ∧ w.nextTurn.1.reply = .silence

theorem Brought.eq {w : World} {sent : Option Message} {find : Response → Option String}
    {token other : String} (h : w.Brought sent find token) (hother : w.Brought sent find other) :
    token = other := by
  obtain ⟨-, response, hreply, -, hfind, -⟩ := h
  obtain ⟨-, answer, hanswer, -, hfound, -⟩ := hother
  obtain rfl : response = answer := by simpa [hreply] using hanswer
  simpa [hfind] using hfound

theorem Abandoned.not_brought {w : World} {cancellable : Bool} {sent : Option Message}
    (h : w.Abandoned cancellable sent) (find : Response → Option String) (token : String) :
    ¬ w.Brought sent find token := by
  rintro ⟨-, response, hreply, -⟩
  rw [h.2.2] at hreply
  cases hreply

end World

namespace Login

/-- Sends a message, if there is one, and reads the answer for a token. -/
def ask (cancellable : Bool) (message : Except Error Message)
    (read : Response → Except Error String) : Act String := do
  let message ← message
  read (← exchange cancellable .login message)

def passwordMessage (gateway path user password : String) : Except Error Message := do
  let url ← url gateway path
  return Message.addressed "GET" url [Message.basicAuthorization user password]

def documentMessage (gateway user password : String) : Except Error Message := do
  let url ← url gateway documentPath
  let body ← Body.json ({ username := user, password } : LoginRequest)
  return Message.addressed "POST" url
    [("content-type", Format.json.mediaType), ("accept", Format.json.mediaType)] body.text

theorem byPassword_eq_ask (cancellable : Bool) (gateway path user password : String) :
    byPassword cancellable gateway path user password =
      ask cancellable (passwordMessage gateway path user password) tokenOfHeader := by
  unfold byPassword ask passwordMessage
  cases url gateway path <;> rfl

theorem byDocument_eq_ask (cancellable : Bool) (gateway user password : String) :
    byDocument cancellable gateway user password =
      ask cancellable (documentMessage gateway user password) tokenOfDocument := by
  unfold byDocument ask documentMessage
  cases url gateway documentPath <;> rfl

/-- The message of a login with name and password, which a workload signs for the
time. -/
def headerMessage (now : Int) : Credentials → Except Error Message
  | .user gateway user password | .legacy gateway user password =>
    passwordMessage gateway passwordPath user password
  | .service gateway sharedSecret podName namespaceName objectScaleId =>
    passwordMessage gateway servicePath (serviceUser objectScaleId namespaceName podName)
      (servicePassword sharedSecret (serviceUrn objectScaleId podName) now)

/-- The message, if it is made and can be sent. -/
def sendable? (message : Except Error Message) : Option Message :=
  message.toOption.filter (·.fault?.isNone)

theorem sendable?_of_fault {m : Message} {fault : TransportFault}
    (hfault : m.fault? = some fault) : sendable? (.ok m) = none := by
  simp [sendable?, Except.toOption, hfault]

theorem sendable?_of_sent {m : Message} (hsent : m.fault? = none) :
    sendable? (.ok m) = some m := by
  simp [sendable?, Except.toOption, hsent]

/-- If no message is made, the reason is an error of a login. -/
def FailsAsLogin (message : Except Error Message) : Prop :=
  ∀ e, message = .error e → e.isOfLogin = true

theorem failsAsLogin_url (gateway path : String) (make : Url → Message) :
    FailsAsLogin (do return make (← url gateway path)) := by
  intro e hmessage
  unfold url at hmessage
  split at hmessage
  · cases hmessage
  · cases hmessage
    rfl

theorem failsAsLogin_headerMessage (now : Int) (credentials : Credentials) :
    FailsAsLogin (headerMessage now credentials) := by
  cases credentials with
  | user gateway | legacy gateway | service gateway => exact failsAsLogin_url gateway _ _

theorem failsAsLogin_documentMessage (gateway user password : String) :
    FailsAsLogin (documentMessage gateway user password) :=
  failsAsLogin_url gateway documentPath _

variable {cancellable : Bool} {message : Except Error Message}
variable {read : Response → Except Error String} {find : Response → Option String}

/-- The outcomes of asking for a token, each with what leads to it and the world
that it leaves behind. -/
inductive Asked (cancellable : Bool) (sent : Option Message) (find : Response → Option String)
    (w : World) : Except Error String → World → Prop
  | brought (token : String) (hbrought : w.Brought sent find token) :
      Asked cancellable sent find w (.ok token) (w.asking sent)
  | failed (e : Error) (hnone : ∀ token, ¬ w.Brought sent find token)
      (hgoing : ¬ w.Abandoned cancellable sent) (he : e.isOfLogin = true) :
      Asked cancellable sent find w (.error e) (w.asking sent)
  | abandoned (h : w.Abandoned cancellable sent) :
      Asked cancellable sent find w (.error .cancelled)
        { w.asking sent with cancelled := true }

/-- An exchange whose answer is read for a token is asking for one. -/
theorem asked_of_exchanged (hreads : Reads read find) {m : Message} {w after : World}
    {outcome : Except Error Response}
    (hexchanged : Exchanged cancellable .login m w outcome after) :
    Asked cancellable (sendable? (.ok m)) find w (outcome >>= read) after := by
  cases hexchanged with
  | unsendable fault hfault =>
      rw [sendable?_of_fault hfault]
      exact .failed _ (by simp [World.Brought]) (by simp [World.Abandoned]) rfl
  | answered response hsent hreply =>
      rw [sendable?_of_sent hsent]
      have hbrought {token : String} :
          w.Brought (some m) find token ↔ read response = .ok token := by
        simp [World.Brought, hreply, hreads.eq_ok_iff]
      change Asked cancellable (some m) find w (read response) (w.asking (some m))
      cases hread : read response with
      | ok token => exact .brought token (hbrought.2 hread)
      | error e =>
          refine .failed e (fun token h => ?_) ?_ (hreads.isOfLogin hread)
          · rw [hbrought, hread] at h
            cases h
          · simp [World.Abandoned, hreply]
  | cutShort response hsent hreply =>
      rw [sendable?_of_sent hsent]
      exact .failed _ (by simp [World.Brought, hreply]) (by simp [World.Abandoned, hreply]) rfl
  | unanswered hsent hreply =>
      rw [sendable?_of_sent hsent]
      refine .failed _ (fun token => ?_) ?_ rfl
      · rcases hreply with hreply | hreply | ⟨hreply, -⟩ <;> simp [World.Brought, hreply]
      · rcases hreply with hreply | hreply | ⟨-, hpatient⟩
        · simp [World.Abandoned, hreply]
        · simp [World.Abandoned, hreply]
        · simp [World.Abandoned, hpatient]
  | interrupted hsent hreply hcancellable =>
      rw [sendable?_of_sent hsent]
      exact .abandoned ⟨hcancellable, rfl, hreply⟩

theorem exec_ask_ok (m : Message) (w : World) :
    (ask cancellable (.ok m) read).exec w =
      (((exchange cancellable .login m).exec w).1 >>= read,
        ((exchange cancellable .login m).exec w).2) := by
  simp only [ask, Act.exec_bind, Act.exec_lift]
  generalize (exchange cancellable .login m).exec w = result
  obtain ⟨outcome, after⟩ := result
  cases outcome <;> rfl

theorem asked (hreads : Reads read find) (hmessage : FailsAsLogin message) (w : World) :
    Asked cancellable (sendable? message) find w ((ask cancellable message read).exec w).1
      ((ask cancellable message read).exec w).2 := by
  cases message with
  | error e =>
      refine .failed e (fun token hbrought => ?_) (fun habandoned => ?_) (hmessage e rfl)
      · cases hbrought.1
      · cases habandoned.2.1
  | ok m =>
      rw [exec_ask_ok]
      exact asked_of_exchanged hreads (exchanged cancellable .login m w)

theorem asked_of_exec (hreads : Reads read find) (hmessage : FailsAsLogin message)
    {w after : World} {outcome : Except Error String}
    (hexec : (ask cancellable message read).exec w = (outcome, after)) :
    Asked cancellable (sendable? message) find w outcome after := by
  have hasked : Asked cancellable (sendable? message) find w _ _ := asked hreads hmessage w
  rw [hexec] at hasked
  exact hasked

/-! ## Whole logins -/

theorem exec_run (cancellable : Bool) (method : LoginMethod) (w : World) :
    (run cancellable method).exec w =
      match (obtain cancellable method).exec w with
      | (.ok token, after) => (.ok (), { after with token })
      | (.error e, after) => (.error e, after) := by
  rw [run, Act.exec_bind]
  cases (obtain cancellable method).exec w with
  | mk outcome after => cases outcome <;> rfl

theorem exec_obtain_of_findsHeader (cancellable : Bool) {credentials : Credentials}
    (hheader : findsHeader credentials = true) (w : World) :
    (obtain cancellable (.withCredentials credentials)).exec w =
      (ask cancellable (headerMessage w.now credentials) tokenOfHeader).exec w := by
  cases credentials with
  | user => cases hheader
  | legacy =>
      rw [obtain, byPassword_eq_ask]
      rfl
  | service =>
      simp only [obtain, asService, Act.exec_bind, Act.exec_get, byPassword_eq_ask]
      rfl

theorem exec_obtain_user (cancellable : Bool) (gateway user password : String) (w : World) :
    (obtain cancellable (.withCredentials (.user gateway user password))).exec w =
      match (ask cancellable (documentMessage gateway user password) tokenOfDocument).exec w with
      | (.ok token, after) => (.ok token, after)
      | (.error .cancelled, after) => (.error .cancelled, after)
      | (.error _, after) =>
        (obtain cancellable (.withCredentials (.legacy gateway user password))).exec after := by
  simp only [obtain, asUser, Act.exec_tryCatch, byDocument_eq_ask]
  generalize (ask _ _ _).exec w = result
  obtain ⟨outcome, after⟩ := result
  cases outcome with
  | ok token => rfl
  | error e => cases e <;> rfl

/-- A login that asks once for a token in a header. -/
structure AsksHeader (sent : Option Message) (w : World)
    (result : Except Error Unit × World) : Prop where
  log : result.2.log =
    w.log ++ (sent.map fun m => .exchange .login m w.nextTurn.1.reply).toList
  ok_iff : result.1 = .ok () ↔ ∃ token, w.Brought sent Response.headerToken? token
  brought : ∀ token, w.Brought sent Response.headerToken? token →
    result = (.ok (), { w.asking sent with token })

/-- A login that asks for a token in a document, and if none is brought goes on in
another way. -/
structure AsksDocument (cancellable : Bool) (sent : Option Message)
    (another : World → Except Error Unit × World) (w : World)
    (result : Except Error Unit × World) : Prop where
  brought : ∀ token, w.Brought sent Response.documentToken? token →
    result = (.ok (), { w.asking sent with token })
  abandoned : w.Abandoned cancellable sent →
    result = (.error .cancelled, { w.asking sent with cancelled := true })
  another : (∀ token, ¬ w.Brought sent Response.documentToken? token) →
    ¬ w.Abandoned cancellable sent → result = another (w.asking sent)

/-- A login keeps a token, or it fails and keeps none.  It never fails with an error
that only calls have. -/
structure Atomic (w : World) (result : Except Error Unit × World) : Prop where
  token_of_ok : result.1 = .ok () → result.2.token ≠ ""
  token_of_error : ∀ e, result.1 = .error e → w.Alone → result.2.token = w.token
  error : ∀ e, result.1 = .error e → e ≠ .unauthorized ∧ ∀ document, e ≠ .api document

theorem asksHeader_of_findsHeader (cancellable : Bool) {credentials : Credentials}
    (hheader : findsHeader credentials = true) (w : World) :
    AsksHeader (sendable? (headerMessage w.now credentials)) w
      ((run cancellable (.withCredentials credentials)).exec w) := by
  have hmessage := failsAsLogin_headerMessage w.now credentials
  rw [exec_run, exec_obtain_of_findsHeader cancellable hheader]
  generalize hexec : (ask _ _ _).exec w = result
  obtain ⟨outcome, after⟩ := result
  cases asked_of_exec reads_header hmessage hexec with
  | brought token hbrought =>
      refine ⟨w.asking_log _, iff_of_true rfl ⟨token, hbrought⟩, fun other hother => ?_⟩
      rw [hbrought.eq hother]
  | failed e hnone hgoing he =>
      refine ⟨w.asking_log _, iff_of_false (by simp) (not_exists.2 hnone), ?_⟩
      exact fun token hbrought => absurd hbrought (hnone token)
  | abandoned habandoned =>
      have hnone := habandoned.not_brought Response.headerToken?
      refine ⟨w.asking_log _, iff_of_false (by simp) (not_exists.2 hnone), ?_⟩
      exact fun token hbrought => absurd hbrought (hnone token)

theorem asksDocument_user (cancellable : Bool) (gateway user password : String) (w : World) :
    AsksDocument cancellable (sendable? (documentMessage gateway user password))
      (run cancellable (.withCredentials (.legacy gateway user password))).exec w
      ((run cancellable (.withCredentials (.user gateway user password))).exec w) := by
  have hmessage := failsAsLogin_documentMessage gateway user password
  rw [exec_run, exec_obtain_user]
  generalize hexec : (ask _ _ _).exec w = result
  obtain ⟨outcome, after⟩ := result
  cases asked_of_exec reads_document hmessage hexec with
  | brought token hbrought =>
      refine ⟨fun other hother => ?_, fun habandoned => ?_, fun hnone => ?_⟩
      · rw [hbrought.eq hother]
      · exact absurd hbrought (habandoned.not_brought _ token)
      · exact absurd hbrought (hnone token)
  | failed e hnone hgoing he =>
      refine ⟨fun token hbrought => ?_, fun habandoned => ?_, fun _ _ => ?_⟩
      · exact absurd hbrought (hnone token)
      · exact absurd habandoned hgoing
      · rw [exec_run]
        cases e with
        | cancelled => cases he
        | _ => simp only
  | abandoned habandoned =>
      refine ⟨fun token hbrought => ?_, fun _ => rfl, fun _ hgoing => ?_⟩
      · exact absurd hbrought (habandoned.not_brought _ token)
      · exact absurd habandoned hgoing

/-! ## Errors -/

theorem isOfLogin_or_cancelled_of_header {credentials : Credentials} {w after : World}
    {e : Error} (hheader : findsHeader credentials = true)
    (hobtain : (obtain cancellable (.withCredentials credentials)).exec w = (.error e, after)) :
    e.isOfLogin = true ∨ e = .cancelled := by
  rw [exec_obtain_of_findsHeader cancellable hheader] at hobtain
  cases asked_of_exec reads_header (failsAsLogin_headerMessage _ _) hobtain with
  | failed _ _ _ he => exact .inl he
  | abandoned => exact .inr rfl

/-- A login fails with an error of a login, unless it is cancelled. -/
theorem isOfLogin_or_cancelled_of_obtain {credentials : Credentials} {w after : World}
    {e : Error}
    (hobtain : (obtain cancellable (.withCredentials credentials)).exec w = (.error e, after)) :
    e.isOfLogin = true ∨ e = .cancelled := by
  cases credentials with
  | legacy | service => exact isOfLogin_or_cancelled_of_header rfl hobtain
  | user gateway user password =>
      rw [exec_obtain_user] at hobtain
      split at hobtain
      · cases hobtain
      · cases hobtain
        exact .inr rfl
      · exact isOfLogin_or_cancelled_of_header rfl hobtain

theorem atomic (cancellable : Bool) (credentials : Credentials) (w : World) :
    Atomic w ((run cancellable (.withCredentials credentials)).exec w) := by
  have hmoves := obtain_exchanges cancellable (.withCredentials credentials) w
  rw [exec_run]
  cases hobtain : (obtain cancellable (.withCredentials credentials)).exec w with
  | mk outcome after =>
      rw [hobtain] at hmoves
      cases outcome with
      | ok token =>
          refine ⟨fun _ => ?_, by simp, by simp⟩
          exact obtain_returns cancellable credentials w token after hobtain
      | error e =>
          refine ⟨by simp, fun _ _ halone => hmoves.token halone, ?_⟩
          rintro _ ⟨⟩
          rcases isOfLogin_or_cancelled_of_obtain hobtain with he | rfl
          · refine ⟨?_, fun document => ?_⟩ <;>
            · rintro rfl
              cases he
          · simp

/-- What a login does with any credentials, in any world.  Where it asks for a token
in a header there is one message at most, and the login succeeds exactly if the
complete answer is a success and brings a token, which is then kept.  An operator
asks for a document first; if the complete answer is a success with a token in a
JSON document this is kept, and in every other case but a cancellation the login
goes on as with name and password alone. -/
theorem run_exact (cancellable : Bool) (credentials : Credentials) (w : World) :
    Atomic w ((run cancellable (.withCredentials credentials)).exec w) ∧
    match credentials with
    | .user gateway user password =>
      AsksDocument cancellable (sendable? (documentMessage gateway user password))
        (run cancellable (.withCredentials (.legacy gateway user password))).exec w
        ((run cancellable (.withCredentials (.user gateway user password))).exec w)
    | credentials =>
      AsksHeader (sendable? (headerMessage w.now credentials)) w
        ((run cancellable (.withCredentials credentials)).exec w) := by
  refine ⟨atomic cancellable credentials w, ?_⟩
  cases credentials with
  | user gateway user password => exact asksDocument_user cancellable gateway user password w
  | legacy | service => exact asksHeader_of_findsHeader cancellable rfl w

/-- A network that answers without a document and then hands out a token in a header. -/
def reluctant : World where
  turns := [{ reply := .answer {} },
    { reply := .answer { headers := [("x-sds-auth-token", "two")] } }]

/-- The operator gets the token in the other way. -/
theorem run_exact_reluctant :
    (run false (.withCredentials (.user "http://[::1]:4443" "root" "secret"))).exec reluctant =
      (run false (.withCredentials (.legacy "http://[::1]:4443" "root" "secret"))).exec
        (reluctant.asking (sendable? (documentMessage "http://[::1]:4443" "root" "secret"))) ∧
    ((run false (.withCredentials (.user "http://[::1]:4443" "root" "secret"))).exec
      reluctant).2.token = "two" := by
  have hnone : Response.documentToken? {} = none := by decide +kernel
  have hdocument :=
    (run_exact false (.user "http://[::1]:4443" "root" "secret") reluctant).2
  refine ⟨hdocument.another ?_ (by simp [World.Abandoned]), by decide +kernel⟩
  rintro token ⟨-, response, hreply, -, hfind, -⟩
  cases hreply
  rw [hnone] at hfind
  cases hfind

end Login
end StoreAdmin
