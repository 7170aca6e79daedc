import StoreAdmin.Proofs.Config.Secret
import StoreAdmin.Proofs.Session.Call
import StoreAdmin.Proofs.Session.Observation
import StoreAdmin.Proofs.Session.Recovery

/-!
# Secrets

Two sessions that differ in nothing but the secret of their credentials look the
same: the callers are told the same, the same tokens are kept, and the same
messages are exchanged, up to what a login sends as its credentials.  A password
is always sent in a form that fits into its message, so it never decides what
happens next.
-/

namespace StoreAdmin

def LoginMethod.withSecret (secret : String) : LoginMethod → LoginMethod
  | .withCredentials credentials => .withCredentials (credentials.withSecret secret)
  | .granted => .granted

def Client.withSecret (c : Client) (secret : String) : Client :=
  { c with login := c.login.map (·.withSecret secret) }

/-! ## Messages with a password -/

namespace Message

variable (method : String) (url : Url)

section Basic

variable (user password other : String)

theorem redacted_basic :
    (addressed method url [basicAuthorization user password]).redacted .login =
      (addressed method url [basicAuthorization user other]).redacted .login := by
  simp only [redacted, addressed, basicAuthorization, List.map_append, List.map_cons, if_true]

/-- Whatever the password is, its header can be sent. -/
theorem any_headers_basic :
    (addressed method url [basicAuthorization user password]).headers.any
      (fun h => !isHeaderValue h.2) = false := by
  unfold addressed
  cases url.userInfo? with
  | none => simp [isHeaderValue_basicAuthorization]
  | some own => simp [isHeaderValue_basicAuthorization]

/-- Only the address can keep a message with a password from being sent. -/
theorem fault?_basic :
    (addressed method url [basicAuthorization user password]).fault? =
      if url.withoutUser.isSendable then none
      else some (.unsendable (some (String.ofList url.withoutUser.text))) := by
  unfold fault?
  rw [any_headers_basic]
  rfl

end Basic

section Document

variable (headers : List (String × String)) (text other : String)

theorem redacted_document :
    (addressed method url headers text).redacted .login =
      (addressed method url headers other).redacted .login := rfl

/-- Nothing is looked for in a body before it is sent. -/
theorem fault?_document :
    (addressed method url headers text).fault? =
      (addressed method url headers other).fault? := rfl

end Document

end Message

/-! ## Logins -/

namespace Login

variable (cancellable : Bool)

theorem byPassword_alike (gateway path user password other : String) :
    (byPassword cancellable gateway path user password).Alike
      (byPassword cancellable gateway path user other) := by
  unfold byPassword
  refine Act.alike_bind (Act.alike_lift _) fun url =>
    Act.alike_bind (exchange_alike cancellable ?_ ?_) fun response => Act.alike_lift _
  · exact Message.redacted_basic _ _ _ _ _
  · rw [Message.fault?_basic, Message.fault?_basic]

theorem byDocument_alike (gateway user password other : String) :
    (byDocument cancellable gateway user password).Alike
      (byDocument cancellable gateway user other) := by
  unfold byDocument
  refine Act.alike_bind (Act.alike_lift _) fun url => Act.alike_bind_ok ?_
  refine Act.alike_bind (exchange_alike cancellable ?_ ?_) fun response => Act.alike_lift _
  · exact Message.redacted_document _ _ _ _ _
  · exact Message.fault?_document _ _ _ _ _

theorem asUser_alike (gateway user password other : String) :
    (asUser cancellable gateway user password).Alike
      (asUser cancellable gateway user other) := by
  refine Act.alike_tryCatch (byDocument_alike cancellable gateway user password other)
    fun e => ?_
  split
  · exact Act.alike_throw _
  · exact byPassword_alike cancellable gateway passwordPath user password other

/-- A workload signs with its secret, at the time that both clocks show. -/
theorem asService_alike
    (gateway sharedSecret other podName namespaceName objectScaleId : String) :
    (asService cancellable gateway sharedSecret podName namespaceName objectScaleId).Alike
      (asService cancellable gateway other podName namespaceName objectScaleId) :=
  Act.alike_get_bind fun _ _ _ => byPassword_alike cancellable gateway servicePath _ _ _

theorem obtain_alike (method : LoginMethod) (secret : String) :
    (obtain cancellable (method.withSecret secret)).Alike (obtain cancellable method) := by
  cases method with
  | withCredentials credentials =>
      cases credentials with
      | user gateway user password =>
          exact asUser_alike cancellable gateway user secret password
      | legacy gateway user password =>
          exact byPassword_alike cancellable gateway passwordPath user secret password
      | service gateway sharedSecret podName namespaceName objectScaleId =>
          exact asService_alike cancellable gateway secret sharedSecret podName
            namespaceName objectScaleId
  | granted =>
      refine Act.alike_get_bind fun w log _ => ?_
      refine Act.alike_bind (Act.alike_modify fun _ => rfl) fun _ => ?_
      have hgrants : { w with log }.grants = w.grants := rfl
      rw [hgrants]
      cases w.grants with
      | nil => exact Act.alike_pure ""
      | cons grant rest => exact Act.alike_lift grant

theorem run_alike (method : LoginMethod) (secret : String) :
    (run cancellable (method.withSecret secret)).Alike (run cancellable method) :=
  Act.alike_bind (obtain_alike cancellable method secret) fun _ =>
    Act.alike_modify fun _ => rfl

end Login

/-! ## Calls -/

/-- Two loops are alike if what they repeat is alike: they end in the same attempt. -/
theorem Retry.attempts_alike {α : Type} {attempt attempt' : Act α} {login login' : Act Unit}
    (hattempt : attempt.Alike attempt') (hlogin : login.Alike login') (left number : Nat) :
    Alike (Retry.attempts (fun _ => attempt.run) login.run left number)
      (Retry.attempts (fun _ => attempt'.run) login'.run left number) := by
  induction left generalizing number with
  | zero => exact Alike.pure _
  | succ left ih =>
      refine Alike.bind hattempt fun outcome => ?_
      split
      · split
        · exact Alike.pure _
        · refine Alike.bind hlogin fun visit => ?_
          cases visit with
          | error e => exact Alike.pure _
          | ok _ => exact ih (number + 1)
      · exact Alike.pure _

namespace Client

variable (c : Client) (secret : String)

theorem checkCancelled_alike (cancellable : Bool) :
    (checkCancelled cancellable).Alike (checkCancelled cancellable) := by
  refine Act.alike_get_bind fun w log _ => ?_
  have hcancelled : { w with log }.cancelled = w.cancelled := rfl
  rw [hcancelled]
  split
  · exact Act.alike_throw _
  · exact Act.alike_pure _

/-- An attempt only looks at whether there is a login. -/
theorem attempt_withSecret (r : Request) (url : Url) (format : Format) :
    (c.withSecret secret).attempt r url format = c.attempt r url format := by
  unfold attempt message withSecret
  simp only [Option.isSome_map]

theorem attempt_alike (r : Request) (url : Url) (format : Format) :
    (c.attempt r url format).Alike (c.attempt r url format) := by
  unfold attempt
  refine Act.alike_bind (checkCancelled_alike c.cancellable) fun _ => ?_
  refine Act.alike_get_bind fun w log hw => ?_
  refine Act.alike_bind (exchange_alike c.cancellable rfl rfl) fun response => ?_
  dsimp only
  split
  · exact Act.alike_bind (Act.alike_modify fun v => apply_ite World.redacted _ _ _)
      fun _ => Act.alike_bind (Act.alike_lift _) fun _ => Act.alike_pure _
  · exact Act.alike_bind (Act.alike_lift _) fun _ => Act.alike_pure _

theorem ensureLogin_alike (method : LoginMethod) :
    ((c.withSecret secret).ensureLogin (method.withSecret secret)).Alike
      (c.ensureLogin method) := by
  refine Act.alike_bind (checkCancelled_alike c.cancellable) fun _ => ?_
  refine Act.alike_get_bind fun w log hw => ?_
  have htoken : { w with log }.token = w.token := rfl
  rw [htoken]
  split
  · refine Act.alike_bind (Act.alike_modify fun v => ?_) fun _ =>
      Login.run_alike c.cancellable method secret
    simp only [World.redacted, List.map_append]
    rfl
  · exact Act.alike_pure _

theorem call_alike (r : Request) : ((c.withSecret secret).call r).Alike (c.call r) := by
  unfold call
  refine Act.alike_bind (Act.alike_lift _) fun format =>
    Act.alike_bind (Act.alike_lift _) fun url => ?_
  have hlogin : (c.withSecret secret).login = c.login.map (·.withSecret secret) := rfl
  rw [hlogin]
  cases c.login with
  | none =>
      simp only [Option.map_none, attempt_withSecret]
      exact attempt_alike c r url format
  | some method =>
      simp only [Option.map_some, attempt_withSecret]
      refine Act.alike_get_bind fun w log hw => ?_
      have htoken : { w with log }.token = w.token := rfl
      have hvisit := ensureLogin_alike c secret method
      have hretry := Retry.attempts_alike (attempt_alike c r url format) hvisit c.attempts 1
      rw [htoken]
      split
      · exact Act.alike_bind (Act.alike_tryCatch hvisit fun e => Act.alike_throw _)
          fun _ => hretry
      · exact hretry

theorem perform_alike (o : Operation) :
    ((c.withSecret secret).perform o).Alike (c.perform o) := by
  unfold perform Operation.perform
  cases o.request with
  | error e => exact Alike.pure _
  | ok r => exact Alike.bind (call_alike c secret r) fun _ => Alike.pure _

end Client

/-! ## Sessions -/

/-- What is done in a session, by its caller or by the world around it. -/
inductive Deed where
  | call (r : Request)
  | perform (o : Operation)
  /-- Somebody logs in without a call. -/
  | login
  | invalidate
  | cancel
  | wait (now : Int)
  /-- The network is going to do something else. -/
  | script (turns : List Turn) (later : Reply)

/-- What the caller is told. -/
inductive Report where
  | payload (outcome : Except Error Payload)
  | result (o : Operation) (outcome : Except Error o.expected.Result)
  | done (outcome : Except Error Unit)

namespace Client

/-- Does something and reports on it. -/
def does (c : Client) : Deed → StateM World Report
  | .call r => return .payload (← (c.call r).run)
  | .perform o => return .result o (← (c.perform o).run)
  | .login => do
    match c.login with
    | some method => return .done (← (Login.run false method).run)
    | none => return .done (.ok ())
  | .invalidate => return .done (← Login.invalidate.run)
  | .cancel => do
    modify fun w => { w with cancelled := true }
    return .done (.ok ())
  | .wait now => do
    modify fun w => { w with now }
    return .done (.ok ())
  | .script turns later => do
    modify fun w => { w with turns, later }
    return .done (.ok ())

/-- The reports of a session, each with the world in which it is made. -/
def transcript (c : Client) : List Deed → World → List (Report × World)
  | [], _ => []
  | deed :: rest, w =>
    let s := (c.does deed).run w
    s :: c.transcript rest s.2

variable (c : Client) (secret : String)

theorem does_alike (deed : Deed) : Alike ((c.withSecret secret).does deed) (c.does deed) := by
  cases deed with
  | call r => exact Alike.bind (call_alike c secret r) fun _ => Alike.pure _
  | perform o => exact Alike.bind (perform_alike c secret o) fun _ => Alike.pure _
  | login =>
      have hlogin : (c.withSecret secret).login = c.login.map (·.withSecret secret) := rfl
      unfold does
      rw [hlogin]
      cases c.login with
      | none => exact Alike.pure _
      | some method =>
          exact Alike.bind (Login.run_alike false method secret) fun _ => Alike.pure _
  | invalidate =>
      exact Alike.bind (Act.alike_modify fun _ => rfl) fun _ => Alike.pure _
  | cancel | wait | script =>
      exact Alike.bind (Alike.modify fun _ => rfl) fun _ => Alike.pure _

theorem transcript_observed (deeds : List Deed) {w w' : World}
    (hw : w.redacted = w'.redacted) :
    ((c.withSecret secret).transcript deeds w).map observed =
      (c.transcript deeds w').map observed := by
  induction deeds generalizing w w' with
  | nil => rfl
  | cons deed rest ih =>
      have hdeed := does_alike c secret deed w w' hw
      have hworlds : (((c.withSecret secret).does deed).run w).2.redacted =
          ((c.does deed).run w').2.redacted := congrArg Prod.snd hdeed
      simp only [transcript, List.map_cons, hdeed, ih hworlds]

theorem ofConfig_withSecret (config : ClientConfig) :
    ofConfig (config.withSecret secret) = (ofConfig config).map (·.withSecret secret) := by
  have hmethod : (config.withSecret secret).credentials.map LoginMethod.withCredentials =
      (config.credentials.map LoginMethod.withCredentials).map (·.withSecret secret) := by
    cases config with
    | mk _ _ _ _ _ credentials => cases credentials <;> rfl
  have hendpoint : (config.withSecret secret).endpoint = config.endpoint := rfl
  unfold ofConfig
  rw [config.validate_withSecret secret, hmethod, hendpoint]
  cases config.validate with
  | error e => rfl
  | ok _ =>
      cases withEndpoint (some config.endpoint) with
      | error e => rfl
      | ok client => rfl

/-- Secrets influence nothing but what a login sends as its credentials.  A client
with another secret is made from a configuration or refused just as well, and
whatever is done with it, wherever it starts, everybody is told the same, the same
tokens are kept, and the same messages get the same answers, up to the credentials in
the messages of a login. -/
theorem secret_unobserved (secret : String) :
    (∀ config, ofConfig (config.withSecret secret) =
      (ofConfig config).map (·.withSecret secret)) ∧
    ∀ (c : Client) (deeds : List Deed) (w : World),
      ((c.withSecret secret).transcript deeds w).map observed =
        (c.transcript deeds w).map observed :=
  ⟨ofConfig_withSecret secret, fun c deeds _ => transcript_observed c secret deeds rfl⟩

end Client

end StoreAdmin
