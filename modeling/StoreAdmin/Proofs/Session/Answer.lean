import StoreAdmin.Client.Login
import StoreAdmin.Proofs.Outcome

/-!
# What an answer comes to

An answer that reports a failure comes to an error, and an answer to a login that
reports success is read for a token.  All ways in which both can go are listed
once.
-/

namespace StoreAdmin

/-! ## Failures -/

namespace Answer

variable {status : Nat} {format : Format} {body : List UInt8} {e : Error}

/-- A body that is no error document cannot be decoded. -/
theorem exists_decode_of_errorDocument (hdocument : errorDocument format body = .error e) :
    ∃ fault, e = .decode format fault := by
  have hread : ∀ {format}, (Model.ofBytes format body : Except Error ApiError) = .error e →
      ∃ fault, e = .decode format fault := by
    intro format hread
    unfold Model.ofBytes at hread
    split at hread
    · cases hread
    · cases hread
      exact ⟨_, rfl⟩
  unfold errorDocument at hdocument
  split at hdocument
  · exact hread hdocument
  split at hdocument
  · cases hdocument
    exact ⟨_, rfl⟩
  · cases hdocument
    exact ⟨_, rfl⟩
  split at hdocument
  · exact hread hdocument
  · cases hdocument
    exact ⟨_, rfl⟩

/-- The errors of a login that failed, each with what leads to it. -/
inductive FailsLogin (status : Nat) (format : Format) (body : List UInt8) : Error → Prop
  | wordless (hbody : body = []) : FailsLogin status format body (.server (Status.text status))
  | absent (document : ApiError) (hdocument : errorDocument format body = .ok document)
      (habsent : document.isNotFound = true) :
      FailsLogin status format body (.server Error.notFoundText)
  | described (document : ApiError) (hdocument : errorDocument format body = .ok document)
      (hpresent : ¬ document.isNotFound = true) :
      FailsLogin status format body
        (.server (String.ofList (Text.lower document.description.toList)))
  | foreign (fault : Error) (hdocument : errorDocument format body = .error fault) :
      FailsLogin status format body
        (.unexpectedResponse (String.ofList (Utf8.decodeLossy body)))

/-- The errors of a call that failed and was not refused, each with what leads to it. -/
inductive FailsCall (status : Nat) (format : Format) (body : List UInt8) : Error → Prop
  | wordless (hbody : body = []) : FailsCall status format body (.server (Status.text status))
  | documented (document : ApiError) (hdocument : errorDocument format body = .ok document) :
      FailsCall status format body (.api document)
  | foreign (fault : DecodeFault)
      (hdocument : errorDocument format body = .error (.decode format fault)) :
      FailsCall status format body (.decode format fault)

theorem checkLogin_of_success (hstatus : status ≤ 399) (format : Option Format)
    (body : List UInt8) : checkLogin status format body = .ok () :=
  if_pos hstatus

theorem exists_failsLogin (hstatus : 400 ≤ status) (format : Option Format)
    (body : List UInt8) :
    ∃ e, checkLogin status format body = .error e ∧
      FailsLogin status (format.getD .xml) body e := by
  unfold checkLogin
  rw [if_neg (by omega : ¬ status ≤ 399)]
  by_cases hbody : body = []
  · exact ⟨_, if_pos hbody, .wordless hbody⟩
  rw [if_neg hbody]
  split
  · next document hdocument =>
      by_cases habsent : document.isNotFound = true
      · exact ⟨_, if_pos habsent, .absent document hdocument habsent⟩
      · exact ⟨_, if_neg habsent, .described document hdocument habsent⟩
  · next fault hdocument => exact ⟨_, rfl, .foreign fault hdocument⟩

theorem exists_failsCall (hstatus : 400 ≤ status) (hanswered : status ≠ Status.refused)
    (format : Format) (body : List UInt8) :
    ∃ e, checkCall status format body = .error e ∧ FailsCall status format body e := by
  unfold checkCall
  rw [if_neg hanswered, if_neg (by omega : ¬ status < 400)]
  by_cases hbody : body = []
  · exact ⟨_, if_pos hbody, .wordless hbody⟩
  rw [if_neg hbody]
  split
  · next document hdocument => exact ⟨_, rfl, .documented document hdocument⟩
  · next fault hdocument =>
      obtain ⟨cause, rfl⟩ := exists_decode_of_errorDocument hdocument
      exact ⟨_, rfl, .foreign cause hdocument⟩

/-- An answer is taken as a refusal exactly when its status is 401. -/
theorem checkCall_eq_unauthorized_iff (status : Nat) (format : Format) (body : List UInt8) :
    checkCall status format body = .error .unauthorized ↔ status = Status.refused := by
  by_cases hrefused : status = Status.refused
  · simp [checkCall, hrefused]
  refine iff_of_false ?_ hrefused
  rcases Nat.lt_or_ge status 400 with hsuccess | hfailure
  · simp [checkCall, hrefused, hsuccess]
  · obtain ⟨e, hcheck, hfails⟩ := exists_failsCall hfailure hrefused format body
    rw [hcheck]
    cases hfails <;> simp

end Answer

/-- The errors of a login that nobody cancels. -/
def Error.isOfLogin : Error → Bool
  | .invalidUrl _ | .server _ | .unexpectedResponse _ | .decode _ _ | .transport _ => true
  | _ => false

theorem Answer.FailsLogin.isOfLogin {status : Nat} {format : Format} {body : List UInt8}
    {e : Error} (h : FailsLogin status format body e) : e.isOfLogin = true := by
  cases h <;> rfl

/-! ## Tokens -/

namespace Response

def headerToken? (r : Response) : Option String :=
  r.header? Login.tokenHeader

/-- The token of a document that is read as JSON, whatever format the answer
names. -/
def documentToken? (r : Response) : Option String :=
  (Model.ofBytes? .json r.content : Option LoginResponse).map (·.accessToken)

/-- An answer of success brings the token that is found in it. -/
def Brings (find : Response → Option String) (r : Response) (token : String) : Prop :=
  r.status ≤ 399 ∧ find r = some token ∧ token ≠ ""

end Response

namespace Login

/-- The end of a login, which takes no empty token. -/
def taken (value : String) : Except Error String :=
  if value = "" then .error .loginFailed else .ok value

theorem taken_eq_ok_iff {value token : String} :
    taken value = .ok token ↔ value = token ∧ token ≠ "" := by
  unfold taken
  by_cases hvalue : value = ""
  · rw [if_pos hvalue]
    refine iff_of_false (by simp) ?_
    rintro ⟨rfl, hne⟩
    exact hne hvalue
  · rw [if_neg hvalue, Except.ok.injEq]
    exact ⟨fun h => ⟨h, h ▸ hvalue⟩, And.left⟩

theorem isOfLogin_of_taken {value : String} {e : Error} (htaken : taken value = .error e) :
    e.isOfLogin = true := by
  unfold taken at htaken
  split at htaken
  · cases htaken
    rfl
  · cases htaken

/-- How an answer is read for a token. -/
structure Reads (read : Response → Except Error String) (find : Response → Option String) :
    Prop where
  success : ∀ response, response.status ≤ 399 → ∃ missing, missing.isOfLogin = true ∧
    read response = ((find response).map taken).getD (.error missing)
  failure : ∀ response, 400 ≤ response.status →
    ∃ e, read response = .error e ∧ e.isOfLogin = true

theorem reads_header : Reads tokenOfHeader Response.headerToken? where
  success response hstatus := by
    refine ⟨.loginFailed, rfl, ?_⟩
    rw [tokenOfHeader, bind_of_ok (Answer.checkLogin_of_success hstatus _ _),
      Response.headerToken?]
    cases response.header? tokenHeader <;> rfl
  failure response hstatus := by
    obtain ⟨e, hcheck, hfails⟩ := Answer.exists_failsLogin hstatus _ _
    exact ⟨e, bind_of_error hcheck _, hfails.isOfLogin⟩

theorem reads_document : Reads tokenOfDocument Response.documentToken? where
  success response hstatus := by
    refine ⟨.decode .json .malformed, rfl, ?_⟩
    rw [tokenOfDocument, bind_of_ok (Answer.checkLogin_of_success hstatus _ _), Model.ofBytes,
      Response.documentToken?]
    cases (Model.ofBytes? .json response.content : Option LoginResponse) <;> rfl
  failure response hstatus := by
    obtain ⟨e, hcheck, hfails⟩ := Answer.exists_failsLogin hstatus _ _
    exact ⟨e, bind_of_error hcheck _, hfails.isOfLogin⟩

namespace Reads

variable {read : Response → Except Error String} {find : Response → Option String}
variable {response : Response} {token : String} {e : Error}

/-- An answer is read as the token that it brings. -/
theorem eq_ok_iff (h : Reads read find) :
    read response = .ok token ↔ response.Brings find token := by
  rcases Nat.lt_or_ge response.status 400 with hsuccess | hfailure
  · have hstatus : response.status ≤ 399 := by omega
    obtain ⟨missing, -, hread⟩ := h.success response hstatus
    rw [hread, Response.Brings]
    cases find response with
    | none => simp
    | some value => simp [taken_eq_ok_iff, hstatus]
  · obtain ⟨e, hread, -⟩ := h.failure response hfailure
    have hstatus : ¬ response.status ≤ 399 := by omega
    simp [hread, Response.Brings, hstatus]

theorem isOfLogin (h : Reads read find) (hread : read response = .error e) :
    e.isOfLogin = true := by
  rcases Nat.lt_or_ge response.status 400 with hsuccess | hfailure
  · obtain ⟨missing, hmissing, hfound⟩ := h.success response (by omega)
    rw [hfound] at hread
    cases hfind : find response with
    | none =>
        rw [hfind] at hread
        cases hread
        exact hmissing
    | some value =>
        rw [hfind] at hread
        exact isOfLogin_of_taken hread
  · obtain ⟨e, hfailed, he⟩ := h.failure response hfailure
    rw [hfailed] at hread
    cases hread
    exact he

end Reads
end Login
end StoreAdmin
