import StoreAdmin.Proofs.Number.Decimal
import StoreAdmin.Proofs.Session.Answer

/-!
# Errors that report an absent thing

A call keeps an error document as it is, so its code alone tells whether a thing
is absent.  A login only keeps words, and the words for an absent thing can also
be the description of a document with another code.  This file proves for every
answer which of the two errors report an absent thing, and when they agree.
-/

namespace StoreAdmin

/-- Whether the description of a document consists of the words for an absent thing,
in whatever case. -/
def ApiError.readsNotFound (e : ApiError) : Bool :=
  String.ofList (Text.lower e.description.toList) = Error.notFoundText

/-- A status in words begins with a digit or with another word. -/
theorem Status.text_ne_notFoundText (status : Nat) : text status ≠ Error.notFoundText := by
  have hdigit : ∀ d : Decimal.Digit, d.toChar ≠ 'n' := by decide
  obtain ⟨d, ds, hdigits⟩ := Decimal.exists_digits status
  intro htext
  have hletters := congrArg String.toList htext
  unfold text at hletters
  split at hletters
  · simp only [Decimal.natText, hdigits, List.map_cons, String.toList_append,
      String.toList_ofList, List.cons_append] at hletters
    exact hdigit d (List.cons.inj hletters).1
  · rw [String.toList_append] at hletters
    have hfirst : 's' = 'n' := (List.cons.inj hletters).1
    cases hfirst

theorem Status.isNotFound_text (status : Nat) :
    (Error.server (text status)).isNotFound = false :=
  decide_eq_false (text_ne_notFoundText status)

namespace Answer

/-- An empty body is no error document. -/
theorem not_exists_errorDocument_nil (format : Format) (P : ApiError → Prop) :
    ¬ ∃ document, errorDocument format [] = .ok document ∧ P document := by
  rintro ⟨document, hdocument, -⟩
  cases format <;> cases hdocument

variable {status : Nat} {format : Format} {body : List UInt8} {e : Error}

/-- The documents for which a failed login reports an absent thing. -/
theorem FailsLogin.isNotFound_iff (h : FailsLogin status format body e) :
    e.isNotFound = true ↔ ∃ document, errorDocument format body = .ok document ∧
      (document.code = 1004 ∨ document.readsNotFound = true) := by
  cases h with
  | wordless hbody =>
      rw [hbody]
      refine iff_of_false ?_ (not_exists_errorDocument_nil format _)
      simp [Status.isNotFound_text]
  | absent document hdocument habsent =>
      exact iff_of_true rfl ⟨document, hdocument, .inl (of_decide_eq_true habsent)⟩
  | described document hdocument hpresent =>
      have hcode : document.code ≠ 1004 := fun hcode => hpresent (decide_eq_true hcode)
      have hwords : (Error.server (String.ofList
          (Text.lower document.description.toList))).isNotFound = true ↔
            document.readsNotFound = true := Iff.rfl
      simpa [hdocument, hcode] using hwords
  | foreign fault hdocument =>
      exact iff_of_false (by simp [Error.isNotFound]) (by simp [hdocument])

/-- A failed call reports an absent thing by the code of the document. -/
theorem FailsCall.isNotFound_iff (h : FailsCall status format body e) :
    e.isNotFound = true ↔
      ∃ document, errorDocument format body = .ok document ∧ document.code = 1004 := by
  cases h with
  | wordless hbody =>
      rw [hbody]
      refine iff_of_false ?_ (not_exists_errorDocument_nil format _)
      simp [Status.isNotFound_text]
  | documented document hdocument =>
      have hcode : (Error.api document).isNotFound = true ↔ document.code = 1004 :=
        decide_eq_true_iff
      simpa [hdocument] using hcode
  | foreign fault hdocument =>
      exact iff_of_false (by simp [Error.isNotFound]) (by simp [hdocument])

/-- When a login and a call take a failed answer for the absence of a thing.  Both
have an error.  That of a call reports it exactly for a document with its code, and
that of a login also for a document whose description consists of the words for
it.  They agree unless such a document has another code. -/
theorem notFound_agree_iff (status : Nat) (hstatus : 400 ≤ status) (hrefused : status ≠ 401)
    (format : Format) (body : List UInt8) :
    ∃ login call, checkLogin status (some format) body = .error login ∧
      checkCall status format body = .error call ∧
      (call.isNotFound = true ↔
        ∃ e, errorDocument format body = .ok e ∧ e.code = 1004) ∧
      (login.isNotFound = true ↔
        ∃ e, errorDocument format body = .ok e ∧ (e.code = 1004 ∨ e.readsNotFound = true)) ∧
      (login.isNotFound = call.isNotFound ↔
        ∀ e, errorDocument format body = .ok e → e.readsNotFound = true → e.code = 1004) := by
  obtain ⟨login, hlogin, hloginFails⟩ := exists_failsLogin hstatus (some format) body
  obtain ⟨call, hcall, hcallFails⟩ := exists_failsCall hstatus hrefused format body
  refine ⟨login, call, hlogin, hcall, hcallFails.isNotFound_iff, hloginFails.isNotFound_iff, ?_⟩
  rw [Bool.eq_iff_iff, hloginFails.isNotFound_iff, hcallFails.isNotFound_iff]
  constructor
  · intro hagree e hdocument hreads
    obtain ⟨other, hother, hcode⟩ := hagree.1 ⟨e, hdocument, .inr hreads⟩
    rw [hdocument] at hother
    cases hother
    exact hcode
  · intro honly
    refine ⟨?_, fun ⟨e, hdocument, hcode⟩ => ⟨e, hdocument, .inl hcode⟩⟩
    rintro ⟨e, hdocument, hcode | hreads⟩
    · exact ⟨e, hdocument, hcode⟩
    · exact ⟨e, hdocument, honly e hdocument hreads⟩

/-- A document about an absent thing, with its code and with other words. -/
def absentBody : List UInt8 :=
  Utf8.encode "\x7b\"code\":1004,\"description\":\"Unable to find entity\"\x7d".toList

theorem notFound_agree_iff_absent :
    400 ≤ 404 ∧ 404 ≠ 401 ∧
    ∃ login call, checkLogin 404 (some .json) absentBody = .error login ∧
      checkCall 404 .json absentBody = .error call ∧ login.isNotFound = call.isNotFound := by
  obtain ⟨login, call, hlogin, hcall, -, -, hagree⟩ :=
    notFound_agree_iff 404 (by decide) (by decide) .json absentBody
  refine ⟨by decide, by decide, login, call, hlogin, hcall, hagree.2 fun e hdocument _ => ?_⟩
  have hcode : (errorDocument .json absentBody).map ApiError.code = .ok 1004 := by
    decide +kernel
  rw [hdocument] at hcode
  exact Except.ok.inj hcode

/-- A document with another code, whose description consists of the words for an
absent thing. -/
def misleadingBody : List UInt8 :=
  Utf8.encode
    "<error><code>1013</code><description>Not Found</description></error>".toList

theorem not_notFound_agree_misleading :
    ∃ login call, checkLogin 404 (some .xml) misleadingBody = .error login ∧
      checkCall 404 .xml misleadingBody = .error call ∧
      login.isNotFound = true ∧ call.isNotFound = false := by
  refine ⟨.server "not found", .api { code := 1013, description := "Not Found" },
    ?_, ?_, rfl, rfl⟩
  · decide +kernel
  · decide +kernel

end Answer
end StoreAdmin
