import StoreAdmin.Proofs.Record.Body
import StoreAdmin.Proofs.Resource.Interface
import StoreAdmin.Proofs.Resource.Request
import StoreAdmin.Proofs.Text.Reading

/-!
# Performing operations

An operation asks a caller for one thing and reads the answer.  It asks for
nothing if a name is missing.  Callers are arbitrary: they may fail, and they may
keep a state of any kind in any monad.
-/

namespace StoreAdmin

/-! ## Reading answers -/

namespace Expected

/-- What a payload says.  A record is in the payload's own format, and a payload without bytes is
the empty record; a text has the bytes of the payload. -/
def Says : (e : Expected) → Payload → e.Result → Prop
  | @record α _, p, (a : α) =>
      if p.body = [] then a = Model.empty α else Model.ofBytes? p.format p.body = some a
  | .text, p, (t : String) => Utf8.encode t.toList = p.body
  | .nothing, _, _ => True

/-- What is returned for an answer.  The error of a failed call stays as it is. -/
inductive Returns (e : Expected) : Except Error Payload → Except Error e.Result → Prop
  | failed (fault : Error) : Returns e (.error fault) (.error fault)
  | read {p : Payload} {a : e.Result} (hsaid : e.Says p a) : Returns e (.ok p) (.ok a)
  | unreadable {p : Payload} (hsilent : ∀ a, ¬ e.Says p a) :
      Returns e (.ok p) (.error (.decode p.format .malformed))

theorem read_record (α : Type) [Model α] (p : Payload) :
    (record α).Returns (.ok p) ((record α).read p) := by
  have hread : (record α).read p = p.decode α := rfl
  rw [hread, Payload.decode]
  by_cases hempty : p.body = []
  · rw [if_pos hempty]
    exact .read ((if_pos hempty).mpr rfl)
  · rw [if_neg hempty, Model.ofBytes]
    cases hrecord : Model.ofBytes? (α := α) p.format p.body with
    | some a => exact .read ((if_neg hempty).mpr hrecord)
    | none =>
        refine .unreadable fun a hsaid => ?_
        rw [(if_neg hempty).mp hsaid] at hrecord
        cases hrecord

theorem read_text (p : Payload) : text.Returns (.ok p) (text.read p) := by
  have hread : text.read p = p.text := rfl
  rw [hread, Payload.text]
  cases htext : Utf8.decode? p.body with
  | some chars =>
      have hbytes : Utf8.encode (String.ofList chars).toList = p.body := by
        rw [String.toList_ofList]
        exact Utf8.decode?_eq_some_iff.mp htext
      exact .read hbytes
  | none =>
      refine .unreadable fun s hsaid => ?_
      rw [Utf8.decode?_eq_some_iff.mpr hsaid] at htext
      cases htext

/-- Reading an answer returns what it says. -/
theorem returns_read (e : Expected) (answer : Except Error Payload) :
    e.Returns answer (answer.bind e.read) := by
  cases answer with
  | error fault => exact .failed fault
  | ok p =>
      cases e with
      | @record α _ => exact read_record α p
      | text => exact read_text p
      | nothing => exact .read trivial

end Expected

/-! ## Asking a caller -/

/-- The caller `make`, with a log of what it is asked for. -/
def logged {m : Type → Type} [Monad m] (make : Request → m (Except Error Payload))
    (r : Request) : StateT (List Request) m (Except Error Payload) := do
  let answer ← make r
  modify (· ++ [r])
  return answer

theorem run_logged {m : Type → Type} [Monad m] [LawfulMonad m]
    (make : Request → m (Except Error Payload)) (r : Request) (log : List Request) :
    (logged make r).run log = (fun answer => (answer, log ++ [r])) <$> make r := by
  simp [logged]

namespace Operation

variable {o : Operation} {r : Request}

/-- The operation fails for want of a name, before any caller is asked for anything. -/
structure Declines (o : Operation) : Prop where
  perform_eq : ∀ (m : Type → Type) [Monad m] (make : Request → m (Except Error Payload)),
    o.perform make = pure (.error (.invalidRequest o.namelessFault))
  log_eq : ∀ (m : Type → Type) [Monad m] (make : Request → m (Except Error Payload))
    (log : List Request),
    (o.perform (logged make)).run log = pure (.error (.invalidRequest o.namelessFault), log)

/-- The operation asks every caller for `r`, once and for nothing else, and reads what the caller
answers.  The request is valid and has the parameters of the operation. -/
structure Asks (o : Operation) (r : Request) : Prop where
  request_eq : o.request = .ok r
  valid : ∃ format, r.validate = .ok format
  query_eq : r.params.fields = o.query
  perform_eq : ∀ (m : Type → Type) [Monad m] [LawfulMonad m]
    (make : Request → m (Except Error Payload)),
    o.perform make = (fun answer => answer.bind o.expected.read) <$> make r
  log_eq : ∀ (m : Type → Type) [Monad m] [LawfulMonad m]
    (make : Request → m (Except Error Payload)) (log : List Request),
    (o.perform (logged make)).run log =
      (fun answer => (answer.bind o.expected.read, log ++ [r])) <$> make r

theorem perform_of_request_error {m : Type → Type} [Monad m]
    (make : Request → m (Except Error Payload)) {e : Error} (hrequest : o.request = .error e) :
    o.perform make = pure (.error e) := by
  rw [perform, hrequest]

theorem perform_of_request_ok {m : Type → Type} [Monad m] [LawfulMonad m]
    (make : Request → m (Except Error Payload)) (hrequest : o.request = .ok r) :
    o.perform make = (fun answer => answer.bind o.expected.read) <$> make r := by
  rw [perform, hrequest]
  exact bind_pure_comp _ _

theorem declines_of_nameless (hname : o.name? = some "") : o.Declines where
  perform_eq _ _ make := perform_of_request_error make (request_of_nameless hname)
  log_eq m _ make log := by
    rw [perform_of_request_error (logged make) (request_of_nameless hname)]
    rfl

theorem exists_asks (hname : o.name? ≠ some "") : ∃ r, o.Asks r := by
  obtain ⟨r, format, hrequest, hfits⟩ := exists_request hname
  refine ⟨r, hrequest, ⟨format, hfits.validate_eq⟩, hfits.query_eq, ?_, ?_⟩
  · intro m _ _ make
    exact perform_of_request_ok make hrequest
  · intro m _ _ make log
    rw [perform_of_request_ok (logged make) hrequest, StateT.run_map, run_logged, Functor.map_map]

/-- Who asks for something does not decline. -/
theorem Asks.not_declines (hasks : o.Asks r) : ¬ o.Declines := by
  intro hdeclines
  have hone := hasks.log_eq Id (fun _ => .error .cancelled) []
  rw [hdeclines.log_eq Id (fun _ => .error .cancelled) []] at hone
  cases congrArg Prod.snd hone

theorem declines_iff : o.Declines ↔ o.name? = some "" := by
  constructor
  · intro hdeclines
    apply Classical.byContradiction
    intro hname
    obtain ⟨r, hasks⟩ := exists_asks hname
    exact hasks.not_declines hdeclines
  · exact declines_of_nameless

theorem asks_iff : (∃ r, o.Asks r) ↔ o.name? ≠ some "" := by
  constructor
  · rintro ⟨r, hasks⟩ hname
    exact hasks.not_declines (declines_of_nameless hname)
  · exact exists_asks

/-- The policy that is sent is the text that was given, byte for byte. -/
theorem policyBytes {name policy : String} {params : Params}
    (hrequest : (bucket (.updatePolicy name policy params)).request = .ok r) :
    r.body.map Body.bytes = some (Utf8.encode policy.toList) := by
  obtain ⟨segments, -, hr⟩ := exists_of_bind_ok hrequest
  cases hr
  rfl

/-- Every operation is one well-formed call, or none if its name is missing.  Its result is of the
kind that the interface gives for it, and it is what the answer says. -/
theorem performed (o : Operation) :
    (o.Declines ↔ o.name? = some "") ∧ ((∃ r, o.Asks r) ↔ o.name? ≠ some "") ∧
      (∀ e, o.Gives e ↔ e = o.expected) ∧
      (∀ answer, o.expected.Returns answer (answer.bind o.expected.read)) ∧
      (∀ name params, o = bucket (.getPolicy name params) → o.expected = .text) ∧
      ∀ name policy params r, o = bucket (.updatePolicy name policy params) → o.Asks r →
        r.body.map Body.bytes = some (Utf8.encode policy.toList) := by
  refine ⟨declines_iff, asks_iff, gives_iff o, Expected.returns_read _, ?_, ?_⟩
  · rintro name params rfl
    rfl
  · rintro name policy params r rfl hasks
    exact policyBytes hasks.request_eq

/-- A policy that is no JSON document. -/
def loosePolicy : Operation :=
  bucket (.updatePolicy "one" "[ü\n" {})

theorem performed_loosePolicy : loosePolicy.name? ≠ some "" ∧
    ∃ r, loosePolicy.Asks r ∧ r.body.map Body.bytes = some [0x5B, 0xC3, 0xBC, 0x0A] := by
  have hname : loosePolicy.name? ≠ some "" := by decide
  obtain ⟨-, hasks, -, -, -, hbody⟩ := performed loosePolicy
  obtain ⟨r, hr⟩ := hasks.mpr hname
  exact ⟨hname, r, hr, hbody "one" "[ü\n" {} r rfl hr⟩

end Operation
end StoreAdmin
