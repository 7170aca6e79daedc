import StoreAdmin.Proofs.Address.Params
import StoreAdmin.Proofs.Outcome
import StoreAdmin.Resource.Operation

/-!
# The requests of operations

An operation has a method, a query and, where it is about one thing, the name of
that thing.  Its request fits them and is valid; only a missing name keeps an
operation from having one.
-/

namespace StoreAdmin

/-! ## Building requests -/

/-- A request with a method, a format and a query, whose body, if there is one, is written in
that format. -/
structure Request.Fits (r : Request) (method : String) (format : Format)
    (query : List (String × String)) : Prop where
  method_eq : r.method = method
  type_eq : r.contentType = format.mediaType
  query_eq : r.params.fields = query
  body_format : ∀ body ∈ r.body, body.format = format

namespace Request

variable {r : Request} {method : String} {format : Format} {query : List (String × String)}

theorem fits_of (method : String) (segments : List String) (format : Format) :
    (of method segments format).Fits method format [] where
  method_eq := rfl
  type_eq := rfl
  query_eq := rfl
  body_format _ hbody := nomatch hbody

theorem Fits.withParams (h : r.Fits method format []) (params : Params) :
    (r.withParams params).Fits method format params.fields where
  method_eq := h.method_eq
  type_eq := h.type_eq
  query_eq := Params.fields_extend_of_nil h.query_eq params
  body_format := h.body_format

theorem Fits.withParam (h : r.Fits method format query) (key value : String) :
    (r.withParam key value).Fits method format (Params.place key value query) where
  method_eq := h.method_eq
  type_eq := h.type_eq
  query_eq := congrArg (Params.place key value) h.query_eq
  body_format := h.body_format

theorem Fits.withBody (h : r.Fits method format query) {body : Body}
    (hbody : body.format = format) : (r.withBody body).Fits method format query where
  method_eq := h.method_eq
  type_eq := h.type_eq
  query_eq := h.query_eq
  body_format _ hmem := Option.some.inj hmem ▸ hbody

theorem Fits.validate_eq (h : r.Fits method format query) : r.validate = .ok format := by
  have hread : Format.ofExact? format.mediaType = some format := by
    cases format <;> rfl
  unfold validate
  rw [h.type_eq, hread]
  cases hsent : r.body with
  | none => rfl
  | some body => exact if_pos (h.body_format body hsent)

end Request

/-- A record is written as XML under every root that may be written. -/
theorem Body.exists_xmlUnder {α : Type} [Model α] {root : String}
    (hroot : Xml.isWritableName root.toList = true) (a : α) :
    ∃ body, xmlUnder root a = .ok body ∧ body.format = .xml := by
  unfold xmlUnder Model.xmlText?
  rw [if_pos hroot]
  exact ⟨_, rfl, rfl⟩

theorem Body.exists_xml {α : Type} [Model α]
    (hroot : Xml.isWritableName (Model.heading α).root.toList = true) (a : α) :
    ∃ body, xml a = .ok body ∧ body.format = .xml :=
  exists_xmlUnder hroot a

/-! ## What operations ask for -/

namespace BucketOperation

def method : BucketOperation → String
  | .list _ | .get _ _ | .getPolicy _ _ | .getQuota _ _ => "GET"
  | .create _ | .delete _ _ _ => "POST"
  | .updatePolicy _ _ _ | .updateQuota _ => "PUT"
  | .deletePolicy _ _ | .deleteQuota _ _ => "DELETE"

def query : BucketOperation → List (String × String)
  | .list params | .get _ params | .getPolicy _ params | .updatePolicy _ _ params
  | .deletePolicy _ params => params.fields
  | .delete _ namespaceName emptied =>
      if emptied then [("emptyBucket", "true"), ("namespace", namespaceName)]
      else [("namespace", namespaceName)]
  | .getQuota _ namespaceName | .deleteQuota _ namespaceName => [("namespace", namespaceName)]
  | .create _ | .updateQuota _ => []

/-- The bucket that an operation is about. -/
def name? : BucketOperation → Option String
  | .list _ | .create _ => none
  | .get name _ | .delete name _ _ | .getPolicy name _ | .updatePolicy name _ _
  | .deletePolicy name _ | .getQuota name _ | .deleteQuota name _ => some name
  | .updateQuota quota => some quota.bucketName

theorem segments_of_ne {name : String} (hname : some name ≠ some "") (last : String) :
    segments name last = .ok ["object", "bucket", name, last] :=
  if_neg fun hempty => hname (congrArg some hempty)

theorem segments_of_nameless {name : String} (hname : some name = some "") (last : String) :
    segments name last = .error (.invalidRequest .noBucketName) :=
  if_pos (Option.some.inj hname)

theorem request_of_nameless {o : BucketOperation} (hname : o.name? = some "") :
    o.request = .error (.invalidRequest .noBucketName) := by
  cases o with
  | list | create => cases hname
  | get | delete | getPolicy | updatePolicy | deletePolicy | getQuota | updateQuota
  | deleteQuota => exact bind_of_error (segments_of_nameless hname _) _

theorem exists_request {o : BucketOperation} (hname : o.name? ≠ some "") :
    ∃ r format, o.request = .ok r ∧ r.Fits o.method format o.query := by
  cases o with
  | list params =>
      exact ⟨_, _, rfl, (Request.fits_of _ _ _).withParams params⟩
  | create bucket =>
      have hroot : Xml.isWritableName creationRoot.toList = true := by decide
      obtain ⟨body, hbody, hformat⟩ := Body.exists_xmlUnder hroot bucket
      exact ⟨_, _, bind_of_ok hbody _, (Request.fits_of _ _ _).withBody hformat⟩
  | get name params | getPolicy name params | deletePolicy name params =>
      have hsegments := segments_of_ne hname
      exact ⟨_, _, bind_of_ok (hsegments _) _, (Request.fits_of _ _ _).withParams params⟩
  | updatePolicy name policy params =>
      have hsegments := segments_of_ne hname
      exact ⟨_, _, bind_of_ok (hsegments _) _,
        ((Request.fits_of _ _ _).withParams params).withBody rfl⟩
  | getQuota name namespaceName | deleteQuota name namespaceName =>
      have hsegments := segments_of_ne hname
      exact ⟨_, _, bind_of_ok (hsegments _) _,
        (Request.fits_of _ _ _).withParam "namespace" namespaceName⟩
  | delete name namespaceName emptied =>
      have hsegments := segments_of_ne hname
      have hplain := Request.fits_of "POST" ["object", "bucket", name, "deactivate"] .json
      have hnamed := hplain.withParam "namespace" namespaceName
      cases emptied with
      | false => exact ⟨_, _, bind_of_ok (hsegments _) _, hnamed⟩
      | true => exact ⟨_, _, bind_of_ok (hsegments _) _, hnamed.withParam "emptyBucket" "true"⟩
  | updateQuota quota =>
      have hsegments := segments_of_ne hname
      obtain ⟨body, hbody, hformat⟩ := Body.exists_xml (by decide) quota
      exact ⟨_, _, (bind_of_ok (hsegments _) _).trans (bind_of_ok hbody _),
        (Request.fits_of _ _ _).withBody hformat⟩

end BucketOperation

namespace TenantOperation

def method : TenantOperation → String
  | .list _ | .get _ _ | .getQuota _ _ => "GET"
  | .create _ | .delete _ | .update _ _ => "POST"
  | .setQuota _ _ => "PUT"
  | .deleteQuota _ => "DELETE"

def query : TenantOperation → List (String × String)
  | .list params | .get _ params | .getQuota _ params => params.fields
  | .create _ | .delete _ | .update _ _ | .setQuota _ _ | .deleteQuota _ => []

theorem exists_request (o : TenantOperation) :
    ∃ r format, o.request = .ok r ∧ r.Fits o.method format o.query := by
  cases o with
  | list params | get _ params | getQuota _ params =>
      exact ⟨_, _, rfl, (Request.fits_of _ _ _).withParams params⟩
  | delete | deleteQuota =>
      exact ⟨_, _, rfl, Request.fits_of _ _ _⟩
  | create record | update _ record | setQuota _ record =>
      obtain ⟨body, hbody, hformat⟩ := Body.exists_xml (by decide) record
      exact ⟨_, _, bind_of_ok hbody _, (Request.fits_of _ _ _).withBody hformat⟩

end TenantOperation

namespace UserOperation

def method : UserOperation → String
  | .list _ | .getInfo _ _ | .getSecret _ _ => "GET"
  | .createSecret _ _ _ | .deleteSecret _ _ _ => "POST"

def query : UserOperation → List (String × String)
  | .list params | .getInfo _ params | .getSecret _ params | .createSecret _ _ params
  | .deleteSecret _ _ params => params.fields

theorem exists_request (o : UserOperation) :
    ∃ r format, o.request = .ok r ∧ r.Fits o.method format o.query := by
  cases o with
  | list params | getInfo _ params | getSecret _ params =>
      exact ⟨_, _, rfl, (Request.fits_of _ _ _).withParams params⟩
  | createSecret _ key params | deleteSecret _ key params =>
      exact ⟨_, _, rfl, ((Request.fits_of _ _ _).withParams params).withBody rfl⟩

end UserOperation

namespace AlertOperation

def method : AlertOperation → String
  | .list _ | .get _ => "GET"
  | .create _ => "POST"
  | .update _ _ => "PUT"
  | .delete _ => "DELETE"

def query : AlertOperation → List (String × String)
  | .list params => params.fields
  | .get _ | .create _ | .update _ _ | .delete _ => []

/-- The policy that an operation is about. -/
def name? : AlertOperation → Option String
  | .list _ | .create _ => none
  | .get name | .update name _ | .delete name => some name

theorem segments_of_ne {name : String} (hname : some name ≠ some "") :
    segments name = .ok ["vdc", "alertpolicy", name] :=
  if_neg fun hempty => hname (congrArg some hempty)

theorem segments_of_nameless {name : String} (hname : some name = some "") :
    segments name = .error (.invalidRequest .noPolicyName) :=
  if_pos (Option.some.inj hname)

theorem request_of_nameless {o : AlertOperation} (hname : o.name? = some "") :
    o.request = .error (.invalidRequest .noPolicyName) := by
  cases o with
  | list | create => cases hname
  | get | update | delete => exact bind_of_error (segments_of_nameless hname) _

theorem exists_request {o : AlertOperation} (hname : o.name? ≠ some "") :
    ∃ r format, o.request = .ok r ∧ r.Fits o.method format o.query := by
  cases o with
  | list params =>
      exact ⟨_, _, rfl, (Request.fits_of _ _ _).withParams params⟩
  | create policy =>
      exact ⟨_, _, rfl, (Request.fits_of _ _ _).withBody rfl⟩
  | get | delete =>
      exact ⟨_, _, bind_of_ok (segments_of_ne hname) _, Request.fits_of _ _ _⟩
  | update name policy =>
      exact ⟨_, _, bind_of_ok (segments_of_ne hname) _, (Request.fits_of _ _ _).withBody rfl⟩

end AlertOperation

namespace MeteringOperation

def method : MeteringOperation → String
  | .storeInfo _ | .storeSample _ => "GET"
  | .accountInfo _ _ | .accountSample _ _ | .bucketInfo _ _ _ | .bucketSample _ _ _
  | .bucketPerformance _ _ _ | .replicationInfo _ _ _ | .replicationSample _ _ _
  | .storeReplication _ _ => "POST"

def query : MeteringOperation → List (String × String)
  | .storeInfo params | .storeSample params | .accountInfo _ params | .accountSample _ params
  | .bucketInfo _ _ params | .bucketSample _ _ params | .bucketPerformance _ _ params
  | .replicationInfo _ _ params | .replicationSample _ _ params
  | .storeReplication _ params => params.fields

theorem exists_asking {α : Type} [Model α] (segments : List String) {root : String}
    (hroot : Xml.isWritableName root.toList = true) (a : α) (params : Params) :
    ∃ r format, asking segments root a params = .ok r ∧ r.Fits "POST" format params.fields := by
  obtain ⟨body, hbody, hformat⟩ := Body.exists_xmlUnder hroot a
  exact ⟨_, _, bind_of_ok hbody _,
    ((Request.fits_of _ _ _).withParams params).withBody hformat⟩

theorem exists_request (o : MeteringOperation) :
    ∃ r format, o.request = .ok r ∧ r.Fits o.method format o.query := by
  cases o with
  | storeInfo params | storeSample params =>
      exact ⟨_, _, rfl, (Request.fits_of _ _ _).withParams params⟩
  | accountInfo | accountSample | bucketInfo | bucketSample | bucketPerformance
  | replicationInfo | replicationSample | storeReplication =>
      exact exists_asking _ (by decide) _ _

end MeteringOperation

namespace ReplicationOperation

def method : ReplicationOperation → String
  | .control _ _ _ _ => "POST"
  | .get _ _ _ => "GET"

def query : ReplicationOperation → List (String × String)
  | .control _ _ _ params | .get _ _ params => params.fields

theorem exists_request (o : ReplicationOperation) :
    ∃ r format, o.request = .ok r ∧ r.Fits o.method format o.query := by
  cases o with
  | control _ _ _ params | get _ _ params =>
      exact ⟨_, _, rfl, (Request.fits_of _ _ _).withParams params⟩

end ReplicationOperation

namespace RebuildOperation

def query : RebuildOperation → List (String × String)
  | .status _ _ _ _ params => params.fields

theorem exists_request (o : RebuildOperation) :
    ∃ r format, o.request = .ok r ∧ r.Fits "GET" format o.query := by
  cases o with
  | status _ _ _ _ params => exact ⟨_, _, rfl, (Request.fits_of _ _ _).withParams params⟩

end RebuildOperation

namespace ProviderOperation

def method : ProviderOperation → String
  | .get _ => "GET"
  | .create _ => "POST"
  | .delete => "DELETE"

def query : ProviderOperation → List (String × String)
  | .get params => params.fields
  | .create _ | .delete => []

theorem exists_request (o : ProviderOperation) :
    ∃ r format, o.request = .ok r ∧ r.Fits o.method format o.query := by
  cases o with
  | get params =>
      exact ⟨_, _, rfl, (Request.fits_of _ _ _).withParams params⟩
  | create provider =>
      obtain ⟨body, hbody, hformat⟩ := Body.exists_xml (by decide) provider
      exact ⟨_, _, bind_of_ok hbody _, (Request.fits_of _ _ _).withBody hformat⟩
  | delete =>
      exact ⟨_, _, rfl, Request.fits_of _ _ _⟩

end ProviderOperation

/-! ## All operations -/

namespace Operation

/-- The method of an operation's request. -/
def method : Operation → String
  | .bucket o => o.method
  | .tenant o => o.method
  | .user o => o.method
  | .alert o => o.method
  | .metering o => o.method
  | .replication o => o.method
  | .rebuild _ => "GET"
  | .provider o => o.method

/-- The parameters of an operation: those of the caller where it takes any, and for some
operations on a bucket the namespace and the wish to empty it. -/
def query : Operation → List (String × String)
  | .bucket o => o.query
  | .tenant o => o.query
  | .user o => o.query
  | .alert o => o.query
  | .metering o => o.query
  | .replication o => o.query
  | .rebuild o => o.query
  | .provider o => o.query

/-- The name that an operation must be given, if there is one. -/
def name? : Operation → Option String
  | .bucket o => o.name?
  | .alert o => o.name?
  | _ => none

/-- What is wrong without the name. -/
def namelessFault : Operation → RequestFault
  | .alert _ => .noPolicyName
  | _ => .noBucketName

theorem request_of_nameless {o : Operation} (hname : o.name? = some "") :
    o.request = .error (.invalidRequest o.namelessFault) := by
  cases o with
  | bucket o => exact BucketOperation.request_of_nameless hname
  | alert o => exact AlertOperation.request_of_nameless hname
  | tenant | user | metering | replication | rebuild | provider => cases hname

/-- With its name, an operation has a request that fits it. -/
theorem exists_request {o : Operation} (hname : o.name? ≠ some "") :
    ∃ r format, o.request = .ok r ∧ r.Fits o.method format o.query := by
  cases o with
  | bucket o => exact BucketOperation.exists_request hname
  | tenant o => exact TenantOperation.exists_request o
  | user o => exact UserOperation.exists_request o
  | alert o => exact AlertOperation.exists_request hname
  | metering o => exact MeteringOperation.exists_request o
  | replication o => exact ReplicationOperation.exists_request o
  | rebuild o => exact RebuildOperation.exists_request o
  | provider o => exact ProviderOperation.exists_request o

theorem fits_of_request {o : Operation} {r : Request} (hrequest : o.request = .ok r) :
    ∃ format, r.Fits o.method format o.query := by
  have hname : o.name? ≠ some "" := by
    intro hnameless
    rw [request_of_nameless hnameless] at hrequest
    cases hrequest
  obtain ⟨s, format, hs, hfits⟩ := exists_request hname
  obtain rfl : s = r := Except.ok.inj (hs.symm.trans hrequest)
  exact ⟨format, hfits⟩

end Operation
end StoreAdmin
