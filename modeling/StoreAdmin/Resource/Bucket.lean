import StoreAdmin.Model.Bucket
import StoreAdmin.Resource.Expected

/-!
# Operations on buckets
-/

namespace StoreAdmin

/-- An operation on the buckets of a store. -/
inductive BucketOperation where
  | list (params : Params)
  | get (name : String) (params : Params)
  | create (bucket : Bucket)
  | delete (name namespaceName : String) (emptied : Bool)
  | getPolicy (name : String) (params : Params)
  | updatePolicy (name policy : String) (params : Params)
  | deletePolicy (name : String) (params : Params)
  | getQuota (name namespaceName : String)
  | updateQuota (quota : BucketQuotaUpdate)
  | deleteQuota (name namespaceName : String)

namespace BucketOperation

/-- The segments of what belongs to a bucket. A bucket without a name has none. -/
def segments (name last : String) : Except Error (List String) :=
  if name = "" then .error (.invalidRequest .noBucketName)
  else .ok ["object", "bucket", name, last]

/-- The root of the document that creates a bucket. -/
def creationRoot : String :=
  "object_bucket_create"

/-- The request of an operation. Policies and deletions travel as JSON, all else as XML. -/
def request : BucketOperation → Except Error Request
  | .list params => .ok ((Request.get ["object", "bucket"]).withParams params)
  | .get name params => do
    return (Request.get (← segments name "info")).withParams params
  | .create bucket => do
    return (Request.post ["object", "bucket"]).withBody (← Body.xmlUnder creationRoot bucket)
  | .delete name namespaceName emptied => do
    let r :=
      (Request.post (← segments name "deactivate") .json).withParam "namespace" namespaceName
    return if emptied then r.withParam "emptyBucket" "true" else r
  | .getPolicy name params => do
    return (Request.get (← segments name "policy") .json).withParams params
  | .updatePolicy name policy params => do
    let r := (Request.put (← segments name "policy") .json).withParams params
    return r.withBody (Body.rawJson policy)
  | .deletePolicy name params => do
    return (Request.delete (← segments name "policy") .json).withParams params
  | .getQuota name namespaceName => do
    return (Request.get (← segments name "quota")).withParam "namespace" namespaceName
  | .updateQuota quota => do
    return (Request.put (← segments quota.bucketName "quota")).withBody (← Body.xml quota)
  | .deleteQuota name namespaceName => do
    return (Request.delete (← segments name "quota")).withParam "namespace" namespaceName

/-- What an operation returns. -/
def expected : BucketOperation → Expected
  | .list _ => .record BucketList
  | .get _ _ => .record Bucket
  | .create _ => .record Bucket
  | .delete _ _ _ => .nothing
  | .getPolicy _ _ => .text
  | .updatePolicy _ _ _ => .nothing
  | .deletePolicy _ _ => .nothing
  | .getQuota _ _ => .record BucketQuotaInfo
  | .updateQuota _ => .nothing
  | .deleteQuota _ _ => .nothing

end BucketOperation
end StoreAdmin
