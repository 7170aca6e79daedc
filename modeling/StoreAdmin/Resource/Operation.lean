import StoreAdmin.Resource.Alert
import StoreAdmin.Resource.Bucket
import StoreAdmin.Resource.Metering
import StoreAdmin.Resource.Provider
import StoreAdmin.Resource.Rebuild
import StoreAdmin.Resource.Replication
import StoreAdmin.Resource.Tenant
import StoreAdmin.Resource.User

/-!
# Operations

The operations of the management interface by the kind of resource. An operation is a request
together with what its answer holds, so it can be performed by anyone who can make a request.
-/

namespace StoreAdmin

/-- An operation of the management interface. -/
inductive Operation where
  | bucket (o : BucketOperation)
  | tenant (o : TenantOperation)
  | user (o : UserOperation)
  | alert (o : AlertOperation)
  | metering (o : MeteringOperation)
  | replication (o : ReplicationOperation)
  | rebuild (o : RebuildOperation)
  | provider (o : ProviderOperation)

namespace Operation

/-- The request of an operation. -/
def request : Operation → Except Error Request
  | .bucket o => o.request
  | .tenant o => o.request
  | .user o => o.request
  | .alert o => o.request
  | .metering o => o.request
  | .replication o => o.request
  | .rebuild o => o.request
  | .provider o => o.request

/-- What an operation returns. -/
def expected : Operation → Expected
  | .bucket o => o.expected
  | .tenant o => o.expected
  | .user o => o.expected
  | .alert o => o.expected
  | .metering o => o.expected
  | .replication o => o.expected
  | .rebuild o => o.expected
  | .provider o => o.expected

/-- Performs an operation through someone who makes requests. An operation without a request fails
before anything is made. -/
def perform {m : Type → Type} [Monad m] (make : Request → m (Except Error Payload))
    (o : Operation) : m (Except Error o.expected.Result) :=
  match o.request with
  | .error e => pure (.error e)
  | .ok r => do
    return (← make r).bind o.expected.read

end Operation
end StoreAdmin
