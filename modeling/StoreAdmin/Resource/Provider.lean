import StoreAdmin.Model.Provider
import StoreAdmin.Resource.Expected

/-!
# Operations on the service provider
-/

namespace StoreAdmin

/-- An operation on the service provider of a store. There is only one. -/
inductive ProviderOperation where
  | get (params : Params)
  | create (provider : ServiceProviderCreation)
  | delete

namespace ProviderOperation

/-- The segments of the service provider. -/
def segments : List String :=
  ["ecs-service-provider"]

/-- The request of an operation. -/
def request : ProviderOperation → Except Error Request
  | .get params => .ok ((Request.get segments).withParams params)
  | .create provider => do
    return (Request.post segments).withBody (← Body.xml provider)
  | .delete => .ok (Request.delete segments)

/-- What an operation returns. -/
def expected : ProviderOperation → Expected
  | .get _ => .record ServiceProvider
  | .create _ => .record ServiceProvider
  | .delete => .nothing

end ProviderOperation
end StoreAdmin
