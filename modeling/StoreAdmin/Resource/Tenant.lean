import StoreAdmin.Model.Tenant
import StoreAdmin.Resource.Expected

/-!
# Operations on tenants
-/

namespace StoreAdmin

/-- An operation on the tenants of a store. -/
inductive TenantOperation where
  | list (params : Params)
  | get (id : String) (params : Params)
  | create (tenant : TenantCreation)
  | delete (id : String)
  | update (id : String) (tenant : TenantUpdate)
  | getQuota (id : String) (params : Params)
  | setQuota (id : String) (quota : TenantQuotaUpdate)
  | deleteQuota (id : String)

namespace TenantOperation

/-- The segments of what belongs to a tenant. -/
def segments (id : String) (rest : List String) : List String :=
  "object" :: "tenants" :: "tenant" :: id :: rest

/-- The request of an operation. -/
def request : TenantOperation → Except Error Request
  | .list params => .ok ((Request.get ["object", "tenants"]).withParams params)
  | .get id params => .ok ((Request.get (segments id [])).withParams params)
  | .create tenant => do
    return (Request.post ["object", "tenants", "tenant"]).withBody (← Body.xml tenant)
  | .delete id => .ok (Request.post (segments id ["delete"]))
  | .update id tenant => do
    return (Request.post (segments id [])).withBody (← Body.xml tenant)
  | .getQuota id params => .ok ((Request.get (segments id ["quota"])).withParams params)
  | .setQuota id quota => do
    return (Request.put (segments id ["quota"])).withBody (← Body.xml quota)
  | .deleteQuota id => .ok (Request.delete (segments id ["quota"]))

/-- What an operation returns. -/
def expected : TenantOperation → Expected
  | .list _ => .record TenantList
  | .get _ _ => .record Tenant
  | .create _ => .record Tenant
  | .delete _ => .nothing
  | .update _ _ => .nothing
  | .getQuota _ _ => .record TenantQuota
  | .setQuota _ _ => .nothing
  | .deleteQuota _ => .nothing

end TenantOperation
end StoreAdmin
