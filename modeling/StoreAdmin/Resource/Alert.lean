import StoreAdmin.Model.Alert
import StoreAdmin.Resource.Expected

/-!
# Operations on alert policies

All of them speak JSON.
-/

namespace StoreAdmin

/-- An operation on alert policies. -/
inductive AlertOperation where
  | list (params : Params)
  | get (name : String)
  | create (policy : AlertPolicy)
  | update (name : String) (policy : AlertPolicy)
  | delete (name : String)

namespace AlertOperation

/-- The segments of a policy. A policy without a name has none. -/
def segments (name : String) : Except Error (List String) :=
  if name = "" then .error (.invalidRequest .noPolicyName)
  else .ok ["vdc", "alertpolicy", name]

/-- The request of an operation. -/
def request : AlertOperation → Except Error Request
  | .list params => .ok ((Request.get ["vdc", "alertpolicy", "list"] .json).withParams params)
  | .get name => do
    return Request.get (← segments name) .json
  | .create policy => do
    return (Request.post ["vdc", "alertpolicy"] .json).withBody (← Body.json policy)
  | .update name policy => do
    return (Request.put (← segments name) .json).withBody (← Body.json policy)
  | .delete name => do
    return Request.delete (← segments name) .json

/-- What an operation returns. -/
def expected : AlertOperation → Expected
  | .list _ => .record AlertPolicyList
  | .get _ => .record AlertPolicy
  | .create _ => .record AlertPolicy
  | .update _ _ => .record AlertPolicy
  | .delete _ => .nothing

end AlertOperation
end StoreAdmin
