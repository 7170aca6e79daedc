import StoreAdmin.Model.User
import StoreAdmin.Resource.Expected

/-!
# Operations on object users

All of them speak JSON.
-/

namespace StoreAdmin

/-- An operation on object users and their secrets. -/
inductive UserOperation where
  | list (params : Params)
  | getInfo (uid : String) (params : Params)
  | getSecret (uid : String) (params : Params)
  | createSecret (uid : String) (key : SecretKeyCreation) (params : Params)
  | deleteSecret (uid : String) (key : SecretKeyDeletion) (params : Params)

namespace UserOperation

/-- The segments of what belongs to the secrets of a user. -/
def secretSegments (uid : String) (rest : List String) : List String :=
  "object" :: "user-secret-keys" :: uid :: rest

/-- The request of an operation. -/
def request : UserOperation → Except Error Request
  | .list params => .ok ((Request.get ["object", "users"] .json).withParams params)
  | .getInfo uid params =>
    .ok ((Request.get ["object", "users", uid, "info"] .json).withParams params)
  | .getSecret uid params => .ok ((Request.get (secretSegments uid []) .json).withParams params)
  | .createSecret uid key params => do
    let r := (Request.post (secretSegments uid []) .json).withParams params
    return r.withBody (← Body.json key)
  | .deleteSecret uid key params => do
    let r := (Request.post (secretSegments uid ["deactivate"]) .json).withParams params
    return r.withBody (← Body.json key)

/-- What an operation returns. -/
def expected : UserOperation → Expected
  | .list _ => .record UserList
  | .getInfo _ _ => .record UserInfo
  | .getSecret _ _ => .record UserSecrets
  | .createSecret _ _ _ => .record CreatedSecretKey
  | .deleteSecret _ _ _ => .nothing

end UserOperation
end StoreAdmin
