import StoreAdmin.Model.Rebuild
import StoreAdmin.Resource.Expected

/-!
# Operations on rebuilds
-/

namespace StoreAdmin

/-- A question about the rebuild of the devices of a pod. -/
inductive RebuildOperation where
  | status (store pod podNamespace level : String) (params : Params)

namespace RebuildOperation

/-- The name of a device: the address of the pod inside of the cluster. -/
def device (store pod podNamespace : String) : String :=
  pod ++ "." ++ store ++ "-ss." ++ podNamespace ++ ".svc.cluster.local"

/-- The request of an operation. -/
def request : RebuildOperation → Except Error Request
  | .status store pod podNamespace level params =>
    let segments :=
      ["vdc", "recovery-status", "devices", device store pod podNamespace, "levels", level]
    .ok ((Request.get segments .json).withParams params)

/-- What an operation returns. -/
def expected : RebuildOperation → Expected
  | .status _ _ _ _ _ => .record RebuildInfo

end RebuildOperation
end StoreAdmin
