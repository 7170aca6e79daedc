import StoreAdmin.Model.Replication
import StoreAdmin.Resource.Expected

/-!
# Operations on replications

A replication is known by the scale and the store that it goes to.
-/

namespace StoreAdmin

/-- What is done to a replication. -/
inductive ReplicationAction where
  | pause
  | suspend
  | resume
  | throttle
  | unthrottle
  deriving DecidableEq

/-- The segment of an action. -/
def ReplicationAction.segment : ReplicationAction → String
  | .pause => "pause"
  | .suspend => "suspend"
  | .resume => "resume"
  | .throttle => "throttle"
  | .unthrottle => "unthrottle"

/-- An operation on a replication. -/
inductive ReplicationOperation where
  | control (action : ReplicationAction) (scale store : String) (params : Params)
  | get (scale store : String) (params : Params)

namespace ReplicationOperation

/-- The segments of what belongs to a replication. -/
def segments (scale store : String) (rest : List String) : List String :=
  "replication" :: "control" :: scale :: store :: rest

/-- The request of an operation. -/
def request : ReplicationOperation → Except Error Request
  | .control action scale store params =>
    .ok ((Request.post (segments scale store [action.segment])).withParams params)
  | .get scale store params => .ok ((Request.get (segments scale store [])).withParams params)

/-- What an operation returns. -/
def expected : ReplicationOperation → Expected
  | .control _ _ _ _ => .nothing
  | .get _ _ _ => .record ReplicationConfig

end ReplicationOperation
end StoreAdmin
