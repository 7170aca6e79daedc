import StoreAdmin.Record.Shape

/-!
# Control of replication

The state of replication to another store.
-/

namespace StoreAdmin

open Entry

/-- Where data is replicated to, and since or until when replication is held back. -/
structure ReplicationConfig where
  destObjectScale : String := ""
  destObjectStore : String := ""
  pauseStartMills : Int64 := 0
  pauseEndMills : Int64 := 0
  suspendStartMills : Int64 := 0
  throttleBandwidth : Int64 := 0
  deriving DecidableEq, Inhabited

instance : Model ReplicationConfig where
  heading := { name := "CrrConfig", root := "ReplicationAdminConfiguration" }
  fields := .of [
    text "DestinationObjectScale" "dest_object_scale",
    text "DestinationObjectStore" "dest_object_store",
    integer "PauseStartMills" "pause_start_mills", integer "PauseEndMills" "pause_end_mills",
    integer "SuspendStartMills" "suspend_start_mills",
    integer "ThrottleBandwidth" "throttle_bandwidth"]
  toVal a := (a.destObjectScale, a.destObjectStore, a.pauseStartMills, a.pauseEndMills,
    a.suspendStartMills, a.throttleBandwidth, ())
  ofVal := fun (destObjectScale, destObjectStore, pauseStartMills, pauseEndMills, suspendStartMills,
    throttleBandwidth, _) =>
    { destObjectScale, destObjectStore, pauseStartMills, pauseEndMills, suspendStartMills,
      throttleBandwidth }
  ofVal_toVal _ := rfl

end StoreAdmin
