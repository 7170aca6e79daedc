import StoreAdmin.Record.Shape

/-!
# Rebuilds

The progress of a rebuild.
-/

namespace StoreAdmin

open Entry

/-- How far the rebuild of a device is. -/
structure RebuildInfo where
  totalBytes : Int64 := 0
  remainingBytes : Int64 := 0
  level : Int64 := 0
  deriving DecidableEq, Inhabited

instance : Model RebuildInfo where
  heading := { name := "RebuildInfo" }
  fields := .of [
    integer "totalBytes" "total_bytes", integer "remainingBytes" "remaining_bytes", integer "level"]
  toVal a := (a.totalBytes, a.remainingBytes, a.level, ())
  ofVal := fun (totalBytes, remainingBytes, level, _) =>
    { totalBytes, remainingBytes, level }
  ofVal_toVal _ := rfl

/-- A rebuild is complete when nothing remains. -/
def RebuildInfo.isComplete (r : RebuildInfo) : Bool :=
  r.remainingBytes = 0

end StoreAdmin
