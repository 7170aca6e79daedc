import StoreAdmin.Record.Shape

/-!
# Counts of objects

Numbers and sizes of objects, by storage class.
-/

namespace StoreAdmin

open Entry

/-- How many objects there are and how large they are. -/
structure ObjectCounts where
  counts : Int64 := 0
  logicalSize : Int64 := 0
  createLogicalSize : Int64 := 0
  deleteLogicalSize : Int64 := 0
  physicalSize : Int64 := 0
  createPhysicalSize : Int64 := 0
  deletePhysicalSize : Int64 := 0
  deriving DecidableEq, Inhabited

instance : Model ObjectCounts where
  heading := { name := "CountSize" }
  fields := .of [
    integer "counts", integer "logical_size", integer "create_logical_size",
    integer "delete_logical_size", integer "physical_size", integer "create_physical_size",
    integer "delete_physical_size"]
  toVal a := (a.counts, a.logicalSize, a.createLogicalSize, a.deleteLogicalSize, a.physicalSize,
    a.createPhysicalSize, a.deletePhysicalSize, ())
  ofVal := fun (counts, logicalSize, createLogicalSize, deleteLogicalSize, physicalSize,
    createPhysicalSize, deletePhysicalSize, _) =>
    { counts, logicalSize, createLogicalSize, deleteLogicalSize, physicalSize, createPhysicalSize,
      deletePhysicalSize }
  ofVal_toVal _ := rfl

/-- The objects of one storage class. -/
structure StorageClassCount where
  storageClass : String := ""
  countSize : ObjectCounts := {}
  deriving DecidableEq, Inhabited

instance : Model StorageClassCount where
  heading := { name := "StorageClassBasedCountSize", root := "storage_class_counts" }
  fields := .of [
    text "storage_class", one ObjectCounts "count_size"]
  toVal a := (a.storageClass, Model.toVal a.countSize, ())
  ofVal := fun (storageClass, countSize, _) =>
    { storageClass, countSize := Model.ofVal countSize }
  ofVal_toVal _ := by simp only [Model.ofVal_toVal]

/-- The objects of each storage class. -/
structure StorageClassCounts where
  items : List StorageClassCount := []
  deriving DecidableEq, Inhabited

instance : Model StorageClassCounts where
  heading := { name := "StorageClassCounts" }
  fields := .of [
    many StorageClassCount "storage_class_counts" "items"]
  toVal a := (Model.toVals a.items, ())
  ofVal := fun (items, _) =>
    { items := Model.ofVals items }
  ofVal_toVal _ := by simp only [Model.ofVals_toVals]

/-- The number of objects over all storage classes. -/
def StorageClassCounts.total (c : StorageClassCounts) : Int :=
  (c.items.map fun i => i.countSize.counts.toInt).foldr (· + ·) 0

end StoreAdmin
