import StoreAdmin.Record.Shape
import StoreAdmin.Model.Metering.Count

/-!
# Metering of stores

What a store holds, and how it changed.
-/

namespace StoreAdmin

open Entry

/-- A bucket with the number that it is ranked by. -/
structure RankedBucket where
  bucketName : String := ""
  metricNumber : Int64 := 0
  deriving DecidableEq, Inhabited

instance : Model RankedBucket where
  heading := { name := "TopNBucket", root := "top_n_bucket" }
  fields := .of [
    text "bucket_name", integer "metric_number"]
  toVal a := (a.bucketName, a.metricNumber, ())
  ofVal := fun (bucketName, metricNumber, _) =>
    { bucketName, metricNumber }
  ofVal_toVal _ := rfl

/-- Buckets in the order of a ranking. -/
structure RankedBuckets where
  items : List RankedBucket := []
  deriving DecidableEq, Inhabited

instance : Model RankedBuckets where
  heading := { name := "TopNBuckets" }
  fields := .of [
    many RankedBucket "top_n_bucket" "items"]
  toVal a := (Model.toVals a.items, ())
  ofVal := fun (items, _) =>
    { items := Model.ofVals items }
  ofVal_toVal _ := by simp only [Model.ofVals_toVals]

/-- The objects of a whole store. -/
structure StoreBillingInfo where
  compressionRatio : Binary64 := default
  consistentTime : Int64 := 0
  totalUserObjectMetric : StorageClassCounts := {}
  totalMpuMetric : StorageClassCounts := {}
  totalReplicaObjectMetric : StorageClassCounts := {}
  topBucketsByObjectCount : RankedBuckets := {}
  topBucketsByObjectSize : RankedBuckets := {}
  deriving DecidableEq, Inhabited

instance : Model StoreBillingInfo where
  heading := { name := "StoreBillingInfo", root := "store_billing_info" }
  fields := .of [
    ratio "compression_ratio", integer "consistent_time",
    one StorageClassCounts "total_user_object_metric", one StorageClassCounts "total_mpu_metric",
    one StorageClassCounts "total_replica_object_metric",
    one RankedBuckets "top_n_buckets_by_object_count" "top_buckets_by_object_count",
    one RankedBuckets "top_n_buckets_by_object_size" "top_buckets_by_object_size"]
  toVal a := (a.compressionRatio, a.consistentTime, Model.toVal a.totalUserObjectMetric,
    Model.toVal a.totalMpuMetric, Model.toVal a.totalReplicaObjectMetric,
    Model.toVal a.topBucketsByObjectCount, Model.toVal a.topBucketsByObjectSize, ())
  ofVal := fun (compressionRatio, consistentTime, totalUserObjectMetric, totalMpuMetric,
    totalReplicaObjectMetric, topBucketsByObjectCount, topBucketsByObjectSize, _) =>
    { compressionRatio, consistentTime, totalUserObjectMetric := Model.ofVal totalUserObjectMetric,
      totalMpuMetric := Model.ofVal totalMpuMetric,
      totalReplicaObjectMetric := Model.ofVal totalReplicaObjectMetric,
      topBucketsByObjectCount := Model.ofVal topBucketsByObjectCount,
      topBucketsByObjectSize := Model.ofVal topBucketsByObjectSize }
  ofVal_toVal _ := by simp only [Model.ofVal_toVal]

/-- The objects of a whole store, with the time of the report. -/
structure StoreBillingReport where
  status : String := ""
  sizeUnit : String := ""
  dateTime : String := ""
  info : StoreBillingInfo := {}
  deriving DecidableEq, Inhabited

instance : Model StoreBillingReport where
  heading := { name := "StoreBillingInfoList", root := "store_billing_info_list" }
  fields := .of [
    text "status", text "size_unit", text "date_time",
    one StoreBillingInfo "store_billing_info" "info"]
  toVal a := (a.status, a.sizeUnit, a.dateTime, Model.toVal a.info, ())
  ofVal := fun (status, sizeUnit, dateTime, info, _) =>
    { status, sizeUnit, dateTime, info := Model.ofVal info }
  ofVal_toVal _ := by simp only [Model.ofVal_toVal]

/-- How the objects of a store changed over a time. -/
structure StoreBillingSample where
  sampleTimeRange : Int64 := 0
  consistentTime : Int64 := 0
  info : StoreBillingInfo := {}
  userCreationDelta : StorageClassCounts := {}
  userDeletionDelta : StorageClassCounts := {}
  mpuCreateDelta : StorageClassCounts := {}
  mpuDeleteDelta : StorageClassCounts := {}
  replicaCreationDelta : StorageClassCounts := {}
  replicaDeletionDelta : StorageClassCounts := {}
  deriving DecidableEq, Inhabited

instance : Model StoreBillingSample where
  heading := { name := "StoreBillingSample", root := "store_billing_sample" }
  fields := .of [
    integer "sample_time_range", integer "consistent_time",
    one StoreBillingInfo "store_billing_info" "info", one StorageClassCounts "user_creation_delta",
    one StorageClassCounts "user_deletion_delta", one StorageClassCounts "mpu_create_delta",
    one StorageClassCounts "mpu_delete_delta", one StorageClassCounts "replica_creation_delta",
    one StorageClassCounts "replica_deletion_delta"]
  toVal a := (a.sampleTimeRange, a.consistentTime, Model.toVal a.info,
    Model.toVal a.userCreationDelta, Model.toVal a.userDeletionDelta, Model.toVal a.mpuCreateDelta,
    Model.toVal a.mpuDeleteDelta, Model.toVal a.replicaCreationDelta,
    Model.toVal a.replicaDeletionDelta, ())
  ofVal := fun (sampleTimeRange, consistentTime, info, userCreationDelta, userDeletionDelta,
    mpuCreateDelta, mpuDeleteDelta, replicaCreationDelta, replicaDeletionDelta, _) =>
    { sampleTimeRange, consistentTime, info := Model.ofVal info,
      userCreationDelta := Model.ofVal userCreationDelta,
      userDeletionDelta := Model.ofVal userDeletionDelta,
      mpuCreateDelta := Model.ofVal mpuCreateDelta, mpuDeleteDelta := Model.ofVal mpuDeleteDelta,
      replicaCreationDelta := Model.ofVal replicaCreationDelta,
      replicaDeletionDelta := Model.ofVal replicaDeletionDelta }
  ofVal_toVal _ := by simp only [Model.ofVal_toVal]

/-- How the objects of a store changed. -/
structure StoreBillingSampleList where
  status : String := ""
  sizeUnit : String := ""
  dateTime : String := ""
  startTime : String := ""
  endTime : String := ""
  samples : List StoreBillingSample := []
  deriving DecidableEq, Inhabited

instance : Model StoreBillingSampleList where
  heading := { name := "StoreBillingSampleList", root := "store_billing_samples" }
  fields := .of [
    text "status", text "size_unit", text "date_time", text "start_time", text "end_time",
    many StoreBillingSample "store_billing_sample" "samples"]
  toVal a := (a.status, a.sizeUnit, a.dateTime, a.startTime, a.endTime, Model.toVals a.samples, ())
  ofVal := fun (status, sizeUnit, dateTime, startTime, endTime, samples, _) =>
    { status, sizeUnit, dateTime, startTime, endTime, samples := Model.ofVals samples }
  ofVal_toVal _ := by simp only [Model.ofVals_toVals]

end StoreAdmin
