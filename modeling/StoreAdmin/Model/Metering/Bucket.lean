import StoreAdmin.Record.Shape
import StoreAdmin.Model.Metering.Count

/-!
# Metering of buckets

What buckets hold, how it changed, and how they perform.
-/

namespace StoreAdmin

open Entry

/-- The objects of a bucket. -/
structure BucketBillingInfo where
  bucketName : String := ""
  compressionRatio : Binary64 := default
  consistentTime : Int64 := 0
  totalUserObjectMetric : StorageClassCounts := {}
  totalMpuMetric : StorageClassCounts := {}
  totalReplicaObjectMetric : StorageClassCounts := {}
  deriving DecidableEq, Inhabited

instance : Model BucketBillingInfo where
  heading := { name := "BucketBillingInfo", root := "bucket_billing_objmt_info" }
  fields := .of [
    text "bucket_name", ratio "compression_ratio", integer "consistent_time",
    one StorageClassCounts "total_user_object_metric", one StorageClassCounts "total_mpu_metric",
    one StorageClassCounts "total_replica_object_metric"]
  toVal a := (a.bucketName, a.compressionRatio, a.consistentTime,
    Model.toVal a.totalUserObjectMetric, Model.toVal a.totalMpuMetric,
    Model.toVal a.totalReplicaObjectMetric, ())
  ofVal := fun (bucketName, compressionRatio, consistentTime, totalUserObjectMetric, totalMpuMetric,
    totalReplicaObjectMetric, _) =>
    { bucketName, compressionRatio, consistentTime,
      totalUserObjectMetric := Model.ofVal totalUserObjectMetric,
      totalMpuMetric := Model.ofVal totalMpuMetric,
      totalReplicaObjectMetric := Model.ofVal totalReplicaObjectMetric }
  ofVal_toVal _ := by simp only [Model.ofVal_toVal]

/-- The objects of several buckets. -/
structure BucketBillingInfoList where
  status : String := ""
  sizeUnit : String := ""
  dateTime : String := ""
  info : List BucketBillingInfo := []
  deriving DecidableEq, Inhabited

instance : Model BucketBillingInfoList where
  heading := { name := "BucketBillingInfoList", root := "bucket_billing_objmt_infos" }
  fields := .of [
    text "status", text "size_unit", text "date_time",
    many BucketBillingInfo "bucket_billing_objmt_info" "info"]
  toVal a := (a.status, a.sizeUnit, a.dateTime, Model.toVals a.info, ())
  ofVal := fun (status, sizeUnit, dateTime, info, _) =>
    { status, sizeUnit, dateTime, info := Model.ofVals info }
  ofVal_toVal _ := by simp only [Model.ofVals_toVals]

/-- The traffic of a bucket. -/
structure BucketTraffic where
  bucketName : String := ""
  ingress : Int64 := 0
  egress : Int64 := 0
  deriving DecidableEq, Inhabited

instance : Model BucketTraffic where
  heading := { name := "BucketBillingTag", root := "bucket_billing_tag" }
  fields := .of [
    text "bucket_name", integer "ingress", integer "egress"]
  toVal a := (a.bucketName, a.ingress, a.egress, ())
  ofVal := fun (bucketName, ingress, egress, _) =>
    { bucketName, ingress, egress }
  ofVal_toVal _ := rfl

/-- How the objects of a bucket changed over a time. -/
structure BucketBillingSample where
  bucketName : String := ""
  sampleTimeRange : Int64 := 0
  consistentTime : Int64 := 0
  bucketBillingInfo : BucketBillingInfo := {}
  bucketBillingTags : List BucketTraffic := []
  userCreationDelta : StorageClassCounts := {}
  userDeletionDelta : StorageClassCounts := {}
  mpuCreateDelta : StorageClassCounts := {}
  mpuDeleteDelta : StorageClassCounts := {}
  replicaCreationDelta : StorageClassCounts := {}
  replicaDeletionDelta : StorageClassCounts := {}
  deriving DecidableEq, Inhabited

instance : Model BucketBillingSample where
  heading := { name := "BucketBillingSample", root := "bucket_billing_objmt_sample" }
  fields := .of [
    text "bucket_name", integer "sample_time_range", integer "consistent_time",
    one BucketBillingInfo "bucket_billing_objmt_info" "bucket_billing_info",
    many BucketTraffic "bucket_billing_tag" "bucket_billing_tags",
    one StorageClassCounts "user_creation_delta", one StorageClassCounts "user_deletion_delta",
    one StorageClassCounts "mpu_create_delta", one StorageClassCounts "mpu_delete_delta",
    one StorageClassCounts "replica_creation_delta",
    one StorageClassCounts "replica_deletion_delta"]
  toVal a := (a.bucketName, a.sampleTimeRange, a.consistentTime, Model.toVal a.bucketBillingInfo,
    Model.toVals a.bucketBillingTags, Model.toVal a.userCreationDelta,
    Model.toVal a.userDeletionDelta, Model.toVal a.mpuCreateDelta, Model.toVal a.mpuDeleteDelta,
    Model.toVal a.replicaCreationDelta, Model.toVal a.replicaDeletionDelta, ())
  ofVal := fun (bucketName, sampleTimeRange, consistentTime, bucketBillingInfo, bucketBillingTags,
    userCreationDelta, userDeletionDelta, mpuCreateDelta, mpuDeleteDelta, replicaCreationDelta,
    replicaDeletionDelta, _) =>
    { bucketName, sampleTimeRange, consistentTime,
      bucketBillingInfo := Model.ofVal bucketBillingInfo,
      bucketBillingTags := Model.ofVals bucketBillingTags,
      userCreationDelta := Model.ofVal userCreationDelta,
      userDeletionDelta := Model.ofVal userDeletionDelta,
      mpuCreateDelta := Model.ofVal mpuCreateDelta, mpuDeleteDelta := Model.ofVal mpuDeleteDelta,
      replicaCreationDelta := Model.ofVal replicaCreationDelta,
      replicaDeletionDelta := Model.ofVal replicaDeletionDelta }
  ofVal_toVal _ := by simp only [Model.ofVal_toVal, Model.ofVals_toVals]

/-- How the objects of several buckets changed. -/
structure BucketBillingSampleList where
  status : String := ""
  sizeUnit : String := ""
  dateTime : String := ""
  startTime : String := ""
  endTime : String := ""
  samples : List BucketBillingSample := []
  deriving DecidableEq, Inhabited

instance : Model BucketBillingSampleList where
  heading := { name := "BucketBillingSampleList", root := "bucket_billing_objmt_samples" }
  fields := .of [
    text "status", text "size_unit", text "date_time", text "start_time", text "end_time",
    many BucketBillingSample "bucket_billing_objmt_sample" "samples"]
  toVal a := (a.status, a.sizeUnit, a.dateTime, a.startTime, a.endTime, Model.toVals a.samples, ())
  ofVal := fun (status, sizeUnit, dateTime, startTime, endTime, samples, _) =>
    { status, sizeUnit, dateTime, startTime, endTime, samples := Model.ofVals samples }
  ofVal_toVal _ := by simp only [Model.ofVals_toVals]

/-- Transfers and delays of a bucket over a time. -/
structure BucketPerformanceSample where
  bucketName : String := ""
  sampleTimeRange : Int64 := 0
  consistentTime : Int64 := 0
  ingressLatency : Int64 := 0
  ingressBytes : Int64 := 0
  ingressCounts : Int64 := 0
  egressBytes : Int64 := 0
  egressCounts : Int64 := 0
  deriving DecidableEq, Inhabited

instance : Model BucketPerformanceSample where
  heading := { name := "BucketPerfSample", root := "bucket_perf_sample" }
  fields := .of [
    text "bucket_name", integer "sample_time_range", integer "consistent_time",
    integer "ingress_latency", integer "ingress_bytes", integer "ingress_counts",
    integer "egress_bytes", integer "egress_counts"]
  toVal a := (a.bucketName, a.sampleTimeRange, a.consistentTime, a.ingressLatency, a.ingressBytes,
    a.ingressCounts, a.egressBytes, a.egressCounts, ())
  ofVal := fun (bucketName, sampleTimeRange, consistentTime, ingressLatency, ingressBytes,
    ingressCounts, egressBytes, egressCounts, _) =>
    { bucketName, sampleTimeRange, consistentTime, ingressLatency, ingressBytes, ingressCounts,
      egressBytes, egressCounts }
  ofVal_toVal _ := rfl

/-- Transfers and delays of several buckets. -/
structure BucketPerformanceList where
  status : String := ""
  sizeUnit : String := ""
  dateTime : String := ""
  startTime : String := ""
  endTime : String := ""
  samples : List BucketPerformanceSample := []
  deriving DecidableEq, Inhabited

instance : Model BucketPerformanceList where
  heading := { name := "BucketPerfDataList", root := "bucket_perf_samples" }
  fields := .of [
    text "status", text "size_unit", text "date_time", text "start_time", text "end_time",
    many BucketPerformanceSample "bucket_perf_sample" "samples"]
  toVal a := (a.status, a.sizeUnit, a.dateTime, a.startTime, a.endTime, Model.toVals a.samples, ())
  ofVal := fun (status, sizeUnit, dateTime, startTime, endTime, samples, _) =>
    { status, sizeUnit, dateTime, startTime, endTime, samples := Model.ofVals samples }
  ofVal_toVal _ := by simp only [Model.ofVals_toVals]

end StoreAdmin
