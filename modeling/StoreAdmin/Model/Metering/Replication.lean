import StoreAdmin.Record.Shape
import StoreAdmin.Model.Metering.Count

/-!
# Metering of replication

What is replicated between buckets and between stores.
-/

namespace StoreAdmin

open Entry

/-- A bucket and the bucket that it is replicated to. -/
structure ReplicationPair where
  sourceBucket : String := ""
  destinationBucket : String := ""
  deriving DecidableEq, Inhabited

instance : Model ReplicationPair where
  heading := { name := "ReplicationPair" }
  fields := .of [
    text "source_bucket", text "destination_bucket_arn" "destination_bucket"]
  toVal a := (a.sourceBucket, a.destinationBucket, ())
  ofVal := fun (sourceBucket, destinationBucket, _) =>
    { sourceBucket, destinationBucket }
  ofVal_toVal _ := rfl

/-- What waits to be replicated between two buckets. -/
structure ReplicationBillingInfo where
  pair : ReplicationPair := {}
  consistentTime : Int64 := 0
  pendingToReplicate : StorageClassCounts := {}
  deriving DecidableEq, Inhabited

instance : Model ReplicationBillingInfo where
  heading := { name := "ReplicationBillingInfo", root := "replication_billing_info" }
  fields := .of [
    one ReplicationPair "replication_source_destination" "pair", integer "consistent_time",
    one StorageClassCounts "pending_to_replicate"]
  toVal a := (Model.toVal a.pair, a.consistentTime, Model.toVal a.pendingToReplicate, ())
  ofVal := fun (pair, consistentTime, pendingToReplicate, _) =>
    { pair := Model.ofVal pair, consistentTime,
      pendingToReplicate := Model.ofVal pendingToReplicate }
  ofVal_toVal _ := by simp only [Model.ofVal_toVal]

/-- What waits to be replicated between several pairs of buckets. -/
structure ReplicationBillingList where
  status : String := ""
  sizeUnit : String := ""
  dateTime : String := ""
  info : List ReplicationBillingInfo := []
  deriving DecidableEq, Inhabited

instance : Model ReplicationBillingList where
  heading := { name := "BucketReplicationInfoList", root := "replication_info_list" }
  fields := .of [
    text "status", text "size_unit", text "date_time",
    many ReplicationBillingInfo "replication_billing_info" "info"]
  toVal a := (a.status, a.sizeUnit, a.dateTime, Model.toVals a.info, ())
  ofVal := fun (status, sizeUnit, dateTime, info, _) =>
    { status, sizeUnit, dateTime, info := Model.ofVals info }
  ofVal_toVal _ := by simp only [Model.ofVals_toVals]

/-- How replication between two buckets went over a time. -/
structure BucketReplicationSample where
  pair : ReplicationPair := {}
  sampleTimeRange : Int64 := 0
  consistentTime : Int64 := 0
  replicationBillingInfo : ReplicationBillingInfo := {}
  pendingToReplicateDelta : StorageClassCounts := {}
  replicatedDelta : StorageClassCounts := {}
  replicatedFailureDelta : StorageClassCounts := {}
  deriving DecidableEq, Inhabited

instance : Model BucketReplicationSample where
  heading := { name := "BucketReplicationSample", root := "bucket_replication_sample" }
  fields := .of [
    one ReplicationPair "replication_source_destination" "pair", integer "sample_time_range",
    integer "consistent_time", one ReplicationBillingInfo "replication_billing_info",
    one StorageClassCounts "pending_to_replicate_delta", one StorageClassCounts "replicated_delta",
    one StorageClassCounts "replicated_failure_delta"]
  toVal a := (Model.toVal a.pair, a.sampleTimeRange, a.consistentTime,
    Model.toVal a.replicationBillingInfo, Model.toVal a.pendingToReplicateDelta,
    Model.toVal a.replicatedDelta, Model.toVal a.replicatedFailureDelta, ())
  ofVal := fun (pair, sampleTimeRange, consistentTime, replicationBillingInfo,
    pendingToReplicateDelta, replicatedDelta, replicatedFailureDelta, _) =>
    { pair := Model.ofVal pair, sampleTimeRange, consistentTime,
      replicationBillingInfo := Model.ofVal replicationBillingInfo,
      pendingToReplicateDelta := Model.ofVal pendingToReplicateDelta,
      replicatedDelta := Model.ofVal replicatedDelta,
      replicatedFailureDelta := Model.ofVal replicatedFailureDelta }
  ofVal_toVal _ := by simp only [Model.ofVal_toVal]

/-- How replication between several pairs of buckets went. -/
structure BucketReplicationSampleList where
  status : String := ""
  sizeUnit : String := ""
  dateTime : String := ""
  startTime : String := ""
  endTime : String := ""
  samples : List BucketReplicationSample := []
  deriving DecidableEq, Inhabited

instance : Model BucketReplicationSampleList where
  heading := { name := "BucketReplicationSampleList", root := "bucket_replication_samples" }
  fields := .of [
    text "status", text "size_unit", text "date_time", text "start_time", text "end_time",
    many BucketReplicationSample "bucket_replication_sample" "samples"]
  toVal a := (a.status, a.sizeUnit, a.dateTime, a.startTime, a.endTime, Model.toVals a.samples, ())
  ofVal := fun (status, sizeUnit, dateTime, startTime, endTime, samples, _) =>
    { status, sizeUnit, dateTime, startTime, endTime, samples := Model.ofVals samples }
  ofVal_toVal _ := by simp only [Model.ofVals_toVals]

/-- How replication to another store went over a time. -/
structure StoreReplicationSample where
  sampleTimeRange : Int64 := 0
  consistentTime : Int64 := 0
  destinationStore : String := ""
  throughput : Int64 := 0
  rto : Int64 := 0
  pendingToReplicate : StorageClassCounts := {}
  replicatedDelta : StorageClassCounts := {}
  deriving DecidableEq, Inhabited

instance : Model StoreReplicationSample where
  heading := { name := "StoreReplicationThroughputRto", root := "store_replication_throughput_rto" }
  fields := .of [
    integer "sample_time_range", integer "consistent_time", text "destination_store",
    integer "throughput", integer "rto", one StorageClassCounts "pending_to_replicate",
    one StorageClassCounts "replicated_delta"]
  toVal a := (a.sampleTimeRange, a.consistentTime, a.destinationStore, a.throughput, a.rto,
    Model.toVal a.pendingToReplicate, Model.toVal a.replicatedDelta, ())
  ofVal := fun (sampleTimeRange, consistentTime, destinationStore, throughput, rto,
    pendingToReplicate, replicatedDelta, _) =>
    { sampleTimeRange, consistentTime, destinationStore, throughput, rto,
      pendingToReplicate := Model.ofVal pendingToReplicate,
      replicatedDelta := Model.ofVal replicatedDelta }
  ofVal_toVal _ := by simp only [Model.ofVal_toVal]

/-- How replication between stores went. -/
structure StoreReplicationList where
  status : String := ""
  sizeUnit : String := ""
  dateTime : String := ""
  startTime : String := ""
  endTime : String := ""
  samples : List StoreReplicationSample := []
  deriving DecidableEq, Inhabited

instance : Model StoreReplicationList where
  heading := { name := "StoreReplicationData", root := "store_replication_list" }
  fields := .of [
    text "status", text "size_unit", text "date_time", text "start_time", text "end_time",
    many StoreReplicationSample "store_replication_throughput_rto" "samples"]
  toVal a := (a.status, a.sizeUnit, a.dateTime, a.startTime, a.endTime, Model.toVals a.samples, ())
  ofVal := fun (status, sizeUnit, dateTime, startTime, endTime, samples, _) =>
    { status, sizeUnit, dateTime, startTime, endTime, samples := Model.ofVals samples }
  ofVal_toVal _ := by simp only [Model.ofVals_toVals]

end StoreAdmin
