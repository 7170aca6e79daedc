import StoreAdmin.Record.Shape
import StoreAdmin.Model.Metering.Count

/-!
# Metering of accounts

What accounts hold, and how it changed.
-/

namespace StoreAdmin

open Entry

/-- The objects of an account. -/
structure AccountBillingInfo where
  accountId : String := ""
  consistentTime : Int64 := 0
  totalUserObjectMetric : StorageClassCounts := {}
  totalMpuMetric : StorageClassCounts := {}
  totalReplicaObjectMetric : StorageClassCounts := {}
  deriving DecidableEq, Inhabited

instance : Model AccountBillingInfo where
  heading := { name := "AccountBillingInfo", root := "account_billing_objmt_info" }
  fields := .of [
    text "account_id", integer "consistent_time", one StorageClassCounts "total_user_object_metric",
    one StorageClassCounts "total_mpu_metric", one StorageClassCounts "total_replica_object_metric"]
  toVal a := (a.accountId, a.consistentTime, Model.toVal a.totalUserObjectMetric,
    Model.toVal a.totalMpuMetric, Model.toVal a.totalReplicaObjectMetric, ())
  ofVal := fun (accountId, consistentTime, totalUserObjectMetric, totalMpuMetric,
    totalReplicaObjectMetric, _) =>
    { accountId, consistentTime, totalUserObjectMetric := Model.ofVal totalUserObjectMetric,
      totalMpuMetric := Model.ofVal totalMpuMetric,
      totalReplicaObjectMetric := Model.ofVal totalReplicaObjectMetric }
  ofVal_toVal _ := by simp only [Model.ofVal_toVal]

/-- The objects of several accounts. -/
structure AccountBillingInfoList where
  status : String := ""
  sizeUnit : String := ""
  dateTime : String := ""
  info : List AccountBillingInfo := []
  deriving DecidableEq, Inhabited

instance : Model AccountBillingInfoList where
  heading := { name := "AccountBillingInfoList", root := "account_billing_objmt_infos" }
  fields := .of [
    text "status", text "size_unit", text "date_time",
    many AccountBillingInfo "account_billing_objmt_info" "info"]
  toVal a := (a.status, a.sizeUnit, a.dateTime, Model.toVals a.info, ())
  ofVal := fun (status, sizeUnit, dateTime, info, _) =>
    { status, sizeUnit, dateTime, info := Model.ofVals info }
  ofVal_toVal _ := by simp only [Model.ofVals_toVals]

/-- How the objects of an account changed over a time. -/
structure AccountBillingSample where
  accountId : String := ""
  startTime : String := ""
  endTime : String := ""
  sampleTimeRange : Int64 := 0
  consistentTime : Int64 := 0
  accountBillingInfo : AccountBillingInfo := {}
  userCreationDelta : StorageClassCounts := {}
  userDeletionDelta : StorageClassCounts := {}
  mpuCreateDelta : StorageClassCounts := {}
  mpuDeleteDelta : StorageClassCounts := {}
  replicaCreationDelta : StorageClassCounts := {}
  replicaDeletionDelta : StorageClassCounts := {}
  deriving DecidableEq, Inhabited

instance : Model AccountBillingSample where
  heading := { name := "AccountBillingSample", root := "account_billing_objmt_sample" }
  fields := .of [
    text "account_id", text "start_time", text "end_time", integer "sample_time_range",
    integer "consistent_time",
    one AccountBillingInfo "account_billing_objmt_info" "account_billing_info",
    one StorageClassCounts "user_creation_delta", one StorageClassCounts "user_deletion_delta",
    one StorageClassCounts "mpu_create_delta", one StorageClassCounts "mpu_delete_delta",
    one StorageClassCounts "replica_creation_delta",
    one StorageClassCounts "replica_deletion_delta"]
  toVal a := (a.accountId, a.startTime, a.endTime, a.sampleTimeRange, a.consistentTime,
    Model.toVal a.accountBillingInfo, Model.toVal a.userCreationDelta,
    Model.toVal a.userDeletionDelta, Model.toVal a.mpuCreateDelta, Model.toVal a.mpuDeleteDelta,
    Model.toVal a.replicaCreationDelta, Model.toVal a.replicaDeletionDelta, ())
  ofVal := fun (accountId, startTime, endTime, sampleTimeRange, consistentTime, accountBillingInfo,
    userCreationDelta, userDeletionDelta, mpuCreateDelta, mpuDeleteDelta, replicaCreationDelta,
    replicaDeletionDelta, _) =>
    { accountId, startTime, endTime, sampleTimeRange, consistentTime,
      accountBillingInfo := Model.ofVal accountBillingInfo,
      userCreationDelta := Model.ofVal userCreationDelta,
      userDeletionDelta := Model.ofVal userDeletionDelta,
      mpuCreateDelta := Model.ofVal mpuCreateDelta, mpuDeleteDelta := Model.ofVal mpuDeleteDelta,
      replicaCreationDelta := Model.ofVal replicaCreationDelta,
      replicaDeletionDelta := Model.ofVal replicaDeletionDelta }
  ofVal_toVal _ := by simp only [Model.ofVal_toVal]

/-- How the objects of several accounts changed. -/
structure AccountBillingSampleList where
  status : String := ""
  sizeUnit : String := ""
  dateTime : String := ""
  startTime : String := ""
  endTime : String := ""
  samples : List AccountBillingSample := []
  deriving DecidableEq, Inhabited

instance : Model AccountBillingSampleList where
  heading := { name := "AccountBillingSampleList", root := "account_billing_objmt_samples" }
  fields := .of [
    text "status", text "size_unit", text "date_time", text "start_time", text "end_time",
    many AccountBillingSample "account_billing_objmt_sample" "samples"]
  toVal a := (a.status, a.sizeUnit, a.dateTime, a.startTime, a.endTime, Model.toVals a.samples, ())
  ofVal := fun (status, sizeUnit, dateTime, startTime, endTime, samples, _) =>
    { status, sizeUnit, dateTime, startTime, endTime, samples := Model.ofVals samples }
  ofVal_toVal _ := by simp only [Model.ofVals_toVals]

end StoreAdmin
