import StoreAdmin.Model.Alert
import StoreAdmin.Model.ApiError
import StoreAdmin.Model.Bucket
import StoreAdmin.Model.Link
import StoreAdmin.Model.Login
import StoreAdmin.Model.Metering.Account
import StoreAdmin.Model.Metering.Bucket
import StoreAdmin.Model.Metering.Count
import StoreAdmin.Model.Metering.Replication
import StoreAdmin.Model.Metering.Store
import StoreAdmin.Model.Provider
import StoreAdmin.Model.Rebuild
import StoreAdmin.Model.Replication
import StoreAdmin.Model.Tenant
import StoreAdmin.Model.User
import StoreAdmin.Proofs.Record.Legible
import StoreAdmin.Xml.Name

/-!
# The records of the service

All types of records that the service and its clients exchange, with what holds of their shapes.
-/

namespace StoreAdmin

/-- A type of records with its description. -/
structure Kind where
  carrier : Type
  [model : Model carrier]

attribute [instance] Kind.model

namespace Kind

/-- The kind of a type of records. -/
def of (α : Type) [Model α] : Kind :=
  ⟨α⟩

def shape (k : Kind) : Shape :=
  Model.shape k.carrier

/-- The kinds of records that the service and its clients exchange. -/
def all : List Kind :=
  [of AlertCondition, of AlertPolicy, of AlertPolicyList, of ApiError, of Tag, of TagSet,
   of SearchKey, of SearchMetadata, of RetentionBounds, of Bucket, of BucketList,
   of BucketQuotaInfo, of BucketQuotaUpdate, of Link, of LoginRequest, of LoginResponse,
   of ServiceProvider, of ServiceProviderCreation, of RebuildInfo, of ReplicationConfig,
   of Tenant, of TenantList, of TenantCreation, of TenantUpdate, of TenantQuota,
   of TenantQuotaUpdate, of UserEntry, of UserList, of UserInfo, of UserSecrets,
   of SecretKeyCreation, of CreatedSecretKey, of SecretKeyDeletion, of ObjectCounts,
   of StorageClassCount, of StorageClassCounts, of AccountBillingInfo,
   of AccountBillingInfoList, of AccountBillingSample, of AccountBillingSampleList,
   of BucketBillingInfo, of BucketBillingInfoList, of BucketTraffic, of BucketBillingSample,
   of BucketBillingSampleList, of BucketPerformanceSample, of BucketPerformanceList,
   of ReplicationPair, of ReplicationBillingInfo, of ReplicationBillingList,
   of BucketReplicationSample, of BucketReplicationSampleList, of StoreReplicationSample,
   of StoreReplicationList, of RankedBucket, of RankedBuckets, of StoreBillingInfo,
   of StoreBillingReport, of StoreBillingSample, of StoreBillingSampleList]

/-- Whether no member of a record, however deep, is a ratio. -/
def isExact (k : Kind) : Bool :=
  k.shape.every fun s => !s matches .ratio

theorem isLegible_of_mem :
    ∀ k ∈ all, k.isExact = true → k.shape.every Shape.isLegible = true := by
  have hall : all.all (fun k => !k.isExact || k.shape.every Shape.isLegible) = true := by
    decide +kernel
  intro k hk hexact
  simpa [hexact] using List.all_eq_true.mp hall k hk

theorem isNamed_of_mem : ∀ k ∈ all, k.shape.every Shape.isNamed = true := by
  have hall : all.all (fun k => k.shape.every Shape.isNamed) = true := by
    decide +kernel
  exact List.all_eq_true.mp hall

/-- Roots have names that may be written. -/
theorem isWritableName_of_mem : ∀ k ∈ all, (Model.heading k.carrier).root ≠ "" ∧
    Xml.isWritableName (Model.heading k.carrier).root.toList = true := by
  have hall : all.all (fun k => (Model.heading k.carrier).root ≠ "" &&
      Xml.isWritableName (Model.heading k.carrier).root.toList) = true := by
    decide +kernel
  intro k hk
  simpa using List.all_eq_true.mp hall k hk

/-- A single kind has a field that does not travel. -/
theorem isShared_of_mem : ∀ k ∈ all, k ≠ of BucketQuotaUpdate →
    k.shape.every Shape.isShared = true := by
  have hall : all.filter (fun k => !k.shape.every Shape.isShared) = [of BucketQuotaUpdate] := rfl
  intro k hk hne
  by_contra hlocal
  have hmem : k ∈ all.filter (fun k => !k.shape.every Shape.isShared) :=
    List.mem_filter.mpr ⟨hk, by simpa using hlocal⟩
  rw [hall, List.mem_singleton] at hmem
  exact hne hmem

end Kind
end StoreAdmin
