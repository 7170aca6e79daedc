import StoreAdmin.Model.Metering.Account
import StoreAdmin.Model.Metering.Bucket
import StoreAdmin.Model.Metering.Replication
import StoreAdmin.Model.Metering.Store
import StoreAdmin.Resource.Expected

/-!
# Metering operations

What is asked about is listed in the body, although nothing is changed.
-/

namespace StoreAdmin

open Entry

/-- The accounts, buckets or stores that are asked about. -/
structure IdList where
  ids : List String := []
  deriving DecidableEq, Inhabited

instance : Model IdList where
  heading := { name := "IdList" }
  fields := .of [texts "id" "ids"]
  toVal a := (a.ids, ())
  ofVal := fun (ids, _) => { ids }
  ofVal_toVal _ := rfl

/-- A replication: from where and to where. -/
structure ReplicationId where
  source : String := ""
  target : String := ""
  deriving DecidableEq, Inhabited

instance : Model ReplicationId where
  heading := { name := "ReplicationIds" }
  fields := .of [text "src", text "dest"]
  toVal a := (a.source, a.target, ())
  ofVal := fun (source, target, _) => { source, target }
  ofVal_toVal _ := rfl

/-- The replications that are asked about. -/
structure ReplicationIdList where
  replications : List ReplicationId := []
  deriving DecidableEq, Inhabited

instance : Model ReplicationIdList where
  heading := { name := "ReplicationList" }
  fields := .of [many ReplicationId "replication"]
  toVal a := (Model.toVals a.replications, ())
  ofVal := fun (replications, _) => { replications := Model.ofVals replications }
  ofVal_toVal _ := by simp only [Model.ofVals_toVals]

/-- A question about the use of a store. -/
inductive MeteringOperation where
  | accountInfo (ids : List String) (params : Params)
  | accountSample (ids : List String) (params : Params)
  | bucketInfo (account : String) (ids : List String) (params : Params)
  | bucketSample (account : String) (ids : List String) (params : Params)
  | bucketPerformance (account : String) (ids : List String) (params : Params)
  | replicationInfo (account : String) (replications : List ReplicationId) (params : Params)
  | replicationSample (account : String) (replications : List ReplicationId) (params : Params)
  | storeInfo (params : Params)
  | storeSample (params : Params)
  | storeReplication (ids : List String) (params : Params)

namespace MeteringOperation

/-- The segments of what belongs to an account. -/
def segments (account topic kind : String) : List String :=
  ["object", "mt", "account", account, topic, kind]

/-- A request that carries a list under a root. -/
def asking {α : Type} [Model α] (segments : List String) (root : String) (a : α)
    (params : Params) : Except Error Request := do
  return ((Request.post segments).withParams params).withBody (← Body.xmlUnder root a)

/-- The request of an operation. -/
def request : MeteringOperation → Except Error Request
  | .accountInfo ids params =>
    asking ["object", "mt", "account", "info"] "account_list" ({ ids } : IdList) params
  | .accountSample ids params =>
    asking ["object", "mt", "account", "sample"] "account_list" ({ ids } : IdList) params
  | .bucketInfo account ids params =>
    asking (segments account "bucket" "info") "bucket_list" ({ ids } : IdList) params
  | .bucketSample account ids params =>
    asking (segments account "bucket" "sample") "bucket_list" ({ ids } : IdList) params
  | .bucketPerformance account ids params =>
    asking (segments account "bucket" "perf") "bucket_list" ({ ids } : IdList) params
  | .replicationInfo account replications params =>
    asking (segments account "replication" "info") "replication_list"
      ({ replications } : ReplicationIdList) params
  | .replicationSample account replications params =>
    asking (segments account "replication" "sample") "replication_list"
      ({ replications } : ReplicationIdList) params
  | .storeInfo params => .ok ((Request.get ["object", "mt", "store", "info"]).withParams params)
  | .storeSample params => .ok ((Request.get ["object", "mt", "store", "sample"]).withParams params)
  | .storeReplication ids params =>
    asking ["object", "mt", "store", "replication"] "store_list" ({ ids } : IdList) params

/-- What an operation returns. -/
def expected : MeteringOperation → Expected
  | .accountInfo _ _ => .record AccountBillingInfoList
  | .accountSample _ _ => .record AccountBillingSampleList
  | .bucketInfo _ _ _ => .record BucketBillingInfoList
  | .bucketSample _ _ _ => .record BucketBillingSampleList
  | .bucketPerformance _ _ _ => .record BucketPerformanceList
  | .replicationInfo _ _ _ => .record ReplicationBillingList
  | .replicationSample _ _ _ => .record BucketReplicationSampleList
  | .storeInfo _ => .record StoreBillingReport
  | .storeSample _ => .record StoreBillingSampleList
  | .storeReplication _ _ => .record StoreReplicationList

end MeteringOperation
end StoreAdmin
