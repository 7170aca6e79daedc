import StoreAdmin.Resource.Operation

/-!
# The interface of the clients

Every operation has one kind of result.  Most results are records, each of a type of its own; the
policy of a bucket is a text, and most operations that change or delete something have no result.
-/

namespace StoreAdmin.Operation

/-- What an operation gives whoever performs it.  A listing gives the list, a look at a resource
and its creation give the resource, and a deletion gives nothing. -/
inductive Gives : Operation → Expected → Prop
  -- buckets
  | buckets (params : Params) : Gives (bucket (.list params)) (.record BucketList)
  | foundBucket (name : String) (params : Params) :
      Gives (bucket (.get name params)) (.record Bucket)
  | createdBucket (b : Bucket) : Gives (bucket (.create b)) (.record Bucket)
  | deletedBucket (name namespaceName : String) (emptied : Bool) :
      Gives (bucket (.delete name namespaceName emptied)) .nothing
  | policy (name : String) (params : Params) : Gives (bucket (.getPolicy name params)) .text
  | updatedPolicy (name policy : String) (params : Params) :
      Gives (bucket (.updatePolicy name policy params)) .nothing
  | deletedPolicy (name : String) (params : Params) :
      Gives (bucket (.deletePolicy name params)) .nothing
  | bucketQuota (name namespaceName : String) :
      Gives (bucket (.getQuota name namespaceName)) (.record BucketQuotaInfo)
  | updatedBucketQuota (quota : BucketQuotaUpdate) :
      Gives (bucket (.updateQuota quota)) .nothing
  | deletedBucketQuota (name namespaceName : String) :
      Gives (bucket (.deleteQuota name namespaceName)) .nothing
  -- tenants
  | tenants (params : Params) : Gives (tenant (.list params)) (.record TenantList)
  | foundTenant (id : String) (params : Params) :
      Gives (tenant (.get id params)) (.record Tenant)
  | createdTenant (t : TenantCreation) : Gives (tenant (.create t)) (.record Tenant)
  | deletedTenant (id : String) : Gives (tenant (.delete id)) .nothing
  | updatedTenant (id : String) (t : TenantUpdate) : Gives (tenant (.update id t)) .nothing
  | tenantQuota (id : String) (params : Params) :
      Gives (tenant (.getQuota id params)) (.record TenantQuota)
  | setTenantQuota (id : String) (quota : TenantQuotaUpdate) :
      Gives (tenant (.setQuota id quota)) .nothing
  | deletedTenantQuota (id : String) : Gives (tenant (.deleteQuota id)) .nothing
  -- users
  | users (params : Params) : Gives (user (.list params)) (.record UserList)
  | userInfo (uid : String) (params : Params) :
      Gives (user (.getInfo uid params)) (.record UserInfo)
  | userSecrets (uid : String) (params : Params) :
      Gives (user (.getSecret uid params)) (.record UserSecrets)
  | createdSecret (uid : String) (key : SecretKeyCreation) (params : Params) :
      Gives (user (.createSecret uid key params)) (.record CreatedSecretKey)
  | deletedSecret (uid : String) (key : SecretKeyDeletion) (params : Params) :
      Gives (user (.deleteSecret uid key params)) .nothing
  -- alert policies, which are also given back when they are updated
  | alerts (params : Params) : Gives (alert (.list params)) (.record AlertPolicyList)
  | foundAlert (name : String) : Gives (alert (.get name)) (.record AlertPolicy)
  | createdAlert (a : AlertPolicy) : Gives (alert (.create a)) (.record AlertPolicy)
  | updatedAlert (name : String) (a : AlertPolicy) :
      Gives (alert (.update name a)) (.record AlertPolicy)
  | deletedAlert (name : String) : Gives (alert (.delete name)) .nothing
  -- metering
  | accountInfo (ids : List String) (params : Params) :
      Gives (metering (.accountInfo ids params)) (.record AccountBillingInfoList)
  | accountSample (ids : List String) (params : Params) :
      Gives (metering (.accountSample ids params)) (.record AccountBillingSampleList)
  | bucketInfo (account : String) (ids : List String) (params : Params) :
      Gives (metering (.bucketInfo account ids params)) (.record BucketBillingInfoList)
  | bucketSample (account : String) (ids : List String) (params : Params) :
      Gives (metering (.bucketSample account ids params)) (.record BucketBillingSampleList)
  | bucketPerformance (account : String) (ids : List String) (params : Params) :
      Gives (metering (.bucketPerformance account ids params)) (.record BucketPerformanceList)
  | replicationInfo (account : String) (ids : List ReplicationId) (params : Params) :
      Gives (metering (.replicationInfo account ids params)) (.record ReplicationBillingList)
  | replicationSample (account : String) (ids : List ReplicationId) (params : Params) :
      Gives (metering (.replicationSample account ids params))
        (.record BucketReplicationSampleList)
  | storeInfo (params : Params) :
      Gives (metering (.storeInfo params)) (.record StoreBillingReport)
  | storeSample (params : Params) :
      Gives (metering (.storeSample params)) (.record StoreBillingSampleList)
  | storeReplication (ids : List String) (params : Params) :
      Gives (metering (.storeReplication ids params)) (.record StoreReplicationList)
  -- replications
  | controlled (action : ReplicationAction) (scale store : String) (params : Params) :
      Gives (replication (.control action scale store params)) .nothing
  | foundReplication (scale store : String) (params : Params) :
      Gives (replication (.get scale store params)) (.record ReplicationConfig)
  -- rebuilds and the service provider
  | rebuildStatus (store pod podNamespace level : String) (params : Params) :
      Gives (rebuild (.status store pod podNamespace level params)) (.record RebuildInfo)
  | foundProvider (params : Params) :
      Gives (provider (.get params)) (.record ServiceProvider)
  | createdProvider (p : ServiceProviderCreation) :
      Gives (provider (.create p)) (.record ServiceProvider)
  | deletedProvider : Gives (provider .delete) .nothing

theorem gives_expected (o : Operation) : o.Gives o.expected := by
  cases o with
  | bucket o => cases o <;> constructor
  | tenant o => cases o <;> constructor
  | user o => cases o <;> constructor
  | alert o => cases o <;> constructor
  | metering o => cases o <;> constructor
  | replication o => cases o <;> constructor
  | rebuild o =>
      cases o
      constructor
  | provider o => cases o <;> constructor

/-- An operation gives what it expects and nothing else. -/
theorem gives_iff (o : Operation) (e : Expected) : o.Gives e ↔ e = o.expected := by
  constructor
  · intro hgives
    cases hgives <;> rfl
  · rintro rfl
    exact gives_expected o

end StoreAdmin.Operation
