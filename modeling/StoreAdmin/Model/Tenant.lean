import StoreAdmin.Record.Shape

/-!
# Tenants

Tenants and their quotas. Settings that are not given are left out of what is sent.
-/

namespace StoreAdmin

open Entry

/-- A tenant. -/
structure Tenant where
  id : String := ""
  encryptionEnabled : Bool := false
  complianceEnabled : Bool := false
  replicationGroup : String := ""
  bucketBlockSize : Int64 := 0
  deriving DecidableEq, Inhabited

instance : Model Tenant where
  heading := { name := "Tenant", root := "tenant" }
  fields := .of [
    (text "id").unlessEmpty, flag "is_encryption_enabled" "encryption_enabled",
    flag "is_compliance_enabled" "compliance_enabled",
    (text "default_data_services_vpool" "replication_group").unlessEmpty,
    (integer "default_bucket_block_size" "bucket_block_size").unlessEmpty]
  toVal a := (a.id, a.encryptionEnabled, a.complianceEnabled, a.replicationGroup, a.bucketBlockSize,
    ())
  ofVal := fun (id, encryptionEnabled, complianceEnabled, replicationGroup, bucketBlockSize, _) =>
    { id, encryptionEnabled, complianceEnabled, replicationGroup, bucketBlockSize }
  ofVal_toVal _ := rfl

/-- Tenants. -/
structure TenantList where
  items : List Tenant := []
  deriving DecidableEq, Inhabited

instance : Model TenantList where
  heading := { name := "TenantList", root := "tenants" }
  fields := .of [
    many Tenant "tenant" "items"]
  toVal a := (Model.toVals a.items, ())
  ofVal := fun (items, _) =>
    { items := Model.ofVals items }
  ofVal_toVal _ := by simp only [Model.ofVals_toVals]

/-- A tenant to be created. -/
structure TenantCreation where
  accountId : String := ""
  encryptionEnabled : Bool := false
  complianceEnabled : Bool := false
  replicationGroup : String := ""
  bucketBlockSize : Int64 := 0
  deriving DecidableEq, Inhabited

instance : Model TenantCreation where
  heading := { name := "TenantCreate", root := "tenant_create" }
  fields := .of [
    text "account_id", flag "is_encryption_enabled" "encryption_enabled",
    flag "is_compliance_enabled" "compliance_enabled",
    (text "default_data_services_vpool" "replication_group").unlessEmpty,
    (integer "default_bucket_block_size" "bucket_block_size").unlessEmpty]
  toVal a := (a.accountId, a.encryptionEnabled, a.complianceEnabled, a.replicationGroup,
    a.bucketBlockSize, ())
  ofVal := fun (accountId, encryptionEnabled, complianceEnabled, replicationGroup, bucketBlockSize,
    _) =>
    { accountId, encryptionEnabled, complianceEnabled, replicationGroup, bucketBlockSize }
  ofVal_toVal _ := rfl

/-- New settings of a tenant. -/
structure TenantUpdate where
  bucketBlockSize : Int64 := 0
  replicationGroup : String := ""
  deriving DecidableEq, Inhabited

instance : Model TenantUpdate where
  heading := { name := "TenantUpdate", root := "tenant_update" }
  fields := .of [
    integer "default_bucket_block_size" "bucket_block_size",
    (text "default_data_services_vpool" "replication_group").unlessEmpty]
  toVal a := (a.bucketBlockSize, a.replicationGroup, ())
  ofVal := fun (bucketBlockSize, replicationGroup, _) =>
    { bucketBlockSize, replicationGroup }
  ofVal_toVal _ := rfl

/-- The quota of a tenant. -/
structure TenantQuota where
  blockSize : String := ""
  notificationSize : String := ""
  id : String := ""
  deriving DecidableEq, Inhabited

instance : Model TenantQuota where
  heading := { name := "TenantQuota", root := "tenant_quota_details" }
  fields := .of [
    text "blockSize" "block_size", text "notificationSize" "notification_size", text "id"]
  toVal a := (a.blockSize, a.notificationSize, a.id, ())
  ofVal := fun (blockSize, notificationSize, id, _) =>
    { blockSize, notificationSize, id }
  ofVal_toVal _ := rfl

/-- A new quota for a tenant. -/
structure TenantQuotaUpdate where
  blockSize : String := ""
  notificationSize : String := ""
  deriving DecidableEq, Inhabited

instance : Model TenantQuotaUpdate where
  heading := { name := "TenantQuotaSet", root := "tenant_quota_update" }
  fields := .of [
    text "blockSize" "block_size", text "notificationSize" "notification_size"]
  toVal a := (a.blockSize, a.notificationSize, ())
  ofVal := fun (blockSize, notificationSize, _) =>
    { blockSize, notificationSize }
  ofVal_toVal _ := rfl

end StoreAdmin
