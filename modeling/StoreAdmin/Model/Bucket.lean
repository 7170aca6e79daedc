import StoreAdmin.Record.Shape
import StoreAdmin.Model.Link

/-!
# Buckets

Buckets with their settings, pages of buckets, and quotas.
-/

namespace StoreAdmin

open Entry

/-- A tag: a key with a value. -/
structure Tag where
  key : String := ""
  value : String := ""
  deriving DecidableEq, Inhabited

instance : Model Tag where
  heading := { name := "Tag" }
  fields := .of [
    text "Key" "key", text "Value" "value"]
  toVal a := (a.key, a.value, ())
  ofVal := fun (key, value, _) =>
    { key, value }
  ofVal_toVal _ := rfl

/-- The tags of a bucket. -/
structure TagSet where
  tags : List Tag := []
  deriving DecidableEq, Inhabited

instance : Model TagSet where
  heading := { name := "TagSet" }
  fields := .of [
    many Tag "Tag" "tags"]
  toVal a := (Model.toVals a.tags, ())
  ofVal := fun (tags, _) =>
    { tags := Model.ofVals tags }
  ofVal_toVal _ := by simp only [Model.ofVals_toVals]

/-- A metadata key that objects can be searched by. -/
structure SearchKey where
  kind : String := ""
  name : String := ""
  datatype : String := ""
  deriving DecidableEq, Inhabited

instance : Model SearchKey where
  heading := { name := "Metadata" }
  fields := .of [
    text "type" "kind", text "name", text "datatype"]
  toVal a := (a.kind, a.name, a.datatype, ())
  ofVal := fun (kind, name, datatype, _) =>
    { kind, name, datatype }
  ofVal_toVal _ := rfl

/-- Whether objects can be searched by their metadata, and by which. -/
structure SearchMetadata where
  enabled : Bool := false
  maxKeys : Int64 := 0
  metadata : List SearchKey := []
  deriving DecidableEq, Inhabited

instance : Model SearchMetadata where
  heading := { name := "SearchMetadata" }
  fields := .of [
    flag "isEnabled" "enabled", integer "maxKeys" "max_keys", many SearchKey "metadata"]
  toVal a := (a.enabled, a.maxKeys, Model.toVals a.metadata, ())
  ofVal := fun (enabled, maxKeys, metadata, _) =>
    { enabled, maxKeys, metadata := Model.ofVals metadata }
  ofVal_toVal _ := by simp only [Model.ofVals_toVals]

/-- The bounds of the retention periods of objects. -/
structure RetentionBounds where
  enforceRetention : Bool := false
  minimumFixedRetention : Int64 := 0
  minimumVariableRetention : Int64 := 0
  maximumFixedRetention : Int64 := 0
  maximumVariableRetention : Int64 := 0
  deriving DecidableEq, Inhabited

instance : Model RetentionBounds where
  heading := { name := "MinMaxGovernor" }
  fields := .of [
    flag "enforce_retention", integer "minimum_fixed_retention",
    integer "minimum_variable_retention", integer "maximum_fixed_retention",
    integer "maximum_variable_retention"]
  toVal a := (a.enforceRetention, a.minimumFixedRetention, a.minimumVariableRetention,
    a.maximumFixedRetention, a.maximumVariableRetention, ())
  ofVal := fun (enforceRetention, minimumFixedRetention, minimumVariableRetention,
    maximumFixedRetention, maximumVariableRetention, _) =>
    { enforceRetention, minimumFixedRetention, minimumVariableRetention, maximumFixedRetention,
      maximumVariableRetention }
  ofVal_toVal _ := rfl

/-- A bucket with its settings. -/
structure Bucket where
  apiType : String := ""
  auditDeleteExpiration : Int64 := 0
  created : String := ""
  id : String := ""
  name : String := ""
  encryptionEnabled : Bool := false
  softquota : String := ""
  fsEnabled : Bool := false
  locked : Bool := false
  replicationGroup : String := ""
  namespaceName : String := ""
  owner : String := ""
  staleAllowed : Bool := false
  tsoReadOnly : Bool := false
  defaultRetention : Int64 := 0
  blockSize : Int64 := 0
  notificationSize : Int64 := 0
  tags : TagSet := {}
  retention : Int64 := 0
  defaultGroupFileReadPermission : Bool := false
  defaultGroupFileWritePermission : Bool := false
  defaultGroupFileExecutePermission : Bool := false
  defaultGroupDirReadPermission : Bool := false
  defaultGroupDirWritePermission : Bool := false
  defaultGroupDirExecutePermission : Bool := false
  defaultGroup : String := ""
  searchMetadata : SearchMetadata := {}
  minMaxGovenor : RetentionBounds := {}
  deriving DecidableEq, Inhabited

instance : Model Bucket where
  heading := { name := "Bucket", root := "object_bucket" }
  fields := .of [
    text "api_type", integer "audit_delete_expiration", text "created", text "id", text "name",
    flag "is_encryption_enabled" "encryption_enabled", text "softquota",
    flag "fs_access_enabled" "fs_enabled", flag "locked", text "vpool" "replication_group",
    text "namespace", text "owner", flag "is_stale_allowed" "stale_allowed",
    flag "is_tso_read_only" "tso_read_only", integer "default_retention", integer "block_size",
    integer "notification_size", one TagSet "TagSet" "tags", integer "retention",
    flag "default_group_file_read_permission", flag "default_group_file_write_permission",
    flag "default_group_file_execute_permission", flag "default_group_dir_read_permission",
    flag "default_group_dir_write_permission", flag "default_group_dir_execute_permission",
    (text "default_group").unlessEmpty, one SearchMetadata "search_metadata",
    one RetentionBounds "min_max_govenor"]
  toVal a := (a.apiType, a.auditDeleteExpiration, a.created, a.id, a.name, a.encryptionEnabled,
    a.softquota, a.fsEnabled, a.locked, a.replicationGroup, a.namespaceName, a.owner,
    a.staleAllowed, a.tsoReadOnly, a.defaultRetention, a.blockSize, a.notificationSize,
    Model.toVal a.tags, a.retention, a.defaultGroupFileReadPermission,
    a.defaultGroupFileWritePermission, a.defaultGroupFileExecutePermission,
    a.defaultGroupDirReadPermission, a.defaultGroupDirWritePermission,
    a.defaultGroupDirExecutePermission, a.defaultGroup, Model.toVal a.searchMetadata,
    Model.toVal a.minMaxGovenor, ())
  ofVal := fun (apiType, auditDeleteExpiration, created, id, name, encryptionEnabled, softquota,
    fsEnabled, locked, replicationGroup, namespaceName, owner, staleAllowed, tsoReadOnly,
    defaultRetention, blockSize, notificationSize, tags, retention, defaultGroupFileReadPermission,
    defaultGroupFileWritePermission, defaultGroupFileExecutePermission,
    defaultGroupDirReadPermission, defaultGroupDirWritePermission, defaultGroupDirExecutePermission,
    defaultGroup, searchMetadata, minMaxGovenor, _) =>
    { apiType, auditDeleteExpiration, created, id, name, encryptionEnabled, softquota, fsEnabled,
      locked, replicationGroup, namespaceName, owner, staleAllowed, tsoReadOnly, defaultRetention,
      blockSize, notificationSize, tags := Model.ofVal tags, retention,
      defaultGroupFileReadPermission, defaultGroupFileWritePermission,
      defaultGroupFileExecutePermission, defaultGroupDirReadPermission,
      defaultGroupDirWritePermission, defaultGroupDirExecutePermission, defaultGroup,
      searchMetadata := Model.ofVal searchMetadata, minMaxGovenor := Model.ofVal minMaxGovenor }
  ofVal_toVal _ := by simp only [Model.ofVal_toVal]

/-- One page of buckets. -/
structure BucketList where
  items : List Bucket := []
  maxBuckets : Int64 := 0
  nextMarker : String := ""
  filter : String := ""
  nextPageLink : String := ""
  deriving DecidableEq, Inhabited

instance : Model BucketList where
  heading := { name := "BucketList", root := "object_buckets" }
  fields := .of [
    many Bucket "object_bucket" "items", integer "max_buckets", text "next_marker",
    text "Filter" "filter", text "next_page_link"]
  toVal a := (Model.toVals a.items, a.maxBuckets, a.nextMarker, a.filter, a.nextPageLink, ())
  ofVal := fun (items, maxBuckets, nextMarker, filter, nextPageLink, _) =>
    { items := Model.ofVals items, maxBuckets, nextMarker, filter, nextPageLink }
  ofVal_toVal _ := by simp only [Model.ofVals_toVals]

/-- The quota of a bucket. -/
structure BucketQuotaInfo where
  bucketName : String := ""
  namespaceName : String := ""
  blockSize : Int64 := 0
  notificationSize : Int64 := 0
  link : Link := {}
  deriving DecidableEq, Inhabited

instance : Model BucketQuotaInfo where
  heading := { name := "BucketQuotaInfo", root := "bucket_quota_details" }
  fields := .of [
    text "bucketname" "bucket_name", text "namespace", integer "blockSize" "block_size",
    integer "notificationSize" "notification_size", one Link "link"]
  toVal a := (a.bucketName, a.namespaceName, a.blockSize, a.notificationSize, Model.toVal a.link,
    ())
  ofVal := fun (bucketName, namespaceName, blockSize, notificationSize, link, _) =>
    { bucketName, namespaceName, blockSize, notificationSize, link := Model.ofVal link }
  ofVal_toVal _ := by simp only [Model.ofVal_toVal]

/-- A new quota for a bucket. The name of the bucket is part of the path, not of the document. -/
structure BucketQuotaUpdate where
  bucketName : String := ""
  namespaceName : String := ""
  blockSize : Int64 := 0
  notificationSize : Int64 := 0
  deriving DecidableEq, Inhabited

instance : Model BucketQuotaUpdate where
  heading := { name := "BucketQuotaUpdate", root := "bucket_quota_param" }
  fields := .of [
    (text "bucket_name").unwritten, text "namespace", integer "blockSize" "block_size",
    integer "notificationSize" "notification_size"]
  toVal a := (a.bucketName, a.namespaceName, a.blockSize, a.notificationSize, ())
  ofVal := fun (bucketName, namespaceName, blockSize, notificationSize, _) =>
    { bucketName, namespaceName, blockSize, notificationSize }
  ofVal_toVal _ := rfl

end StoreAdmin
