import StoreAdmin.Record.Shape
import StoreAdmin.Model.Link

/-!
# Users

Users of the object interface and their secret keys.
-/

namespace StoreAdmin

open Entry

/-- A user in a list. -/
structure UserEntry where
  userId : String := ""
  namespaceName : String := ""
  deriving DecidableEq, Inhabited

instance : Model UserEntry where
  heading := { name := "BlobUser" }
  fields := .of [
    text "userid" "user_id", text "namespace"]
  toVal a := (a.userId, a.namespaceName, ())
  ofVal := fun (userId, namespaceName, _) =>
    { userId, namespaceName }
  ofVal_toVal _ := rfl

/-- Users. -/
structure UserList where
  blobUser : List UserEntry := []
  deriving DecidableEq, Inhabited

instance : Model UserList where
  heading := { name := "ObjectUserList" }
  fields := .of [
    many UserEntry "blobuser" "blob_user"]
  toVal a := (Model.toVals a.blobUser, ())
  ofVal := fun (blobUser, _) =>
    { blobUser := Model.ofVals blobUser }
  ofVal_toVal _ := by simp only [Model.ofVals_toVals]

/-- What is known of a user. -/
structure UserInfo where
  namespaceName : String := ""
  name : String := ""
  locked : Bool := false
  created : String := ""
  tags : List String := []
  deriving DecidableEq, Inhabited

instance : Model UserInfo where
  heading := { name := "ObjectUserInfo" }
  fields := .of [
    text "namespace", text "name", flag "locked", text "created", texts "tags"]
  toVal a := (a.namespaceName, a.name, a.locked, a.created, a.tags, ())
  ofVal := fun (namespaceName, name, locked, created, tags, _) =>
    { namespaceName, name, locked, created, tags }
  ofVal_toVal _ := rfl

/-- The two secret keys of a user with their times. -/
structure UserSecrets where
  secretKey1 : String := ""
  keyTimestamp1 : String := ""
  keyExpiryTimestamp1 : String := ""
  secretKey2 : String := ""
  keyTimestamp2 : String := ""
  keyExpiryTimestamp2 : String := ""
  link : Link := {}
  deriving DecidableEq, Inhabited

instance : Model UserSecrets where
  heading := { name := "ObjectUserSecret", partlyShown := true }
  fields := .of [
    (text "secret_key_1" "secret_key1").hidden, text "key_timestamp_1" "key_timestamp1",
    text "key_expiry_timestamp_1" "key_expiry_timestamp1",
    (text "secret_key_2" "secret_key2").hidden, text "key_timestamp_2" "key_timestamp2",
    text "key_expiry_timestamp_2" "key_expiry_timestamp2", one Link "link"]
  toVal a := (a.secretKey1, a.keyTimestamp1, a.keyExpiryTimestamp1, a.secretKey2, a.keyTimestamp2,
    a.keyExpiryTimestamp2, Model.toVal a.link, ())
  ofVal := fun (secretKey1, keyTimestamp1, keyExpiryTimestamp1, secretKey2, keyTimestamp2,
    keyExpiryTimestamp2, link, _) =>
    { secretKey1, keyTimestamp1, keyExpiryTimestamp1, secretKey2, keyTimestamp2,
      keyExpiryTimestamp2, link := Model.ofVal link }
  ofVal_toVal _ := by simp only [Model.ofVal_toVal]

/-- A secret key to be created. -/
structure SecretKeyCreation where
  secretKey : String := ""
  namespaceName : String := ""
  existingKeyExpTime : String := ""
  deriving DecidableEq, Inhabited

instance : Model SecretKeyCreation where
  heading := { name := "ObjectUserSecretKeyCreateReq" }
  fields := .of [
    text "secretkey" "secret_key", text "namespace",
    (text "existing_key_expiry_time_mins" "existing_key_exp_time").unlessEmpty]
  toVal a := (a.secretKey, a.namespaceName, a.existingKeyExpTime, ())
  ofVal := fun (secretKey, namespaceName, existingKeyExpTime, _) =>
    { secretKey, namespaceName, existingKeyExpTime }
  ofVal_toVal _ := rfl

/-- A secret key that has been created. -/
structure CreatedSecretKey where
  secretKey : String := ""
  keyTimeStamp : String := ""
  keyExpiryTimestamp : String := ""
  link : Link := {}
  deriving DecidableEq, Inhabited

instance : Model CreatedSecretKey where
  heading := { name := "ObjectUserSecretKeyCreateRes", partlyShown := true }
  fields := .of [
    (text "secret_key").hidden, text "key_timestamp" "key_time_stamp", text "key_expiry_timestamp",
    one Link "link"]
  toVal a := (a.secretKey, a.keyTimeStamp, a.keyExpiryTimestamp, Model.toVal a.link, ())
  ofVal := fun (secretKey, keyTimeStamp, keyExpiryTimestamp, link, _) =>
    { secretKey, keyTimeStamp, keyExpiryTimestamp, link := Model.ofVal link }
  ofVal_toVal _ := by simp only [Model.ofVal_toVal]

/-- A secret key to be deleted. -/
structure SecretKeyDeletion where
  secretKey : String := ""
  namespaceName : String := ""
  deriving DecidableEq, Inhabited

instance : Model SecretKeyDeletion where
  heading := { name := "ObjectUserSecretKeyDeleteReq" }
  fields := .of [
    text "secret_key", text "namespace"]
  toVal a := (a.secretKey, a.namespaceName, ())
  ofVal := fun (secretKey, namespaceName, _) =>
    { secretKey, namespaceName }
  ofVal_toVal _ := rfl

end StoreAdmin
