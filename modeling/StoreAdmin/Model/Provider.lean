import StoreAdmin.Record.Shape

/-!
# Identity providers

The provider of identities that the service trusts, with the key store that it signs with.
-/

namespace StoreAdmin

open Entry

/-- The identity provider that the service trusts. -/
structure ServiceProvider where
  createTime : String := ""
  dns : String := ""
  etag : String := ""
  javaKeystore : String := ""
  keyAlias : String := ""
  keyPassword : String := ""
  uniqueId : String := ""
  uuid : String := ""
  deriving DecidableEq, Inhabited

instance : Model ServiceProvider where
  heading := { name := "ServiceProvider", root := "service_provider", partlyShown := true }
  fields := .of [
    text "create_time", text "dns", text "etag", (text "java_keystore").hidden, text "key_alias",
    (text "key_password").hidden, text "unique_id", text "uuid"]
  toVal a := (a.createTime, a.dns, a.etag, a.javaKeystore, a.keyAlias, a.keyPassword, a.uniqueId,
    a.uuid, ())
  ofVal := fun (createTime, dns, etag, javaKeystore, keyAlias, keyPassword, uniqueId, uuid, _) =>
    { createTime, dns, etag, javaKeystore, keyAlias, keyPassword, uniqueId, uuid }
  ofVal_toVal _ := rfl

/-- An identity provider to be set. -/
structure ServiceProviderCreation where
  serviceProvider : ServiceProvider := {}
  deriving DecidableEq, Inhabited

instance : Model ServiceProviderCreation where
  heading := { name := "ServiceProviderCreate", root := "service_provider_create" }
  fields := .of [
    one ServiceProvider "service_provider"]
  toVal a := (Model.toVal a.serviceProvider, ())
  ofVal := fun (serviceProvider, _) =>
    { serviceProvider := Model.ofVal serviceProvider }
  ofVal_toVal _ := by simp only [Model.ofVal_toVal]

end StoreAdmin
