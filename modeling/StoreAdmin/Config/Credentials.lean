import StoreAdmin.Record.Inspect

/-!
# Credentials

There are three ways to log in. Each way is known by a name and has a gateway and texts of its own,
one of which is a secret that no log shows.
-/

namespace StoreAdmin

/-- How a client logs in. -/
inductive Credentials where
  /-- An operator. -/
  | user (gateway username password : String)
  /-- A workload that shares a secret with the gateway. -/
  | service (gateway sharedSecret podName namespaceName objectScaleId : String)
  /-- An operator at a gateway that knows no other way. -/
  | legacy (gateway username password : String)
  deriving DecidableEq

namespace Credentials

/-- The address of the gateway. -/
def gateway : Credentials → String
  | .user gateway _ _ => gateway
  | .service gateway _ _ _ _ => gateway
  | .legacy gateway _ _ => gateway

/-- The name of the way to log in. -/
def type : Credentials → String
  | .user _ _ _ => "user"
  | .service _ _ _ _ _ => "service"
  | .legacy _ _ _ => "legacy"

/-- The texts of credentials by their names, in order. -/
def fields : Credentials → List (String × String)
  | .user gateway username password =>
    [("gateway", gateway), ("username", username), ("password", password)]
  | .service gateway sharedSecret podName namespaceName objectScaleId =>
    [("gateway", gateway), ("shared_secret", sharedSecret), ("pod_name", podName),
     ("namespace", namespaceName), ("object_scale_id", objectScaleId)]
  | .legacy gateway username password =>
    [("gateway", gateway), ("username", username), ("password", password)]

/-- The credentials of a type whose texts are looked up by their names. -/
def ofFields? (type : String) (get? : String → Option String) : Option Credentials :=
  if type = "user" then
    match get? "gateway", get? "username", get? "password" with
    | some gateway, some username, some password => some (.user gateway username password)
    | _, _, _ => none
  else if type = "legacy" then
    match get? "gateway", get? "username", get? "password" with
    | some gateway, some username, some password => some (.legacy gateway username password)
    | _, _, _ => none
  else if type = "service" then
    match get? "gateway", get? "shared_secret", get? "pod_name", get? "namespace",
        get? "object_scale_id" with
    | some gateway, some sharedSecret, some podName, some namespaceName, some objectScaleId =>
      some (.service gateway sharedSecret podName namespaceName objectScaleId)
    | _, _, _, _, _ => none
  else none

/-- The credentials whose type and texts are listed in order. -/
def ofList? : List String → Option Credentials
  | ["user", gateway, username, password] => some (.user gateway username password)
  | ["legacy", gateway, username, password] => some (.legacy gateway username password)
  | ["service", gateway, sharedSecret, podName, namespaceName, objectScaleId] =>
    some (.service gateway sharedSecret podName namespaceName objectScaleId)
  | _ => none

theorem ofFields?_fields (c : Credentials) :
    ofFields? c.type (c.fields.lookup ·) = some c := by
  cases c <;> rfl

/-- The names of the texts that no log shows. -/
def secrets : List String :=
  ["password", "shared_secret"]

/-- The name of a type in logs. -/
def logName : Credentials → String
  | .user _ _ _ => "User"
  | .service _ _ _ _ _ => "Service"
  | .legacy _ _ _ => "Legacy"

/-- What a log shows of credentials. -/
def inspect (c : Credentials) : List Char :=
  braced c.logName (c.fields.map fun field =>
    field.1.toList ++ ": ".toList ++
      if secrets.contains field.1 then redactedText else Text.quoted field.2.toList)

end Credentials
end StoreAdmin
