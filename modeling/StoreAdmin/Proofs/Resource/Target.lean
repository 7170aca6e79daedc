import StoreAdmin.Proofs.Address.Join
import StoreAdmin.Proofs.Resource.Request

/-!
# What a request is for

The method and the path of a request tell which operation it belongs to and which
identifiers that operation was given.  Only two kinds of operations are not told
apart: the list of alert policies and the policy that is called `list`, and questions
about pods whose devices have the same name.
-/

namespace StoreAdmin

/-! ## Operations without the rest of their arguments -/

/-- The operation with the identifiers of its path and without all else. -/
def BucketOperation.bare : BucketOperation → BucketOperation
  | .list _ => .list {}
  | .get name _ => .get name {}
  | .create _ => .create {}
  | .delete name _ _ => .delete name "" false
  | .getPolicy name _ => .getPolicy name {}
  | .updatePolicy name _ _ => .updatePolicy name "" {}
  | .deletePolicy name _ => .deletePolicy name {}
  | .getQuota name _ => .getQuota name ""
  | .updateQuota quota => .updateQuota { bucketName := quota.bucketName }
  | .deleteQuota name _ => .deleteQuota name ""

def TenantOperation.bare : TenantOperation → TenantOperation
  | .list _ => .list {}
  | .get id _ => .get id {}
  | .create _ => .create {}
  | .delete id => .delete id
  | .update id _ => .update id {}
  | .getQuota id _ => .getQuota id {}
  | .setQuota id _ => .setQuota id {}
  | .deleteQuota id => .deleteQuota id

def UserOperation.bare : UserOperation → UserOperation
  | .list _ => .list {}
  | .getInfo uid _ => .getInfo uid {}
  | .getSecret uid _ => .getSecret uid {}
  | .createSecret uid _ _ => .createSecret uid {} {}
  | .deleteSecret uid _ _ => .deleteSecret uid {} {}

def AlertOperation.bare : AlertOperation → AlertOperation
  | .list _ => .list {}
  | .get name => .get name
  | .create _ => .create {}
  | .update name _ => .update name {}
  | .delete name => .delete name

def MeteringOperation.bare : MeteringOperation → MeteringOperation
  | .accountInfo _ _ => .accountInfo [] {}
  | .accountSample _ _ => .accountSample [] {}
  | .bucketInfo account _ _ => .bucketInfo account [] {}
  | .bucketSample account _ _ => .bucketSample account [] {}
  | .bucketPerformance account _ _ => .bucketPerformance account [] {}
  | .replicationInfo account _ _ => .replicationInfo account [] {}
  | .replicationSample account _ _ => .replicationSample account [] {}
  | .storeInfo _ => .storeInfo {}
  | .storeSample _ => .storeSample {}
  | .storeReplication _ _ => .storeReplication [] {}

def ReplicationOperation.bare : ReplicationOperation → ReplicationOperation
  | .control action scale store _ => .control action scale store {}
  | .get scale store _ => .get scale store {}

def RebuildOperation.bare : RebuildOperation → RebuildOperation
  | .status store pod podNamespace level _ => .status store pod podNamespace level {}

def ProviderOperation.bare : ProviderOperation → ProviderOperation
  | .get _ => .get {}
  | .create _ => .create {}
  | .delete => .delete

/-- The operation with the identifiers of its path and without all else. -/
def Operation.bare : Operation → Operation
  | .bucket o => .bucket o.bare
  | .tenant o => .tenant o.bare
  | .user o => .user o.bare
  | .alert o => .alert o.bare
  | .metering o => .metering o.bare
  | .replication o => .replication o.bare
  | .rebuild o => .rebuild o.bare
  | .provider o => .provider o.bare

/-! ## Targets -/

/-- What a server can tell from the method and the path of a request: an operation with its
identifiers, or the device that is asked about. -/
inductive Target where
  | operation (o : Operation)
  | device (name level : String)

/-- The target of an operation. -/
def Operation.target : Operation → Target
  | .alert (.list _) => .operation (.alert (.get "list"))
  | .rebuild (.status store pod podNamespace level _) =>
      .device (RebuildOperation.device store pod podNamespace) level
  | o => .operation o.bare

namespace Target

def bucket? : String → List String → Option BucketOperation
  | "GET", [] => some (.list {})
  | "POST", [] => some (.create {})
  | "GET", [name, "info"] => some (.get name {})
  | "POST", [name, "deactivate"] => some (.delete name "" false)
  | "GET", [name, "policy"] => some (.getPolicy name {})
  | "PUT", [name, "policy"] => some (.updatePolicy name "" {})
  | "DELETE", [name, "policy"] => some (.deletePolicy name {})
  | "GET", [name, "quota"] => some (.getQuota name "")
  | "PUT", [name, "quota"] => some (.updateQuota { bucketName := name })
  | "DELETE", [name, "quota"] => some (.deleteQuota name "")
  | _, _ => none

def tenant? : String → List String → Option TenantOperation
  | "GET", [] => some (.list {})
  | "GET", ["tenant", id] => some (.get id {})
  | "POST", ["tenant"] => some (.create {})
  | "POST", ["tenant", id, "delete"] => some (.delete id)
  | "POST", ["tenant", id] => some (.update id {})
  | "GET", ["tenant", id, "quota"] => some (.getQuota id {})
  | "PUT", ["tenant", id, "quota"] => some (.setQuota id {})
  | "DELETE", ["tenant", id, "quota"] => some (.deleteQuota id)
  | _, _ => none

def user? : String → List String → Option UserOperation
  | "GET", ["users"] => some (.list {})
  | "GET", ["users", uid, "info"] => some (.getInfo uid {})
  | "GET", ["user-secret-keys", uid] => some (.getSecret uid {})
  | "POST", ["user-secret-keys", uid] => some (.createSecret uid {} {})
  | "POST", ["user-secret-keys", uid, "deactivate"] => some (.deleteSecret uid {} {})
  | _, _ => none

/-- The list of policies has the address of a policy. -/
def alert? : String → List String → Option AlertOperation
  | "GET", [name] => some (.get name)
  | "POST", [] => some (.create {})
  | "PUT", [name] => some (.update name {})
  | "DELETE", [name] => some (.delete name)
  | _, _ => none

def account? (account : String) : List String → Option MeteringOperation
  | ["bucket", "info"] => some (.bucketInfo account [] {})
  | ["bucket", "sample"] => some (.bucketSample account [] {})
  | ["bucket", "perf"] => some (.bucketPerformance account [] {})
  | ["replication", "info"] => some (.replicationInfo account [] {})
  | ["replication", "sample"] => some (.replicationSample account [] {})
  | _ => none

def metering? : List String → Option MeteringOperation
  | ["account", kind] =>
      if kind = "info" then some (.accountInfo [] {})
      else if kind = "sample" then some (.accountSample [] {})
      else none
  | "account" :: account :: rest => account? account rest
  | ["store", "info"] => some (.storeInfo {})
  | ["store", "sample"] => some (.storeSample {})
  | ["store", "replication"] => some (.storeReplication [] {})
  | _ => none

def replication? : List String → Option ReplicationOperation
  | [scale, store] => some (.get scale store {})
  | [scale, store, "pause"] => some (.control .pause scale store {})
  | [scale, store, "suspend"] => some (.control .suspend scale store {})
  | [scale, store, "resume"] => some (.control .resume scale store {})
  | [scale, store, "throttle"] => some (.control .throttle scale store {})
  | [scale, store, "unthrottle"] => some (.control .unthrottle scale store {})
  | _ => none

def provider? : String → Option ProviderOperation
  | "GET" => some (.get {})
  | "POST" => some (.create {})
  | "DELETE" => some .delete
  | _ => none

/-- The target of a request with a method and a path of texts. -/
def of? (method : String) : List String → Option Target
  | "object" :: "bucket" :: rest => (bucket? method rest).map fun o => operation (.bucket o)
  | "object" :: "tenants" :: rest => (tenant? method rest).map fun o => operation (.tenant o)
  | "object" :: "mt" :: rest => (metering? rest).map fun o => operation (.metering o)
  | "object" :: rest => (user? method rest).map fun o => operation (.user o)
  | "vdc" :: "alertpolicy" :: rest => (alert? method rest).map fun o => operation (.alert o)
  | "replication" :: "control" :: rest =>
      (replication? rest).map fun o => operation (.replication o)
  | ["vdc", "recovery-status", "devices", name, "levels", level] => some (device name level)
  | ["ecs-service-provider"] => (provider? method).map fun o => operation (.provider o)
  | _ => none

/-- The target of an operation is read off its method and its route. -/
theorem of?_route (o : Operation) : of? o.method (o.route.map Slot.text) = some o.target := by
  cases o with
  | bucket o | tenant o | user o | alert o | metering o | rebuild o | provider o =>
      cases o <;> rfl
  | replication o =>
      cases o with
      | control action => cases action <;> rfl
      | get => rfl

/-- The method of the requests for a target. -/
def method : Target → String
  | .operation o => o.method
  | .device _ _ => "GET"

/-- The texts on the way to a target. -/
def texts : Target → List String
  | .operation o => o.route.map Slot.text
  | .device name level => ["vdc", "recovery-status", "devices", name, "levels", level]

theorem method_target (o : Operation) : o.target.method = o.method := by
  cases o with
  | bucket o | tenant o | user o | alert o | metering o | replication o | rebuild o
  | provider o => cases o <;> rfl

theorem texts_target (o : Operation) : o.target.texts = o.route.map Slot.text := by
  cases o with
  | bucket o | tenant o | user o | alert o | metering o | replication o | rebuild o
  | provider o => cases o <;> rfl

end Target

/-! ## Operations that coincide -/

/-- Whether two operations are the same with the same identifiers, or cannot be told apart: the
list of alert policies and the policy called `list`, and questions about a level of devices of one
name. -/
def Operation.Coincides : Operation → Operation → Prop
  | .alert (.list _), .alert (.get name) => name = "list"
  | .alert (.get name), .alert (.list _) => name = "list"
  | .rebuild (.status store pod podNamespace level _),
      .rebuild (.status store' pod' podNamespace' level' _) =>
      RebuildOperation.device store pod podNamespace =
          RebuildOperation.device store' pod' podNamespace' ∧ level = level'
  | first, second => first.bare = second.bare

namespace Operation

variable {first second : Operation} {r s : Request}

theorem target_eq_iff : first.target = second.target ↔ first.Coincides second := by
  cases first with
  | bucket | tenant | user | metering | replication | provider =>
      cases second with
      | bucket | tenant | user | metering | replication | provider =>
          simp [target, Coincides]
      | alert o | rebuild o =>
          cases o <;> simp [target, Coincides, bare]
  | alert o =>
      cases second with
      | bucket | tenant | user | metering | replication | provider =>
          cases o <;> simp [target, Coincides, bare]
      | alert o' =>
          cases o <;> cases o' <;>
            simp [target, Coincides, bare, AlertOperation.bare, eq_comm]
      | rebuild o' =>
          cases o <;> cases o' <;> simp [target, Coincides, bare]
  | rebuild o =>
      cases o
      cases second with
      | bucket | tenant | user | metering | replication | provider =>
          simp [target, Coincides, bare]
      | alert o' =>
          cases o' <;> simp [target, Coincides, bare]
      | rebuild o' =>
          cases o'
          simp [target, Coincides]

/-- Two requests have the same method and the same path exactly if their operations coincide. -/
theorem sameAddress_iff (hfirst : first.request = .ok r) (hsecond : second.request = .ok s) :
    (r.method = s.method ∧ r.path = s.path) ↔ first.Coincides second := by
  obtain ⟨_, hfitsFirst⟩ := fits_of_request hfirst
  obtain ⟨_, hfitsSecond⟩ := fits_of_request hsecond
  rw [hfitsFirst.method_eq, hfitsSecond.method_eq, path_of_request hfirst,
    path_of_request hsecond, ← target_eq_iff]
  constructor
  · rintro ⟨hmethod, hpath⟩
    apply Option.some.inj
    calc
      some first.target = Target.of? first.method (first.route.map Slot.text) :=
        (Target.of?_route first).symm
      _ = Target.of? second.method (second.route.map Slot.text) := by
        rw [hmethod, Request.pathJoin_injective hpath]
      _ = some second.target := Target.of?_route second
  · intro htarget
    rw [← Target.method_target, ← Target.method_target, ← Target.texts_target,
      ← Target.texts_target, htarget]
    exact ⟨rfl, rfl⟩

/-- Two pods of different stores whose devices have one name. -/
theorem sameAddress_pods :
    ∃ r s, (rebuild (.status "b" "a" "c-ss.d" "1" {})).request = .ok r ∧
      (rebuild (.status "b-ss.c" "a" "d" "1" {})).request = .ok s ∧
      r.method = s.method ∧ r.path = s.path := by
  have hcoincides : (rebuild (.status "b" "a" "c-ss.d" "1" {})).Coincides
      (rebuild (.status "b-ss.c" "a" "d" "1" {})) := ⟨by decide, rfl⟩
  exact ⟨_, _, rfl, rfl, (sameAddress_iff rfl rfl).2 hcoincides⟩

end Operation
end StoreAdmin
