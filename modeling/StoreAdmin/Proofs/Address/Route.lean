import StoreAdmin.Proofs.Address.Segments
import StoreAdmin.Proofs.Outcome
import StoreAdmin.Resource.Operation

/-!
# The routes of operations

The route of an operation is a list of fixed texts with identifiers between
them.  An address of the operation leads along its route, whatever the
identifiers and the endpoint are, unless an identifier is one dot or two: these
are the only texts that stand for something else in a path.
-/

namespace StoreAdmin

/-- A part of a route: a fixed text, or an identifier that a caller chooses. -/
inductive Slot where
  | fixed (text : String)
  | identifier (text : String)
  deriving DecidableEq

def Slot.text : Slot → String
  | .fixed text => text
  | .identifier text => text

/-- Whether a fixed text is a name and nothing else. -/
def Slot.isPlain : Slot → Bool
  | .fixed text => text ≠ "" ∧ text ≠ "." ∧ text ≠ ".."
  | .identifier _ => true

/-! ## Routes -/

def BucketOperation.route : BucketOperation → List Slot
  | .list _ => [.fixed "object", .fixed "bucket"]
  | .get name _ => [.fixed "object", .fixed "bucket", .identifier name, .fixed "info"]
  | .create _ => [.fixed "object", .fixed "bucket"]
  | .delete name _ _ =>
      [.fixed "object", .fixed "bucket", .identifier name, .fixed "deactivate"]
  | .getPolicy name _ => [.fixed "object", .fixed "bucket", .identifier name, .fixed "policy"]
  | .updatePolicy name _ _ =>
      [.fixed "object", .fixed "bucket", .identifier name, .fixed "policy"]
  | .deletePolicy name _ =>
      [.fixed "object", .fixed "bucket", .identifier name, .fixed "policy"]
  | .getQuota name _ => [.fixed "object", .fixed "bucket", .identifier name, .fixed "quota"]
  | .updateQuota quota =>
      [.fixed "object", .fixed "bucket", .identifier quota.bucketName, .fixed "quota"]
  | .deleteQuota name _ => [.fixed "object", .fixed "bucket", .identifier name, .fixed "quota"]

def TenantOperation.route : TenantOperation → List Slot
  | .list _ => [.fixed "object", .fixed "tenants"]
  | .get id _ => [.fixed "object", .fixed "tenants", .fixed "tenant", .identifier id]
  | .create _ => [.fixed "object", .fixed "tenants", .fixed "tenant"]
  | .delete id =>
      [.fixed "object", .fixed "tenants", .fixed "tenant", .identifier id, .fixed "delete"]
  | .update id _ => [.fixed "object", .fixed "tenants", .fixed "tenant", .identifier id]
  | .getQuota id _ =>
      [.fixed "object", .fixed "tenants", .fixed "tenant", .identifier id, .fixed "quota"]
  | .setQuota id _ =>
      [.fixed "object", .fixed "tenants", .fixed "tenant", .identifier id, .fixed "quota"]
  | .deleteQuota id =>
      [.fixed "object", .fixed "tenants", .fixed "tenant", .identifier id, .fixed "quota"]

def UserOperation.route : UserOperation → List Slot
  | .list _ => [.fixed "object", .fixed "users"]
  | .getInfo uid _ => [.fixed "object", .fixed "users", .identifier uid, .fixed "info"]
  | .getSecret uid _ => [.fixed "object", .fixed "user-secret-keys", .identifier uid]
  | .createSecret uid _ _ => [.fixed "object", .fixed "user-secret-keys", .identifier uid]
  | .deleteSecret uid _ _ =>
      [.fixed "object", .fixed "user-secret-keys", .identifier uid, .fixed "deactivate"]

def AlertOperation.route : AlertOperation → List Slot
  | .list _ => [.fixed "vdc", .fixed "alertpolicy", .fixed "list"]
  | .get name => [.fixed "vdc", .fixed "alertpolicy", .identifier name]
  | .create _ => [.fixed "vdc", .fixed "alertpolicy"]
  | .update name _ => [.fixed "vdc", .fixed "alertpolicy", .identifier name]
  | .delete name => [.fixed "vdc", .fixed "alertpolicy", .identifier name]

/-- The route of a question about an account. -/
def MeteringOperation.accountRoute (account topic kind : String) : List Slot :=
  [.fixed "object", .fixed "mt", .fixed "account", .identifier account, .fixed topic,
    .fixed kind]

def MeteringOperation.route : MeteringOperation → List Slot
  | .accountInfo _ _ => [.fixed "object", .fixed "mt", .fixed "account", .fixed "info"]
  | .accountSample _ _ => [.fixed "object", .fixed "mt", .fixed "account", .fixed "sample"]
  | .bucketInfo account _ _ => accountRoute account "bucket" "info"
  | .bucketSample account _ _ => accountRoute account "bucket" "sample"
  | .bucketPerformance account _ _ => accountRoute account "bucket" "perf"
  | .replicationInfo account _ _ => accountRoute account "replication" "info"
  | .replicationSample account _ _ => accountRoute account "replication" "sample"
  | .storeInfo _ => [.fixed "object", .fixed "mt", .fixed "store", .fixed "info"]
  | .storeSample _ => [.fixed "object", .fixed "mt", .fixed "store", .fixed "sample"]
  | .storeReplication _ _ =>
      [.fixed "object", .fixed "mt", .fixed "store", .fixed "replication"]

def ReplicationOperation.route : ReplicationOperation → List Slot
  | .control action scale store _ =>
      [.fixed "replication", .fixed "control", .identifier scale, .identifier store,
        .fixed action.segment]
  | .get scale store _ =>
      [.fixed "replication", .fixed "control", .identifier scale, .identifier store]

/-- The pod, its store and its namespace make up the name of a device. -/
def RebuildOperation.route : RebuildOperation → List Slot
  | .status store pod podNamespace level _ =>
      [.fixed "vdc", .fixed "recovery-status", .fixed "devices",
        .identifier (pod ++ "." ++ store ++ "-ss." ++ podNamespace ++ ".svc.cluster.local"),
        .fixed "levels", .identifier level]

def ProviderOperation.route : ProviderOperation → List Slot
  | _ => [.fixed "ecs-service-provider"]

namespace Operation

/-- The route of an operation. -/
def route : Operation → List Slot
  | .bucket o => o.route
  | .tenant o => o.route
  | .user o => o.route
  | .alert o => o.route
  | .metering o => o.route
  | .replication o => o.route
  | .rebuild o => o.route
  | .provider o => o.route

/-- A route begins with a fixed text. -/
theorem exists_route_eq (o : Operation) : ∃ first rest, o.route = .fixed first :: rest := by
  cases o with
  | bucket o | tenant o | user o | alert o | metering o | replication o | rebuild o =>
      cases o <;> exact ⟨_, _, rfl⟩
  | provider => exact ⟨_, _, rfl⟩

/-- The fixed texts of a route stand for themselves. -/
theorem route_isPlain (o : Operation) : o.route.all Slot.isPlain = true := by
  cases o with
  | bucket o | tenant o | user o | alert o | metering o | rebuild o => cases o <;> rfl
  | replication o =>
      cases o with
      | control action => cases action <;> rfl
      | get => rfl
  | provider => rfl

end Operation

/-! ## Paths of requests -/

theorem BucketOperation.path_of_request {o : BucketOperation} {r : Request}
    (hrequest : o.request = .ok r) : r.path = Request.pathJoin (o.route.map Slot.text) := by
  have hsegments : ∀ {name last parts}, segments name last = .ok parts →
      parts = ["object", "bucket", name, last] := by
    intro name last parts hparts
    unfold segments at hparts
    split at hparts
    · cases hparts
    · cases hparts
      rfl
  cases o with
  | list =>
      cases hrequest
      rfl
  | create =>
      obtain ⟨body, -, hr⟩ := exists_of_bind_ok hrequest
      cases hr
      rfl
  | get | getPolicy | updatePolicy | deletePolicy | getQuota | deleteQuota =>
      obtain ⟨parts, hparts, hr⟩ := exists_of_bind_ok hrequest
      cases hsegments hparts
      cases hr
      rfl
  | delete name namespaceName emptied =>
      obtain ⟨parts, hparts, hr⟩ := exists_of_bind_ok hrequest
      cases hsegments hparts
      cases emptied <;> cases hr <;> rfl
  | updateQuota =>
      obtain ⟨parts, hparts, hbody⟩ := exists_of_bind_ok hrequest
      obtain ⟨body, -, hr⟩ := exists_of_bind_ok hbody
      cases hsegments hparts
      cases hr
      rfl

theorem TenantOperation.path_of_request {o : TenantOperation} {r : Request}
    (hrequest : o.request = .ok r) : r.path = Request.pathJoin (o.route.map Slot.text) := by
  cases o with
  | list | get | delete | getQuota | deleteQuota =>
      cases hrequest
      rfl
  | create | update | setQuota =>
      obtain ⟨body, -, hr⟩ := exists_of_bind_ok hrequest
      cases hr
      rfl

theorem UserOperation.path_of_request {o : UserOperation} {r : Request}
    (hrequest : o.request = .ok r) : r.path = Request.pathJoin (o.route.map Slot.text) := by
  cases o with
  | list | getInfo | getSecret =>
      cases hrequest
      rfl
  | createSecret | deleteSecret =>
      obtain ⟨body, -, hr⟩ := exists_of_bind_ok hrequest
      cases hr
      rfl

theorem AlertOperation.path_of_request {o : AlertOperation} {r : Request}
    (hrequest : o.request = .ok r) : r.path = Request.pathJoin (o.route.map Slot.text) := by
  have hsegments : ∀ {name parts}, segments name = .ok parts →
      parts = ["vdc", "alertpolicy", name] := by
    intro name parts hparts
    unfold segments at hparts
    split at hparts
    · cases hparts
    · cases hparts
      rfl
  cases o with
  | list =>
      cases hrequest
      rfl
  | create =>
      obtain ⟨body, -, hr⟩ := exists_of_bind_ok hrequest
      cases hr
      rfl
  | get | delete =>
      obtain ⟨parts, hparts, hr⟩ := exists_of_bind_ok hrequest
      cases hsegments hparts
      cases hr
      rfl
  | update =>
      obtain ⟨parts, hparts, hbody⟩ := exists_of_bind_ok hrequest
      obtain ⟨body, -, hr⟩ := exists_of_bind_ok hbody
      cases hsegments hparts
      cases hr
      rfl

theorem MeteringOperation.path_of_request {o : MeteringOperation} {r : Request}
    (hrequest : o.request = .ok r) : r.path = Request.pathJoin (o.route.map Slot.text) := by
  cases o with
  | storeInfo | storeSample =>
      cases hrequest
      rfl
  | accountInfo | accountSample | bucketInfo | bucketSample | bucketPerformance
  | replicationInfo | replicationSample | storeReplication =>
      obtain ⟨body, -, hr⟩ := exists_of_bind_ok hrequest
      cases hr
      rfl

theorem ReplicationOperation.path_of_request {o : ReplicationOperation} {r : Request}
    (hrequest : o.request = .ok r) : r.path = Request.pathJoin (o.route.map Slot.text) := by
  cases o with
  | control | get =>
      cases hrequest
      rfl

theorem RebuildOperation.path_of_request {o : RebuildOperation} {r : Request}
    (hrequest : o.request = .ok r) : r.path = Request.pathJoin (o.route.map Slot.text) := by
  cases o with
  | status =>
      cases hrequest
      rfl

theorem ProviderOperation.path_of_request {o : ProviderOperation} {r : Request}
    (hrequest : o.request = .ok r) : r.path = Request.pathJoin (o.route.map Slot.text) := by
  cases o with
  | get | delete =>
      cases hrequest
      rfl
  | create =>
      obtain ⟨body, -, hr⟩ := exists_of_bind_ok hrequest
      cases hr
      rfl

/-- The path of a request is joined of the texts on the route. -/
theorem Operation.path_of_request {o : Operation} {r : Request} (hrequest : o.request = .ok r) :
    r.path = Request.pathJoin (o.route.map Slot.text) := by
  cases o with
  | bucket o => exact BucketOperation.path_of_request hrequest
  | tenant o => exact TenantOperation.path_of_request hrequest
  | user o => exact UserOperation.path_of_request hrequest
  | alert o => exact AlertOperation.path_of_request hrequest
  | metering o => exact MeteringOperation.path_of_request hrequest
  | replication o => exact ReplicationOperation.path_of_request hrequest
  | rebuild o => exact RebuildOperation.path_of_request hrequest
  | provider o => exact ProviderOperation.path_of_request hrequest

/-! ## Addresses of requests -/

theorem Request.toList_pathJoin (texts : List String) :
    (pathJoin texts).toList = Url.pathText (texts.map Url.escaped) := by
  rw [pathJoin, String.toList_ofList, Url.pathText, List.flatMap_map]
  rfl

namespace Url

/-- The texts around the slashes in the path of an address. -/
def pathTexts (url : Url) : List (Option (List Char)) :=
  (Text.splitWhere (· = '/') url.path.text).map fun piece =>
    Utf8.decode? (percentDecode piece)

theorem decode?_escaped (text : String) :
    Utf8.decode? (percentDecode (escaped text)) = some text.toList := by
  rw [percentDecode_escaped, Utf8.decode?_encode]

theorem pathTexts_eq {url : Url} {path : List Segment} (hpath : url.path = .segments path)
    (hslash : ∀ s ∈ path, ∀ c ∈ s, c ≠ '/') :
    url.pathTexts = some [] :: path.map fun s => Utf8.decode? (percentDecode s) := by
  have hsplit : Text.splitWhere (· = '/') (pathText path) = [] :: path := by
    have hempty : ∀ d ∈ ([] : Segment), decide (d = '/') = false := by simp
    apply splitWhere_append_pathText (by simp) hempty
    intro s hs c hc
    simp [hslash s hs c hc]
  unfold pathTexts
  rw [hpath, Path.text, hsplit]
  rfl

theorem withoutBreaks_pathText (texts : List String) :
    withoutBreaks (pathText (texts.map escaped)) = pathText (texts.map escaped) := by
  apply List.filter_eq_self.2
  intro c hc
  obtain ⟨s, hs, hmem⟩ := List.mem_flatMap.1 hc
  obtain ⟨text, -, rfl⟩ := List.mem_map.1 hs
  rcases List.mem_cons.1 hmem with rfl | hmem
  · decide
  · have htab : c ≠ '\t' := ne_of_mem_escaped hmem (by decide) (by decide)
    have hline : c ≠ '\n' := ne_of_mem_escaped hmem (by decide) (by decide)
    have hreturn : c ≠ '\r' := ne_of_mem_escaped hmem (by decide) (by decide)
    simp [htab, hline, hreturn]

theorem path_withPath {url : Url} (hplace : url.isOpaque = false) (text : List Char) :
    (url.withPath text).path = .segments (pathOf url.scheme (withoutBreaks text)) := by
  unfold withPath
  unfold isOpaque at hplace
  cases hpath : url.path with
  | segments path => rfl
  | opaqueText text =>
      rw [hpath] at hplace
      cases hplace

end Url

/-- The address of a request that is joined of texts. -/
theorem Request.path_of_url {r : Request} {endpoint : String} {url : Url} {first : String}
    {rest : List String} (hpath : r.path = pathJoin (first :: rest))
    (hurl : r.url endpoint = .ok url) :
    url.path = .segments
      (Url.pathOf url.scheme (Url.pathText ((first :: rest).map Url.escaped))) := by
  have htext : r.path.toList = Url.pathText ((first :: rest).map Url.escaped) := by
    rw [hpath, toList_pathJoin]
  have hhead : r.path.toList.head? = some '/' := by
    rw [htext]
    rfl
  unfold Request.url at hurl
  split at hurl
  · cases hurl
  · next base hbase =>
      split at hurl
      · cases hurl
      · next hplace =>
          have hplace : base.isOpaque = false := Bool.eq_false_iff.2 hplace
          dsimp only at hurl
          rw [if_pos hhead] at hurl
          cases hurl
          have hscheme : ((base.withPath r.path.toList).withForm r.params.fields).scheme =
              base.scheme := by
            unfold Url.withForm Url.withPath
            split <;> rfl
          have hwithForm : ((base.withPath r.path.toList).withForm r.params.fields).path =
              (base.withPath r.path.toList).path := rfl
          rw [hscheme, hwithForm, Url.path_withPath hplace, htext,
            Url.withoutBreaks_pathText]

/-! ## Addresses along routes -/

/-- Whether no identifier on a route is one dot or two. -/
def Operation.IsStraight (o : Operation) : Prop :=
  ∀ text, .identifier text ∈ o.route → text ≠ "." ∧ text ≠ ".."

namespace Operation

variable {o : Operation} {r : Request} {endpoint : String} {url : Url}

theorem not_isDots_of_isStraight (hstraight : o.IsStraight) :
    ∀ text ∈ o.route.map Slot.text, ¬Url.Segment.IsDots (Url.escaped text) := by
  intro text htext hdots
  obtain ⟨slot, hslot, rfl⟩ := List.mem_map.1 htext
  have hname : slot.text ≠ "." ∧ slot.text ≠ ".." := by
    cases slot with
    | fixed text =>
        have hplain := List.all_eq_true.1 o.route_isPlain _ hslot
        exact (of_decide_eq_true hplain).2
    | identifier text => exact hstraight text hslot
  rcases (Url.isDots_escaped_iff slot.text).1 hdots with h | h
  · exact hname.1 h
  · exact hname.2 h

/-- Where a route bends nowhere, the address has its texts and no others. -/
theorem pathTexts_of_isStraight (hrequest : o.request = .ok r) (hurl : r.url endpoint = .ok url)
    (hstraight : o.IsStraight) :
    url.pathTexts = some [] :: o.route.map fun slot => some slot.text.toList := by
  obtain ⟨first, rest, hroute⟩ := o.exists_route_eq
  have htexts : o.route.map Slot.text = first :: rest.map Slot.text := by
    rw [hroute]
    rfl
  have hdots := not_isDots_of_isStraight hstraight
  have hfirst : first ≠ "" := by
    have hplain := List.all_eq_true.1 o.route_isPlain (.fixed first) (by simp [hroute])
    exact (of_decide_eq_true hplain).1
  have hpath := path_of_request hrequest
  rw [htexts] at hpath hdots
  have haddress := Request.path_of_url hpath hurl
  rw [Url.pathOf_escaped url.scheme hfirst hdots] at haddress
  have hslash :
      ∀ s ∈ (first :: rest.map Slot.text).map Url.escaped, ∀ c ∈ s, c ≠ '/' := by
    intro s hs c hc
    obtain ⟨text, -, rfl⟩ := List.mem_map.1 hs
    exact Url.ne_of_mem_escaped hc (by decide) (by decide)
  rw [Url.pathTexts_eq haddress hslash, ← htexts, List.map_map, List.map_map]
  congr 1
  apply List.map_congr_left
  intro slot _
  exact Url.decode?_escaped slot.text

/-- An address never has a text of dots, so it misses an identifier that is one. -/
theorem isStraight_of_pathTexts (hrequest : o.request = .ok r) (hurl : r.url endpoint = .ok url)
    (htexts : url.pathTexts = some [] :: o.route.map fun slot => some slot.text.toList) :
    o.IsStraight := by
  intro text hidentifier
  obtain ⟨first, rest, hroute⟩ := o.exists_route_eq
  have hnames : o.route.map Slot.text = first :: rest.map Slot.text := by
    rw [hroute]
    rfl
  have hpath := path_of_request hrequest
  rw [hnames] at hpath
  have haddress := Request.path_of_url hpath hurl
  have hslash : ∀ s ∈ Url.pathOf url.scheme
      (Url.pathText ((first :: rest.map Slot.text).map Url.escaped)), ∀ c ∈ s, c ≠ '/' := by
    intro s hs c hc
    rcases Url.mem_pathOf_escaped hs with rfl | ⟨name, -, rfl, -⟩
    · cases hc
    · exact Url.ne_of_mem_escaped hc (by decide) (by decide)
  rw [Url.pathTexts_eq haddress hslash] at htexts
  have hmem : some text.toList ∈ o.route.map fun slot => some slot.text.toList :=
    List.mem_map.2 ⟨.identifier text, hidentifier, rfl⟩
  rw [← (List.cons.inj htexts).2] at hmem
  obtain ⟨s, hs, hdecode⟩ := List.mem_map.1 hmem
  rcases Url.mem_pathOf_escaped hs with rfl | ⟨name, -, rfl, hdots⟩
  · have hempty : text = "" := String.toList_inj.1 (Option.some.inj hdecode).symm
    subst hempty
    decide
  · rw [Url.decode?_escaped] at hdecode
    obtain rfl : name = text := String.toList_inj.1 (Option.some.inj hdecode)
    rw [Url.isDots_escaped_iff] at hdots
    exact ⟨fun h => hdots (.inl h), fun h => hdots (.inr h)⟩

/-- The address of an operation leads along its route exactly if no identifier is one
dot or two. -/
theorem pathTexts_eq_iff (hrequest : o.request = .ok r) (hurl : r.url endpoint = .ok url) :
    (url.pathTexts = some [] :: o.route.map fun slot => some slot.text.toList) ↔
      o.IsStraight :=
  ⟨isStraight_of_pathTexts hrequest hurl, pathTexts_of_isStraight hrequest hurl⟩

theorem pathTexts_of_slash :
    ∃ r url, (Operation.bucket (.get "a/b c" {})).request = .ok r ∧
      r.url "http://[::1]:4443/base?query" = .ok url ∧
      url.pathTexts = [some [], some "object".toList, some "bucket".toList,
        some "a/b c".toList, some "info".toList] := by
  have hstraight : (Operation.bucket (.get "a/b c" {})).IsStraight := by
    intro text hidentifier
    simp [route, BucketOperation.route] at hidentifier
    subst hidentifier
    decide
  obtain ⟨r, hrequest⟩ : ∃ r, (Operation.bucket (.get "a/b c" {})).request = .ok r :=
    ⟨_, rfl⟩
  obtain ⟨url, hurl⟩ : ∃ url, r.url "http://[::1]:4443/base?query" = .ok url := by
    cases hrequest
    exact ⟨_, rfl⟩
  exact ⟨r, url, hrequest, hurl, (pathTexts_eq_iff hrequest hurl).2 hstraight⟩

/-- The information on a bucket of two dots is asked for where no bucket is named. -/
theorem pathTexts_of_dots :
    ∃ r url, (Operation.bucket (.get ".." {})).request = .ok r ∧
      r.url "http://[::1]:4443" = .ok url ∧
      url.pathTexts = [some [], some "object".toList, some "info".toList] ∧
      url.pathTexts ≠ some [] :: (Operation.bucket (.get ".." {})).route.map
        fun slot => some slot.text.toList := by
  refine ⟨_, _, rfl, rfl, ?_, ?_⟩
  · decide +kernel
  · decide +kernel

end Operation

end StoreAdmin
