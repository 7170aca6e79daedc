import StoreAdmin.Client.Login
import StoreAdmin.Proofs.Address.Query

/-!
# Addresses of logins

A login keeps all of the address of its gateway but the path, also the query, and it has an address
where a gateway names no place on a host.  A request has no query of its endpoint and no address
there.  Everywhere else both have the same address.
-/

namespace StoreAdmin

namespace Url

/-- The path of a login, in whatever scheme, is written as it is. -/
def IsLiteral (path : List Char) : Prop :=
  ∀ scheme, pathText (pathOf scheme (withoutBreaks path)) = path

/-- Whether a scheme has hosts makes no difference to a path without backslashes. -/
theorem isLiteral_of_decided {path : List Char}
    (hpath : pathText (fileSegments ((withoutBreaks path).drop 1)) = path ∧
      ∀ special, pathText (segments special ((withoutBreaks path).drop 1)) = path)
    (hrooted : (withoutBreaks path).head? = some '/') : IsLiteral path := by
  intro scheme
  obtain ⟨rest, hrest⟩ := List.head?_eq_some_iff.1 hrooted
  rw [hrest, List.drop_succ_cons, List.drop_zero] at hpath
  have hinner : pathOf scheme ('/' :: rest) =
      if scheme = "file".toList then fileSegments rest else segments (isSpecial scheme) rest := by
    simp [pathOf]
  rw [hrest, hinner]
  split
  · exact hpath.1
  · exact hpath.2 (isSpecial scheme)

end Url

namespace Login

/-- The paths of all logins. -/
def paths : List String :=
  [servicePath, documentPath, passwordPath]

variable {gateway path : String} {base : Url}

theorem isLiteral_of_mem (hpath : path ∈ paths) : Url.IsLiteral path.toList := by
  have hdecided : ∀ path ∈ paths,
      (Url.pathText (Url.fileSegments ((Url.withoutBreaks path.toList).drop 1)) = path.toList ∧
        ∀ special, Url.pathText (Url.segments special ((Url.withoutBreaks path.toList).drop 1)) =
          path.toList) ∧
      (Url.withoutBreaks path.toList).head? = some '/' := by
    decide +kernel
  exact Url.isLiteral_of_decided (hdecided path hpath).1 (hdecided path hpath).2

/-- The request that a login makes, but for its headers and its body. -/
def asRequest (path : String) : Request :=
  { method := "GET", path }

theorem rooted_asRequest (hpath : path ∈ paths) : (asRequest path).rooted = path.toList := by
  have hdecided : ∀ path ∈ paths, path.toList.head? = some '/' := by decide
  exact if_pos (hdecided path hpath)

/-- The address `url` has the path of a login, no query, and everything else of `base`. -/
structure Targets (path : String) (base url : Url) : Prop where
  scheme_eq : url.scheme = base.scheme
  authority_eq : url.authority = base.authority
  path_eq : url.path.text = path.toList
  query_eq : url.query = none
  fragment_eq : url.fragment = base.fragment

/-- How the addresses of a login and of a request with the same path are related. -/
inductive Addresses (gateway path : String) : Except Error Url → Except Error Url → Prop
  | unreadable {fault : Url.Fault} (hread : Url.ofText gateway.toList = .error fault) :
    Addresses gateway path (.error (.invalidUrl fault)) (.error (.invalidUrl fault))
  | opaqueText {base : Url} (hread : Url.ofText gateway.toList = .ok base)
    (hplace : base.isOpaque = true) : Addresses gateway path (.ok (base.withPath path.toList))
      (.error (.invalidRequest (.opaqueEndpoint gateway)))
  | place {base url : Url} (hread : Url.ofText gateway.toList = .ok base)
    (hplace : base.isOpaque = false) (htargets : Targets path base url) :
    Addresses gateway path (.ok { url with query := base.query }) (.ok url)

theorem addresses (hpath : path ∈ paths) (gateway : String) :
    Addresses gateway path (url gateway path) ((asRequest path).url gateway) := by
  cases hread : Url.ofText gateway.toList with
  | error fault =>
      rw [url, Request.url, hread]
      exact .unreadable hread
  | ok base =>
      have hlogin : url gateway path = .ok (base.withPath path.toList) := by rw [url, hread]
      rw [hlogin]
      cases hplace : base.isOpaque with
      | true =>
          rw [Request.url, hread]
          simp only [hplace, if_true]
          exact .opaqueText hread hplace
      | false =>
          have htargets : Targets path base ((base.withPath path.toList).withForm []) := by
            rw [Url.withPath_eq hplace]
            exact ⟨rfl, rfl, isLiteral_of_mem hpath base.scheme, rfl, rfl⟩
          have hquery : base.withPath path.toList =
              { (base.withPath path.toList).withForm [] with query := base.query } := by
            rw [Url.withPath_eq hplace]
            rfl
          rw [Request.url_eq hread hplace, rooted_asRequest hpath, hquery]
          exact .place hread hplace htargets

/-- The address of a login is that of a request with the same path exactly if the gateway, where it
can be read, names a place on a host and has no query.  Wherever a request has an address, it is
the gateway with exactly the path of the login and without a query, and a login differs from it at
most in the query of the gateway. -/
theorem url_eq_request_iff (hpath : path ∈ paths) (gateway : String) :
    (url gateway path = (asRequest path).url gateway ↔
      ∀ base, Url.ofText gateway.toList = .ok base →
        base.isOpaque = false ∧ base.query = none) ∧
    ∀ target, (asRequest path).url gateway = .ok target →
      ∃ base, Url.ofText gateway.toList = .ok base ∧ Targets path base target ∧
        url gateway path = .ok { target with query := base.query } := by
  have haddresses := addresses hpath gateway
  revert haddresses
  generalize url gateway path = login
  generalize (asRequest path).url gateway = request
  intro haddresses
  cases haddresses with
  | unreadable hread =>
      refine ⟨iff_of_true rfl fun base hbase => ?_, nofun⟩
      rw [hread] at hbase
      cases hbase
  | opaqueText hread hplace =>
      refine ⟨iff_of_false nofun fun hall => ?_, nofun⟩
      have hbase := (hall _ hread).1
      rw [hplace] at hbase
      cases hbase
  | @place base target hread hplace htargets =>
      constructor
      · constructor
        · intro heq other hother
          cases hread.symm.trans hother
          have hquery := congrArg Url.query (Except.ok.inj heq)
          exact ⟨hplace, hquery.trans htargets.query_eq⟩
        · intro hall
          rw [(hall base hread).2, ← htargets.query_eq]
      · intro other hother
        cases hother
        exact ⟨base, hread, htargets, rfl⟩

/-- A gateway with a user, a path and a fragment. -/
def crowdedGateway : String :=
  "https://ops@[::1]:4443/base#top"

theorem url_eq_request_crowded : documentPath ∈ paths ∧
    url crowdedGateway documentPath = (asRequest documentPath).url crowdedGateway ∧
    ∃ base target, Url.ofText crowdedGateway.toList = .ok base ∧
      url crowdedGateway documentPath = .ok target ∧ Targets documentPath base target := by
  have hmem : documentPath ∈ paths := by decide
  obtain ⟨hiff, htarget⟩ := url_eq_request_iff hmem crowdedGateway
  obtain ⟨base, hread⟩ : ∃ base, Url.ofText crowdedGateway.toList = .ok base := ⟨_, rfl⟩
  have hplace : base.isOpaque = false ∧ base.query = none := by
    cases hread
    exact ⟨rfl, rfl⟩
  have heq : url crowdedGateway documentPath = (asRequest documentPath).url crowdedGateway := by
    refine hiff.2 fun other hother => ?_
    cases hread.symm.trans hother
    exact hplace
  have hrequest := Request.url_eq (r := asRequest documentPath) hread hplace.1
  obtain ⟨base', hread', htargets, -⟩ := htarget _ hrequest
  exact ⟨hmem, heq, base', _, hread', heq.trans hrequest, htargets⟩

/-- A gateway with a query of its own. -/
def staleGateway : String :=
  "http://mgmt.local:4443/?stale=1"

/-- The query of the gateway is left over in the address of a login.  A text that names no place on
a host has no request, and a login makes an address of it. -/
theorem not_url_eq_request_stale :
    passwordPath ∈ paths ∧
    (url staleGateway passwordPath).map (fun url => String.ofList url.text) =
      .ok "http://mgmt.local:4443/mgmt/login?stale=1" ∧
    ((asRequest passwordPath).url staleGateway).map (fun url => String.ofList url.text) =
      .ok "http://mgmt.local:4443/mgmt/login" ∧
    (url "mailto:ops" passwordPath).isOk = true ∧
    ((asRequest passwordPath).url "mailto:ops").isOk = false := by
  refine ⟨by decide, ?_, ?_, ?_, ?_⟩ <;> decide +kernel

end Login
end StoreAdmin
