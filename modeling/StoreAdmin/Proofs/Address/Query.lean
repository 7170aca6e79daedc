import StoreAdmin.Proofs.Address.Authority
import StoreAdmin.Proofs.Address.Form
import StoreAdmin.Proofs.Address.Params
import StoreAdmin.Proofs.Text.Order

/-!
# Addresses with parameters

The address of a request has the authority and the fragment of its endpoint, the
path of the request, and a form with its parameters as the query.  No part runs
over into another one, however the parameters were put together.
-/

namespace StoreAdmin

namespace Url

/-! ## Parts of addresses -/

theorem cutAt_append_option {mark : Char} {front : List Char} (hfront : mark ∉ front)
    (rest : Option (List Char)) :
    cutAt mark (front ++ match rest with
      | some text => mark :: text
      | none => []) = (front, rest) := by
  cases rest with
  | none => rw [List.append_nil, cutAt_of_none hfront]
  | some text => exact cutAt_append hfront text

theorem not_mem_formText (fields : List (String × String)) : '#' ∉ formText fields := by
  have hfield : ∀ field, '#' ∉ fieldText field := by
    intro field hmem
    rcases List.mem_append.1 hmem with h | h
    · exact not_mem_formEncode (by decide) (by decide) _ h
    rcases List.mem_cons.1 h with h | h
    · exact absurd h (by decide)
    · exact not_mem_formEncode (by decide) (by decide) _ h
  induction fields with
  | nil => exact List.not_mem_nil
  | cons field rest ih =>
      cases rest with
      | nil => exact hfield field
      | cons next rest =>
          rw [formText_cons_cons]
          intro hmem
          rcases List.mem_append.1 hmem with h | h
          · exact hfield field h
          rcases List.mem_cons.1 h with h | h
          · exact absurd h (by decide)
          · exact ih h

/-- Every segment of a path that was read is escaped. -/
theorem isUncut_pathOf {scheme : List Char} (hfile : scheme ≠ "file".toList)
    (text : List Char) : IsUncut (pathText (pathOf scheme text)) := by
  have hsegments : ∀ special inner, ∀ s ∈ segments special inner, IsUncut s := by
    intro special inner s hs
    rcases mem_follow hs with hnone | rfl | ⟨hmem, -⟩
    · cases hnone
    · exact isUncut_nil
    · obtain ⟨piece, -, rfl⟩ := List.mem_map.1 hmem
      exact isUncut_percentEncode (by decide) (by decide) piece
  have hpath : ∀ s ∈ pathOf scheme text, IsUncut s := by
    unfold pathOf
    dsimp only
    rw [if_neg hfile]
    split
    · exact fun _ hs => nomatch hs
    · exact hsegments _ _
  apply isUncut_of_forall
  intro c hc
  obtain ⟨s, hs, hmem⟩ := List.mem_flatMap.1 hc
  rcases List.mem_cons.1 hmem with rfl | hmem
  · decide
  · constructor
    · rintro rfl
      exact (hpath s hs).question hmem
    · rintro rfl
      exact (hpath s hs).hash hmem

/-- The text of an address in front of its query and its fragment. -/
def frontText (url : Url) : List Char :=
  url.scheme ++ ':' ::
    (match url.authority with
    | some authority => authority.text
    | none => []) ++
    url.path.text

theorem text_eq_frontText (url : Url) :
    url.text = url.frontText ++
      (match url.query with
      | some query => '?' :: query
      | none => []) ++
      match url.fragment with
      | some fragment => '#' :: fragment
      | none => [] := rfl

/-- An address is read in the parts that it is written in. -/
theorem cutAt_text (url : Url) (hfront : IsUncut url.frontText)
    (hquery : ∀ query, url.query = some query → '#' ∉ query) :
    (cutAt '#' url.text).2 = url.fragment ∧
      cutAt '?' (cutAt '#' url.text).1 = (url.frontText, url.query) := by
  have hplace : '#' ∉ url.frontText ++ (match url.query with
      | some query => '?' :: query
      | none => []) := by
    intro hmem
    rcases List.mem_append.1 hmem with hmem | hmem
    · exact hfront.hash hmem
    · cases hsome : url.query with
      | none =>
          rw [hsome] at hmem
          cases hmem
      | some query =>
          rw [hsome] at hmem
          rcases List.mem_cons.1 hmem with heq | hmem
          · exact absurd heq (by decide)
          · exact hquery query hsome hmem
  rw [text_eq_frontText, cutAt_append_option hplace, cutAt_append_option hfront.question]
  exact ⟨rfl, rfl⟩

/-! ## Parameters in addresses -/

/-- The address `url` is `base` with another path and with what is left of some writes as its
query, and it is read in the same parts as it is written in. -/
structure Carries (url : Url) (writes : List (String × String)) (base : Url) : Prop where
  mem_fields : ∀ key value, (key, value) ∈ formFields (url.query.getD []) ↔
    Params.latest writes key = some value
  ascending : (formFields (url.query.getD [])).Pairwise fun f g =>
    Utf8.encode f.1.toList < Utf8.encode g.1.toList
  question_iff : '?' ∉ (cutAt '#' url.text).1 ↔ ∀ name, Params.latest writes name = none
  cut_fragment : (cutAt '#' url.text).2 = base.fragment
  cut_query : cutAt '?' (cutAt '#' url.text).1 = (url.frontText, url.query)
  scheme_eq : url.scheme = base.scheme
  authority_eq : url.authority = base.authority

section Forms

variable {base : Url} {writes fields : List (String × String)}

theorem formFields_withForm (url : Url) (fields : List (String × String)) :
    formFields ((url.withForm fields).query.getD []) = fields := by
  unfold withForm
  dsimp only
  split
  · next hempty =>
      rw [hempty]
      rfl
  · exact formFields_formText fields

theorem not_mem_query_withForm {url : Url} {query : List Char}
    (hquery : (url.withForm fields).query = some query) : '#' ∉ query := by
  unfold withForm at hquery
  dsimp only at hquery
  split at hquery
  · cases hquery
  · cases hquery
    exact not_mem_formText fields

theorem query_withForm_eq_none_iff (url : Url) (fields : List (String × String)) :
    (url.withForm fields).query = none ↔ fields = [] := by
  unfold withForm
  dsimp only
  split
  · next hempty => exact iff_of_true rfl hempty
  · next hsome => exact iff_of_false nofun hsome

/-- Addresses on the web: they name a place on a host. -/
def isWeb (url : Url) : Bool :=
  url.scheme = "http".toList ∨ url.scheme = "https".toList

theorem withPath_eq (hplace : base.isOpaque = false) (path : List Char) :
    base.withPath path =
      { base with path := .segments (pathOf base.scheme (withoutBreaks path)) } := by
  unfold withPath
  unfold isOpaque at hplace
  cases hpath : base.path with
  | segments => rfl
  | opaqueText =>
      rw [hpath] at hplace
      cases hplace

/-- With every path, an address on the web is cut nowhere but at its query and its fragment. -/
theorem isUncut_withPath {endpoint : List Char} (hread : ofText endpoint = .ok base)
    (hweb : base.isWeb = true) :
    base.isOpaque = false ∧ ∀ path, IsUncut (base.withPath path).frontText := by
  have hscheme : base.scheme = "http".toList ∨ base.scheme = "https".toList :=
    of_decide_eq_true hweb
  have hspecial : isSpecial base.scheme = true := by
    rcases hscheme with h | h <;> rw [h] <;> decide
  have hfile : base.scheme ≠ "file".toList := by
    rcases hscheme with h | h <;> rw [h] <;> decide
  have huncut : IsUncut base.scheme := by
    rcases hscheme with h | h <;> rw [h] <;> exact ⟨by decide, by decide⟩
  obtain ⟨authority, place, hauthority, htext, hplace⟩ := exists_authority hread hspecial hfile
  have hsegments : base.isOpaque = false := by rw [isOpaque, hplace]
  constructor
  · exact hsegments
  · intro path
    rw [withPath_eq hsegments]
    simp only [frontText, hauthority]
    exact .append (.append huncut (.cons (by decide) htext)) (isUncut_pathOf hfile _)

theorem cutAt_eq_none_iff {mark : Char} {text : List Char} :
    (cutAt mark text).2 = none ↔ mark ∉ text := by
  constructor
  · intro hnone hmem
    obtain ⟨first, rest, rfl, hfirst⟩ := List.eq_append_cons_of_mem hmem
    rw [cutAt_append hfirst] at hnone
    cases hnone
  · intro hnone
    rw [cutAt_of_none hnone]

/-- The address of a request at an endpoint on the web. -/
theorem carries {endpoint : List Char} (hread : ofText endpoint = .ok base)
    (hweb : base.isWeb = true) (hsorted : fields.Pairwise (·.1 < ·.1))
    (hlookup : ∀ key, fields.lookup key = Params.latest writes key) (path : List Char) :
    ((base.withPath path).withForm fields).Carries writes base := by
  obtain ⟨hfragment, hquery⟩ :=
    cutAt_text ((base.withPath path).withForm fields)
      ((isUncut_withPath hread hweb).2 path) (fun _ => not_mem_query_withForm)
  have hkeep : (base.withPath path).fragment = base.fragment ∧
      (base.withPath path).scheme = base.scheme ∧
      (base.withPath path).authority = base.authority := by
    unfold withPath
    split <;> exact ⟨rfl, rfl, rfl⟩
  have hnone : fields = [] ↔ ∀ name, Params.latest writes name = none := by
    constructor
    · rintro rfl name
      exact (hlookup name).symm
    · intro hnone
      cases fields with
      | nil => rfl
      | cons field rest =>
          have hfound := hlookup field.1
          rw [hnone, Params.lookup_cons_eq, if_pos rfl] at hfound
          cases hfound
  constructor
  · intro key value
    rw [formFields_withForm, Params.mem_iff_lookup hsorted, hlookup]
  · rw [formFields_withForm]
    exact hsorted.imp fun hless => Utf8.encode_lt_encode hless
  · rw [← cutAt_eq_none_iff, hquery, query_withForm_eq_none_iff, hnone]
  · exact hfragment.trans hkeep.1
  · exact hquery
  · exact hkeep.2.1
  · exact hkeep.2.2

end Forms

end Url

namespace Request

/-- A step in which a request gets parameters. -/
inductive Step where
  | param (key value : String)
  | params (more : Params)

/-- What a step writes. -/
def Step.writes : Step → List (String × String)
  | .param key value => [(key, value)]
  | .params more => more.fields

/-- The request after a step. -/
def after (r : Request) : Step → Request
  | .param key value => r.withParam key value
  | .params more => r.withParams more

variable {r : Request} {endpoint : String} {base : Url}

/-- The request after some steps. -/
def build (r : Request) (steps : List Step) : Request :=
  steps.foldl after r

theorem params_build (r : Request) (steps : List Step) :
    (r.build steps).params =
      (steps.flatMap Step.writes).foldl (fun p f => p.insert f.1 f.2) r.params := by
  induction steps generalizing r with
  | nil => rfl
  | cons step steps ih =>
      have hstep : (r.after step).params =
          step.writes.foldl (fun p f => p.insert f.1 f.2) r.params := by
        cases step <;> rfl
      rw [build, List.foldl_cons, ← build, ih, hstep, List.flatMap_cons, List.foldl_append]

/-- The text of a path with a slash in front. -/
def rooted (r : Request) : List Char :=
  if r.path.toList.head? = some '/' then r.path.toList else '/' :: r.path.toList

theorem url_eq (hread : Url.ofText endpoint.toList = .ok base)
    (hplace : base.isOpaque = false) :
    r.url endpoint = .ok ((base.withPath r.rooted).withForm r.params.fields) := by
  rw [url, hread]
  dsimp only
  rw [hplace]
  rfl

/-- Whatever the steps, the path and the endpoint are, the address carries what the steps wrote
last.  The path of the request changes neither its query nor its fragment, and the path and the
query of the endpoint change nothing. -/
theorem url_build (steps : List Step) (hnew : r.params.fields = [])
    (hread : Url.ofText endpoint.toList = .ok base) (hweb : base.isWeb = true) :
    ∃ url, (r.build steps).url endpoint = .ok url ∧
      url.Carries (steps.flatMap Step.writes) base ∧
      (∀ path, ∃ other, ({ r with path }.build steps).url endpoint = .ok other ∧
        other.query = url.query ∧ other.fragment = url.fragment ∧
        other.scheme = url.scheme ∧ other.authority = url.authority) ∧
      ∀ endpoint' base', Url.ofText endpoint'.toList = .ok base' →
        base'.scheme = base.scheme → base'.authority = base.authority →
        base'.fragment = base.fragment →
        (r.build steps).url endpoint' = .ok url := by
  have hplace := (Url.isUncut_withPath hread hweb).1
  have hlookup : ∀ key, (r.build steps).params.fields.lookup key =
      Params.latest (steps.flatMap Step.writes) key := by
    intro key
    rw [params_build, Params.lookup_foldl_insert, hnew]
    exact Option.or_none
  refine ⟨_, url_eq hread hplace,
    Url.carries hread hweb (r.build steps).params.sorted hlookup _, ?_, ?_⟩
  · intro path
    have hparams : ({ r with path }.build steps).params = (r.build steps).params := by
      rw [params_build, params_build]
    refine ⟨_, url_eq hread hplace, ?_⟩
    rw [hparams, Url.withPath_eq hplace, Url.withPath_eq hplace]
    exact ⟨rfl, rfl, rfl, rfl⟩
  · intro endpoint' base' hread' hscheme hauthority hfragment
    have hweb' : base'.isWeb = true := by
      rw [Url.isWeb, hscheme]
      exact hweb
    have hplace' := (Url.isUncut_withPath hread' hweb').1
    rw [url_eq hread' hplace', Url.withPath_eq hplace', Url.withPath_eq hplace]
    simp only [Url.withForm, hscheme, hauthority, hfragment]

/-- Names and values of signs, one of them written twice and one of them empty. -/
def signs : List Step :=
  [.param "&=" "old", .param "" "", .params (Params.ofList [("&=", "+%#?"), ("ü", "/")])]

/-- An endpoint with a user, a path, a query and a fragment. -/
def crowdedEndpoint : String :=
  "https://ops@[::1]:4443/base?stale#top"

theorem url_build_signs : ∃ base url, Url.ofText crowdedEndpoint.toList = .ok base ∧
    base.isWeb = true ∧
    (({ method := "GET", path := "a?b#c" } : Request).build signs).url crowdedEndpoint = .ok url ∧
    url.Carries (signs.flatMap Step.writes) base := by
  obtain ⟨base, hread⟩ : ∃ base, Url.ofText crowdedEndpoint.toList = .ok base := ⟨_, rfl⟩
  have hweb : base.isWeb = true := by
    cases hread
    rfl
  obtain ⟨url, hurl, hcarries, -, -⟩ :=
    url_build (r := { method := "GET", path := "a?b#c" }) signs rfl hread hweb
  exact ⟨base, url, hread, hweb, hurl, hcarries⟩

example : ((({ method := "GET", path := "a?b#c" } : Request).build signs).url
    crowdedEndpoint).map (fun url => String.ofList url.text) =
      .ok "https://ops@[::1]:4443/a%3Fb%23c?=&%26%3D=%2B%25%23%3F&%C3%BC=%2F#top" := by
  decide +kernel

end Request
end StoreAdmin
