import StoreAdmin.Proofs.Config.Secret
import StoreAdmin.Proofs.Record.Catalogue
import StoreAdmin.Proofs.Text.Quoted
import StoreAdmin.Record.Inspect

/-!
# What logs show of credentials

The text that a log shows of a record does not depend on the fields that it redacts or hides,
however deep they are.  Where all fields are texts that are shown, the log tells any two records
apart.  Of the records with credentials, those that create or delete a secret key are of the second
kind.
-/

namespace StoreAdmin

/-! ## Fields that are not shown -/

mutual

/-- A value with some of its fields emptied. -/
def Shape.without (p : Field → Bool) : (s : Shape) → s.Val → s.Val
  | .text, v => v
  | .integer, v => v
  | .flag, v => v
  | .ratio, v => v
  | .list item, vs => List.map (item.without p) vs
  | .record _ fields, v => fields.without p v

def Fields.without (p : Field → Bool) : (fs : Fields) → fs.Val → fs.Val
  | .nil, v => v
  | .cons field shape rest, (v, vs) =>
    (if p field then shape.default else shape.without p v, rest.without p vs)

end

/-- Whether a log shows none of some fields. -/
def Shape.conceals (p : Field → Bool) : Shape → Bool
  | .record _ fields => fields.toList.all fun e => !p e.1 || e.1.visibility ≠ .shown
  | _ => true

/-- The value of a field that is not shown does not matter. -/
theorem Fields.inspect_cons_of_concealed {field : Field} (hfield : field.visibility ≠ .shown)
    (shape : Shape) (rest : Fields) (v v' : shape.Val) (vs : rest.Val) :
    (Fields.cons field shape rest).inspect (v, vs) =
      (Fields.cons field shape rest).inspect (v', vs) := by
  simp only [Fields.inspect]
  cases hvisible : field.visibility with
  | shown => exact absurd hvisible hfield
  | redacted | hidden => rfl

mutual

/-- A log shows the same of a value when fields are emptied that it does not show. -/
theorem Shape.inspect_without {p : Field → Bool} (s : Shape)
    (hs : s.every (Shape.conceals p) = true) (v : s.Val) :
    s.inspect (s.without p v) = s.inspect v := by
  match s, hs, v with
  | .text, _, _ | .integer, _, _ | .flag, _, _ | .ratio, _, _ => rfl
  | .list item, hs, (vs : List item.Val) =>
    simp only [Shape.every, Bool.and_eq_true] at hs
    have hitem : ∀ v, item.inspect (item.without p v) = item.inspect v :=
      item.inspect_without hs.2
    have hitems : (vs.map (item.without p)).map item.inspect = vs.map item.inspect := by
      rw [List.map_map]
      exact List.map_congr_left fun v _ => hitem v
    simp only [Shape.inspect, Shape.without]
    exact congrArg (fun parts => '[' :: Text.joined ", ".toList parts ++ [']']) hitems
  | .record heading fields, hs, v =>
    simp only [Shape.every, Shape.conceals, Bool.and_eq_true, List.all_eq_true, Bool.or_eq_true,
      Bool.not_eq_true', decide_eq_true_eq] at hs
    simp only [Shape.inspect, Shape.without]
    rw [fields.inspect_without hs.1 hs.2 v]

theorem Fields.inspect_without {p : Field → Bool} (fs : Fields)
    (hfields : ∀ e ∈ fs.toList, p e.1 = false ∨ e.1.visibility ≠ .shown)
    (hs : fs.every (Shape.conceals p) = true) (v : fs.Val) :
    fs.inspect (fs.without p v) = fs.inspect v := by
  match fs, hfields, hs, v with
  | .nil, _, _, _ => rfl
  | .cons field shape rest, hfields, hs, (v, vs) =>
    simp only [Fields.every, Bool.and_eq_true] at hs
    have hrest : rest.inspect (rest.without p vs) = rest.inspect vs :=
      rest.inspect_without (fun e he => hfields e (List.mem_cons_of_mem _ he)) hs.2 vs
    have hmine := hfields (field, shape) List.mem_cons_self
    rw [Fields.without]
    by_cases hvisible : field.visibility = .shown
    · have hkept : p field = false := hmine.resolve_right (not_not_intro hvisible)
      rw [hkept]
      simp only [Fields.inspect, hrest, Bool.false_eq_true, if_false, shape.inspect_without hs.1 v]
    · rw [Fields.inspect_cons_of_concealed hvisible shape rest _ v]
      simp only [Fields.inspect, hrest]

end

/-! ## Records of texts that are shown -/

theorem Text.append_joined_cons (separator part : List Char) (parts : List (List Char)) :
    separator ++ Text.joined separator (part :: parts) =
      (part :: parts).flatMap (separator ++ ·) := by
  induction parts generalizing part with
  | nil => simp [joined]
  | cons next parts ih =>
    rw [List.flatMap_cons, ← ih next, List.append_assoc]
    simp [joined]

/-- Whether the fields are texts and a log shows all of them. -/
def Fields.isPlain : Fields → Bool
  | .nil => true
  | .cons field .text rest => field.visibility = .shown && rest.isPlain
  | .cons _ _ _ => false

/-- Fields that a log shows behind separators are told apart, whatever follows them. -/
theorem Fields.eq_of_separated {fs : Fields} (hplain : fs.isPlain = true) {v w : fs.Val}
    {separator tail tail' : List Char}
    (heq : (fs.inspect v).flatMap (separator ++ ·) ++ tail =
      (fs.inspect w).flatMap (separator ++ ·) ++ tail') : v = w := by
  match fs, hplain, v, w with
  | .nil, _, _, _ => rfl
  | .cons field .text rest, hplain, ((x : String), vs), ((y : String), ws) =>
    obtain ⟨hshown, hrest⟩ : field.visibility = .shown ∧ rest.isPlain = true := by
      simpa [isPlain] using hplain
    simp only [Fields.inspect, hshown, Shape.inspect, List.flatMap_cons, List.append_assoc,
      List.append_cancel_left_eq] at heq
    obtain ⟨hx, hmore⟩ := Text.quoted_append_inj heq
    rw [String.toList_inj.mp hx, eq_of_separated hrest hmore]

/-- Whether all of a record are texts and a log shows all of it. -/
def Shape.isPlain : Shape → Bool
  | .record heading fields => !heading.partlyShown && fields.isPlain
  | _ => false

/-- A log tells records of texts apart that it shows. -/
theorem Fields.eq_of_inspect {heading : Heading} {fs : Fields}
    (hplain : (Shape.record heading fs).isPlain = true) {v w : fs.Val}
    (heq : (Shape.record heading fs).inspect v = (Shape.record heading fs).inspect w) : v = w := by
  obtain ⟨hwhole, hfields⟩ : heading.partlyShown = false ∧ fs.isPlain = true := by
    simpa [Shape.isPlain] using hplain
  match fs, hfields, v, w with
  | .nil, _, _, _ => rfl
  | .cons field .text rest, hfields, ((x : String), vs), ((y : String), ws) =>
    have hshown : field.visibility = .shown := by
      simpa using (Bool.and_eq_true_iff.mp hfields).1
    have hparts : Text.joined ", ".toList ((Fields.cons field .text rest).inspect (x, vs)) =
        Text.joined ", ".toList ((Fields.cons field .text rest).inspect (y, ws)) := by
      simpa [Shape.inspect, braced, hwhole] using heq
    apply @eq_of_separated _ hfields _ _ ", ".toList [] []
    simp only [Fields.inspect, hshown] at hparts ⊢
    rw [← Text.append_joined_cons, ← Text.append_joined_cons, hparts]

/-! ## Credentials -/

/-- The names, in logs, of the fields that hold credentials. -/
def credentialLabels : List String :=
  ["password", "access_token", "refresh_token", "secret_key", "secret_key1", "secret_key2",
   "key_password", "java_keystore"]

def Field.isCredential (f : Field) : Bool :=
  credentialLabels.contains f.label

/-- The values of a record without its credentials. -/
def Model.bare {α : Type} [Model α] (a : α) : (fields α).Val :=
  (fields α).without Field.isCredential (toVal a)

namespace Kind

/-- The kinds of records with a credential that logs show. -/
def disclosed : List Kind :=
  [of SecretKeyCreation, of SecretKeyDeletion]

theorem conceals_of_not_mem : ∀ k ∈ all, k ∉ disclosed →
    k.shape.every (Shape.conceals Field.isCredential) = true := by
  have hall : all.filter (fun k => !k.shape.every (Shape.conceals Field.isCredential)) =
      disclosed := rfl
  intro k hk hhidden
  by_contra hshown
  have hmem : k ∈ all.filter (fun k => !k.shape.every (Shape.conceals Field.isCredential)) :=
    List.mem_filter.mpr ⟨hk, by simpa using hshown⟩
  exact hhidden (hall ▸ hmem)

theorem isPlain_of_mem : ∀ k ∈ disclosed, k.shape.isPlain = true := by
  have hall : disclosed.all (fun k => k.shape.isPlain) = true := by
    decide +kernel
  exact List.all_eq_true.mp hall

end Kind

/-- What logs show of values that differ in nothing but their credentials.  The log of a record is
the same, unless it creates or deletes a secret key: then it is the same only if the records are.
The log of credentials or of a configuration is always the same. -/
theorem inspect_eq_iff {k : Kind} (hk : k ∈ Kind.all) (a b : k.carrier) (c d : Credentials)
    (config other : ClientConfig) :
    (Model.bare a = Model.bare b →
      (Model.inspect a = Model.inspect b ↔ (k ∈ Kind.disclosed → a = b))) ∧
    (c.withSecret "" = d.withSecret "" → c.inspect = d.inspect) ∧
    (config.withSecret "" = other.withSecret "" → config.inspect = other.inspect) := by
  refine ⟨fun hbare => ⟨fun hsame hdisclosed => ?_, fun hequal => ?_⟩, ?_, ?_⟩
  · have hvalues := Fields.eq_of_inspect (Kind.isPlain_of_mem k hdisclosed) hsame
    rw [← Model.ofVal_toVal a, ← Model.ofVal_toVal b, hvalues]
  · by_cases hdisclosed : k ∈ Kind.disclosed
    · rw [hequal hdisclosed]
    · have hhidden := Kind.conceals_of_not_mem k hk hdisclosed
      calc Model.inspect a
        _ = k.shape.inspect (Model.bare a) := (k.shape.inspect_without hhidden _).symm
        _ = k.shape.inspect (Model.bare b) := by rw [hbare]
        _ = Model.inspect b := k.shape.inspect_without hhidden _
  · intro hsame
    rw [← c.inspect_withSecret "", hsame, d.inspect_withSecret]
  · intro hsame
    rw [← config.inspect_withSecret "", hsame, other.inspect_withSecret]

/-- A provider with a key store and the password of its key. -/
def provided (keystore password : String) : ServiceProviderCreation :=
  { serviceProvider := { dns := "sp.local", javaKeystore := keystore, keyPassword := password } }

/-- A workload with a secret. -/
def sharing (secret : String) : Credentials :=
  .service "http://gw" secret "pod" "ns" "id"

/-- A configuration with credentials. -/
def configured (credentials : Credentials) : ClientConfig :=
  { endpoint := "http://mgmt", credentials := some credentials }

theorem inspect_eq_iff_provided :
    Kind.of ServiceProviderCreation ∈ Kind.all ∧
    Model.bare (provided "one" "first") = Model.bare (provided "two" "second") ∧
    Model.inspect (provided "one" "first") = Model.inspect (provided "two" "second") ∧
    (sharing "one").inspect = (sharing "two").inspect ∧
    (configured (sharing "one")).inspect = (configured (sharing "two")).inspect := by
  have hmem : Kind.of ServiceProviderCreation ∈ Kind.all := by simp [Kind.all]
  have hhidden : Kind.of ServiceProviderCreation ∉ Kind.disclosed := by
    intro hdisclosed
    exact absurd (Kind.isPlain_of_mem _ hdisclosed) (by decide)
  have hbare : Model.bare (provided "one" "first") = Model.bare (provided "two" "second") := rfl
  obtain ⟨hrecords, hcredentials, hconfigs⟩ :=
    inspect_eq_iff hmem (provided "one" "first") (provided "two" "second") (sharing "one")
      (sharing "two") (configured (sharing "one")) (configured (sharing "two"))
  exact ⟨hmem, hbare, (hrecords hbare).mpr (absurd · hhidden), hcredentials rfl, hconfigs rfl⟩

/-- The logs of requests that create or delete a secret key show the key. -/
theorem not_inspect_eq_secretKey :
    (¬∀ a b : SecretKeyCreation,
      Model.bare a = Model.bare b → Model.inspect a = Model.inspect b) ∧
    (¬∀ a b : SecretKeyDeletion,
      Model.bare a = Model.bare b → Model.inspect a = Model.inspect b) := by
  constructor
  · intro hall
    exact absurd (hall { secretKey := "one" } { secretKey := "two" } rfl) (by decide +kernel)
  · intro hall
    exact absurd (hall { secretKey := "one" } { secretKey := "two" } rfl) (by decide +kernel)

end StoreAdmin
