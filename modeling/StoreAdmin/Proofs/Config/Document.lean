import StoreAdmin.Config.Document
import StoreAdmin.Proofs.Toml.Line

/-!
# Reading configurations back

The document of a configuration is read as the same configuration, whatever texts and
numbers it holds.
-/

namespace StoreAdmin

open Toml

/-! ## Statements -/

/-- The statements that a document makes about credentials. -/
def Credentials.statements (c : Credentials) : List Statement :=
  .table ["auth"] :: .assign ["type"] (.text c.type) ::
    c.fields.map fun field => .assign [field.1] (.text field.2)

/-- The statements that a document makes about a configuration. -/
def ClientConfig.statements (c : ClientConfig) : List Statement :=
  .assign ["endpoint"] (.text c.endpoint) ::
    .assign ["override_header"] (.scalar (.flag c.overrideHeader)) ::
    .assign ["auth_retries_max"] (.scalar (.integer c.attempts.toNat)) ::
    .assign ["timeout_secs"] (.scalar (.integer c.timeout.toNat)) ::
    .assign ["insecure_skip_verify"] (.scalar (.flag c.insecure)) ::
    match c.credentials with
    | some credentials => credentials.statements
    | none => []

theorem reads_fields {fields : List (String × String)}
    (hfields : ∀ field ∈ fields, isBareName field.1 = true) :
    Reads (fields.flatMap fun field => textLine field.1 field.2)
      (fields.map fun field => .assign [field.1] (.text field.2)) := by
  induction fields with
  | nil => exact .nil
  | cons field fields ih =>
      rw [List.flatMap_cons, List.map_cons]
      exact (ih fun f hf => hfields f (List.mem_cons_of_mem _ hf)).line
        (hfields field List.mem_cons_self) (isValue_text field.2)

theorem Credentials.isBareName_of_mem (c : Credentials) :
    ∀ field ∈ c.fields, isBareName field.1 = true := by
  cases c <;> simp [fields] <;> decide

theorem Credentials.reads (c : Credentials) : Reads c.tomlText c.statements := by
  have hlines := (reads_fields c.isBareName_of_mem).line (by decide : isBareName "type" = true)
    (isValue_text c.type)
  exact .blank (hlines.header (by decide : isBareName "auth" = true))

/-- The document of a configuration makes its statements. -/
theorem ClientConfig.statements?_tomlText (c : ClientConfig) :
    statements? c.tomlText = some c.statements := by
  have hcredentials : Reads (match c.credentials with
      | some credentials => credentials.tomlText
      | none => [])
      (match c.credentials with
      | some credentials => credentials.statements
      | none => []) := by
    split
    · next credentials _ => exact credentials.reads
    · exact .nil
  have hattempts : c.attempts.toNat < 2 ^ 128 := by
    have hfits := c.attempts.toNat_lt
    omega
  have htimeout : c.timeout.toNat < 2 ^ 128 := by
    have hfits := c.timeout.toNat_lt
    omega
  have hinsecure := hcredentials.line (by decide : isBareName "insecure_skip_verify" = true)
    (isValue_flag c.insecure)
  have htimed := hinsecure.line (by decide : isBareName "timeout_secs" = true)
    (isValue_nat htimeout)
  have htried := htimed.line (by decide : isBareName "auth_retries_max" = true)
    (isValue_nat hattempts)
  have hoverride := htried.line (by decide : isBareName "override_header" = true)
    (isValue_flag c.overrideHeader)
  have hreads := hoverride.line (by decide : isBareName "endpoint" = true)
    (isValue_text c.endpoint)
  simp only [tomlText, List.append_assoc]
  exact hreads.statements? (by decide)

/-! ## Entries -/

/-- The entries of a table with credentials. -/
def Credentials.entries (c : Credentials) : Entries :=
  ("type", .text c.type) :: c.fields.map fun field => (field.1, .text field.2)

/-- The entries of a document with a configuration. -/
def ClientConfig.entries (c : ClientConfig) : Entries :=
  ("endpoint", .text c.endpoint) ::
    ("override_header", .scalar (.flag c.overrideHeader)) ::
    ("auth_retries_max", .scalar (.integer c.attempts.toNat)) ::
    ("timeout_secs", .scalar (.integer c.timeout.toNat)) ::
    ("insecure_skip_verify", .scalar (.flag c.insecure)) ::
    match c.credentials with
    | some credentials => [("auth", .table .header credentials.entries)]
    | none => []

theorem ClientConfig.follow?_statements (c : ClientConfig) :
    follow? [] [] c.statements = some c.entries := by
  obtain ⟨endpoint, overrideHeader, attempts, timeout, insecure, credentials⟩ := c
  cases credentials with
  | none => rfl
  | some credentials => cases credentials <;> rfl

theorem Credentials.ofToml?_entries (c : Credentials) :
    ofToml? (.table .header c.entries) = some c := by
  cases c <;> rfl

theorem optional?_some {α β : Type} (missing : β) (read : α → Option β) (a : α) :
    optional? missing read (some a) = read a := rfl

theorem natBelow?_integer {bound n : Nat} (hn : n < bound) :
    Value.natBelow? bound (.scalar (.integer n)) = some n := by
  have hfits : (0 : Int) ≤ n ∧ (n : Int) < bound := by omega
  rw [Value.natBelow?, if_pos hfits, Int.toNat_natCast]

/-- The entries of a configuration describe it. -/
theorem ClientConfig.ofEntries?_entries (c : ClientConfig) : ofEntries? c.entries = some c := by
  have hattempts := natBelow?_integer (UInt32.toNat_lt c.attempts)
  have htimeout := natBelow?_integer (UInt64.toNat_lt c.timeout)
  have hcredentials : optional? none (fun v => (Credentials.ofToml? v).map some)
      (c.entries.lookup "auth") = some c.credentials := by
    obtain ⟨endpoint, overrideHeader, attempts, timeout, insecure, credentials⟩ := c
    cases credentials with
    | none => rfl
    | some credentials =>
        exact congrArg (Option.map some) credentials.ofToml?_entries
  have hlookups : c.entries.lookup "endpoint" = some (.text c.endpoint) ∧
      c.entries.lookup "override_header" = some (.scalar (.flag c.overrideHeader)) ∧
      c.entries.lookup "auth_retries_max" = some (.scalar (.integer c.attempts.toNat)) ∧
      c.entries.lookup "timeout_secs" = some (.scalar (.integer c.timeout.toNat)) ∧
      c.entries.lookup "insecure_skip_verify" = some (.scalar (.flag c.insecure)) :=
    ⟨rfl, rfl, rfl, rfl, rfl⟩
  obtain ⟨hendpoint, hoverride, htried, htimed, hinsecure⟩ := hlookups
  unfold ofEntries?
  rw [hendpoint, hoverride, htried, htimed, hinsecure, hcredentials, optional?_some, optional?_some,
    optional?_some, optional?_some, hattempts, htimeout]
  simp only [Option.bind_some, Option.bind_eq_bind, Option.pure_def, Value.text?, Value.flag?,
    UInt32.ofNat_toNat, UInt64.ofNat_toNat]

/-- The document of a configuration is read as that configuration. -/
theorem ClientConfig.ofToml?_tomlText (c : ClientConfig) : ofToml? c.tomlText = some c := by
  rw [ofToml?, Toml.entries?, statements?_tomlText, Option.bind_some, follow?_statements,
    Option.bind_some, ofEntries?_entries]

end StoreAdmin
