import StoreAdmin.Proofs.Address.Percent
import StoreAdmin.Proofs.Outcome
import StoreAdmin.Url.Parse

/-!
# Addresses on a host

What stands in front of the path of an address never holds a sign that would end
the path: users and passwords are escaped, and hosts and ports have no such signs.
-/

namespace StoreAdmin.Url

/-! ## Texts without the signs of queries and fragments -/

/-- Whether a text holds neither the sign of a query nor that of a fragment. -/
structure IsUncut (text : List Char) : Prop where
  question : '?' ∉ text
  hash : '#' ∉ text

variable {first second text : List Char}

theorem IsUncut.append (hfirst : IsUncut first) (hsecond : IsUncut second) :
    IsUncut (first ++ second) where
  question hmem := (List.mem_append.1 hmem).elim hfirst.question hsecond.question
  hash hmem := (List.mem_append.1 hmem).elim hfirst.hash hsecond.hash

theorem IsUncut.cons {c : Char} (hc : c ≠ '?' ∧ c ≠ '#') (htext : IsUncut text) :
    IsUncut (c :: text) where
  question hmem := (List.mem_cons.1 hmem).elim (fun heq => hc.1 heq.symm) htext.question
  hash hmem := (List.mem_cons.1 hmem).elim (fun heq => hc.2 heq.symm) htext.hash

theorem isUncut_nil : IsUncut [] where
  question := List.not_mem_nil
  hash := List.not_mem_nil

theorem isUncut_of_forall (htext : ∀ c ∈ text, c ≠ '?' ∧ c ≠ '#') : IsUncut text where
  question hmem := (htext _ hmem).1 rfl
  hash hmem := (htext _ hmem).2 rfl

theorem isUncut_percentEncode {plain : Char → Bool} (hquestion : plain '?' = false)
    (hhash : plain '#' = false) (text : List Char) : IsUncut (percentEncode plain text) := by
  apply isUncut_of_forall
  intro c hc
  rcases mem_percentEncode hc with hplain | rfl | hplain
  · constructor
    · rintro rfl
      rw [hquestion] at hplain
      cases hplain
    · rintro rfl
      rw [hhash] at hplain
      cases hplain
  · decide
  · constructor
    · rintro rfl
      cases hplain
    · rintro rfl
      cases hplain

/-! ## Hosts -/

theorem isUncut_natText (n : Nat) : IsUncut (Decimal.natText n) := by
  have hdigit : ∀ d : Decimal.Digit, d.toChar ≠ '?' ∧ d.toChar ≠ '#' := by decide
  apply isUncut_of_forall
  intro c hc
  obtain ⟨d, -, rfl⟩ := List.mem_map.1 hc
  exact hdigit d

theorem isUncut_ipv4Text (address : Nat) : IsUncut (ipv4Text address) := by
  have hdot : '.' ≠ '?' ∧ '.' ≠ '#' := by decide
  unfold ipv4Text
  refine .append (.append (.append (isUncut_natText _) (.cons hdot ?_)) (.cons hdot ?_))
    (.cons hdot ?_) <;> exact isUncut_natText _

theorem isUncut_hexLower (n : Nat) : IsUncut (Hex.lower n) := by
  have hdigit : ∀ m : Fin 16, Hex.lowerDigit m ≠ '?' ∧ Hex.lowerDigit m ≠ '#' := by decide
  apply isUncut_of_forall
  intro c hc
  rcases Hex.mem_digitsOnto hc with hnone | ⟨m, hm, rfl⟩
  · cases hnone
  · exact hdigit ⟨m, hm⟩

theorem isUncut_colonText (pieces : List Nat) : IsUncut (colonText pieces) := by
  induction pieces with
  | nil => exact isUncut_nil
  | cons piece rest ih =>
      cases rest with
      | nil => exact isUncut_hexLower piece
      | cons => exact .append (isUncut_hexLower piece) (.cons (by decide) ih)

theorem isUncut_gapText (run : Nat) (front pieces : List Nat) :
    IsUncut (gapText run front pieces) := by
  induction pieces generalizing front with
  | nil => exact isUncut_colonText _
  | cons piece rest ih =>
      rw [gapText]
      split
      · exact .append (isUncut_colonText _)
          (.cons (by decide) (.cons (by decide) (isUncut_colonText _)))
      · exact ih _

theorem isUncut_ipv6Text (pieces : List Nat) : IsUncut (ipv6Text pieces) := by
  unfold ipv6Text
  refine .cons (by decide) (.append ?_ (.cons (by decide) isUncut_nil))
  split
  · exact isUncut_colonText _
  · exact isUncut_gapText _ _ _

theorem isUncut_of_domain? {domain : List Char} (hdomain : domain? text = some domain) :
    IsUncut domain := by
  unfold domain? at hdomain
  split at hdomain
  · cases hdomain
  · dsimp only at hdomain
    split at hdomain
    · next hfit =>
        cases hdomain
        simp only [Bool.and_eq_true, Bool.not_eq_true'] at hfit
        apply isUncut_of_forall
        intro c hc
        have hallowed : ¬isForbidden c = true := List.any_eq_false.1 hfit.2 c hc
        constructor
        · rintro rfl
          exact hallowed rfl
        · rintro rfl
          exact hallowed rfl
    · cases hdomain

theorem isUncut_of_bracketed? {host : Host} (hhost : bracketed? text = some (.ok host)) :
    IsUncut host.text := by
  unfold bracketed? at hhost
  split at hhost
  · split at hhost
    · split at hhost
      · cases hhost
        exact isUncut_ipv6Text _
      · cases hhost
    · cases hhost
  · cases hhost

theorem isUncut_of_hostText {host : Host} (hhost : Host.ofText text = .ok host) :
    IsUncut host.text := by
  unfold Host.ofText at hhost
  split at hhost
  · next hbracketed =>
      rw [hhost] at hbracketed
      exact isUncut_of_bracketed? hbracketed
  · split at hhost
    · cases hhost
    · cases hhost
    · next domain hdomain =>
        obtain ⟨plain, -, hread⟩ := Option.bind_eq_some_iff.1 hdomain
        split at hhost
        · split at hhost
          · cases hhost
            exact isUncut_ipv4Text _
          · cases hhost
        · cases hhost
          exact isUncut_of_domain? hread

/-! ## Authorities -/

/-- In a scheme with hosts, user and password are escaped and the host is none of another scheme. -/
theorem exists_of_readAuthority {scheme : List Char} (hspecial : isSpecial scheme = true)
    {alone : Bool} {authority : Authority} {rest : List Char}
    (hread : readAuthority scheme text alone = .ok (authority, rest)) :
    ∃ user password name, authority.user = percentEncode isUserInfoChar user ∧
      authority.password = percentEncode isUserInfoChar password ∧
      Host.ofText name = .ok authority.host := by
  unfold readAuthority at hread
  have hnamed := of_check_ok (of_check_ok hread)
  rw [if_pos hspecial] at hnamed
  obtain ⟨host, hhost, hplaced⟩ := exists_of_bind_ok hnamed
  obtain ⟨port, -, hbuilt⟩ := exists_of_bind_ok (of_check_ok hplaced)
  cases of_check_ok hbuilt
  exact ⟨_, _, _, rfl, rfl, hhost⟩

theorem isUncut_of_readAuthority {scheme : List Char} (hspecial : isSpecial scheme = true)
    {alone : Bool} {authority : Authority} {rest : List Char}
    (hread : readAuthority scheme text alone = .ok (authority, rest)) : IsUncut authority.text := by
  obtain ⟨user, password, name, huser, hpassword, hhost⟩ :=
    exists_of_readAuthority hspecial hread
  have hescaped : ∀ part, IsUncut (percentEncode isUserInfoChar part) :=
    isUncut_percentEncode (by decide) (by decide)
  have huserText : IsUncut authority.userText := by
    unfold Authority.userText
    rw [huser, hpassword]
    split
    · exact isUncut_nil
    · refine .append (.append (hescaped user) ?_) (.cons (by decide) isUncut_nil)
      split
      · exact isUncut_nil
      · exact .cons (by decide) (hescaped password)
  unfold Authority.text
  refine .append (.append (.cons (by decide) (.cons (by decide) huserText))
    (isUncut_of_hostText hhost)) ?_
  split
  · exact .cons (by decide) (isUncut_natText _)
  · exact isUncut_nil

/-- An address of a scheme with hosts other than files names a place on a host, and what stands in
front of its path has no sign of a query or a fragment. -/
theorem exists_authority {base : Url} (hread : ofText text = .ok base)
    (hspecial : isSpecial base.scheme = true) (hfile : base.scheme ≠ "file".toList) :
    ∃ authority path, base.authority = some authority ∧ IsUncut authority.text ∧
      base.path = .segments path := by
  unfold ofText at hread
  split at hread
  · cases hread
  · next scheme rest hscheme =>
      obtain ⟨⟨authority?, path⟩, hplace, hbuilt⟩ := exists_of_bind_ok hread
      cases hbuilt
      unfold readPlace at hplace
      rw [if_neg hfile, if_pos hspecial] at hplace
      obtain ⟨⟨authority, behind⟩, hauthority, hplaced⟩ := exists_of_bind_ok hplace
      cases hplaced
      exact ⟨authority, _, rfl, isUncut_of_readAuthority hspecial hauthority, rfl⟩

end StoreAdmin.Url
