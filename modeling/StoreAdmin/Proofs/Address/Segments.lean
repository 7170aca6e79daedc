import StoreAdmin.Client.Request
import StoreAdmin.Proofs.Address.Percent

/-!
# Paths of escaped segments

A path that is joined of escaped segments is cut into the same segments again,
and reading it changes nothing but segments of dots.  Those are the only ones
for which the two codings do not fit together.
-/

namespace StoreAdmin

namespace Text

variable {p : Char → Bool} {piece rest : List Char} {c : Char}

theorem splitWhere_of_none (hpiece : ∀ d ∈ piece, p d = false) :
    splitWhere p piece = [piece] := by
  induction piece with
  | nil => rfl
  | cons d piece ih =>
      rw [splitWhere, hpiece d List.mem_cons_self,
        ih fun e he => hpiece e (List.mem_cons_of_mem d he)]
      rfl

theorem splitWhere_append_cons (hpiece : ∀ d ∈ piece, p d = false) (hc : p c = true) :
    splitWhere p (piece ++ c :: rest) = piece :: splitWhere p rest := by
  induction piece with
  | nil =>
      rw [List.nil_append, splitWhere, if_pos hc]
  | cons d piece ih =>
      rw [List.cons_append, splitWhere, hpiece d List.mem_cons_self,
        ih fun e he => hpiece e (List.mem_cons_of_mem d he)]
      rfl

end Text

namespace Url

theorem pathText_cons (s : Segment) (path : List Segment) :
    pathText (s :: path) = '/' :: (s ++ pathText path) := rfl

/-- Cutting the text of a path at its slashes gives the path back. -/
theorem splitWhere_append_pathText {p : Char → Bool} (hslash : p '/' = true) {s : Segment}
    {path : List Segment} (hs : ∀ d ∈ s, p d = false)
    (hpath : ∀ t ∈ path, ∀ d ∈ t, p d = false) :
    Text.splitWhere p (s ++ pathText path) = s :: path := by
  induction path generalizing s with
  | nil =>
      have hnone : s ++ pathText [] = s := List.append_nil s
      rw [hnone, Text.splitWhere_of_none hs]
  | cons t path ih =>
      rw [pathText_cons, Text.splitWhere_append_cons hs hslash,
        ih (hpath t List.mem_cons_self) fun u hu => hpath u (List.mem_cons_of_mem t hu)]

/-! ## Segments of dots -/

theorem eq_nil_of_plainDots {s : Segment} (hs : plainDots s = []) : s = [] := by
  unfold plainDots at hs
  split at hs
  · rfl
  · split at hs
    · split at hs <;> cases hs
    · cases hs

/-- A dot of a segment, escaped or not, stands for the byte of a dot. -/
theorem exists_of_plainDots_cons {s : Segment} {dots : List Char}
    (hs : plainDots s = '.' :: dots) :
    ∃ rest, percentDecode s = 0x2E :: percentDecode rest ∧ plainDots rest = dots := by
  have hplain : ∀ rest, percentDecode ('.' :: rest) = 0x2E :: percentDecode rest :=
    fun rest => percentDecode_cons (by decide) rest
  unfold plainDots at hs
  split at hs
  · cases hs
  · split at hs
    · next c two e rest =>
        split at hs
        · next hescape =>
            obtain ⟨rfl, rfl, he⟩ := hescape
            refine ⟨rest, ?_, (List.cons.inj hs).2⟩
            rcases he with rfl | rfl <;> rw [percentDecode] <;> rfl
        · obtain ⟨rfl, hdots⟩ := List.cons.inj hs
          exact ⟨_, hplain _, hdots⟩
    · obtain ⟨rfl, hdots⟩ := List.cons.inj hs
      exact ⟨_, hplain _, hdots⟩

theorem percentDecode_of_isHere {s : Segment} (hs : s.isHere = true) :
    percentDecode s = [0x2E] := by
  obtain ⟨rest, hdecode, hrest⟩ := exists_of_plainDots_cons (of_decide_eq_true hs)
  rw [hdecode, eq_nil_of_plainDots hrest]
  rfl

theorem percentDecode_of_isUp {s : Segment} (hs : s.isUp = true) :
    percentDecode s = [0x2E, 0x2E] := by
  obtain ⟨rest, hdecode, hrest⟩ := exists_of_plainDots_cons (of_decide_eq_true hs)
  obtain ⟨last, hnext, hlast⟩ := exists_of_plainDots_cons hrest
  rw [hdecode, hnext, eq_nil_of_plainDots hlast]
  rfl

/-- Whether reading a path drops a segment. -/
def Segment.IsDots (s : Segment) : Prop :=
  s.isHere = true ∨ s.isUp = true

/-! ## Following segments -/

theorem mem_of_mem_goUp {path : List Segment} {s : Segment} (hs : s ∈ goUp path) :
    s ∈ path := by
  unfold goUp at hs
  split at hs
  · exact hs
  · split at hs
    · exact hs
    · exact List.mem_cons_of_mem _ hs

theorem follow_cons_cons (done : List Segment) (s t : Segment) (path : List Segment) :
    follow done (s :: t :: path) =
      if s.isUp then follow (goUp done) (t :: path)
      else if s.isHere then follow done (t :: path)
      else follow (s :: done) (t :: path) := by
  rw [follow]
  simp

/-- Without segments of dots all segments are kept. -/
theorem follow_of_not_isDots {path done : List Segment} (hpath : ∀ s ∈ path, ¬s.IsDots) :
    follow done path = done.reverse ++ path := by
  induction path generalizing done with
  | nil => exact (List.append_nil _).symm
  | cons s path ih =>
      have hup : ¬s.isUp = true := fun h => hpath s List.mem_cons_self (.inr h)
      have hhere : ¬s.isHere = true := fun h => hpath s List.mem_cons_self (.inl h)
      have hrest : follow (s :: done) path = (s :: done).reverse ++ path :=
        ih fun t ht => hpath t (List.mem_cons_of_mem s ht)
      cases path with
      | nil => rw [follow, if_neg hup, if_neg hhere, List.reverse_cons]
      | cons t path =>
          rw [follow_cons_cons, if_neg hup, if_neg hhere, hrest, List.reverse_cons,
            List.append_assoc]
          rfl

/-- Following segments makes up nothing but empty ones, and leaves no dots. -/
theorem mem_follow {path done : List Segment} {s : Segment} (hs : s ∈ follow done path) :
    s ∈ done ∨ s = [] ∨ s ∈ path ∧ ¬s.IsDots := by
  induction path generalizing done with
  | nil => exact .inl (List.mem_reverse.1 hs)
  | cons t path ih =>
      have hlater : s ∈ path ∧ ¬s.IsDots → s ∈ t :: path ∧ ¬s.IsDots :=
        fun h => ⟨List.mem_cons_of_mem t h.1, h.2⟩
      cases path with
      | nil =>
          rw [follow] at hs
          split at hs
          · rcases List.mem_cons.1 (List.mem_reverse.1 hs) with rfl | hs
            · exact .inr (.inl rfl)
            · exact .inl (mem_of_mem_goUp hs)
          · next hup =>
              split at hs
              · rcases List.mem_cons.1 (List.mem_reverse.1 hs) with rfl | hs
                · exact .inr (.inl rfl)
                · exact .inl hs
              · next hhere =>
                  rcases List.mem_cons.1 (List.mem_reverse.1 hs) with rfl | hs
                  · exact .inr (.inr ⟨List.mem_cons_self, fun h => h.elim hhere hup⟩)
                  · exact .inl hs
      | cons u path =>
          rw [follow_cons_cons] at hs
          split at hs
          · rcases ih hs with hs | hs | hs
            · exact .inl (mem_of_mem_goUp hs)
            · exact .inr (.inl hs)
            · exact .inr (.inr (hlater hs))
          · next hup =>
              split at hs
              · rcases ih hs with hs | hs | hs
                · exact .inl hs
                · exact .inr (.inl hs)
                · exact .inr (.inr (hlater hs))
              · next hhere =>
                  rcases ih hs with hs | hs | hs
                  · rcases List.mem_cons.1 hs with rfl | hs
                    · exact .inr (.inr ⟨List.mem_cons_self, fun h => h.elim hhere hup⟩)
                    · exact .inl hs
                  · exact .inr (.inl hs)
                  · exact .inr (.inr (hlater hs))

/-! ## Escaped texts -/

theorem toNat_lt_of_isUnreserved {c : Char} (hc : isUnreserved c = true) :
    c.toNat < 128 := by
  have hvalue : c.toNat = c.val.toNat := rfl
  unfold isUnreserved Char.isAlphanum Char.isAlpha Char.isUpper Char.isLower Char.isDigit at hc
  simp only [Bool.or_eq_true, Bool.and_eq_true, decide_eq_true_eq,
    UInt32.le_iff_toNat_le, ge_iff_le, ← Char.toNat_inj] at hc
  simp at hc
  omega

theorem isPathChar_of_isUnreserved {c : Char} (hc : isUnreserved c = true) :
    isPathChar c = true := by
  have hall : ∀ n : Fin 128,
      isUnreserved (Char.ofNat n) = true → isPathChar (Char.ofNat n) = true := by
    decide +kernel
  have hchar := hall ⟨c.toNat, toNat_lt_of_isUnreserved hc⟩
  rw [Char.ofNat_toNat] at hchar
  exact hchar hc

/-- A text as a segment. -/
def escaped (text : String) : Segment :=
  percentEncode isUnreserved text.toList

theorem percentDecode_escaped (text : String) :
    percentDecode (escaped text) = Utf8.encode text.toList :=
  percentDecode_percentEncode (by decide) text.toList

theorem escaped_injective {first second : String} (h : escaped first = escaped second) :
    first = second := by
  apply String.toList_inj.1
  apply Utf8.encode_injective
  rw [← percentDecode_escaped, ← percentDecode_escaped, h]

theorem isDots_escaped_iff (text : String) :
    Segment.IsDots (escaped text) ↔ text = "." ∨ text = ".." := by
  constructor
  · rintro (hhere | hup)
    · left
      apply String.toList_inj.1
      apply Utf8.encode_injective
      rw [← percentDecode_escaped, percentDecode_of_isHere hhere]
      rfl
    · right
      apply String.toList_inj.1
      apply Utf8.encode_injective
      rw [← percentDecode_escaped, percentDecode_of_isUp hup]
      rfl
  · rintro (rfl | rfl)
    · exact .inl (by decide)
    · exact .inr (by decide)

theorem mem_escaped {text : String} {c : Char} (hc : c ∈ escaped text) :
    c = '%' ∨ isUnreserved c = true := by
  rcases mem_percentEncode hc with h | h
  · exact .inr h
  · exact h

/-- A character that an escaped text cannot hold. -/
theorem ne_of_mem_escaped {text : String} {c d : Char} (hc : c ∈ escaped text)
    (hsign : d ≠ '%') (hd : isUnreserved d = false) : c ≠ d := by
  rintro rfl
  rcases mem_escaped hc with h | h
  · exact hsign h
  · rw [hd] at h
    cases h

theorem isDrive_escaped (text : String) : Segment.isDrive (escaped text) = false := by
  cases hdrive : Segment.isDrive (escaped text) with
  | false => rfl
  | true =>
      have hcolon : ∀ c ∈ escaped text, c ≠ ':' :=
        fun c hc => ne_of_mem_escaped hc (by decide) (by decide)
      have hbar : ∀ c ∈ escaped text, c ≠ '|' :=
        fun c hc => ne_of_mem_escaped hc (by decide) (by decide)
      unfold Segment.isDrive at hdrive
      split at hdrive
      · next letter mark hsegment =>
          have hmark : mark ∈ escaped text := by simp [hsegment]
          simp [hcolon mark hmark, hbar mark hmark] at hdrive
      · cases hdrive

theorem isPathChar_of_mem_escaped {text : String} {c : Char} (hc : c ∈ escaped text) :
    isPathChar c = true := by
  rcases mem_escaped hc with rfl | hunreserved
  · decide
  · exact isPathChar_of_isUnreserved hunreserved

/-! ## Reading the path back -/

/-- What stands behind the first slash of a path of escaped texts. -/
theorem segments_escaped (special : Bool) (first : String) (rest : List String) :
    segments special (escaped first ++ pathText (rest.map escaped)) =
      follow [] ((first :: rest).map escaped) := by
  have hcut : ∀ text : String, ∀ c ∈ escaped text,
      (c = '/' || (special && c = '\\') : Bool) = false := by
    intro text c hc
    have hslash : c ≠ '/' := ne_of_mem_escaped hc (by decide) (by decide)
    have hback : c ≠ '\\' := ne_of_mem_escaped hc (by decide) (by decide)
    simp [hslash, hback]
  have hplain : ∀ s ∈ (first :: rest).map escaped, percentEncode isPathChar s = s := by
    intro s hs
    obtain ⟨text, -, rfl⟩ := List.mem_map.1 hs
    exact percentEncode_of_plain fun c hc => isPathChar_of_mem_escaped hc
  have hsplit : Text.splitWhere (fun c => c = '/' || (special && c = '\\'))
      (escaped first ++ pathText (rest.map escaped)) = (first :: rest).map escaped := by
    apply splitWhere_append_pathText (by simp) (hcut first)
    intro s hs
    obtain ⟨text, -, rfl⟩ := List.mem_map.1 hs
    exact hcut text
  unfold segments
  dsimp only
  rw [hsplit, List.map_congr_left hplain, List.map_id']

theorem pathOf_eq (scheme : List Char) (first : String) (rest : List String) :
    pathOf scheme (pathText ((first :: rest).map escaped)) =
      if scheme = "file".toList then
        fileSegments (escaped first ++ pathText (rest.map escaped))
      else follow [] ((first :: rest).map escaped) := by
  rw [← segments_escaped (isSpecial scheme) first rest, List.map_cons, pathText_cons]
  unfold pathOf
  simp

/-- Without dots a path of escaped texts is read as it was written. -/
theorem pathOf_escaped (scheme : List Char) {first : String} {rest : List String}
    (hfirst : first ≠ "") (hdots : ∀ text ∈ first :: rest, ¬Segment.IsDots (escaped text)) :
    pathOf scheme (pathText ((first :: rest).map escaped)) = (first :: rest).map escaped := by
  have hpath : ∀ s ∈ (first :: rest).map escaped, ¬Segment.IsDots s := by
    intro s hs
    obtain ⟨text, htext, rfl⟩ := List.mem_map.1 hs
    exact hdots text htext
  have hfollow : follow [] ((first :: rest).map escaped) = (first :: rest).map escaped :=
    follow_of_not_isDots hpath
  have hnonempty : escaped first ≠ [] := by
    intro hempty
    have hnone : escaped "" = [] := rfl
    exact hfirst (escaped_injective (hempty.trans hnone.symm))
  rw [pathOf_eq]
  split
  · unfold fileSegments
    rw [segments_escaped, hfollow, List.map_cons]
    simp [isDrive_escaped, hnonempty]
  · exact hfollow

theorem mem_fileSegments {text : List Char} {s : Segment} (hs : s ∈ fileSegments text)
    (hdrive : ∀ t ∈ segments true text, t.isDrive = false) :
    s = [] ∨ s ∈ segments true text := by
  unfold fileSegments at hs
  dsimp only at hs
  split at hs
  · next first rest hsegments =>
      rw [hsegments] at hdrive ⊢
      rw [if_neg (by simp [hdrive first List.mem_cons_self])] at hs
      split at hs
      · exact .inl (List.mem_singleton.1 hs)
      · exact .inr ((List.dropWhile_sublist _).subset hs)
  · exact .inl (List.mem_singleton.1 hs)

/-- Reading a path of escaped texts makes up nothing but empty segments, and leaves
no dots. -/
theorem mem_pathOf_escaped {scheme : List Char} {first : String} {rest : List String}
    {s : Segment} (hs : s ∈ pathOf scheme (pathText ((first :: rest).map escaped))) :
    s = [] ∨ ∃ text ∈ first :: rest, s = escaped text ∧ ¬Segment.IsDots s := by
  have hfollow : ∀ t ∈ follow [] ((first :: rest).map escaped),
      t = [] ∨ ∃ text ∈ first :: rest, t = escaped text ∧ ¬Segment.IsDots t := by
    intro t ht
    rcases mem_follow ht with hnone | hempty | ⟨hmem, hdots⟩
    · cases hnone
    · exact .inl hempty
    · obtain ⟨text, htext, rfl⟩ := List.mem_map.1 hmem
      exact .inr ⟨text, htext, rfl, hdots⟩
  rw [pathOf_eq] at hs
  split at hs
  · have hdrive : ∀ t ∈ segments true (escaped first ++ pathText (rest.map escaped)),
        t.isDrive = false := by
      intro t ht
      rw [segments_escaped] at ht
      rcases hfollow t ht with rfl | ⟨text, -, rfl, -⟩
      · rfl
      · exact isDrive_escaped text
    rcases mem_fileSegments hs hdrive with hempty | hmem
    · exact .inl hempty
    · rw [segments_escaped] at hmem
      exact hfollow s hmem
  · exact hfollow s hs

end Url
end StoreAdmin
