import StoreAdmin.Proofs.Text.Utf8

/-!
# Bytes that go on or break off

A text behind any bytes is read on its own, because a character never continues
what stands in front of it.  A text whose bytes break off is read as some of its
first characters, with units behind them that are no characters.
-/

namespace StoreAdmin.Utf8

/-! ## Parts of characters -/

/-- A byte that starts a character is no tail. -/
theorem isTail_lead {lead : UInt8} {rest : List UInt8} (hunit : (unit lead rest).1.isSome = true) :
    isTail lead = false := by
  apply Bool.eq_false_iff.mpr
  intro htail
  simp only [isTail, Bool.and_eq_true, decide_eq_true_eq, UInt8.le_iff_toNat_le,
    UInt8.reduceToNat] at htail
  have hnone : unit lead rest = (none, 1) := by
    unfold unit
    simp only [UInt8.lt_iff_toNat_lt, UInt8.reduceToNat]
    rw [if_neg (by omega), if_pos (by omega)]
  rw [hnone] at hunit
  cases hunit

theorem secondRange_bounds (lead : UInt8) :
    0x80 ≤ (secondRange lead).1 ∧ (secondRange lead).2 ≤ 0xBF := by
  unfold secondRange
  repeat' split
  all_goals decide

/-- A byte that is no tail cannot come second. -/
theorem isSecond_of_not_isTail (lead : UInt8) {b : UInt8} (hb : isTail b = false) :
    isSecond lead b = false := by
  apply Bool.eq_false_iff.mpr
  intro hsecond
  obtain ⟨hlow, hhigh⟩ := secondRange_bounds lead
  simp only [isSecond, Bool.and_eq_true, decide_eq_true_eq] at hsecond
  have htail : isTail b = true := by
    simp only [isTail, Bool.and_eq_true, decide_eq_true_eq]
    exact ⟨UInt8.le_trans hlow hsecond.1, UInt8.le_trans hsecond.2 hhigh⟩
  rw [hb] at htail
  cases htail

/-- A unit takes no more bytes than there are. -/
theorem unit_length_le (lead : UInt8) (rest : List UInt8) :
    (unit lead rest).2 - 1 ≤ rest.length := by
  unfold unit
  repeat' split
  all_goals simp_all

/-- How many bytes a character takes, by its first one. -/
def width (lead : UInt8) : Nat :=
  if lead < 0x80 then 1 else if lead < 0xE0 then 2 else if lead < 0xF0 then 3 else 4

theorem unit_of_isSome {lead : UInt8} {rest : List UInt8}
    (hunit : (unit lead rest).1.isSome = true) :
    (unit lead rest).2 = width lead ∧ width lead ≤ rest.length + 1 := by
  revert hunit
  unfold unit width
  by_cases hone : lead < 0x80
  · rw [if_pos hone, if_pos hone]
    exact fun _ => ⟨rfl, Nat.le_add_left _ _⟩
  rw [if_neg hone, if_neg hone]
  by_cases htail : lead < 0xC2
  · rw [if_pos htail]
    exact fun hnone => nomatch hnone
  rw [if_neg htail]
  by_cases htwo : lead < 0xE0
  · rw [if_pos htwo, if_pos htwo]
    cases rest with
    | nil => simp
    | cons b rest => cases hb : isSecond lead b <;> simp [hb]
  rw [if_neg htwo, if_neg htwo]
  by_cases hthree : lead < 0xF0
  · rw [if_pos hthree, if_pos hthree]
    match rest with
    | [] | [_] => simp
    | b :: c :: rest =>
      cases hb : isSecond lead b <;> cases hc : isTail c <;> simp [hb, hc]
  rw [if_neg hthree, if_neg hthree]
  by_cases hfour : lead < 0xF5
  · rw [if_pos hfour]
    match rest with
    | [] | [_] | [_, _] => simp
    | b :: c :: d :: rest =>
      cases hb : isSecond lead b <;> cases hc : isTail c <;> cases hd : isTail d <;>
        simp [hb, hc, hd]
  · rw [if_neg hfour]
    exact fun hnone => nomatch hnone

/-- A unit ends where a byte follows that is no tail. -/
theorem unit_append (lead : UInt8) (rest : List UInt8) {b : UInt8} (hb : isTail b = false)
    (more : List UInt8) : unit lead (rest ++ b :: more) = unit lead rest := by
  have hsecond := isSecond_of_not_isTail lead hb
  match rest with
  | [] => cases more with
    | nil => simp [unit, hsecond]
    | cons m more => cases more <;> simp [unit, hsecond]
  | [c] => cases more <;> cases hc : isSecond lead c <;> simp [unit, hb, hc]
  | [c, d] => cases hc : isSecond lead c <;> cases hd : isTail d <;> simp [unit, hb, hc, hd]
  | c :: d :: e :: rest => simp [unit]

/-! ## Longer bodies -/

theorem unitsFrom_append (skip : Nat) (bytes : List UInt8) (hskip : skip ≤ bytes.length)
    {b : UInt8}
    (hb : isTail b = false) (more : List UInt8) :
    unitsFrom skip (bytes ++ b :: more) = unitsFrom skip bytes ++ unitsFrom 0 (b :: more) := by
  induction bytes generalizing skip with
  | nil =>
    rw [Nat.le_zero.mp hskip]
    rfl
  | cons lead rest ih =>
    cases skip with
    | succ skip => exact ih skip (Nat.le_of_succ_le_succ hskip)
    | zero =>
      rw [List.cons_append, unitsFrom, unit_append lead rest hb, ih _ (unit_length_le lead rest)]
      rfl

/-- A text behind any bytes is read on its own. -/
theorem units_append_encode (bytes : List UInt8) (text : List Char) :
    units (bytes ++ encode text) = units bytes ++ text.map some := by
  cases text with
  | nil => simp [encode]
  | cons c text =>
    obtain ⟨lead, tail, hbytes, hunit⟩ := exists_unit c []
    have hlead : isTail lead = false := isTail_lead (by rw [hunit]; rfl)
    have hcons : encode (c :: text) = lead :: (tail ++ encode text) := by
      rw [encode, List.flatMap_cons, hbytes]
      rfl
    calc units (bytes ++ encode (c :: text))
      _ = unitsFrom 0 bytes ++ units (encode (c :: text)) := by
        rw [hcons]
        exact unitsFrom_append 0 bytes (Nat.zero_le _) hlead _
      _ = units bytes ++ (c :: text).map some := by rw [units_encode]; rfl

theorem sequence?_append (first second : List (Option Char)) :
    sequence? (first ++ second) =
      (sequence? first).bind fun text => (sequence? second).map (text ++ ·) := by
  induction first with
  | nil => cases h : sequence? second <;> simp [sequence?, h]
  | cons unit first ih =>
    cases unit with
    | none => rfl
    | some c =>
      rw [List.cons_append, sequence?, sequence?, ih]
      cases sequence? first <;> cases sequence? second <;> rfl

theorem decode?_append_encode (bytes : List UInt8) (text : List Char) :
    decode? (bytes ++ encode text) = (decode? bytes).map (· ++ text) := by
  rw [decode?, units_append_encode, sequence?_append, sequence?_map_some, decode?]
  cases sequence? (units bytes) <;> rfl

/-! ## Bodies that are cut short -/

theorem units_of_tails {bytes : List UInt8} (htails : ∀ b ∈ bytes, isTail b = true)
    (skip : Nat) :
    ∀ u ∈ unitsFrom skip bytes, u = none := by
  induction bytes generalizing skip with
  | nil => exact fun _ hu => by cases skip <;> cases hu
  | cons b rest ih =>
    have hrest := ih fun c hc => htails c (List.mem_cons_of_mem b hc)
    cases skip with
    | succ skip => exact hrest skip
    | zero =>
      intro u hu
      obtain rfl | hmem := List.mem_cons.mp hu
      · by_cases hsome : (unit b rest).1.isSome = true
        · have htail := htails b List.mem_cons_self
          rw [isTail_lead hsome] at htail
          cases htail
        · simpa using hsome
      · exact hrest _ u hmem

theorem isTail_of_mem_tail {c : Char} {b : UInt8} (hb : b ∈ (String.utf8EncodeChar c).tail) :
    isTail b = true := by
  have hbyte : ∀ n, isTail (UInt8.ofNat (n % 64 + 0x80)) = true := by
    intro n
    apply isTail_of_toNat <;> rw [toNat_byte (by omega)] <;> omega
  revert hb
  unfold String.utf8EncodeChar
  simp only
  split
  · simp
  split
  · simp only [List.tail_cons, List.mem_singleton]
    rintro rfl
    exact hbyte _
  split
  · simp only [List.tail_cons, List.mem_cons, List.not_mem_nil, or_false]
    rintro (rfl | rfl) <;> exact hbyte _
  · simp only [List.tail_cons, List.mem_cons, List.not_mem_nil, or_false]
    rintro (rfl | rfl | rfl) <;> exact hbyte _

/-- Some of the bytes of a character, but not all of them, encode nothing. -/
theorem units_of_cut {c : Char} {cut : List UInt8} (hfront : cut <+: String.utf8EncodeChar c)
    (hne : cut ≠ String.utf8EncodeChar c) : ∀ u ∈ units cut, u = none := by
  obtain ⟨lead, tail, hbytes, hunit⟩ := exists_unit c []
  rw [hbytes] at hfront hne
  have htails : ∀ b ∈ tail, isTail b = true := fun b hb =>
    isTail_of_mem_tail (by rw [hbytes]; exact hb)
  cases cut with
  | nil => exact fun _ hu => by cases hu
  | cons first short =>
    obtain ⟨rfl, hshort⟩ := List.cons_prefix_cons.mp hfront
    have hlength : short.length < tail.length :=
      Nat.lt_of_le_of_ne hshort.length_le fun heq => hne (by rw [hshort.eq_of_length heq])
    intro u hu
    obtain rfl | hmem := List.mem_cons.mp hu
    · by_cases hsome : (unit first short).1.isSome = true
      · have hwhole : (unit first (tail ++ [])).2 = width first ∧
            width first ≤ (tail ++ []).length + 1 := unit_of_isSome (by rw [hunit]; rfl)
        have hpart := unit_of_isSome hsome
        rw [hunit] at hwhole
        omega
      · simpa using hsome
    · exact units_of_tails (fun b hb => htails b (hshort.subset hb)) _ u hmem

/-- What is left of a text that is cut short: a start of the text, and behind it bytes that encode
nothing. -/
structure IsCut (text : List Char) (front : List UInt8) (kept : List Char) (cut : List UInt8) :
    Prop where
  front_eq : front = encode kept ++ cut
  starts : kept <+: text
  proper : kept ≠ text
  units_cut : ∀ u ∈ units cut, u = none

theorem exists_isCut {text : List Char} {front : List UInt8} (hfront : front <+: encode text)
    (hne : front ≠ encode text) : ∃ kept cut, IsCut text front kept cut := by
  induction text generalizing front with
  | nil => exact absurd (List.prefix_nil.mp hfront) hne
  | cons c text ih =>
    have hcons : encode (c :: text) = String.utf8EncodeChar c ++ encode text := rfl
    rw [hcons] at hfront hne
    by_cases hwhole : String.utf8EncodeChar c <+: front
    · obtain ⟨rest, rfl⟩ := hwhole
      have hrest : rest ≠ encode text := fun heq => hne (by rw [heq])
      obtain ⟨kept, cut, hcut⟩ := ih ((List.prefix_append_right_inj _).mp hfront) hrest
      refine ⟨c :: kept, cut, ?_, ?_, ?_, hcut.units_cut⟩
      · rw [hcut.front_eq]
        exact (List.append_assoc _ _ _).symm
      · exact List.cons_prefix_cons.mpr ⟨rfl, hcut.starts⟩
      · exact fun heq => hcut.proper (List.cons.inj heq).2
    · have hpart : front <+: String.utf8EncodeChar c :=
        (List.prefix_or_prefix_of_prefix hfront (List.prefix_append _ _)).resolve_right hwhole
      have hproper : front ≠ String.utf8EncodeChar c :=
        fun heq => hwhole (heq ▸ List.prefix_rfl)
      exact ⟨[], front, rfl, List.nil_prefix, (List.cons_ne_nil c text).symm,
        units_of_cut hpart hproper⟩

namespace IsCut

variable {text kept : List Char} {front cut : List UInt8} (hcut : IsCut text front kept cut)

include hcut

theorem units_eq : units front = kept.map some ++ units cut := by
  rw [hcut.front_eq, units_encode_append]

/-- Only whole characters are a text. -/
theorem eq_of_decode? {read : List Char} (hread : decode? front = some read) : read = kept := by
  rw [decode?, hcut.units_eq, sequence?_append, sequence?_map_some] at hread
  cases hunits : units cut with
  | nil =>
    rw [hunits] at hread
    simpa [sequence?] using hread.symm
  | cons u rest =>
    have hnone := hcut.units_cut u (by rw [hunits]; exact List.mem_cons_self)
    rw [hunits, hnone] at hread
    cases hread

end IsCut

end StoreAdmin.Utf8
