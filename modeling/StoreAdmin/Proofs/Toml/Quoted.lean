import StoreAdmin.Toml.Writer

/-!
# Strings of a document

Every text is written in a form that is read as the same text.  Escapes are read
back one by one.  On several lines only the quotes need care: the closing ones are
found because no more than two others stand in a row, and those at the end of the
text belong to it.
-/

namespace StoreAdmin.Toml

/-! ## Escapes -/

/-- What is read behind a backslash as the character `c`, and starts no line. -/
structure IsEscape (escape : List Char) (c : Char) : Prop where
  read : ∀ rest, escape? (escape ++ rest) = some (c, escape.length)
  inline : ∀ rest, startsLine ((escape ++ rest).dropWhile isSpace) = false

theorem coded?_padded {n : Nat} (hn : n < 128) :
    coded? (Hex.padded Hex.upperDigit 4 n) = some (Char.ofNat n) := by
  have hall : ∀ m : Fin 128,
      coded? (Hex.padded Hex.upperDigit 4 m) = some (Char.ofNat m) := by decide +kernel
  exact hall ⟨n, hn⟩

theorem toNat_lt_of_isControl {c : Char} (hc : isControl c = true) : c.toNat < 128 := by
  simp only [isControl, Bool.and_eq_true, Bool.or_eq_true, decide_eq_true_eq] at hc
  omega

theorem escape?_code (rest : List Char) : escape? ('u' :: rest) =
    if (rest.take 4).length = 4 then (coded? (rest.take 4)).map fun c => (c, 5) else none := rfl

theorem isEscape_code {c : Char} (hc : isControl c = true) :
    IsEscape ('u' :: Hex.padded Hex.upperDigit 4 c.toNat) c where
  read rest := by
    have hlength : (Hex.padded Hex.upperDigit 4 c.toNat).length = 4 := rfl
    have htake : (Hex.padded Hex.upperDigit 4 c.toNat ++ rest).take 4 =
        Hex.padded Hex.upperDigit 4 c.toNat := List.take_left' hlength
    rw [List.cons_append, escape?_code, htake, if_pos hlength,
      coded?_padded (toNat_lt_of_isControl hc), Char.ofNat_toNat]
    rfl
  inline rest := rfl

theorem isTextChar_of_not_isControl {c : Char} (hc : ¬isControl c = true) (hline : c ≠ '\n') :
    isTextChar c = true := by
  by_cases htab : c = '\t'
  · simp [isTextChar, htab]
  · simp [isControl, htab, hline] at hc
    simp [isTextChar, htab, hc]

/-- How a character is written: as it is, or with an escape.  A quote stands for itself only on
several lines, where it is not the third one in a row. -/
inductive Writes (lines : Bool) (run : Nat) (c : Char) : Prop
  | quote (hc : c = '"') (hlines : lines = true) (hrun : run < 2)
      (hwritten : basicChar lines run c = [c])
  | lineBreak (hc : c = '\n') (hlines : lines = true) (hwritten : basicChar lines run c = [c])
  | plain (hc : isTextChar c = true) (hquote : c ≠ '"') (hback : c ≠ '\\')
      (hwritten : basicChar lines run c = [c])
  | escape (escape : List Char) (hescape : IsEscape escape c)
      (hreset : lines = true → ¬(c = '"' ∧ run < 2))
      (hwritten : basicChar lines run c = '\\' :: escape)

theorem writes (lines : Bool) (run : Nat) (c : Char) : Writes lines run c := by
  by_cases hquote : c = '"'
  · subst hquote
    by_cases hplain : lines = true ∧ run < 2
    · exact .quote rfl hplain.1 hplain.2 (by rw [basicChar, if_pos rfl, if_pos hplain])
    · exact .escape ['"'] ⟨fun _ => rfl, fun _ => rfl⟩
        (fun hlines hrun => hplain ⟨hlines, hrun.2⟩)
        (by rw [basicChar, if_pos rfl, if_neg hplain])
  have hreset : lines = true → ¬(c = '"' ∧ run < 2) := fun _ hc => hquote hc.1
  by_cases hback : c = '\\'
  · subst hback
    exact .escape ['\\'] ⟨fun _ => rfl, fun _ => rfl⟩ hreset rfl
  by_cases htab : c = '\t'
  · subst htab
    exact .escape ['t'] ⟨fun _ => rfl, fun _ => rfl⟩ hreset rfl
  by_cases hline : c = '\n'
  · subst hline
    cases lines with
    | true => exact .lineBreak rfl rfl rfl
    | false => exact .escape ['n'] ⟨fun _ => rfl, fun _ => rfl⟩ hreset rfl
  by_cases hreturn : c = '\r'
  · subst hreturn
    exact .escape ['r'] ⟨fun _ => rfl, fun _ => rfl⟩ hreset rfl
  by_cases hbell : c.toNat = 8
  · obtain rfl : c = Char.ofNat 8 := by rw [← hbell, Char.ofNat_toNat]
    exact .escape ['b'] ⟨fun _ => rfl, fun _ => rfl⟩ hreset rfl
  by_cases hfeed : c.toNat = 12
  · obtain rfl : c = Char.ofNat 12 := by rw [← hfeed, Char.ofNat_toNat]
    exact .escape ['f'] ⟨fun _ => rfl, fun _ => rfl⟩ hreset rfl
  by_cases hcontrol : isControl c = true
  · exact .escape _ (isEscape_code hcontrol) hreset
      (by simp [basicChar, hquote, hback, htab, hline, hreturn, hbell, hfeed, hcontrol])
  · exact .plain (isTextChar_of_not_isControl hcontrol hline) hquote hback
      (by simp [basicChar, hquote, hback, htab, hline, hreturn, hbell, hfeed, hcontrol])

/-! ## Strings on one line -/

theorem basic?_skip (skipped rest : List Char) :
    basic? skipped.length (skipped ++ rest) = basic? 0 rest := by
  induction skipped with
  | nil => rfl
  | cons c skipped ih => exact ih

theorem basic?_escape {escape : List Char} {c : Char} (hescape : IsEscape escape c)
    (rest : List Char) : basic? 0 ('\\' :: (escape ++ rest)) = push c (basic? 0 rest) := by
  rw [basic?, if_neg (by decide), if_pos rfl, hescape.read]
  dsimp only
  rw [basic?_skip]

theorem basic?_plain {c : Char} (hc : isTextChar c = true) (hquote : c ≠ '"') (hback : c ≠ '\\')
    (rest : List Char) : basic? 0 (c :: rest) = push c (basic? 0 rest) := by
  rw [basic?, if_neg hquote, if_neg hback, if_pos hc]

/-- A text in double quotes is read back, whatever it holds. -/
theorem basic?_basicText (run : Nat) (text rest : List Char) :
    basic? 0 (basicText false run text ++ '"' :: rest) = some (text, rest) := by
  induction text generalizing run with
  | nil => rfl
  | cons c text ih =>
      rw [basicText, List.append_assoc]
      cases writes false run c with
      | quote hc hlines => cases hlines
      | lineBreak hc hlines => cases hlines
      | plain hc hquote hback hwritten =>
          rw [hwritten, List.singleton_append, basic?_plain hc hquote hback, ih]
          rfl
      | escape escape hescape hreset hwritten =>
          rw [hwritten, List.cons_append, basic?_escape hescape, ih]
          rfl

theorem literal?_append {text : List Char}
    (htext : ∀ c ∈ text, isTextChar c = true ∧ c ≠ '\'')
    (rest : List Char) : literal? (text ++ '\'' :: rest) = some (text, rest) := by
  induction text with
  | nil => rfl
  | cons c text ih =>
      obtain ⟨hc, hquote⟩ := htext c List.mem_cons_self
      rw [List.cons_append, literal?, if_neg hquote, if_pos hc,
        ih fun d hd => htext d (List.mem_cons_of_mem c hd)]
      rfl

/-! ## Strings on several lines -/

/-- Whether a text behind `run` quotes holds nothing but quotes, so few that they may stand in front
of the closing ones. -/
def IsTrailing (mark : Char) (run : Nat) (text : List Char) : Prop :=
  ∃ count, text = List.replicate count mark ∧ run + count ≤ 2

theorem IsTrailing.cons {mark : Char} {run : Nat} {text : List Char}
    (htext : IsTrailing mark (run + 1) text) : IsTrailing mark run (mark :: text) := by
  obtain ⟨count, rfl, hcount⟩ := htext
  exact ⟨count + 1, rfl, by omega⟩

theorem quotes_cons_self (mark : Char) (text : List Char) :
    quotes mark (mark :: text) = quotes mark text + 1 := by
  simp [quotes]

theorem quotes_cons_of_ne {mark c : Char} (hc : c ≠ mark) (text : List Char) :
    quotes mark (c :: text) = 0 := by
  simp [quotes, hc]

/-- What is written has no three quotes in a row. -/
theorem quotes_basicText (run : Nat) (hrun : run ≤ 2) (text rest : List Char) :
    IsTrailing '"' run text ∨ quotes '"' (basicText true run text ++ rest) ≤ 2 - run := by
  induction text generalizing run with
  | nil => exact .inl ⟨0, rfl, hrun⟩
  | cons c text ih =>
      rw [basicText, List.append_assoc]
      cases writes true run c with
      | quote hc hlines hless hwritten =>
          subst hc
          rw [hwritten, if_pos ⟨rfl, hless⟩, List.singleton_append, quotes_cons_self]
          rcases ih (run + 1) (by omega) with htrailing | hcount
          · exact .inl htrailing.cons
          · exact .inr (by omega)
      | lineBreak hc hlines hwritten =>
          subst hc
          rw [hwritten, List.singleton_append, quotes_cons_of_ne (by decide)]
          exact .inr (Nat.zero_le _)
      | plain hc hquote hback hwritten =>
          rw [hwritten, List.singleton_append, quotes_cons_of_ne hquote]
          exact .inr (Nat.zero_le _)
      | escape escape hescape hreset hwritten =>
          rw [hwritten, List.cons_append, quotes_cons_of_ne (by decide)]
          exact .inr (Nat.zero_le _)

theorem basicLines?_skip (skipped rest : List Char) :
    basicLines? { escaped := skipped.length } (skipped ++ rest) = basicLines? {} rest := by
  induction skipped with
  | nil => rfl
  | cons c skipped ih =>
      rw [List.cons_append, basicLines?, if_pos (by simp)]
      exact ih

theorem basicLines?_escape {escape : List Char} {c : Char} (hescape : IsEscape escape c)
    (rest : List Char) :
    basicLines? {} ('\\' :: (escape ++ rest)) = push c (basicLines? {} rest) := by
  rw [basicLines?, if_neg (by decide), if_neg (by simp), if_neg (by decide), if_pos rfl,
    hescape.inline, hescape.read]
  dsimp only
  rw [basicLines?_skip]
  rfl

theorem basicLines?_quote {rest : List Char} (hcount : quotes '"' ('"' :: rest) < 3) :
    basicLines? {} ('"' :: rest) = push '"' (basicLines? {} rest) := by
  rw [basicLines?, if_neg (by decide), if_neg (by simp), if_pos rfl, if_neg (by omega)]

theorem basicLines?_plain {c : Char} {rest : List Char}
    (hc : isTextChar c = true ∨ startsLine (c :: rest) = true) (hquote : c ≠ '"')
    (hback : c ≠ '\\') : basicLines? {} (c :: rest) = push c (basicLines? {} rest) := by
  rw [basicLines?, if_neg (by decide), if_neg (by simp), if_neg hquote, if_neg hback, if_pos hc]

theorem basicLines?_trailing {text : List Char} (htext : IsTrailing '"' 0 text)
    (rest : List Char) :
    basicLines? {} (basicText true 0 text ++ '"' :: '"' :: '"' :: '\n' :: rest) =
      some (text, '\n' :: rest) := by
  obtain ⟨count, rfl, hcount⟩ := htext
  match count with
  | 0 | 1 | 2 => rfl

/-- A text on several lines is read back up to the quotes that close it. -/
theorem basicLines?_basicText (run : Nat) (hrun : run ≤ 2) (text rest : List Char)
    (hclear : run = 0 ∨ ¬IsTrailing '"' run text) :
    basicLines? {} (basicText true run text ++ '"' :: '"' :: '"' :: '\n' :: rest) =
      some (text, '\n' :: rest) := by
  induction text generalizing run with
  | nil =>
      obtain rfl : run = 0 := hclear.resolve_right fun hopen => hopen ⟨0, rfl, hrun⟩
      rfl
  | cons c text ih =>
      by_cases htrailing : IsTrailing '"' run (c :: text)
      · obtain rfl : run = 0 := hclear.resolve_right fun hopen => hopen htrailing
        exact basicLines?_trailing htrailing rest
      have hzero := ih 0 (Nat.zero_le 2) (.inl rfl)
      rw [basicText, List.append_assoc]
      cases writes true run c with
      | quote hc hlines hless hwritten =>
          subst hc
          have hopen : ¬IsTrailing '"' (run + 1) text := fun h => htrailing h.cons
          have hcount := (quotes_basicText (run + 1) (by omega) text
            ('"' :: '"' :: '"' :: '\n' :: rest)).resolve_left hopen
          rw [hwritten, if_pos ⟨rfl, hless⟩, List.singleton_append, basicLines?_quote,
            ih (run + 1) (by omega) (.inr hopen)]
          · rfl
          · rw [quotes_cons_self]
            omega
      | lineBreak hc hlines hwritten =>
          have hquote : c ≠ '"' := by rintro rfl; cases hc
          subst hc
          rw [hwritten, if_neg fun h => hquote h.1, List.singleton_append,
            basicLines?_plain (.inr rfl) (by decide) (by decide), hzero]
          rfl
      | plain hc hquote hback hwritten =>
          rw [hwritten, if_neg fun h => hquote h.1, List.singleton_append,
            basicLines?_plain (.inl hc) hquote hback, hzero]
          rfl
      | escape escape hescape hreset hwritten =>
          rw [hwritten, if_neg (hreset rfl), List.cons_append, basicLines?_escape hescape, hzero]
          rfl

theorem run_le_longestRun (mark : Char) (run : Nat) (text : List Char) :
    run ≤ longestRun mark run text := by
  induction text generalizing run with
  | nil => exact Nat.le_refl run
  | cons c text ih =>
      rw [longestRun]
      split
      · exact Nat.le_of_succ_le (ih (run + 1))
      · exact Nat.le_max_left _ _

theorem not_mem_of_longestRun {mark : Char} {run : Nat} {text : List Char}
    (hnone : longestRun mark run text = 0) : mark ∉ text := by
  induction text generalizing run with
  | nil => exact List.not_mem_nil
  | cons c text ih =>
      rw [longestRun] at hnone
      split at hnone
      · have hrun := run_le_longestRun mark (run + 1) text
        omega
      · next hc =>
          intro hmem
          rcases List.mem_cons.1 hmem with rfl | hmem
          · exact hc rfl
          · exact ih (Nat.max_eq_zero_iff.1 hnone).2 hmem

/-- A text whose runs of quotes are short has no three in a row. -/
theorem quotes_append {mark : Char} (run : Nat) {text : List Char}
    (htext : longestRun mark run text ≤ 2) (rest : List Char) :
    IsTrailing mark run text ∨ quotes mark (text ++ rest) ≤ 2 - run := by
  induction text generalizing run with
  | nil => exact .inl ⟨0, rfl, htext⟩
  | cons c text ih =>
      rw [longestRun] at htext
      by_cases hc : c = mark
      · subst hc
        rw [if_pos rfl] at htext
        rw [List.cons_append, quotes_cons_self]
        rcases ih (run + 1) htext with htrailing | hcount
        · exact .inl htrailing.cons
        · have hrun := run_le_longestRun c (run + 1) text
          exact .inr (by omega)
      · rw [List.cons_append, quotes_cons_of_ne hc]
        exact .inr (Nat.zero_le _)

theorem literalLines?_trailing {text : List Char} (htext : IsTrailing '\'' 0 text)
    (rest : List Char) :
    literalLines? (text ++ '\'' :: '\'' :: '\'' :: '\n' :: rest) =
      some (text, '\n' :: rest) := by
  obtain ⟨count, rfl, hcount⟩ := htext
  match count with
  | 0 | 1 | 2 => rfl

theorem literalLines?_append (run : Nat) {text : List Char}
    (htext : ∀ c ∈ text, isTextChar c = true ∨ c = '\n')
    (hruns : longestRun '\'' run text ≤ 2)
    (rest : List Char) (hclear : run = 0 ∨ ¬IsTrailing '\'' run text) :
    literalLines? (text ++ '\'' :: '\'' :: '\'' :: '\n' :: rest) =
      some (text, '\n' :: rest) := by
  induction text generalizing run with
  | nil =>
      obtain rfl : run = 0 := hclear.resolve_right fun hopen => hopen ⟨0, rfl, hruns⟩
      rfl
  | cons c text ih =>
      by_cases htrailing : IsTrailing '\'' run (c :: text)
      · obtain rfl : run = 0 := hclear.resolve_right fun hopen => hopen htrailing
        exact literalLines?_trailing htrailing rest
      have hrest : ∀ d ∈ text, isTextChar d = true ∨ d = '\n' :=
        fun d hd => htext d (List.mem_cons_of_mem c hd)
      rw [longestRun] at hruns
      by_cases hc : c = '\''
      · subst hc
        rw [if_pos rfl] at hruns
        have hopen : ¬IsTrailing '\'' (run + 1) text := fun h => htrailing h.cons
        have hcount := (quotes_append (run + 1) hruns
          ('\'' :: '\'' :: '\'' :: '\n' :: rest)).resolve_left hopen
        rw [List.cons_append, literalLines?, if_pos rfl, if_neg,
          ih (run + 1) hrest hruns (.inr hopen)]
        · rfl
        · rw [quotes_cons_self]
          omega
      · rw [if_neg hc] at hruns
        have hplain : isTextChar c = true ∨
            startsLine (c :: (text ++ '\'' :: '\'' :: '\'' :: '\n' :: rest)) = true := by
          rcases htext c List.mem_cons_self with hplain | rfl
          · exact .inl hplain
          · exact .inr rfl
        rw [List.cons_append, literalLines?, if_neg hc, if_pos hplain,
          ih 0 hrest (by omega) (.inl rfl)]
        rfl

/-! ## All forms -/

theorem string?_basic {body : List Char} (hbody : ∀ rest, body ≠ '"' :: '"' :: rest) :
    string? ('"' :: body) = basic? 0 body := by
  unfold string?
  split
  · next heq => exact absurd (List.cons.inj heq).2 (hbody _)
  · next heq => rw [(List.cons.inj heq).2]
  · next heq => cases heq
  · next heq => cases heq
  · next _ hother _ _ => exact absurd rfl (hother body)

theorem string?_literal {body : List Char} (hbody : ∀ rest, body ≠ '\'' :: '\'' :: rest) :
    string? ('\'' :: body) = literal? body := by
  unfold string?
  split
  · next heq => cases heq
  · next heq => cases heq
  · next heq => exact absurd (List.cons.inj heq).2 (hbody _)
  · next heq => rw [(List.cons.inj heq).2]
  · next _ _ _ hother => exact absurd rfl (hother body)

theorem afterBreak_cons {c : Char} (hc : isTextChar c = true) (rest : List Char) :
    afterBreak (c :: rest) = c :: rest := by
  unfold afterBreak
  split
  · next heq =>
      cases heq
      cases hc
  · next heq =>
      cases heq
      cases hc
  · rfl

theorem isTextChar_of_mem {text : List Char} (hcontrols : text.any isControl = false) :
    ∀ c ∈ text, isTextChar c = true ∨ c = '\n' := by
  intro c hc
  by_cases hline : c = '\n'
  · exact .inr hline
  · exact .inl (isTextChar_of_not_isControl (List.any_eq_false.1 hcontrols c hc) hline)

theorem form_literal {text : List Char} (hform : Form.of text = .literal) :
    ∀ c ∈ text, isTextChar c = true ∧ c ≠ '\'' := by
  have hfacts : text.any isControl = false ∧ longestRun '\'' 0 text = 0 ∧
      text.contains '\n' = false := by
    unfold Form.of at hform
    dsimp only at hform
    split at hform
    · cases hform
    split at hform
    · next hcondition => simpa [and_assoc] using hcondition
    · repeat' split at hform
      all_goals cases hform
  obtain ⟨hcontrols, hquotes, hlines⟩ := hfacts
  intro c hc
  constructor
  · refine (isTextChar_of_mem hcontrols c hc).resolve_right ?_
    rintro rfl
    rw [List.contains_iff_mem.2 hc] at hlines
    cases hlines
  · rintro rfl
    exact not_mem_of_longestRun hquotes hc

theorem form_literalLines {text : List Char} (hform : Form.of text = .literalLines) :
    (∀ c ∈ text, isTextChar c = true ∨ c = '\n') ∧ longestRun '\'' 0 text ≤ 2 := by
  have hfacts : text.any isControl = false ∧ longestRun '\'' 0 text ≤ 2 := by
    unfold Form.of at hform
    dsimp only at hform
    split at hform
    · cases hform
    split at hform
    · cases hform
    split at hform
    · cases hform
    split at hform
    · next hcondition => simpa using hcondition
    · split at hform <;> cases hform
  exact ⟨isTextChar_of_mem hfacts.1, hfacts.2⟩

/-- A text that does not start with a line break is written without one in front, and on one line
without a quote in front. -/
theorem basicText_start (lines : Bool) (run : Nat) {c : Char} (hline : c = '\n' → lines = false)
    (text : List Char) : ∃ d rest, basicText lines run (c :: text) = d :: rest ∧
      isTextChar d = true ∧ (lines = false → d ≠ '"') := by
  rw [basicText]
  cases writes lines run c with
  | quote hc hlines hless hwritten =>
      rw [hwritten, hc]
      exact ⟨'"', _, rfl, by decide, fun hone => absurd (hlines.symm.trans hone) (by decide)⟩
  | lineBreak hc hlines hwritten =>
      exact absurd (hlines.symm.trans (hline hc)) (by decide)
  | plain hc hquote hback hwritten =>
      rw [hwritten]
      exact ⟨c, _, rfl, hc, fun _ => hquote⟩
  | escape escape hescape hreset hwritten =>
      rw [hwritten]
      exact ⟨'\\', _, rfl, by decide, fun _ => by decide⟩

theorem string?_basicText (text rest : List Char) :
    string? ('"' :: (basicText false 0 text ++ '"' :: '\n' :: rest)) =
      some (text, '\n' :: rest) := by
  rw [string?_basic, basic?_basicText]
  intro more heq
  cases text with
  | nil => cases heq
  | cons c text =>
      obtain ⟨d, tail, hstart, -, hquote⟩ := basicText_start false 0 (fun _ => rfl) text
      rw [hstart] at heq
      exact hquote rfl (List.cons.inj heq).1

theorem string?_literalText {text : List Char}
    (htext : ∀ c ∈ text, isTextChar c = true ∧ c ≠ '\'') (rest : List Char) :
    string? ('\'' :: (text ++ '\'' :: '\n' :: rest)) = some (text, '\n' :: rest) := by
  rw [string?_literal, literal?_append htext]
  intro more heq
  cases text with
  | nil => cases heq
  | cons c text => exact (htext c List.mem_cons_self).2 (List.cons.inj heq).1

/-- The line break that is written in front of lines is the only one that is dropped. -/
theorem afterBreak_lineBreak {text body : List Char}
    (hbody : '\n' ∉ text → ∃ c rest, body = c :: rest ∧ isTextChar c = true) :
    afterBreak ((if text.contains '\n' then ['\n'] else []) ++ body) = body := by
  split
  · rfl
  · next hlines =>
      obtain ⟨c, rest, rfl, hc⟩ := hbody fun hmem => hlines (List.contains_iff_mem.2 hmem)
      exact afterBreak_cons hc rest

theorem string?_basicLines (text rest : List Char) :
    string? ('"' :: '"' :: '"' :: ((if text.contains '\n' then ['\n'] else []) ++
      (basicText true 0 text ++ '"' :: '"' :: '"' :: '\n' :: rest))) =
        some (text, '\n' :: rest) := by
  rw [string?, afterBreak_lineBreak, basicLines?_basicText 0 (Nat.zero_le 2) text rest (.inl rfl)]
  intro hlines
  cases text with
  | nil => exact ⟨'"', _, rfl, by decide⟩
  | cons c text =>
      have hline : c ≠ '\n' := fun heq => hlines (heq ▸ List.mem_cons_self)
      obtain ⟨d, tail, hstart, hd, -⟩ :=
        basicText_start true 0 (fun heq => absurd heq hline) text
      exact ⟨d, _, by rw [hstart]; rfl, hd⟩

theorem string?_literalLines {text : List Char}
    (htext : ∀ c ∈ text, isTextChar c = true ∨ c = '\n')
    (hruns : longestRun '\'' 0 text ≤ 2)
    (rest : List Char) :
    string? ('\'' :: '\'' :: '\'' :: ((if text.contains '\n' then ['\n'] else []) ++
      (text ++ '\'' :: '\'' :: '\'' :: '\n' :: rest))) = some (text, '\n' :: rest) := by
  rw [string?, afterBreak_lineBreak, literalLines?_append 0 htext hruns rest (.inl rfl)]
  intro hlines
  cases text with
  | nil => exact ⟨'\'', _, rfl, by decide⟩
  | cons c text =>
      have hline : c ≠ '\n' := fun heq => hlines (heq ▸ List.mem_cons_self)
      exact ⟨c, _, rfl, (htext c List.mem_cons_self).resolve_right hline⟩

/-- A text is read as it was written, up to the end of the line. -/
theorem string?_stringText (text rest : List Char) :
    string? (stringText text ++ '\n' :: rest) = some (text, '\n' :: rest) := by
  unfold stringText
  cases hform : Form.of text with
  | basic =>
      dsimp only
      rw [List.cons_append, List.cons_append, List.append_assoc]
      exact string?_basicText text rest
  | literal =>
      dsimp only
      rw [List.cons_append, List.cons_append, List.append_assoc]
      exact string?_literalText (form_literal hform) rest
  | basicLines =>
      rw [List.append_assoc, List.append_assoc, List.append_assoc]
      exact string?_basicLines text rest
  | literalLines =>
      obtain ⟨htext, hruns⟩ := form_literalLines hform
      rw [List.append_assoc, List.append_assoc, List.append_assoc]
      exact string?_literalLines htext hruns rest

example : stringText "'\n\"\"".toList = "\"\"\"\n'\n\"\"\"\"\"".toList := by
  decide +kernel

end StoreAdmin.Toml
