import Mathlib.Data.List.Forall2
import Mathlib.Data.Fintype.Basic
import Mathlib.Tactic.FinCases
import StoreAdmin.Json.Lexer
import StoreAdmin.Json.Writer
import StoreAdmin.Proofs.Number.Decimal
import StoreAdmin.Proofs.Number.Hex

/-!
# Reading literals back

A literal that is written is one token.  A string ends with its closing quote,
whatever follows it; a word or a number ends where the next sign can be no part
of it, which in a document is a comma or the end of a container.
-/

namespace StoreAdmin.Json

/-! ## Strings -/

/-- A piece of a string literal stands for a character. -/
inductive Piece.StandsFor : Piece → Char → Prop
  | char (c : Char) : StandsFor (.char c) c
  | code (c : Char) (hlow : c.toNat < 0xD800) : StandsFor (.code c.toNat) c

theorem pieceText_cons {p : Piece} {c : Char} (hp : p.StandsFor c) (rest : List Piece) :
    pieceText (p :: rest) = (pieceText rest).map (c :: ·) := by
  cases hp with
  | char c => rfl
  | code c hlow =>
    have hhigh : isHighSurrogate c.toNat = false := by
      simp [isHighSurrogate, hlow]
    have hlower : isLowSurrogate c.toNat = false := by
      simp [isLowSurrogate]
      omega
    cases rest with
    | nil => simp [pieceText, hhigh, hlower]
    | cons q rest => cases q <;> simp [pieceText, hhigh, hlower]

theorem pieceText_of_standsFor {pieces : List Piece} {text : List Char}
    (hpieces : List.Forall₂ Piece.StandsFor pieces text) : pieceText pieces = some text := by
  induction hpieces with
  | nil => rfl
  | cons hp _ ih => rw [pieceText_cons hp, ih, Option.map_some]

theorem step_hex {n : Nat} (hn : n < 16) (pieces : List Piece) (count value : Nat) :
    lexer.step (.string pieces (.hex count value)) (some (Hex.lowerDigit n)) =
      if count = 3 then (.string (.code (value * 16 + n) :: pieces) .none, [])
      else (.string pieces (.hex (count + 1) (value * 16 + n)), []) := by
  simp only [lexer, lexStep, inString, Hex.digit?_lowerDigit n hn]

/-- Inside of a literal, some units make up the last piece and complete no token. -/
structure MakesPiece (units : List (Option Char)) (p : Piece) : Prop where
  stateAfter : ∀ pieces,
    lexer.stateAfter (.string pieces .none) units = .string (p :: pieces) .none
  emitted : ∀ pieces, lexer.emitted (.string pieces .none) units = []

theorem makesPiece_plain {c : Char} (hquote : c ≠ '"') (hslash : c ≠ '\\')
    (hcontrol : ¬c.toNat < 0x20) : MakesPiece [some c] (.char c) := by
  have hstep : ∀ pieces, lexer.step (.string pieces .none) (some c) =
      (.string (.char c :: pieces) .none, []) := by
    intro pieces
    simp only [lexer, lexStep, inString, if_neg hquote, if_neg hslash, if_neg hcontrol]
  constructor <;> intro pieces
  · simp only [Scanner.stateAfter, hstep]
  · simp only [Scanner.emitted, hstep, List.append_nil]

theorem makesPiece_letter {c d : Char} (hletter : c ≠ 'u') (hescape : simpleEscape? c = some d) :
    MakesPiece [some '\\', some c] (.char d) := by
  have hstep : ∀ pieces, lexer.step (.string pieces .opened) (some c) =
      (.string (.char d :: pieces) .none, []) := by
    intro pieces
    simp only [lexer, lexStep, inString, if_neg hletter, hescape]
  have hopen : ∀ pieces, lexer.step (.string pieces .none) (some '\\') =
      (.string pieces .opened, []) := fun _ => rfl
  constructor <;> intro pieces
  · simp only [Scanner.stateAfter, hopen, hstep]
  · simp only [Scanner.emitted, hopen, hstep, List.append_nil]

theorem makesPiece_code {n : Nat} (hn : n < 0x10000) :
    MakesPiece (('\\' :: 'u' :: Hex.padded Hex.lowerDigit 4 n).map some) (.code n) := by
  have hvalue : ((n / 16 / 16 / 16 % 16 * 16 + n / 16 / 16 % 16) * 16 + n / 16 % 16) * 16 + n % 16 =
      n := by
    omega
  have hopen : ∀ pieces, lexer.step (.string pieces .none) (some '\\') =
      (.string pieces .opened, []) := fun _ => rfl
  have hcode : ∀ pieces, lexer.step (.string pieces .opened) (some 'u') =
      (.string pieces (.hex 0 0), []) := fun _ => rfl
  have hdigit : ∀ m, m % 16 < 16 := fun m => Nat.mod_lt m (by decide)
  constructor <;> intro pieces
  · simp [Hex.padded, Scanner.stateAfter, hopen, hcode, step_hex, hdigit, hvalue]
  · simp [Hex.padded, Scanner.emitted, hopen, hcode, step_hex, hdigit]

/-- A character is written as one piece that stands for it. -/
theorem exists_makesPiece (c : Char) :
    ∃ p : Piece, p.StandsFor c ∧ MakesPiece ((escapeChar c).map some) p := by
  unfold escapeChar
  split
  · next hc =>
    refine ⟨.char c, .char c, ?_⟩
    obtain rfl | rfl := hc
    · exact makesPiece_letter (by decide) rfl
    · exact makesPiece_letter (by decide) rfl
  split
  · next hc => exact ⟨.char c, .char c, hc ▸ makesPiece_letter (by decide) rfl⟩
  split
  · next hc => exact ⟨.char c, .char c, hc ▸ makesPiece_letter (by decide) rfl⟩
  split
  · next hc => exact ⟨.char c, .char c, hc ▸ makesPiece_letter (by decide) rfl⟩
  split
  · next hc =>
    have hchar : c = Char.ofNat 8 := by rw [← hc, Char.ofNat_toNat]
    exact ⟨.char c, .char c, hchar ▸ makesPiece_letter (by decide) rfl⟩
  split
  · next hc =>
    have hchar : c = Char.ofNat 12 := by rw [← hc, Char.ofNat_toNat]
    exact ⟨.char c, .char c, hchar ▸ makesPiece_letter (by decide) rfl⟩
  split
  · next hlow => exact ⟨.code c.toNat, .code c (by omega), makesPiece_code (by omega)⟩
  · next hspecial _ _ _ _ _ hcontrol =>
    rw [not_or] at hspecial
    exact ⟨.char c, .char c, makesPiece_plain hspecial.1 hspecial.2 hcontrol⟩

/-- What is written of a text inside of a literal is read as pieces and completes no token. -/
theorem exists_pieces (text : List Char) :
    ∃ read, List.Forall₂ Piece.StandsFor read text ∧ ∀ pieces,
      lexer.stateAfter (.string pieces .none) ((text.flatMap escapeChar).map some) =
        .string (read.reverse ++ pieces) .none ∧
      lexer.emitted (.string pieces .none) ((text.flatMap escapeChar).map some) = [] := by
  induction text with
  | nil => exact ⟨[], .nil, fun _ => ⟨rfl, rfl⟩⟩
  | cons c rest ih =>
    obtain ⟨p, hp, hmakes⟩ := exists_makesPiece c
    obtain ⟨read, hread, hrest⟩ := ih
    refine ⟨p :: read, .cons hp hread, fun pieces => ?_⟩
    rw [List.flatMap_cons, List.map_append, Scanner.stateAfter_append, Scanner.emitted_append,
      hmakes.stateAfter, hmakes.emitted, (hrest _).1, (hrest _).2]
    simp

/-- The literal of a text is read as that text, whatever follows it. -/
theorem run_quote (text : List Char) (rest : List (Option Char)) :
    lexer.run .between ((quote text).map some ++ rest) =
      .string (some (String.ofList text)) :: lexer.run .between rest := by
  obtain ⟨read, hread, hpieces⟩ := exists_pieces text
  obtain ⟨hstate, hemitted⟩ := hpieces []
  have htoken : stringToken (read.reverse ++ []) = .string (some (String.ofList text)) := by
    rw [stringToken, List.append_nil, List.reverse_reverse, pieceText_of_standsFor hread,
      Option.map_some]
  calc lexer.run .between ((quote text).map some ++ rest)
    _ = lexer.run (.string [] .none)
          ((text.flatMap escapeChar).map some ++ (some '"' :: rest)) := by
      rw [quote, List.cons_append, List.map_cons, List.map_append, List.cons_append,
        List.append_assoc]
      rfl
    _ = lexer.run (.string (read.reverse ++ []) .none) (some '"' :: rest) := by
      rw [Scanner.run_append, hstate, hemitted, List.nil_append]
    _ = stringToken (read.reverse ++ []) :: lexer.run .between rest := rfl
    _ = .string (some (String.ofList text)) :: lexer.run .between rest := by rw [htoken]

/-! ## What may follow a word or a number -/

/-- A literal ends here: at the end of the input, or in front of a comma or of the end of a
container. -/
def Ends (rest : List (Option Char)) : Prop :=
  ∀ unit ∈ rest.head?, unit = some ',' ∨ unit = some ']' ∨ unit = some '}'

theorem ends_nil : Ends [] :=
  fun _ hunit => by cases hunit

theorem ends_cons {c : Char} (hc : c = ',' ∨ c = ']' ∨ c = '}') (rest : List (Option Char)) :
    Ends (some c :: rest) := by
  intro unit hunit
  cases hunit
  simpa using hc

theorem run_word_of_ends {rest : List (Option Char)} (hends : Ends rest) (letters : List Char) :
    lexer.run (.word letters) rest = wordToken letters.reverse :: lexer.run .between rest := by
  cases rest with
  | nil => rfl
  | cons unit rest =>
    obtain rfl | rfl | rfl := hends unit rfl <;> rfl

theorem run_number_of_ends {rest : List (Option Char)} (hends : Ends rest) (n : PartialNumber)
    (part : NumberPart) :
    lexer.run (.number n part) rest = numberToken n part :: lexer.run .between rest := by
  cases rest with
  | nil => rfl
  | cons unit rest =>
    obtain rfl | rfl | rfl := hends unit rfl <;> cases part <;> rfl

/-! ## Integers -/

theorem extend_toChar (n : PartialNumber) (part : NumberPart) (d : Decimal.Digit) :
    n.extend part d.toChar = n.digit d part := by
  simp only [PartialNumber.extend, Decimal.digit?_toChar]

theorem run_digits (n : PartialNumber) (ds : List Decimal.Digit) (rest : List (Option Char)) :
    lexer.run (.number n .whole) ((ds.map Decimal.Digit.toChar).map some ++ rest) =
      lexer.run (.number { n with whole := ds.reverse ++ n.whole } .whole) rest := by
  induction ds generalizing n with
  | nil => rfl
  | cons d ds ih =>
    have hstep : lexer.step (.number n .whole) (some d.toChar) =
        (.number { n with whole := d :: n.whole } .whole, []) := by
      simp only [lexer, lexStep, extend_toChar, PartialNumber.digit]
    simp only [List.map_cons, List.cons_append, Scanner.run, hstep, List.nil_append, ih,
      List.reverse_cons, List.append_assoc]

/-- The digits of a number without a sign are read up to the end of the literal. -/
theorem run_natural (negative : Bool) (m : Nat) {rest : List (Option Char)} (hends : Ends rest) :
    lexer.run (.number { negative } .sign) ((Decimal.natText m).map some ++ rest) =
      .scalar (.number { negative, whole := Decimal.digits m }) :: lexer.run .between rest := by
  obtain ⟨d, ds, hdigits⟩ := Decimal.exists_digits m
  have hfirst : lexer.step (.number { negative } .sign) (some d.toChar) =
      (.number { negative, whole := [d] } (if d.val = 0 then .zero else .whole), []) := by
    simp only [lexer, lexStep, extend_toChar, PartialNumber.digit]
  have hread : lexer.run (.number { negative } .sign) ((Decimal.natText m).map some ++ rest) =
      lexer.run (.number { negative, whole := [d] } (if d.val = 0 then .zero else .whole))
        ((ds.map Decimal.Digit.toChar).map some ++ rest) := by
    simp only [Decimal.natText, hdigits, List.map_cons, List.cons_append, Scanner.run, hfirst,
      List.nil_append]
  rw [hread, hdigits]
  by_cases hzero : d.val = 0
  · -- A leading zero is the only digit.
    obtain rfl : d = 0 := Fin.ext hzero
    rw [Decimal.eq_nil_of_digits_zero hdigits, if_pos hzero, List.map_nil, List.map_nil,
      List.nil_append, run_number_of_ends hends]
    rfl
  · rw [if_neg hzero, run_digits, run_number_of_ends hends]
    simp [numberToken, PartialNumber.complete]

/-- The literal of an integer is read as that integer. -/
theorem run_integer (i : Int) {rest : List (Option Char)} (hends : Ends rest) :
    lexer.run .between ((Number.ofInt i).text.map some ++ rest) =
      .scalar (.number (.ofInt i)) :: lexer.run .between rest := by
  by_cases hnegative : i < 0
  · have htext : (Number.ofInt i).text = '-' :: Decimal.natText i.natAbs := by
      simp [Number.text, Number.ofInt, Decimal.natText, hnegative]
    calc lexer.run .between ((Number.ofInt i).text.map some ++ rest)
      _ = lexer.run (.number { negative := true } .sign)
            ((Decimal.natText i.natAbs).map some ++ rest) := by
        rw [htext]
        rfl
      _ = .scalar (.number { negative := true, whole := Decimal.digits i.natAbs }) ::
            lexer.run .between rest := run_natural true i.natAbs hends
      _ = .scalar (.number (.ofInt i)) :: lexer.run .between rest := by
        simp [Number.ofInt, hnegative]
  · have htext : (Number.ofInt i).text = Decimal.natText i.natAbs := by
      simp [Number.text, Number.ofInt, Decimal.natText, hnegative]
    obtain ⟨d, ds, hdigits⟩ := Decimal.exists_digits i.natAbs
    have hstart : ∀ d : Decimal.Digit, start (some d.toChar) =
        lexer.step (.number { negative := false } .sign) (some d.toChar) := by
      intro d
      fin_cases d <;> rfl
    calc lexer.run .between ((Number.ofInt i).text.map some ++ rest)
      _ = lexer.run (.number { negative := false } .sign)
            ((Decimal.natText i.natAbs).map some ++ rest) := by
        simp only [htext, Decimal.natText, hdigits, List.map_cons, List.cons_append, Scanner.run,
          ← hstart d]
        rfl
      _ = .scalar (.number { negative := false, whole := Decimal.digits i.natAbs }) ::
            lexer.run .between rest := run_natural false i.natAbs hends
      _ = .scalar (.number (.ofInt i)) :: lexer.run .between rest := by
        simp [Number.ofInt, hnegative]

/-! ## Words -/

/-- A word of lower-case letters is read up to the end of the literal. -/
theorem run_letters {word : List Char} (hword : word.all Char.isLower = true) (letters : List Char)
    {rest : List (Option Char)} (hends : Ends rest) :
    lexer.run (.word letters) (word.map some ++ rest) =
      wordToken (letters.reverse ++ word) :: lexer.run .between rest := by
  induction word generalizing letters with
  | nil => rw [List.map_nil, List.nil_append, run_word_of_ends hends, List.append_nil]
  | cons c word ih =>
    rw [List.all_cons, Bool.and_eq_true] at hword
    have hstep : lexer.step (.word letters) (some c) = (.word (c :: letters), []) := by
      simp only [lexer, lexStep, hword.1, if_true]
    simp only [List.map_cons, List.cons_append, Scanner.run, hstep, List.nil_append, ih hword.2,
      List.reverse_cons, List.append_assoc]

theorem run_flag (b : Bool) {rest : List (Option Char)} (hends : Ends rest) :
    lexer.run .between ((Value.boolean b).text.map some ++ rest) =
      .scalar (.boolean b) :: lexer.run .between rest := by
  cases b with
  | true =>
    have hrue : "rue".toList.all Char.isLower = true := rfl
    exact run_letters hrue ['t'] hends
  | false =>
    have halse : "alse".toList.all Char.isLower = true := rfl
    exact run_letters halse ['f'] hends

end StoreAdmin.Json
