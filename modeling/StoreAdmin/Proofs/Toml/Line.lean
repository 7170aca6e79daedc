import Mathlib.Algebra.Group.Nat.Defs
import StoreAdmin.Proofs.Number.Decimal
import StoreAdmin.Proofs.Toml.Quoted
import StoreAdmin.Toml.Statement

/-!
# Lines of a document

A line that gives a value to a key is read as the statement that it was written for,
whatever follows it.  A document of such lines and of headers is read line by line.
-/

namespace StoreAdmin.Toml

/-! ## Numbers -/

theorem digit?_toChar : ∀ d : Decimal.Digit, Hex.digit? d.toChar = some d.val := by
  decide

theorem toChar_plain : ∀ d : Decimal.Digit, d.toChar.isDigit = true ∧ d.toChar ≠ '_' ∧
    d.toChar ≠ 't' ∧ d.toChar ≠ 'f' ∧ isWordChar d.toChar = true := by
  decide

theorem toChar_ne_zero : ∀ d : Decimal.Digit, d ≠ 0 → d.toChar ≠ '0' := by
  decide

theorem valueOf_map_toChar (ds : List Decimal.Digit) :
    valueOf 10 (ds.map Decimal.Digit.toChar) = Decimal.value ds := by
  unfold valueOf Decimal.value
  rw [List.foldl_map]
  simp only [digit?_toChar, Option.getD_some]

theorem digits?_map_toChar (d : Decimal.Digit) (ds : List Decimal.Digit) :
    digits? Char.isDigit ((d :: ds).map Decimal.Digit.toChar) =
      some ((d :: ds).map Decimal.Digit.toChar) := by
  induction ds generalizing d with
  | nil => rw [List.map_singleton, digits?, if_pos (toChar_plain d).1]
  | cons next ds ih =>
      have hnext := ih next
      rw [List.map_cons] at hnext
      rw [List.map_cons, List.map_cons, digits?, if_pos (toChar_plain d).1, hnext]
      · rfl
      · exact List.cons_ne_nil _ _
      · exact fun rest heq => absurd (List.cons.inj heq).1 (toChar_plain next).2.1

/-- A number is written with its first digit in front, which is a zero only if it is all. -/
theorem exists_natText (n : Nat) : ∃ d ds, Decimal.digits n = d :: ds ∧
    Decimal.natText n = d.toChar :: ds.map Decimal.Digit.toChar ∧ (d = 0 → ds = []) := by
  obtain ⟨d, ds, hdigits⟩ := Decimal.exists_digits n
  refine ⟨d, ds, hdigits, ?_, ?_⟩
  · rw [Decimal.natText, hdigits, List.map_cons]
  · rintro rfl
    exact Decimal.eq_nil_of_digits_zero hdigits

theorem based?_natText (n : Nat) : based? (Decimal.natText n) = none := by
  obtain ⟨d, ds, -, htext, hzero⟩ := exists_natText n
  rw [htext]
  by_cases hd : d = 0
  · rw [hd, hzero hd]
    rfl
  · unfold based?
    split
    · next heq => exact absurd (List.cons.inj heq).1 (toChar_ne_zero d hd)
    · next heq => exact absurd (List.cons.inj heq).1 (toChar_ne_zero d hd)
    · next heq => exact absurd (List.cons.inj heq).1 (toChar_ne_zero d hd)
    · rfl

theorem isPlainNumber_natText (n : Nat) : isPlainNumber (Decimal.natText n) = true := by
  obtain ⟨d, ds, -, htext, hzero⟩ := exists_natText n
  rw [htext]
  by_cases hd : d = 0
  · rw [hd, hzero hd]
    rfl
  · unfold isPlainNumber
    split
    · next heq => exact absurd (List.cons.inj heq).1 (toChar_ne_zero d hd)
    · rfl

theorem signed_natText (n : Nat) : signed (Decimal.natText n) = (false, Decimal.natText n) := by
  obtain ⟨d, ds, -, htext, -⟩ := exists_natText n
  rw [htext]
  unfold signed
  split
  · next heq => exact absurd (List.cons.inj heq).1 (Decimal.toChar_ne_sign d).1
  · next heq => exact absurd (List.cons.inj heq).1 (Decimal.toChar_ne_sign d).2
  · rfl

theorem decimal?_natText (n : Nat) : decimal? (Decimal.natText n) = some (n : Int) := by
  obtain ⟨d, ds, hdigits, htext, -⟩ := exists_natText n
  have hread : digits? Char.isDigit (Decimal.natText n) = some (Decimal.natText n) := by
    rw [htext]
    exact digits?_map_toChar d ds
  have hvalue : valueOf 10 (Decimal.natText n) = n := by
    rw [Decimal.natText, valueOf_map_toChar, Decimal.value_digits]
  unfold decimal?
  rw [signed_natText]
  dsimp only
  rw [hread]
  dsimp only
  rw [if_pos (isPlainNumber_natText n), hvalue]
  rfl

theorem scalar?_natText {n : Nat} (hn : n < 2 ^ 128) :
    scalar? (Decimal.natText n) = some (.integer n) := by
  have hbounds : -(Nat.pow 2 127 : Int) ≤ (n : Int) ∧ (n : Int) < Nat.pow 2 128 :=
    ⟨by omega, Int.ofNat_lt.mpr hn⟩
  have hinteger : integer? (Decimal.natText n) = some (n : Int) := by
    unfold integer?
    rw [based?_natText, decimal?_natText]
    dsimp only
    rw [Option.bind_some, if_pos hbounds]
  obtain ⟨d, ds, -, htext, -⟩ := exists_natText n
  obtain ⟨-, -, htrue, hfalse, -⟩ := toChar_plain d
  unfold scalar?
  rw [if_neg, if_neg, hinteger]
  · rw [htext]
    exact fun heq => hfalse (List.cons.inj heq).1
  · rw [htext]
    exact fun heq => htrue (List.cons.inj heq).1

/-! ## Values -/

/-- Whether a text stands for a value at the end of a line. -/
structure IsValue (text : List Char) (w : Written) : Prop where
  start : ∃ c rest, text = c :: rest ∧ isSpace c = false
  read : ∀ fuel depth rest,
    value? (fuel + 1) depth (text ++ '\n' :: rest) = some (w, '\n' :: rest)

theorem stringText_start (text : List Char) :
    ∃ quote rest, stringText text = quote :: rest ∧ (quote = '"' ∨ quote = '\'') := by
  unfold stringText
  cases Form.of text with
  | basic | basicLines => exact ⟨_, _, rfl, .inl rfl⟩
  | literal | literalLines => exact ⟨_, _, rfl, .inr rfl⟩

theorem isValue_text (text : String) : IsValue (stringText text.toList) (.text text) := by
  obtain ⟨quote, rest, hstart, hquote⟩ := stringText_start text.toList
  constructor
  · refine ⟨quote, rest, hstart, ?_⟩
    rcases hquote with rfl | rfl <;> rfl
  · intro fuel depth more
    have hread := string?_stringText text.toList more
    have hvalue : value? (fuel + 1) depth (stringText text.toList ++ '\n' :: more) =
        (string? (stringText text.toList ++ '\n' :: more)).map
          fun read => (.text (String.ofList read.1), read.2) := by
      rw [hstart]
      rcases hquote with rfl | rfl <;> rfl
    rw [hvalue, hread, Option.map_some]
    dsimp only
    rw [String.ofList_toList]

theorem word_append {text : List Char} (htext : ∀ c ∈ text, isWordChar c = true)
    (rest : List Char) : word (text ++ '\n' :: rest) = (text, '\n' :: rest) := by
  have htake : (text ++ '\n' :: rest).takeWhile isWordChar = text := by
    rw [List.takeWhile_append_of_pos htext]
    exact List.append_nil text
  have hdrop : (text ++ '\n' :: rest).dropWhile isWordChar = '\n' :: rest := by
    rw [List.dropWhile_append_of_pos htext]
    rfl
  unfold word
  dsimp only
  rw [htake, hdrop]
  split
  · next heq => cases heq
  · rfl

theorem isValue_word {text : List Char} {s : Scalar} (htext : ∀ c ∈ text, isWordChar c = true)
    (hne : text ≠ []) (hread : scalar? text = some s) : IsValue text (.scalar s) := by
  obtain ⟨c, tail, rfl⟩ := List.exists_cons_of_ne_nil hne
  have hc := htext c List.mem_cons_self
  constructor
  · refine ⟨c, tail, rfl, ?_⟩
    cases hspace : isSpace c with
    | false => rfl
    | true => simp [isWordChar, hspace] at hc
  · intro fuel depth rest
    have hword := word_append htext rest
    have hne : ∀ mark : Char, isWordChar mark = false → c ≠ mark := by
      rintro mark hmark rfl
      rw [hmark] at hc
      cases hc
    rw [List.cons_append] at hword ⊢
    unfold value?
    split
    · next heq => exact absurd (List.cons.inj heq).1 (hne _ (by decide))
    · next heq => exact absurd (List.cons.inj heq).1 (hne _ (by decide))
    · next heq => exact absurd (List.cons.inj heq).1 (hne _ (by decide))
    · next heq => exact absurd (List.cons.inj heq).1 (hne _ (by decide))
    · rw [hword, hread]
      rfl

theorem isValue_nat {n : Nat} (hn : n < 2 ^ 128) :
    IsValue (Decimal.natText n) (.scalar (.integer n)) := by
  obtain ⟨d, ds, -, htext, -⟩ := exists_natText n
  refine isValue_word ?_ ?_ (scalar?_natText hn)
  · intro c hc
    obtain ⟨digit, -, rfl⟩ := List.mem_map.1 hc
    exact (toChar_plain digit).2.2.2.2
  · rw [htext]
    exact List.cons_ne_nil _ _

theorem isValue_flag (b : Bool) :
    IsValue (if b then "true".toList else "false".toList) (.scalar (.flag b)) := by
  cases b with
  | false => exact isValue_word (List.all_eq_true.mp rfl) (List.cons_ne_nil _ _) rfl
  | true => exact isValue_word (List.all_eq_true.mp rfl) (List.cons_ne_nil _ _) rfl

/-! ## Keys -/

/-- Whether a name may stand without quotes. -/
def isBareName (name : String) : Bool :=
  name.toList ≠ [] && name.toList.all isBare

/-- Whether a text, which is not empty, starts with no character of a name. -/
def EndsName (text : List Char) : Prop :=
  ∃ c rest, text = c :: rest ∧ isBare c = false

theorem exists_of_isBareName {name : String} (hname : isBareName name = true) :
    ∃ c rest, name.toList = c :: rest ∧ isBare c = true := by
  simp only [isBareName, Bool.and_eq_true, decide_eq_true_eq, List.all_eq_true] at hname
  obtain ⟨c, rest, hlist⟩ := List.exists_cons_of_ne_nil hname.1
  exact ⟨c, rest, hlist, hname.2 c (hlist ▸ List.mem_cons_self)⟩

/-- A character of a name is no sign. -/
theorem ne_of_isBare {c mark : Char} (hc : isBare c = true) (hmark : isBare mark = false) :
    c ≠ mark := by
  rintro rfl
  rw [hc] at hmark
  cases hmark

theorem isSpace_of_isBare {c : Char} (hc : isBare c = true) : isSpace c = false := by
  have hblank : c ≠ ' ' := ne_of_isBare hc (by decide)
  have htab : c ≠ '\t' := ne_of_isBare hc (by decide)
  simp [isSpace, hblank, htab]

theorem afterSpaces_cons {c : Char} (hc : isSpace c = false) (rest : List Char) :
    afterSpaces (c :: rest) = c :: rest :=
  List.dropWhile_cons_of_neg (by rw [hc]; exact Bool.false_ne_true)

theorem name?_bare {name : String} (hname : isBareName name = true) {rest : List Char}
    (hrest : EndsName rest) : name? (name.toList ++ rest) = some (name, rest) := by
  obtain ⟨first, tail, hlist, hfirst⟩ := exists_of_isBareName hname
  obtain ⟨c, more, rfl, hc⟩ := hrest
  have hall : ∀ d ∈ name.toList, isBare d = true := by
    simp only [isBareName, Bool.and_eq_true, List.all_eq_true] at hname
    exact hname.2
  have hstop : ¬isBare c = true := by
    rw [hc]
    exact Bool.false_ne_true
  have htake : (name.toList ++ c :: more).takeWhile isBare = name.toList := by
    rw [List.takeWhile_append_of_pos hall, List.takeWhile_cons_of_neg hstop, List.append_nil]
  have hdrop : (name.toList ++ c :: more).dropWhile isBare = c :: more := by
    rw [List.dropWhile_append_of_pos hall, List.dropWhile_cons_of_neg hstop]
  have hne : ∀ {quote : Char} {behind : List Char}, name.toList ++ c :: more = quote :: behind →
      isBare quote = true := by
    intro quote behind heq
    rw [hlist] at heq
    exact (List.cons.inj heq).1 ▸ hfirst
  unfold name?
  split
  · next heq => exact absurd (hne heq) (by decide)
  · next heq => exact absurd (hne heq) (by decide)
  · rw [htake, hdrop]
    split
    · next heq =>
        rw [hlist] at heq
        cases heq
    · rw [String.ofList_toList]

theorem key?_bare {name : String} (hname : isBareName name = true) (fuel : Nat)
    {rest : List Char} (hrest : EndsName rest) {c : Char} {behind : List Char}
    (hbehind : afterSpaces rest = c :: behind) (hc : c ≠ '.') :
    key? (fuel + 1) (name.toList ++ rest) = some ([name], c :: behind) := by
  obtain ⟨first, tail, hlist, hfirst⟩ := exists_of_isBareName hname
  have hspaces : afterSpaces (name.toList ++ rest) = name.toList ++ rest := by
    rw [hlist]
    exact afterSpaces_cons (isSpace_of_isBare hfirst) _
  unfold key?
  rw [hspaces, name?_bare hname hrest]
  dsimp only
  rw [hbehind]
  split
  · next heq => exact absurd (List.cons.inj heq).1 hc
  · rfl

/-- A name at the start of a text is read as a key. -/
theorem key?_length {name : String} (hname : isBareName name = true) (rest : List Char)
    (hrest : EndsName rest) {c : Char} {behind : List Char}
    (hbehind : afterSpaces rest = c :: behind) (hc : c ≠ '.') :
    key? (name.toList ++ rest).length (name.toList ++ rest) = some ([name], c :: behind) := by
  obtain ⟨first, tail, hlist, -⟩ := exists_of_isBareName hname
  obtain ⟨fuel, hfuel⟩ : ∃ fuel, (name.toList ++ rest).length = fuel + 1 := by
    rw [hlist]
    exact ⟨_, rfl⟩
  rw [hfuel]
  exact key?_bare hname fuel hrest hbehind hc

/-! ## Statements -/

/-- What starts with a character of a name is an assignment. -/
theorem statement?_bare {c : Char} (hc : isBare c = true) (text : List Char) :
    statement? (c :: text) =
      match key? (c :: text).length (c :: text) with
      | some (key, '=' :: behind) =>
        match value? behind.length maxDepth (afterSpaces behind) with
        | some (v, behind) => (afterLine? behind).map fun behind => (.assign key v, behind)
        | none => none
      | _ => none := by
  unfold statement?
  dsimp only
  split
  · next heq => exact absurd (List.cons.inj heq).1 (ne_of_isBare hc (by decide))
  · next heq => exact absurd (List.cons.inj heq).1 (ne_of_isBare hc (by decide))
  · rfl

/-- A line with a key and a value is read as an assignment. -/
theorem statement?_line {key : String} (hkey : isBareName key = true) {text : List Char}
    {w : Written} (hvalue : IsValue text w) (rest : List Char) :
    statement? (line key text ++ rest) = some (.assign [key] w, rest) := by
  obtain ⟨first, tail, hlist, hfirst⟩ := exists_of_isBareName hkey
  obtain ⟨c, more, htext, hc⟩ := hvalue.start
  have hline : line key text ++ rest =
      key.toList ++ ' ' :: '=' :: ' ' :: (text ++ '\n' :: rest) := by
    simp [line]
  have hread := key?_length hkey (' ' :: '=' :: ' ' :: (text ++ '\n' :: rest))
    ⟨' ', _, rfl, by decide⟩ rfl (by decide)
  have hspaces : afterSpaces (' ' :: (text ++ '\n' :: rest)) = text ++ '\n' :: rest := by
    have hblank : afterSpaces (' ' :: (text ++ '\n' :: rest)) =
        afterSpaces (text ++ '\n' :: rest) := rfl
    rw [hblank, htext]
    exact afterSpaces_cons hc _
  rw [hlist, List.cons_append] at hline hread
  rw [hline, statement?_bare hfirst, hread]
  simp only [hspaces, List.length_cons, hvalue.read]
  rfl

/-- What starts with one bracket, and a character of a name behind it, is a header. -/
theorem statement?_bracket {c : Char} (hc : isBare c = true) (text : List Char) :
    statement? ('[' :: c :: text) =
      match key? (c :: text).length (c :: text) with
      | some (key, behind) =>
        if behind.take 1 = [']'] then
          (afterLine? (behind.drop 1)).map fun behind => (.table key, behind)
        else none
      | none => none := by
  unfold statement?
  split
  · next heq =>
      have hsecond := (List.cons.inj (List.cons.inj heq).2).1
      exact absurd hsecond (ne_of_isBare hc (by decide))
  · next heq =>
      rw [← (List.cons.inj heq).2]
      rfl
  · next hother => exact absurd rfl (hother _)

/-- A header opens a table. -/
theorem statement?_header {name : String} (hname : isBareName name = true) (rest : List Char) :
    statement? ('[' :: (name.toList ++ ']' :: '\n' :: rest)) = some (.table [name], rest) := by
  obtain ⟨first, tail, hlist, hfirst⟩ := exists_of_isBareName hname
  have hread := key?_length hname (']' :: '\n' :: rest) ⟨']', _, rfl, by decide⟩ rfl (by decide)
  rw [hlist, List.cons_append] at hread ⊢
  rw [statement?_bracket hfirst, hread]
  rfl

/-! ## Documents -/

/-- Whether a character starts a statement. -/
def startsStatement (c : Char) : Bool :=
  !isSpace c && c ≠ '#' && c ≠ '\n' && c ≠ '\r'

/-- The statements of a text, line by line. -/
inductive Reads : List Char → List Statement → Prop
  | nil : Reads [] []
  | blank {rest : List Char} {statements : List Statement} (hrest : Reads rest statements) :
      Reads ('\n' :: rest) statements
  | cons {c : Char} {line rest : List Char} {s : Statement} {statements : List Statement}
      (hc : startsStatement c = true) (hline : statement? (c :: (line ++ rest)) = some (s, rest))
      (hrest : Reads rest statements) : Reads (c :: (line ++ rest)) (s :: statements)

theorem afterBlanks?_cons {c : Char} (hc : startsStatement c = true) (fuel : Nat)
    (rest : List Char) : afterBlanks? fuel (c :: rest) = some (c :: rest) := by
  simp only [startsStatement, Bool.and_eq_true, Bool.not_eq_true', decide_eq_true_eq] at hc
  obtain ⟨⟨⟨hspace, hcomment⟩, hline⟩, hreturn⟩ := hc
  cases fuel with
  | zero => rfl
  | succ fuel =>
      rw [afterBlanks?, afterSpaces_cons hspace]
      split
      · next heq => exact absurd (List.cons.inj heq).1 hcomment
      · next heq => exact absurd (List.cons.inj heq).1 hline
      · next heq => exact absurd (List.cons.inj heq).1 hreturn
      · rfl

/-- With enough fuel all statements are read. -/
theorem Reads.statementsFrom? {text : List Char} {statements : List Statement}
    (hreads : Reads text statements) {fuel : Nat} (hfuel : text.length < fuel) :
    statementsFrom? fuel text = some statements := by
  induction hreads generalizing fuel with
  | nil =>
      obtain ⟨fuel, rfl⟩ := Nat.exists_eq_add_one_of_ne_zero (Nat.ne_zero_of_lt hfuel)
      rfl
  | @blank rest statements hrest ih =>
      obtain ⟨fuel, rfl⟩ := Nat.exists_eq_add_one_of_ne_zero (Nat.ne_zero_of_lt hfuel)
      have hskip : afterBlanks? ('\n' :: rest).length ('\n' :: rest) =
          afterBlanks? rest.length rest := rfl
      have hshorter : rest.length < fuel + 1 := Nat.lt_of_succ_lt hfuel
      rw [← ih hshorter, Toml.statementsFrom?, Toml.statementsFrom?, hskip]
  | @cons c line rest s statements hc hline hrest ih =>
      obtain ⟨fuel, rfl⟩ := Nat.exists_eq_add_one_of_ne_zero (Nat.ne_zero_of_lt hfuel)
      have hshorter : rest.length < fuel := by
        rw [List.length_cons, List.length_append] at hfuel
        omega
      rw [Toml.statementsFrom?, afterBlanks?_cons hc]
      simp only [hline]
      rw [ih hshorter]
      rfl

theorem startsStatement_of_isBare {c : Char} (hc : isBare c = true) :
    startsStatement c = true := by
  have hcomment : c ≠ '#' := ne_of_isBare hc (by decide)
  have hline : c ≠ '\n' := ne_of_isBare hc (by decide)
  have hreturn : c ≠ '\r' := ne_of_isBare hc (by decide)
  simp [startsStatement, isSpace_of_isBare hc, hcomment, hline, hreturn]

theorem Reads.line {key : String} (hkey : isBareName key = true) {text : List Char} {w : Written}
    (hvalue : IsValue text w) {rest : List Char} {statements : List Statement}
    (hrest : Reads rest statements) :
    Reads (Toml.line key text ++ rest) (.assign [key] w :: statements) := by
  obtain ⟨first, tail, hlist, hfirst⟩ := exists_of_isBareName hkey
  have hstart := startsStatement_of_isBare hfirst
  have hread := statement?_line hkey hvalue rest
  have hline : Toml.line key text = first :: (tail ++ " = ".toList ++ text ++ ['\n']) := by
    simp [Toml.line, hlist]
  rw [hline, List.cons_append] at hread ⊢
  exact .cons hstart hread hrest

theorem Reads.header {name : String} (hname : isBareName name = true) {rest : List Char}
    {statements : List Statement} (hrest : Reads rest statements) :
    Reads ('[' :: (name.toList ++ ']' :: '\n' :: rest)) (.table [name] :: statements) := by
  have hread := statement?_header hname rest
  have hline : name.toList ++ ']' :: '\n' :: rest = (name.toList ++ [']', '\n']) ++ rest := by simp
  rw [hline] at hread ⊢
  exact .cons (by decide) hread hrest

/-- A document without a byte order mark is read as its lines are. -/
theorem Reads.statements? {c : Char} {rest : List Char} {statements : List Statement}
    (hreads : Reads (c :: rest) statements) (hc : c.toNat ≠ 0xFEFF) :
    statements? (c :: rest) = some statements := by
  unfold Toml.statements?
  dsimp only
  rw [if_neg hc]
  exact hreads.statementsFrom? (Nat.lt_succ_self _)

end StoreAdmin.Toml
