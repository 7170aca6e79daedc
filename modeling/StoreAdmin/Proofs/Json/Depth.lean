import Mathlib.Algebra.Ring.Int.Defs
import StoreAdmin.Json.Reader
import StoreAdmin.Json.Writer
import StoreAdmin.Proofs.Json.Document

/-!
# Open containers

The reader goes one container deeper with each token that opens one and comes
back with each that closes one, so a document that is read has as many of the
ones as of the others.  A text that is written opens each container before it
closes it, wherever it is cut, so a start of an object has one too many.
-/

namespace StoreAdmin.Json

/-! ## Balance of tokens -/

/-- What a token adds to the number of open containers. -/
def Token.weight : Token → Int
  | .beginArray | .beginObject => 1
  | .endArray | .endObject => -1
  | _ => 0

/-- How many more containers some tokens open than they close. -/
def balance (tokens : List Token) : Int :=
  (tokens.map Token.weight).sum

@[simp]
theorem balance_nil : balance [] = 0 := rfl

@[simp]
theorem balance_cons (t : Token) (tokens : List Token) :
    balance (t :: tokens) = t.weight + balance tokens :=
  List.sum_cons

@[simp]
theorem balance_append (first second : List Token) :
    balance (first ++ second) = balance first + balance second := by
  rw [balance, List.map_append, List.sum_append, balance, balance]

/-! ## Depth of the reader -/

/-- How many containers are open. -/
def depth (state : List Frame × Expect) : Int :=
  match state.2 with
  | .nothing _ => 0
  | .value => state.1.length
  | _ => state.1.length + 1

theorem depth_complete (v : Value) (stack : List Frame) :
    depth (complete v stack) = stack.length := by
  match stack with
  | [] => rfl
  | .array _ :: _ | .object _ _ :: _ => simp [complete, depth]

/-- The end of a container leaves it. -/
theorem depth_closed (v : Value) (stack : List Frame) :
    depth (complete v stack) = stack.length + 1 + -1 := by
  rw [depth_complete]
  omega

theorem depth_readValue {stack : List Frame} {t : Token} {next : List Frame × Expect}
    (hstep : readValue stack t = some next) : depth next = stack.length + t.weight := by
  cases t with
  | scalar v =>
    cases hstep
    rw [depth_complete]
    exact (Int.add_zero _).symm
  | string text =>
    cases hstep
    rw [depth_complete]
    exact (Int.add_zero _).symm
  | beginArray | beginObject =>
    cases hstep
    rfl
  | _ => cases hstep

theorem depth_readStep {state next : List Frame × Expect} {t : Token}
    (hstep : readStep state t = some next) : depth next = depth state + t.weight := by
  obtain ⟨stack, expect⟩ := state
  cases expect with
  | value => exact depth_readValue hstep
  | nothing => cases hstep
  | firstItem =>
    by_cases ht : t = .endArray
    · subst ht
      cases hstep
      exact depth_closed _ stack
    · rw [readStep_of_awaits (.firstItem stack) ht] at hstep
      exact depth_readValue hstep
  | afterItem items =>
    cases t with
    | comma =>
      cases hstep
      simp [depth, Token.weight]
    | endArray =>
      cases hstep
      exact depth_closed _ stack
    | _ => cases hstep
  | firstName =>
    cases t with
    | string name =>
      cases hstep
      simp [depth, Token.weight]
    | endObject =>
      cases hstep
      exact depth_closed _ stack
    | _ => cases hstep
  | name members =>
    cases t with
    | string name =>
      cases hstep
      simp [depth, Token.weight]
    | _ => cases hstep
  | colon members name =>
    cases t with
    | colon =>
      cases hstep
      simp [depth, Token.weight]
    | _ => cases hstep
  | afterMember members =>
    cases t with
    | comma =>
      cases hstep
      simp [depth, Token.weight]
    | endObject =>
      cases hstep
      exact depth_closed _ stack
    | _ => cases hstep

theorem depth_readTokens {state next : List Frame × Expect} {tokens : List Token}
    (hread : readTokens state tokens = some next) : depth next = depth state + balance tokens := by
  induction tokens generalizing state with
  | nil =>
    cases hread
    simp
  | cons t rest ih =>
    rw [readTokens] at hread
    cases hstep : readStep state t with
    | none =>
      rw [hstep] at hread
      cases hread
    | some between =>
      rw [hstep] at hread
      rw [ih hread, depth_readStep hstep, balance_cons, Int.add_assoc]

/-- A document that is read closes all that it opens. -/
theorem balance_tokens {units : List (Option Char)} {v : Value} (hread : ofUnits? units = some v) :
    balance (tokens units) = 0 := by
  rw [ofUnits?] at hread
  split at hread
  · next heq =>
    have hdepth := depth_readTokens heq
    simpa [depth] using hdepth.symm
  · cases hread

/-! ## Signs -/

/-- Whether the lexer is not in a string literal. -/
def Mode.isOutside : Mode → Bool
  | .string _ _ => false
  | _ => true

/-- Whether a word or a number is open. -/
def Mode.isLiteral : Mode → Bool
  | .word _ | .number _ _ => true
  | _ => false

theorem isOutside_of_isLiteral {m : Mode} (hm : m.isLiteral = true) : m.isOutside = true := by
  cases m with
  | string => cases hm
  | _ => rfl

/-- Whether a character is one of those that open or close a container. -/
def isBracket (c : Char) : Bool :=
  c = '[' || c = ']' || c = '{' || c = '}'

/-- Whether a character is neither a quote nor a bracket. -/
def isPlain (c : Char) : Bool :=
  c ≠ '"' && !isBracket c

@[simp]
theorem weight_invalid : Token.invalid.weight = 0 := rfl

@[simp]
theorem weight_wordToken (letters : List Char) : (wordToken letters).weight = 0 := by
  unfold wordToken
  split
  · rfl
  split
  · rfl
  split <;> rfl

@[simp]
theorem weight_numberToken (n : PartialNumber) (part : NumberPart) :
    (numberToken n part).weight = 0 := by
  unfold numberToken
  split <;> rfl

/-- What a character between two literals starts. -/
inductive Starts (c : Char) : Mode × List Token → Prop
  | blank (hc : Text.isBlank c = true) : Starts c (.between, [])
  | bracket (t : Token) (hc : isBracket c = true) : Starts c (.between, [t])
  | sign (t : Token) (ht : t.weight = 0) (hc : c = ',' ∨ c = ':') : Starts c (.between, [t])
  | quote (hc : c = '"') : Starts c (.string [] .none, [])
  | literal (m : Mode) (hm : m.isLiteral = true) : Starts c (m, [])
  | nothing : Starts c giveUp

/-- The ways in which the lexer goes on between two literals. -/
theorem starts (c : Char) : Starts c (start (some c)) := by
  -- A case split on all conditions at once would be slow, so each sign is taken off in turn.
  rw [start]
  by_cases hblank : Text.isBlank c = true
  · rw [if_pos hblank]
    exact .blank hblank
  rw [if_neg hblank]
  by_cases hopen : c = '['
  · rw [if_pos hopen]
    exact .bracket _ (by simp [isBracket, hopen])
  rw [if_neg hopen]
  by_cases hclose : c = ']'
  · rw [if_pos hclose]
    exact .bracket _ (by simp [isBracket, hclose])
  rw [if_neg hclose]
  by_cases hopenObject : c = '{'
  · rw [if_pos hopenObject]
    exact .bracket _ (by simp [isBracket, hopenObject])
  rw [if_neg hopenObject]
  by_cases hcloseObject : c = '}'
  · rw [if_pos hcloseObject]
    exact .bracket _ (by simp [isBracket, hcloseObject])
  rw [if_neg hcloseObject]
  by_cases hcomma : c = ','
  · rw [if_pos hcomma]
    exact .sign _ rfl (.inl hcomma)
  rw [if_neg hcomma]
  by_cases hcolon : c = ':'
  · rw [if_pos hcolon]
    exact .sign _ rfl (.inr hcolon)
  rw [if_neg hcolon]
  by_cases hquote : c = '"'
  · rw [if_pos hquote]
    exact .quote hquote
  rw [if_neg hquote]
  split
  · exact .literal _ rfl
  split
  · exact .literal _ rfl
  split
  · exact .literal _ rfl
  · exact .nothing

/-- Between two literals, any other character than a quote or a bracket leaves the depth alone. -/
theorem start_plain {c : Char} (hc : isPlain c = true) :
    (start (some c)).1.isOutside = true ∧ ∀ t ∈ (start (some c)).2, t.weight = 0 := by
  have hstarts := starts c
  generalize start (some c) = step at hstarts ⊢
  cases hstarts with
  | blank => exact ⟨rfl, fun _ ht => by cases ht⟩
  | bracket t hbracket =>
    rw [isPlain, hbracket, Bool.not_true, Bool.and_false] at hc
    cases hc
  | sign t ht => exact ⟨rfl, List.forall_mem_singleton.mpr ht⟩
  | quote hquote =>
    rw [hquote] at hc
    cases hc
  | literal m hm => exact ⟨isOutside_of_isLiteral hm, fun _ ht => by cases ht⟩
  | nothing => exact ⟨rfl, List.forall_mem_singleton.mpr rfl⟩

theorem sign_cases {c : Char} (hc : isPlain c = false) :
    c = '"' ∨ c = '[' ∨ c = ']' ∨ c = '{' ∨ c = '}' := by
  simpa only [isPlain, isBracket, Bool.and_eq_false_iff, Bool.not_eq_false',
    decide_eq_false_iff_not, ne_eq, Classical.not_not, Bool.or_eq_true, decide_eq_true_eq,
    or_assoc] using hc

theorem isPlain_of_isLower {c : Char} (hc : c.isLower = true) : isPlain c = true := by
  by_contra hsign
  obtain rfl | rfl | rfl | rfl | rfl := sign_cases (Bool.eq_false_iff.mpr hsign) <;> cases hc

theorem isPlain_of_extend {n : PartialNumber} {part : NumberPart} {c : Char}
    {next : PartialNumber × NumberPart} (hc : n.extend part c = some next) :
    isPlain c = true := by
  by_contra hsign
  obtain rfl | rfl | rfl | rfl | rfl := sign_cases (Bool.eq_false_iff.mpr hsign) <;>
    cases part <;> cases hc

/-- A step in a word or a number goes on with it, or ends it and starts anew. -/
theorem lexStep_literal {m : Mode} (hm : m.isLiteral = true) (unit : Option Char) :
    (∃ next : Mode, next.isLiteral = true ∧ lexStep m unit = (next, []) ∧
      ∀ c ∈ unit, isPlain c = true) ∨
    ∃ t : Token, t.weight = 0 ∧ lexStep m unit = after t (start unit) := by
  cases m with
  | between | stuck | string => cases hm
  | word letters =>
    cases unit with
    | none => exact .inr ⟨_, weight_wordToken _, rfl⟩
    | some c =>
      by_cases hlower : c.isLower = true
      · refine .inl ⟨.word (c :: letters), rfl, if_pos hlower, ?_⟩
        rintro d ⟨⟩
        exact isPlain_of_isLower hlower
      · exact .inr ⟨_, weight_wordToken _, if_neg hlower⟩
  | number n part =>
    cases unit with
    | none => exact .inr ⟨_, weight_numberToken n part, rfl⟩
    | some c =>
      rw [lexStep]
      cases hextend : n.extend part c with
      | some next =>
        refine .inl ⟨.number next.1 next.2, rfl, rfl, ?_⟩
        rintro d ⟨⟩
        exact isPlain_of_extend hextend
      | none => exact .inr ⟨_, weight_numberToken n part, rfl⟩

theorem outside_cases {m : Mode} (hm : m.isOutside = true) :
    m = .between ∨ m = .stuck ∨ m.isLiteral = true := by
  cases m with
  | between => exact .inl rfl
  | stuck => exact .inr (.inl rfl)
  | string => cases hm
  | word | number => exact .inr (.inr rfl)

theorem lexStep_plain {m : Mode} (hm : m.isOutside = true) {c : Char} (hc : isPlain c = true) :
    (lexStep m (some c)).1.isOutside = true ∧ ∀ t ∈ (lexStep m (some c)).2, t.weight = 0 := by
  have hstart := start_plain hc
  obtain rfl | rfl | hliteral := outside_cases hm
  · exact hstart
  · exact ⟨rfl, fun _ ht => by cases ht⟩
  · obtain ⟨next, hnext, hstep, -⟩ | ⟨t, ht, hstep⟩ := lexStep_literal hliteral (some c)
    · rw [hstep]
      exact ⟨isOutside_of_isLiteral hnext, fun _ hmem => by cases hmem⟩
    · rw [hstep]
      exact ⟨hstart.1, List.forall_mem_cons.mpr ⟨ht, hstart.2⟩⟩

/-- A bracket or a quote ends the literal in front of it. -/
theorem lexStep_sign {m : Mode} (hm : m.isOutside = true) (hstuck : m ≠ .stuck) {c : Char}
    (hc : isPlain c = false) :
    (lexStep m (some c)).1 = (start (some c)).1 ∧
      ∃ before : List Token, (∀ t ∈ before, t.weight = 0) ∧
        (lexStep m (some c)).2 = before ++ (start (some c)).2 := by
  obtain rfl | rfl | hliteral := outside_cases hm
  · exact ⟨rfl, [], fun _ ht => (by cases ht), rfl⟩
  · exact absurd rfl hstuck
  · obtain ⟨next, -, -, hplain⟩ | ⟨t, ht, hstep⟩ := lexStep_literal hliteral (some c)
    · rw [hplain c rfl] at hc
      cases hc
    · rw [hstep]
      exact ⟨rfl, [t], List.forall_mem_singleton.mpr ht, rfl⟩

/-! ## Texts that open what they close -/

theorem balance_eq_zero {tokens : List Token} (htokens : ∀ t ∈ tokens, t.weight = 0) :
    balance tokens = 0 := by
  induction tokens with
  | nil => rfl
  | cons t rest ih =>
    rw [balance_cons, htokens t List.mem_cons_self,
      ih fun u hu => htokens u (List.mem_cons_of_mem t hu), Int.add_zero]

/-- What is read of a text outside of string literals. -/
def emittedBy (m : Mode) (text : List Char) : List Token :=
  lexer.emitted m (text.map some)

def modeAfter (m : Mode) (text : List Char) : Mode :=
  lexer.stateAfter m (text.map some)

theorem emittedBy_append (m : Mode) (first second : List Char) :
    emittedBy m (first ++ second) = emittedBy m first ++ emittedBy (modeAfter m first) second := by
  rw [emittedBy, List.map_append, Scanner.emitted_append]
  rfl

theorem modeAfter_append (m : Mode) (first second : List Char) :
    modeAfter m (first ++ second) = modeAfter (modeAfter m first) second := by
  rw [modeAfter, List.map_append, Scanner.stateAfter_append]
  rfl

theorem emittedBy_stuck (text : List Char) : emittedBy .stuck text = [] := by
  induction text with
  | nil => rfl
  | cons c text ih => exact ih

theorem modeAfter_stuck (text : List Char) : modeAfter .stuck text = .stuck := by
  induction text with
  | nil => rfl
  | cons c text ih => exact ih

/-- No start of a text closes more containers than it opens, and the text ends no string literal
that it has not started. -/
structure Steady (text : List Char) : Prop where
  outside : ∀ m : Mode, m.isOutside = true → (modeAfter m text).isOutside = true
  nonneg : ∀ m : Mode, m.isOutside = true →
    ∀ front, front <+: text → 0 ≤ balance (emittedBy m front)

namespace Steady

/-- A text without a bracket among its tokens is steady. -/
theorem of_flat {text : List Char} (houtside : ∀ m : Mode, m.isOutside = true →
      (modeAfter m text).isOutside = true)
    (hflat : ∀ m : Mode, m.isOutside = true → ∀ t ∈ emittedBy m text, t.weight = 0) :
    Steady text where
  outside := houtside
  nonneg := by
    rintro m hm front ⟨rest, rfl⟩
    have hfront := hflat m hm
    rw [emittedBy_append] at hfront
    exact (balance_eq_zero fun t ht => hfront t (List.mem_append_left _ ht)).ge

theorem nil : Steady [] :=
  of_flat (fun _ hm => hm) fun _ _ _ ht => by cases ht

theorem append {first second : List Char} (hfirst : Steady first) (hsecond : Steady second) :
    Steady (first ++ second) where
  outside m hm := by
    rw [modeAfter_append]
    exact hsecond.outside _ (hfirst.outside m hm)
  nonneg m hm front hfront := by
    by_cases hwhole : first <+: front
    · obtain ⟨rest, rfl⟩ := hwhole
      have hrest : rest <+: second := (List.prefix_append_right_inj first).mp hfront
      have hleft := hfirst.nonneg m hm first List.prefix_rfl
      have hright := hsecond.nonneg _ (hfirst.outside m hm) rest hrest
      rw [emittedBy_append, balance_append]
      omega
    · have hpart : front <+: first :=
        (List.prefix_or_prefix_of_prefix hfront (List.prefix_append _ _)).resolve_right hwhole
      exact hfirst.nonneg m hm front hpart

theorem of_plain {text : List Char} (hplain : text.all isPlain = true) : Steady text := by
  induction text with
  | nil => exact nil
  | cons c text ih =>
    rw [List.all_cons, Bool.and_eq_true] at hplain
    have hsign : Steady [c] := by
      apply of_flat
      · exact fun m hm => (lexStep_plain hm hplain.1).1
      · intro m hm t ht
        rw [emittedBy, List.map_singleton, Scanner.emitted, Scanner.emitted, List.append_nil] at ht
        exact (lexStep_plain hm hplain.1).2 t ht
    exact hsign.append (ih hplain.2)

/-- A string literal is steady, whatever brackets stand in it. -/
theorem literal {inside : List Char} {pieces : List Piece}
    (hinside : modeAfter (.string [] .none) inside = .string pieces .none)
    (hnothing : emittedBy (.string [] .none) inside = []) : Steady ('"' :: inside ++ ['"']) := by
  have htext : '"' :: inside ++ ['"'] = ['"'] ++ (inside ++ ['"']) := rfl
  have hliteral : ∀ m : Mode, m.isOutside = true → m ≠ .stuck →
      (modeAfter m ('"' :: inside ++ ['"'])).isOutside = true ∧
        ∀ t ∈ emittedBy m ('"' :: inside ++ ['"']), t.weight = 0 := by
    intro m hm hstuck
    have hquote : isPlain '"' = false := rfl
    obtain ⟨hmode, before, hbefore, htokens⟩ := lexStep_sign hm hstuck hquote
    have hopen : modeAfter m ['"'] = .string [] .none := hmode
    have hstart : emittedBy m ['"'] = before := by
      have hstep : emittedBy m ['"'] = (lexStep m (some '"')).2 := List.append_nil _
      rw [hstep, htokens]
      exact List.append_nil before
    constructor
    · rw [htext, modeAfter_append, modeAfter_append, hopen, hinside]
      rfl
    · rw [htext, emittedBy_append, emittedBy_append, hopen, hstart, hinside, hnothing]
      intro t ht
      obtain hmem | hmem := List.mem_append.mp ht
      · exact hbefore t hmem
      · rw [List.mem_singleton.mp hmem]
        rfl
  apply of_flat
  · intro m hm
    by_cases hstuck : m = .stuck
    · rw [hstuck, modeAfter_stuck]
      rfl
    · exact (hliteral m hm hstuck).1
  · intro m hm t ht
    by_cases hstuck : m = .stuck
    · rw [hstuck, emittedBy_stuck] at ht
      cases ht
    · exact (hliteral m hm hstuck).2 t ht

end Steady

/-! ## Containers -/

/-- A bracket is a token of its own, unless nothing is read any more. -/
theorem bracket_step {m : Mode} (hm : m.isOutside = true) (hstuck : m ≠ .stuck) {c : Char}
    {t : Token} (hbracket : isPlain c = false) (hsign : start (some c) = (.between, [t])) :
    modeAfter m [c] = .between ∧ balance (emittedBy m [c]) = t.weight := by
  obtain ⟨hmode, before, hbefore, htokens⟩ := lexStep_sign hm hstuck hbracket
  rw [hsign] at hmode htokens
  refine ⟨hmode, ?_⟩
  have hstep : emittedBy m [c] = (lexStep m (some c)).2 := List.append_nil _
  rw [hstep, htokens, balance_append, balance_eq_zero hbefore]
  simp

section Container

variable {opening closing : Char} {first last : Token} {inner : List Char}
  (hopening : isPlain opening = false) (hclosing : isPlain closing = false)
  (hfirst : start (some opening) = (.between, [first]))
  (hlast : start (some closing) = (.between, [last]))
  (hup : first.weight = 1) (hdown : last.weight = -1) (hinner : Steady inner)

include hopening hfirst hup hinner in
/-- A start of a container leaves the container open. -/
theorem one_le_balance {m : Mode} (hm : m.isOutside = true) (hstuck : m ≠ .stuck)
    {front : List Char} (hfront : front <+: inner) :
    1 ≤ balance (emittedBy m (opening :: front)) := by
  obtain ⟨hmode, hbalance⟩ := bracket_step hm hstuck hopening hfirst
  have hrest := hinner.nonneg .between rfl front hfront
  rw [← List.singleton_append, emittedBy_append, balance_append, hmode, hbalance, hup]
  omega

include hclosing hlast in
theorem bracket_outside {m : Mode} (hm : m.isOutside = true) :
    (modeAfter m [closing]).isOutside = true := by
  by_cases hstuck : m = .stuck
  · rw [hstuck, modeAfter_stuck]
    rfl
  · rw [(bracket_step hm hstuck hclosing hlast).1]
    rfl

include hclosing hlast hdown in
theorem neg_one_le_balance {m : Mode} (hm : m.isOutside = true) {front : List Char}
    (hfront : front <+: [closing]) : -1 ≤ balance (emittedBy m front) := by
  have hzero : (-1 : Int) ≤ 0 := by decide
  by_cases hempty : front = []
  · rw [hempty]
    exact hzero
  · have hall : front = [closing] :=
      hfront.eq_of_length_le (List.length_pos_of_ne_nil hempty)
    by_cases hstuck : m = .stuck
    · rw [hstuck, emittedBy_stuck]
      exact hzero
    · rw [hall, (bracket_step hm hstuck hclosing hlast).2, hdown]

include hopening hclosing hfirst hlast hup hdown hinner

theorem Steady.container : Steady (opening :: inner ++ [closing]) where
  outside m hm := by
    have htext : opening :: inner ++ [closing] = [opening] ++ (inner ++ [closing]) := rfl
    rw [htext, modeAfter_append, modeAfter_append]
    apply bracket_outside hclosing hlast
    exact hinner.outside _ (bracket_outside hopening hfirst hm)
  nonneg m hm front hfront := by
    by_cases hstuck : m = .stuck
    · rw [hstuck, emittedBy_stuck]
      rfl
    by_cases hwhole : opening :: inner <+: front
    · obtain ⟨rest, rfl⟩ := hwhole
      have hrest : rest <+: [closing] := (List.prefix_append_right_inj _).mp hfront
      have hmode : (modeAfter m (opening :: inner)).isOutside = true :=
        hinner.outside _ (bracket_outside hopening hfirst hm)
      have hleft := one_le_balance hopening hfirst hup hinner hm hstuck List.prefix_rfl
      have hright := neg_one_le_balance hclosing hlast hdown hmode hrest
      rw [emittedBy_append, balance_append]
      omega
    · have hpart : front <+: opening :: inner :=
        (List.prefix_or_prefix_of_prefix hfront (List.prefix_append _ _)).resolve_right hwhole
      cases front with
      | nil => rfl
      | cons c more =>
        obtain ⟨rfl, hmore⟩ := List.cons_prefix_cons.mp hpart
        have hone := one_le_balance hopening hfirst hup hinner hm hstuck hmore
        omega

end Container

/-! ## Values -/

theorem steady_stringText (text : Option String) : Steady (stringText text) := by
  cases text with
  | some text =>
    obtain ⟨read, _, hpieces⟩ := exists_pieces text.toList
    exact .literal (hpieces []).1 (hpieces []).2
  | none =>
    have hcode : MakesPiece _ (.code 0xD800) := makesPiece_code (by decide)
    exact .literal (hcode.stateAfter []) (hcode.emitted [])

theorem steady_digits (ds : List Decimal.Digit) : Steady (ds.map Decimal.Digit.toChar) := by
  have hdigits : ∀ d : Decimal.Digit, isPlain d.toChar = true := by decide
  apply Steady.of_plain
  rw [List.all_map, List.all_eq_true]
  exact fun d _ => hdigits d

theorem Number.steady_text (n : Number) : Steady n.text := by
  have hminus : ∀ b : Bool, Steady (if b then ['-'] else []) := by
    intro b
    cases b <;> exact .of_plain rfl
  have hpoint : Steady ['.'] := .of_plain rfl
  have hmark : Steady ['e'] := .of_plain rfl
  have hfraction : Steady (if n.fraction = [] then [] else
      '.' :: n.fraction.map Decimal.Digit.toChar) := by
    split
    · exact .nil
    · exact hpoint.append (steady_digits n.fraction)
  rw [Number.text]
  refine (((hminus n.negative).append (steady_digits n.whole)).append hfraction).append ?_
  cases n.exponent with
  | none => exact .nil
  | some e => exact hmark.append ((hminus e.1).append (steady_digits e.2))

mutual

/-- What is written of a value is steady. -/
theorem Value.steady_text (v : Value) : Steady v.text := by
  match v with
  | .null => exact .of_plain rfl
  | .boolean true => exact .of_plain rfl
  | .boolean false => exact .of_plain rfl
  | .number n => exact n.steady_text
  | .string text => exact steady_stringText text
  | .array items =>
    rw [Value.text]
    exact .container rfl rfl rfl rfl rfl rfl (steady_itemsText items)
  | .object members =>
    rw [Value.text]
    exact .container rfl rfl rfl rfl rfl rfl (steady_membersText members)

theorem steady_itemsText (items : List Value) : Steady (itemsText items) := by
  match items with
  | [] => exact .nil
  | [v] => exact v.steady_text
  | v :: next :: rest =>
    have hcomma : Steady [','] := .of_plain rfl
    exact v.steady_text.append (hcomma.append (steady_itemsText (next :: rest)))

theorem steady_membersText (members : List (Option String × Value)) :
    Steady (membersText members) := by
  have hcolon : Steady [':'] := .of_plain rfl
  have hcomma : Steady [','] := .of_plain rfl
  match members with
  | [] => exact .nil
  | [(name, v)] => exact (steady_stringText name).append (hcolon.append v.steady_text)
  | (name, v) :: next :: rest =>
    have hmember := (steady_stringText name).append (hcolon.append v.steady_text)
    have htext : membersText ((name, v) :: next :: rest) =
        (stringText name ++ ([':'] ++ v.text)) ++ ([','] ++ membersText (next :: rest)) := by
      simp [membersText]
    rw [htext]
    exact hmember.append (hcomma.append (steady_membersText (next :: rest)))

end

/-! ## Objects that break off -/

/-- Bytes that encode nothing open and close nothing. -/
theorem balance_run_none {units : List (Option Char)} (hunits : ∀ u ∈ units, u = none)
    (m : Mode) :
    balance (lexer.run m units) = 0 := by
  induction units generalizing m with
  | nil =>
    have hend : ∀ t ∈ lexEnd m, t.weight = 0 := by
      cases m <;> simp [lexEnd]
    exact balance_eq_zero hend
  | cons u units ih =>
    have hnone : u = none := hunits u List.mem_cons_self
    have hstep : ∀ t ∈ (lexStep m none).2, t.weight = 0 := by
      cases m with
      | string pieces escape => cases escape <;> simp [lexStep, inString, giveUp]
      | _ => simp [lexStep, start, after, giveUp]
    have hrun : lexer.run m (none :: units) =
        (lexStep m none).2 ++ lexer.run (lexStep m none).1 units := rfl
    rw [hnone, hrun, balance_append, balance_eq_zero hstep,
      ih fun v hv => hunits v (List.mem_cons_of_mem u hv), Int.add_zero]

/-- An object that breaks off is no document. -/
theorem ofUnits?_of_cut {inner kept : List Char} {cut : List (Option Char)} (hinner : Steady inner)
    (hkept : kept <+: '{' :: inner ++ ['}']) (hproper : kept ≠ '{' :: inner ++ ['}'])
    (hcut : ∀ u ∈ cut, u = none) : ofUnits? (kept.map some ++ cut) = none := by
  cases kept with
  | nil =>
    cases cut with
    | nil => rfl
    | cons u cut =>
      rw [hcut u List.mem_cons_self]
      rfl
  | cons c more =>
    obtain ⟨rfl, hmore⟩ := List.cons_prefix_cons.mp hkept
    have hstart : more <+: inner := by
      refine (List.prefix_concat_iff.mp hmore).resolve_left fun hall => hproper ?_
      rw [hall, List.cons_append]
    have hopen : 1 ≤ balance (emittedBy .between ('{' :: more)) :=
      one_le_balance rfl rfl rfl hinner rfl (by simp) hstart
    cases hread : ofUnits? (('{' :: more).map some ++ cut) with
    | none => rfl
    | some v =>
      have hbalance := balance_tokens hread
      rw [tokens, Scanner.run_append, balance_append, balance_run_none hcut,
        ← emittedBy] at hbalance
      omega

end StoreAdmin.Json
