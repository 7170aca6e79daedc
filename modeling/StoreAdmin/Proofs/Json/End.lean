import StoreAdmin.Proofs.Json.Depth

/-!
# Where a document ends

Behind a document that is an object or an array, the lexer is between two
literals and the reader expects nothing more, so the document does not go on
with anything but blanks.
-/

namespace StoreAdmin.Json

def Value.isContainer : Value → Bool
  | .array _ | .object _ => true
  | _ => false

/-! ## The last token -/

theorem readTokens_append (state : List Frame × Expect) (first second : List Token) :
    readTokens state (first ++ second) =
      (readTokens state first).bind fun next => readTokens next second := by
  induction first generalizing state with
  | nil => rfl
  | cons t rest ih =>
    rw [List.cons_append, readTokens, readTokens]
    cases readStep state t with
    | none => rfl
    | some next => exact ih next

theorem readStep_invalid (state : List Frame × Expect) : readStep state .invalid = none := by
  obtain ⟨stack, expect⟩ := state
  cases expect <;> rfl

theorem readTokens_of_mem_invalid {tokens : List Token} (hmem : .invalid ∈ tokens)
    (state : List Frame × Expect) : readTokens state tokens = none := by
  induction tokens generalizing state with
  | nil => cases hmem
  | cons t rest ih =>
    rw [readTokens]
    obtain rfl | hrest := List.mem_cons.mp hmem
    · rw [readStep_invalid]
    · cases readStep state t with
      | none => rfl
      | some next => exact ih hrest next

/-- A word or a number that completes a document is all of it. -/
theorem eq_of_complete {v w : Value} {stack rest : List Frame}
    (hcomplete : complete w stack = (rest, .nothing v)) : w = v := by
  cases stack with
  | nil =>
    cases hcomplete
    rfl
  | cons frame stack => cases frame <;> cases hcomplete

theorem eq_of_readStep_scalar {state : List Frame × Expect} {v w : Value} {rest : List Frame}
    (hstep : readStep state (.scalar w) = some (rest, .nothing v)) : w = v := by
  obtain ⟨stack, expect⟩ := state
  cases expect with
  | value | firstItem => exact eq_of_complete (Option.some.inj hstep)
  | _ => cases hstep

/-- A token that the end of the input completes is no container. -/
theorem lexEnd_cases (m : Mode) (hm : m ≠ .between) (hstuck : m ≠ .stuck) :
    lexEnd m = [.invalid] ∨ ∃ w, w.isContainer = false ∧ lexEnd m = [.scalar w] := by
  cases m with
  | between => exact absurd rfl hm
  | stuck => exact absurd rfl hstuck
  | string => exact .inl rfl
  | word letters =>
    rw [lexEnd, wordToken]
    split
    · exact .inr ⟨_, rfl, rfl⟩
    split
    · exact .inr ⟨_, rfl, rfl⟩
    split
    · exact .inr ⟨_, rfl, rfl⟩
    · exact .inl rfl
  | number n part =>
    rw [lexEnd, numberToken]
    split
    · exact .inr ⟨_, rfl, rfl⟩
    · exact .inl rfl

theorem invalid_mem_start {unit : Option Char} (hstuck : (start unit).1 = .stuck) :
    .invalid ∈ (start unit).2 := by
  cases unit with
  | none => exact List.mem_singleton_self _
  | some c =>
    have hstarts := starts c
    generalize start (some c) = step at hstarts hstuck ⊢
    cases hstarts with
    | nothing => exact List.mem_singleton_self _
    | literal m hm =>
      cases hstuck
      cases hm
    | _ => cases hstuck

theorem invalid_mem_inString {pieces : List Piece} {escape : Escape} {unit : Option Char}
    (hstuck : (inString pieces escape unit).1 = .stuck) :
    .invalid ∈ (inString pieces escape unit).2 := by
  revert hstuck
  unfold inString
  repeat' split
  all_goals simp [giveUp]

/-- The lexer gives up with a token that is none. -/
theorem invalid_mem_lexStep {m : Mode} (hm : m ≠ .stuck) {unit : Option Char}
    (hstuck : (lexStep m unit).1 = .stuck) : .invalid ∈ (lexStep m unit).2 := by
  by_cases hliteral : m.isLiteral = true
  · obtain ⟨next, hnext, hstep, -⟩ | ⟨t, -, hstep⟩ := lexStep_literal hliteral unit
    · rw [hstep] at hstuck
      cases hstuck
      cases hnext
    · rw [hstep] at hstuck ⊢
      exact List.mem_cons_of_mem t (invalid_mem_start hstuck)
  · cases m with
    | between => exact invalid_mem_start hstuck
    | stuck => exact absurd rfl hm
    | string => exact invalid_mem_inString hstuck
    | word | number => exact absurd rfl hliteral

theorem invalid_mem_of_stuck {m : Mode} {units : List (Option Char)} (hm : m ≠ .stuck)
    (hstuck : lexer.stateAfter m units = .stuck) : .invalid ∈ lexer.emitted m units := by
  induction units generalizing m with
  | nil => exact absurd hstuck hm
  | cons unit rest ih =>
    apply List.mem_append.mpr
    by_cases hstep : (lexStep m unit).1 = .stuck
    · exact .inl (invalid_mem_lexStep hm hstep)
    · exact .inr (ih hstep hstuck)

/-- Behind an object or an array, no literal is open. -/
theorem stateAfter_of_read {units : List (Option Char)} {v : Value}
    (hread : ofUnits? units = some v) (hcontainer : v.isContainer = true) :
    lexer.stateAfter .between units = .between ∧
      ∃ stack,
        readTokens ([], .value) (lexer.emitted .between units) = some (stack, .nothing v) := by
  obtain ⟨stack, htokens⟩ : ∃ stack, readTokens ([], .value) (tokens units) =
      some (stack, .nothing v) := by
    rw [ofUnits?] at hread
    split at hread
    · next stack w heq =>
      cases hread
      exact ⟨stack, heq⟩
    · cases hread
  have hsplit : tokens units =
      lexer.emitted .between units ++ lexEnd (lexer.stateAfter .between units) := by
    have hrun := lexer.run_append .between units []
    rwa [List.append_nil] at hrun
  rw [hsplit] at htokens
  generalize hmode : lexer.stateAfter .between units = m at htokens ⊢
  by_cases hm : m = .between
  · rw [hm, lexEnd, List.append_nil] at htokens
    exact ⟨hm, stack, htokens⟩
  · exfalso
    by_cases hstuck : m = .stuck
    · rw [hstuck] at hmode
      have hinvalid := invalid_mem_of_stuck (by simp) hmode
      rw [readTokens_of_mem_invalid (List.mem_append_left _ hinvalid)] at htokens
      cases htokens
    · obtain hend | ⟨w, hw, hend⟩ := lexEnd_cases m hm hstuck
      · rw [hend, readTokens_of_mem_invalid (List.mem_concat_self)] at htokens
        cases htokens
      · rw [hend, readTokens_append] at htokens
        obtain ⟨state, _, hlast⟩ := Option.bind_eq_some_iff.mp htokens
        rw [readTokens] at hlast
        cases hstep : readStep state (.scalar w) with
        | none =>
          rw [hstep] at hlast
          cases hlast
        | some next =>
          rw [hstep] at hlast
          cases hlast
          rw [eq_of_readStep_scalar hstep, hcontainer] at hw
          cases hw

/-! ## What is read behind it -/

/-- Whether a literal is open. -/
def Mode.isPending : Mode → Bool
  | .between | .stuck => false
  | _ => true

/-- A step that completes a token or leaves a literal open. -/
def Counts (step : Mode × List Token) : Prop :=
  step.2 ≠ [] ∨ step.1.isPending = true

theorem isPending_of_isLiteral {m : Mode} (hm : m.isLiteral = true) : m.isPending = true := by
  cases m with
  | word | number => rfl
  | _ => cases hm

theorem counts_start {c : Char} (hc : Text.isBlank c = false) : Counts (start (some c)) := by
  have hstarts := starts c
  generalize start (some c) = step at hstarts ⊢
  cases hstarts with
  | blank hblank =>
    rw [hblank] at hc
    cases hc
  | bracket t | sign t | nothing => exact .inl (List.cons_ne_nil _ _)
  | quote => exact .inr rfl
  | literal m hm => exact .inr (isPending_of_isLiteral hm)

theorem counts_inString (pieces : List Piece) (escape : Escape) (unit : Option Char) :
    Counts (inString pieces escape unit) := by
  unfold inString
  repeat' split
  all_goals simp [Counts, giveUp, Mode.isPending]

theorem counts_lexStep {m : Mode} (hm : m.isPending = true) (unit : Option Char) :
    Counts (lexStep m unit) := by
  by_cases hliteral : m.isLiteral = true
  · obtain ⟨next, hnext, hstep, -⟩ | ⟨t, -, hstep⟩ := lexStep_literal hliteral unit
    · rw [hstep]
      exact .inr (isPending_of_isLiteral hnext)
    · rw [hstep]
      exact .inl (List.cons_ne_nil t _)
  · cases m with
    | between | stuck => cases hm
    | string pieces escape => exact counts_inString pieces escape unit
    | word | number => exact absurd rfl hliteral

/-- An open literal leaves a token behind, whatever follows. -/
theorem run_of_pending {m : Mode} (hm : m.isPending = true) (units : List (Option Char)) :
    lexer.run m units ≠ [] := by
  induction units generalizing m with
  | nil =>
    cases m with
    | between | stuck => cases hm
    | _ => exact List.cons_ne_nil _ _
  | cons unit rest ih =>
    intro hnil
    obtain ⟨hstep, hrest⟩ := List.append_eq_nil_iff.mp hnil
    exact (counts_lexStep hm unit).elim (fun hne => hne hstep) fun hpending => ih hpending hrest

/-- A text with more than blanks has a token. -/
theorem run_ne_nil {text : List Char} (htext : ∃ c ∈ text, Text.isBlank c = false) :
    lexer.run .between (text.map some) ≠ [] := by
  induction text with
  | nil => simp at htext
  | cons c rest ih =>
    intro hnil
    obtain ⟨hstep, hrest⟩ := List.append_eq_nil_iff.mp hnil
    by_cases hc : Text.isBlank c = true
    · have hstart : start (some c) = (.between, []) := if_pos hc
      have hmore : ∃ d ∈ rest, Text.isBlank d = false := by
        simpa [hc] using htext
      have hbetween : (lexer.step .between (some c)).1 = .between := congrArg Prod.fst hstart
      rw [hbetween] at hrest
      exact ih hmore hrest
    · exact (counts_start (Bool.eq_false_iff.mpr hc)).elim (fun hne => hne hstep) fun hpending =>
        run_of_pending hpending _ hrest

/-- Behind an object or an array, a document does not go on. -/
theorem ofUnits?_append {units : List (Option Char)} {v : Value} (hread : ofUnits? units = some v)
    (hcontainer : v.isContainer = true) {more : List Char}
    (hmore : ∃ c ∈ more, Text.isBlank c = false) :
    ofUnits? (units ++ more.map some) = none := by
  obtain ⟨hmode, stack, htokens⟩ := stateAfter_of_read hread hcontainer
  obtain ⟨t, rest, hrun⟩ := List.exists_cons_of_ne_nil (run_ne_nil hmore)
  have hnone : readTokens ([], .value) (tokens (units ++ more.map some)) = none := by
    rw [tokens, Scanner.run_append, hmode, hrun, readTokens_append, htokens]
    rfl
  rw [ofUnits?, hnone]

/-! ## Documents without signs -/

/-- Whether a character can only stand within a literal: it is no blank, no quote and no sign. -/
def isInner (c : Char) : Bool :=
  !Text.isBlank c && isPlain c && c ≠ ',' && c ≠ ':'

theorem start_inner {c : Char} (hc : isInner c = true) : (start (some c)).1 ≠ .between := by
  simp only [isInner, isPlain, Bool.and_eq_true, Bool.not_eq_true', ne_eq, decide_eq_true_eq] at hc
  obtain ⟨⟨⟨hblank, -, hbracket⟩, hcomma⟩, hcolon⟩ := hc
  have hstarts := starts c
  generalize start (some c) = step at hstarts ⊢
  cases hstarts with
  | blank hc => exact absurd hc (Bool.eq_false_iff.mp hblank)
  | bracket t hc => exact absurd hc (Bool.eq_false_iff.mp hbracket)
  | sign t ht hc => exact absurd hc (not_or.mpr ⟨hcomma, hcolon⟩)
  | quote | nothing => exact Mode.noConfusion
  | literal m hm =>
    rintro rfl
    cases hm

theorem lexStep_inner {m : Mode} (hm : m.isOutside = true) {c : Char} (hc : isInner c = true) :
    (lexStep m (some c)).1.isOutside = true ∧ (lexStep m (some c)).1 ≠ .between := by
  have hplain : isPlain c = true := by
    simp only [isInner, Bool.and_eq_true] at hc
    exact hc.1.1.2
  refine ⟨(lexStep_plain hm hplain).1, ?_⟩
  obtain rfl | rfl | hliteral := outside_cases hm
  · exact start_inner hc
  · simp [lexStep]
  · obtain ⟨next, hnext, hstep, -⟩ | ⟨t, -, hstep⟩ := lexStep_literal hliteral (some c)
    · rw [hstep]
      rintro rfl
      cases hnext
    · rw [hstep]
      exact start_inner hc

theorem modeAfter_inner {m : Mode} (hm : m.isOutside = true) {text : List Char} (hne : text ≠ [])
    (htext : ∀ c ∈ text, isInner c = true) : modeAfter m text ≠ .between := by
  induction text generalizing m with
  | nil => exact absurd rfl hne
  | cons c rest ih =>
    have hstep := lexStep_inner hm (htext c List.mem_cons_self)
    by_cases hrest : rest = []
    · rw [hrest]
      exact hstep.2
    · exact ih hstep.1 hrest fun d hd => htext d (List.mem_cons_of_mem c hd)

/-- A document without signs is no object and no array. -/
theorem isContainer_of_inner {text : List Char} (htext : ∀ c ∈ text, isInner c = true)
    {v : Value}
    (hread : ofUnits? (text.map some) = some v) : v.isContainer = false := by
  apply Bool.eq_false_iff.mpr
  intro hcontainer
  have hne : text ≠ [] := by
    rintro rfl
    cases hread
  exact modeAfter_inner rfl hne htext (stateAfter_of_read hread hcontainer).1

end StoreAdmin.Json
