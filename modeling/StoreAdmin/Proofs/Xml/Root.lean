import StoreAdmin.Proofs.Xml.Element

/-!
# Where the root ends

A document is read up to the end of its root, so what follows cannot change its
root.  A written document that breaks off has no root: if it had one, it would
keep it in a document that goes on differently, with an end tag of another name.
-/

namespace StoreAdmin.Xml

variable {text front name content : List Char} {nodes : List Node} {root : Node}

/-! ## More tokens -/

theorem rootOf_append {stack : List Open} {run : List Piece} {tokens : List Token}
    (hroot : rootOf stack run tokens = some root) (more : List Token) :
    rootOf stack run (tokens ++ more) = some root := by
  fun_induction rootOf stack run tokens <;> simp_all +zetaDelta [rootOf]

/-- Whether a token neither starts nor ends an element. -/
def Token.isInert : Token → Bool
  | .startTag _ _ _ | .endTag _ => false
  | _ => true

theorem rootOf_of_inert {tokens : List Token} (htokens : ∀ t ∈ tokens, t.isInert = true)
    (stack : List Open) (run : List Piece) : rootOf stack run tokens = none := by
  fun_induction rootOf stack run tokens <;> simp_all [Token.isInert]

/-- Tokens that neither start nor end an element do not complete a root. -/
theorem rootOf_of_append {stack : List Open} {run : List Piece} {tokens last : List Token}
    (hlast : ∀ t ∈ last, t.isInert = true)
    (hroot : rootOf stack run (tokens ++ last) = some root) :
    rootOf stack run tokens = some root := by
  fun_induction rootOf stack run tokens <;> simp_all +zetaDelta [rootOf, rootOf_of_inert]

/-! ## More text -/

theorem isInert_lexEnd (mode : Mode) : ∀ t ∈ lexEnd mode, t.isInert = true := by
  cases mode with
  | text raw =>
    rw [lexEnd, textTokens]
    split <;> simp [Token.isInert]
  | _ => simp [lexEnd, Token.isInert]

/-- A root that is read stands in the tokens that are complete. -/
theorem rootOf_emitted {mode : Mode} (hroot : rootOf [] [] (lexer.run mode text) = some root) :
    rootOf [] [] (lexer.emitted mode text) = some root := by
  have hsplit := lexer.run_append mode text []
  rw [List.append_nil] at hsplit
  rw [hsplit] at hroot
  exact rootOf_of_append (isInert_lexEnd _) hroot

theorem withoutMark_append (hne : text ≠ []) (more : List Char) :
    withoutMark (text ++ more) = withoutMark text ++ more := by
  obtain ⟨c, rest, rfl⟩ := List.exists_cons_of_ne_nil hne
  rw [List.cons_append, withoutMark, withoutMark]
  split <;> rfl

/-- The root of a document stays its root, whatever follows. -/
theorem root?_append (hroot : root? text = some root) (more : List Char) :
    root? (text ++ more) = some root := by
  have hne : text ≠ [] := by
    rintro rfl
    cases hroot
  rw [root?, tokens, withoutMark_append hne, Scanner.run_append]
  exact rootOf_append (rootOf_emitted hroot) _

theorem isInert_run_text (htext : '<' ∉ text) (done : List Char) :
    ∀ t ∈ lexer.run (.text done) text, t.isInert = true := by
  induction text generalizing done with
  | nil => exact isInert_lexEnd (.text done)
  | cons c rest ih =>
    have hc : c ≠ '<' := fun heq => htext (heq ▸ List.mem_cons_self)
    have hstep : lexStep (.text done) c = (.text (c :: done), []) := if_neg hc
    rw [run_cons, hstep, List.nil_append]
    exact ih (fun hmem => htext (List.mem_cons_of_mem c hmem)) (c :: done)

/-- A document without a tag has no root. -/
theorem root?_of_plain (htext : '<' ∉ text) : root? text = none := by
  have hmark : '<' ∉ withoutMark text := by
    cases text with
    | nil => exact htext
    | cons c rest =>
      rw [withoutMark]
      split
      · exact fun hmem => htext (List.mem_cons_of_mem c hmem)
      · exact htext
  exact rootOf_of_inert (isInert_run_text hmark []) [] []

/-! ## Documents that break off -/

theorem isTagName_concat (hname : name = [] ∨ isTagName name = true) :
    isTagName (name ++ ['x']) = true := by
  refine isTagName_iff.mpr ⟨by simp, fun c hc => ?_⟩
  obtain hmem | hx := List.mem_append.mp hc
  · obtain rfl | hname := hname
    · cases hmem
    · exact (isTagName_iff.mp hname).2 c hmem
  · rw [List.mem_singleton.mp hx]
    decide

theorem tokens_markup (rest : List Char) : tokens ('<' :: rest) = lexer.run .markup rest := rfl

/-- A root whose end tag has another name is none. -/
theorem root?_misnamed (hname : name = [] ∨ isTagName name = true)
    (hcontent : IsContent content nodes) :
    root? ('<' :: (name ++ '>' :: (content ++ '<' :: ('/' :: (name ++ ['x']) ++ ['>'])))) =
      none := by
  have hstart : ∀ rest, lexer.run .markup (name ++ '>' :: rest) =
      .startTag name [] false :: lexer.run (.text []) rest := by
    intro rest
    obtain rfl | hname := hname
    · rfl
    · exact run_startTag hname rest
  have hother : name ++ ['x'] ≠ name := by simp
  rw [root?, tokens_markup, hstart]
  calc rootOf [⟨name, [], []⟩] []
        (lexer.run (.text []) (content ++ '<' :: ('/' :: (name ++ ['x']) ++ '>' :: [])))
    _ = rootOf [⟨name, [], nodes.reverse ++ []⟩] [] [.endTag (name ++ ['x'])] :=
      hcontent.adds _ (isTagName_concat hname) _ _ []
    _ = none := if_neg hother

/-- A root that would be closed at once, but goes on behind the slash, is none. -/
theorem root?_unclosed (hname : name = [] ∨ isTagName name = true) :
    root? ('<' :: (name ++ ['/', 'x', '>'])) = none := by
  rw [root?, tokens_markup]
  obtain rfl | hname := hname
  · rfl
  · have hrun := run_name hname ['/', 'x'] (by simp [isPlainInTag]) []
    have hlast : (name ++ ['/', 'x']).getLast? ≠ some '/' := by
      simp
    rw [tagOf_append hname, if_neg hlast, List.append_assoc] at hrun
    exact congrArg (rootOf [] []) hrun

/-- A document that breaks off has no root. -/
theorem root?_of_cut (hname : name = [] ∨ isTagName name = true)
    (hcontent : IsContent content nodes)
    (hfront : front <+: elementText name content) (hproper : front ≠ elementText name content) :
    root? front = none := by
  have hother : ∃ inner : List Char, elementText name content = inner ++ ['>'] ∧
      root? (inner ++ ['x', '>']) = none := by
    by_cases hempty : content = []
    · refine ⟨'<' :: name ++ ['/'], by simp [elementText, hempty], ?_⟩
      simpa using root?_unclosed hname
    · refine ⟨'<' :: name ++ '>' :: content ++ "</".toList ++ name,
        by simp [elementText, hempty], ?_⟩
      simpa using root?_misnamed hname hcontent
  obtain ⟨inner, htext, hnone⟩ := hother
  rw [htext] at hfront hproper
  obtain ⟨rest, rfl⟩ := (List.prefix_concat_iff.mp hfront).resolve_left hproper
  cases hroot : root? front with
  | none => rfl
  | some root =>
    rw [List.append_assoc, root?_append hroot] at hnone
    cases hnone

end StoreAdmin.Xml
