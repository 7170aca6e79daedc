import StoreAdmin.Record.Xml
import StoreAdmin.Proofs.Xml.Reference

/-!
# Reading written elements back

What is written between two tags, elements and a text behind them, is read as the nodes it was
written for, whatever elements are open around it.  The reader keeps the content of an open element
in reverse order, so this is stated for every stack of open elements.
-/

namespace StoreAdmin.Xml

variable {name content raw : List Char} {nodes : List Node} {c : Char}

/-! ## Names -/

/-- The characters that have a meaning of their own in a tag. -/
def tagSigns : List Char :=
  ['<', '>', '/', '!', '?', '"', '\'', ' ', '\t', '\n', '\r']

/-- Whether a tag may have this name. -/
def isTagName (name : List Char) : Bool :=
  name ≠ [] && name.all (!tagSigns.contains ·)

theorem isTagName_iff :
    isTagName name = true ↔ name ≠ [] ∧ ∀ c ∈ name, c ∉ tagSigns := by
  simp [isTagName]

theorem ne_of_isTagName (hname : isTagName name = true) (hc : c ∈ name) (d : Char)
    (hd : d ∈ tagSigns) : c ≠ d := by
  rintro rfl
  exact (isTagName_iff.mp hname).2 c hc hd

/-- A name that may be written and is not empty is the name of a tag. -/
theorem isTagName_of_isWritableName (hname : isWritableName name = true) (hne : name ≠ []) :
    isTagName name = true := by
  have hchars : ∀ c ∈ name, isNameChar c = true := by
    cases name with
    | nil => exact absurd rfl hne
    | cons first rest =>
      simp only [isWritableName, Bool.and_eq_true, List.all_eq_true] at hname
      intro c hc
      obtain rfl | hmem := List.mem_cons.mp hc
      · rw [isNameChar, hname.1, Bool.true_or]
      · exact hname.2 c hmem
  have hsigns : tagSigns.all (fun d => !isNameChar d) = true := by decide
  refine isTagName_iff.mpr ⟨hne, fun c hc hsign => ?_⟩
  simpa [hchars c hc] using List.all_eq_true.mp hsigns c hsign

theorem isBlank_of_isTagName (hname : isTagName name = true) (hc : c ∈ name) :
    Text.isBlank c = false := by
  have hne := ne_of_isTagName hname hc
  simp [Text.isBlank, hne ' ' (by decide), hne '\t' (by decide), hne '\n' (by decide),
    hne '\r' (by decide)]

/-! ## Tokens -/

theorem run_cons (mode : Mode) (c : Char) (rest : List Char) :
    lexer.run mode (c :: rest) = (lexStep mode c).2 ++ lexer.run (lexStep mode c).1 rest :=
  rfl

theorem run_text (hraw : '<' ∉ raw) (done rest : List Char) :
    lexer.run (.text done) (raw ++ '<' :: rest) =
      textTokens (raw.reverse ++ done) ++ lexer.run .markup rest := by
  induction raw generalizing done with
  | nil => rfl
  | cons c more ih =>
    have hc : c ≠ '<' := fun heq => hraw (heq ▸ List.mem_cons_self)
    have hmore : '<' ∉ more := fun hmem => hraw (List.mem_cons_of_mem c hmem)
    have hstep : lexStep (.text done) c = (.text (c :: done), []) := if_neg hc
    rw [List.cons_append, run_cons, hstep, List.nil_append, ih hmore, List.reverse_cons,
      List.append_assoc, List.singleton_append]

/-- Whether a character inside of a tag neither ends it nor starts a quoted value. -/
def isPlainInTag (c : Char) : Bool :=
  c ≠ '>' && c ≠ '"' && c ≠ '\''

theorem run_tag {inside : List Char} (hinside : ∀ c ∈ inside, isPlainInTag c = true)
    (done rest : List Char) :
    lexer.run (.tag done none) (inside ++ '>' :: rest) =
      tagOf (done.reverse ++ inside) :: lexer.run (.text []) rest := by
  induction inside generalizing done with
  | nil => rw [List.append_nil]; rfl
  | cons c more ih =>
    have hc := hinside c List.mem_cons_self
    have hmore : ∀ d ∈ more, isPlainInTag d = true := fun d hd =>
      hinside d (List.mem_cons_of_mem c hd)
    simp only [isPlainInTag, Bool.and_eq_true, decide_eq_true_eq] at hc
    have hstep : lexStep (.tag done none) c = (.tag (c :: done) none, []) := by
      simp only [lexStep, hc, or_self, if_false]
    rw [List.cons_append, run_cons, hstep, List.nil_append, ih hmore, List.reverse_cons,
      List.append_assoc, List.singleton_append]

/-- Behind a `<`, a tag whose first character starts no other markup is read up to its `>`. -/
theorem run_markup {first : Char} {inside : List Char} (hbang : first ≠ '!')
    (hquestion : first ≠ '?') (hinside : ∀ c ∈ first :: inside, isPlainInTag c = true)
    (rest : List Char) :
    lexer.run .markup (first :: inside ++ '>' :: rest) =
      tagOf (first :: inside) :: lexer.run (.text []) rest := by
  have hfirst := hinside first List.mem_cons_self
  simp only [isPlainInTag, Bool.and_eq_true, decide_eq_true_eq] at hfirst
  have hstep : lexStep .markup first = (.tag [first] none, []) := by
    simp only [lexStep, hbang, hquestion, hfirst, or_self, if_false]
  rw [List.cons_append, run_cons, hstep, List.nil_append,
    run_tag fun c hc => hinside c (List.mem_cons_of_mem first hc)]
  rfl

section Tags

variable (hname : isTagName name = true)

include hname

theorem isPlainInTag_of_mem (hc : c ∈ name) : isPlainInTag c = true := by
  have hne := ne_of_isTagName hname hc
  simp [isPlainInTag, hne '>' (by decide), hne '"' (by decide), hne '\'' (by decide)]

/-- All of a name stands in front of the first blank. -/
theorem startTagOf_name (closed : Bool) : startTagOf name closed = .startTag name [] closed := by
  have hsolid : ∀ c ∈ name, (!Text.isBlank c) = true := by
    intro c hc
    rw [isBlank_of_isTagName hname hc, Bool.not_false]
  rw [startTagOf, List.takeWhile_eq_self_iff.mpr hsolid, List.dropWhile_eq_nil_iff.mpr hsolid]

theorem endTagOf_name : endTagOf name = .endTag name := by
  have hsolid : ∀ c ∈ name, Text.isBlank c = false := fun c hc => isBlank_of_isTagName hname hc
  simp only [endTagOf, Text.trimEnd_of_none hsolid, ite_self]

/-- A tag that starts with a name is a start tag. -/
theorem tagOf_append (more : List Char) :
    tagOf (name ++ more) =
      if (name ++ more).getLast? = some '/' then startTagOf (name ++ more).dropLast true
      else startTagOf (name ++ more) false := by
  obtain ⟨first, rest, rfl⟩ := List.exists_cons_of_ne_nil (isTagName_iff.mp hname).1
  rw [List.cons_append, tagOf]
  intro more heq
  exact ne_of_isTagName hname List.mem_cons_self '/' (by decide) (List.cons.inj heq).1

/-- A tag that starts with a name is read up to its end, as long as nothing is quoted in it. -/
theorem run_name (more : List Char) (hmore : ∀ c ∈ more, isPlainInTag c = true)
    (rest : List Char) :
    lexer.run .markup (name ++ more ++ '>' :: rest) =
      tagOf (name ++ more) :: lexer.run (.text []) rest := by
  have hplain : ∀ c ∈ name ++ more, isPlainInTag c = true := by
    intro c hc
    exact (List.mem_append.mp hc).elim (isPlainInTag_of_mem hname) (hmore c)
  obtain ⟨first, tail, rfl⟩ := List.exists_cons_of_ne_nil (isTagName_iff.mp hname).1
  have hne := ne_of_isTagName hname List.mem_cons_self
  exact run_markup (hne '!' (by decide)) (hne '?' (by decide)) hplain rest

theorem run_startTag (rest : List Char) :
    lexer.run .markup (name ++ '>' :: rest) =
      .startTag name [] false :: lexer.run (.text []) rest := by
  have hopen : name.getLast? ≠ some '/' := by
    intro hlast
    exact ne_of_isTagName hname (List.mem_of_getLast? hlast) '/' (by decide) rfl
  have hrun := run_name hname [] (by simp) rest
  rwa [tagOf_append hname, List.append_nil, if_neg hopen, startTagOf_name hname] at hrun

theorem run_closedTag (rest : List Char) :
    lexer.run .markup (name ++ '/' :: '>' :: rest) =
      .startTag name [] true :: lexer.run (.text []) rest := by
  have hrun := run_name hname ['/'] (by simp [isPlainInTag]) rest
  rwa [tagOf_append hname, if_pos List.getLast?_concat, List.dropLast_concat,
    startTagOf_name hname, List.append_assoc] at hrun

theorem run_endTag (rest : List Char) :
    lexer.run .markup ('/' :: name ++ '>' :: rest) = .endTag name :: lexer.run (.text []) rest := by
  have hplain : ∀ c ∈ '/' :: name, isPlainInTag c = true := by
    intro c hc
    obtain rfl | hmem := List.mem_cons.mp hc
    · rfl
    · exact isPlainInTag_of_mem hname hmem
  have hslash : tagOf ('/' :: name) = .endTag name := endTagOf_name hname
  rw [run_markup (by decide) (by decide) hplain, hslash]

end Tags

/-! ## Content -/

/-- The content that a text between two tags makes up. -/
def textNodes (raw : List Char) : List Node :=
  settle [.text raw] []

/-- What is written between two tags, elements with a text behind them, makes up these nodes. -/
inductive IsContent : List Char → List Node → Prop where
  | text {raw : List Char} (hraw : '<' ∉ raw) : IsContent raw (textNodes raw)
  | element {name content behind : List Char} {nodes more : List Node}
    (hname : isTagName name = true) (hcontent : IsContent content nodes)
    (hbehind : IsContent behind more) :
    IsContent (elementText name content ++ behind) (.element name [] nodes :: more)

theorem IsContent.nil : IsContent [] [] :=
  .text List.not_mem_nil

theorem elementText_nil (rest : List Char) :
    elementText name [] ++ rest = '<' :: (name ++ '/' :: '>' :: rest) := by
  simp [elementText]

theorem elementText_of_ne_nil (hcontent : content ≠ []) (rest : List Char) :
    elementText name content ++ rest =
      '<' :: (name ++ '>' :: (content ++ '<' :: ('/' :: name ++ '>' :: rest))) := by
  simp [elementText, hcontent]

theorem elementText_ne_nil : elementText name content ≠ [] := by
  unfold elementText
  split <;> exact List.cons_ne_nil _ _

/-- Only content without characters leaves an element that is closed at once. -/
theorem IsContent.eq_nil (hcontent : IsContent content nodes) (hempty : content = []) :
    nodes = [] := by
  cases hcontent with
  | text => rw [hempty]; rfl
  | element => exact absurd (List.append_eq_nil_iff.mp hempty).1 elementText_ne_nil

/-! ## Nodes -/

theorem settle_eq (run : List Piece) (content : List Node) :
    settle run content = (settle run []).reverse ++ content := by
  unfold settle
  split <;> rfl

/-- In front of an end tag, the current run of text may be settled at once. -/
theorem rootOf_endTag (e : Open) (stack : List Open) (run : List Piece) (rest : List Token) :
    rootOf (e :: stack) run (.endTag name :: rest) =
      rootOf ({ e with content := settle run e.content } :: stack) [] (.endTag name :: rest) := by
  cases stack <;> rfl

/-- Up to an end tag, a content adds some nodes to the open element. -/
def Adds (content : List Char) (nodes : List Node) : Prop :=
  ∀ name, isTagName name = true → ∀ (e : Open) (stack : List Open) (rest : List Char),
    rootOf (e :: stack) [] (lexer.run (.text []) (content ++ '<' :: ('/' :: name ++ '>' :: rest))) =
      rootOf ({ e with content := nodes.reverse ++ e.content } :: stack) []
        (.endTag name :: lexer.run (.text []) rest)

theorem adds_textNodes (hraw : '<' ∉ raw) : Adds raw (textNodes raw) := by
  intro name hname e stack rest
  rw [run_text hraw, run_endTag hname, List.append_nil, textNodes, ← settle_eq]
  cases raw with
  | nil => rfl
  | cons c more =>
    have htext : textTokens (c :: more).reverse = [.text (c :: more)] := by
      simp [textTokens]
    rw [htext]
    exact rootOf_endTag e stack [.text (c :: more)] _

/-- An element adds itself to the element that it stands in. -/
theorem rootOf_elementText (hname : isTagName name = true) (hadds : Adds content nodes)
    (hempty : content = [] → nodes = []) (e : Open) (stack : List Open) (rest : List Char) :
    rootOf (e :: stack) [] (lexer.run (.text []) (elementText name content ++ rest)) =
      rootOf ({ e with content := .element name [] nodes :: e.content } :: stack) []
        (lexer.run (.text []) rest) := by
  by_cases hcontent : content = []
  · rw [hempty hcontent, hcontent, elementText_nil]
    calc rootOf (e :: stack) [] (lexer.run .markup (name ++ '/' :: '>' :: rest))
      _ = rootOf (e :: stack) [] (.startTag name [] true :: lexer.run (.text []) rest) := by
        rw [run_closedTag hname]
      _ = _ := rfl
  · rw [elementText_of_ne_nil hcontent]
    calc rootOf (e :: stack) []
          (lexer.run .markup (name ++ '>' :: (content ++ '<' :: ('/' :: name ++ '>' :: rest))))
      _ = rootOf (⟨name, [], []⟩ :: e :: stack) []
          (lexer.run (.text []) (content ++ '<' :: ('/' :: name ++ '>' :: rest))) := by
        rw [run_startTag hname]
        rfl
      _ = rootOf (⟨name, [], nodes.reverse ++ []⟩ :: e :: stack) []
          (.endTag name :: lexer.run (.text []) rest) := hadds name hname _ _ rest
      _ = _ := by
        have hnodes : (settle [] nodes.reverse).reverse = nodes := List.reverse_reverse nodes
        rw [List.append_nil, rootOf, if_pos rfl, hnodes]

/-- What is written for some nodes adds them. -/
theorem IsContent.adds (hcontent : IsContent content nodes) : Adds content nodes := by
  induction hcontent with
  | text hraw => exact adds_textNodes hraw
  | @element inner content behind nodes more hinner hcontent hbehind ihcontent ihbehind =>
    intro name hname e stack rest
    rw [List.append_assoc, rootOf_elementText hinner ihcontent hcontent.eq_nil,
      ihbehind name hname, List.reverse_cons, List.append_assoc]
    rfl

/-- The root of a written document. -/
theorem root?_elementText (hname : isTagName name = true) (hcontent : IsContent content nodes) :
    root? (elementText name content) = some (.element name [] nodes) := by
  by_cases hempty : content = []
  · rw [hcontent.eq_nil hempty, hempty, ← List.append_nil (elementText name []), elementText_nil]
    calc rootOf [] [] (lexer.run .markup (name ++ ['/', '>']))
      _ = rootOf [] [] [.startTag name [] true] := by rw [run_closedTag hname]; rfl
      _ = _ := rfl
  · rw [← List.append_nil (elementText name content), elementText_of_ne_nil hempty]
    calc rootOf [] []
          (lexer.run .markup (name ++ '>' :: (content ++ '<' :: ('/' :: name ++ ['>']))))
      _ = rootOf [⟨name, [], []⟩] []
          (lexer.run (.text []) (content ++ '<' :: ('/' :: name ++ ['>']))) := by
        rw [run_startTag hname]
        rfl
      _ = rootOf [⟨name, [], nodes.reverse ++ []⟩] [] [.endTag name] :=
        hcontent.adds name hname _ _ []
      _ = _ := by
        have hnodes : (settle [] nodes.reverse).reverse = nodes := List.reverse_reverse nodes
        rw [List.append_nil, rootOf, if_pos rfl, hnodes]

/-! ## Texts -/

theorem piecesText?_text (raw : List Char) : piecesText? [.text raw] = resolve? raw := by
  cases hread : resolve? raw <;> simp [piecesText?, Piece.read?, hread]

/-- The text of an element is what is left of its raw text without the blanks at its ends. -/
theorem contentText?_textNodes (raw : List Char) :
    contentText? (textNodes raw) = resolve? (Text.trim Text.isBlank raw) := by
  cases hstart : raw.dropWhile Text.isBlank with
  | nil =>
    have hnodes : textNodes raw = [] := by
      simp [textNodes, settle, trimRun, trimRunStart, trimRunEnd, hstart]
    have htrim : Text.trim Text.isBlank raw = [] := by
      simp [Text.trim, Text.trimEnd, hstart]
    rw [hnodes, htrim]
    rfl
  | cons c rest =>
    have hnodes : textNodes raw = [.text [.text (Text.trim Text.isBlank raw)]] := by
      simp [textNodes, settle, trimRun, trimRunStart, trimRunEnd, Text.trim, hstart]
    rw [hnodes, contentText?, piecesText?_text]

/-- The text of an element is the text that was written into it, without the blanks at its ends. -/
theorem contentText?_escape (text : List Char) :
    contentText? (textNodes (escape text)) = some (Text.trim Text.isBlank text) := by
  rw [contentText?_textNodes, resolve?_trim_escape]

/-- A word without blanks and without characters that are replaced. -/
def IsWord (word : List Char) : Prop :=
  ∀ c ∈ word, isEscaped c = false ∧ Text.isBlank c = false

/-- A word is written and read as it is. -/
theorem IsWord.contentText? {word : List Char} (hword : IsWord word) :
    contentText? (textNodes word) = some word := by
  have hescape : escape word = word := escape_of_none fun c hc => (hword c hc).1
  have htrim : Text.trim Text.isBlank word = word := Text.trim_of_none fun c hc => (hword c hc).2
  rw [← hescape, contentText?_escape, htrim, hescape]

theorem IsWord.not_mem {word : List Char} (hword : IsWord word) : '<' ∉ word :=
  fun hmem => absurd (hword '<' hmem).1 (by decide)

end StoreAdmin.Xml
