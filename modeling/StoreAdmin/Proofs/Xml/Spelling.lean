import StoreAdmin.Proofs.Xml.Element

/-!
# How elements are spelled

An element is spelled by its tags around its content, and a content by elements with texts around
them.  A document spells its root behind a prolog of document types and blanks.  Whatever else it
looks like, the root that its tokens spell is the one that is read.
-/

namespace StoreAdmin.Xml

variable {node : Node} {nodes : List Node} {first inner : List Token}

/-- The token of a piece of text. -/
def Piece.token : Piece → Token
  | .text raw => .text raw
  | .cdata content => .cdata content

/-- The content that a run of text makes up. -/
def runNodes (run : List Piece) : List Node :=
  settle run.reverse []

mutual

/-- The tokens of an element. -/
inductive Spells : List Token → Node → Prop
  | closed (name attributes : List Char) :
    Spells [.startTag name attributes true] (.element name attributes [])
  | opened (name attributes : List Char) {inner : List Token} {content : List Node}
    (hinner : SpellsContent inner content) :
    Spells (.startTag name attributes false :: (inner ++ [.endTag name]))
      (.element name attributes content)

/-- The tokens of a content. -/
inductive SpellsContent : List Token → List Node → Prop
  | text (run : List Piece) : SpellsContent (run.map Piece.token) (runNodes run)
  | element (run : List Piece) {first behind : List Token} {node : Node} {nodes : List Node}
    (hfirst : Spells first node) (hbehind : SpellsContent behind nodes) :
    SpellsContent (run.map Piece.token ++ (first ++ behind)) (runNodes run ++ node :: nodes)

end

/-- Whether a token may stand in front of the root. -/
def Token.isProlog : Token → Bool
  | .text raw => raw.all Text.isBlank
  | .doctype => true
  | _ => false

/-- The body is a document that spells its root. -/
def IsDocument (body : List UInt8) (root : Node) : Prop :=
  ∃ text prolog first rest, Utf8.decode? body = some text ∧
    (∀ t ∈ prolog, Token.isProlog t = true) ∧ Spells first root ∧
    tokens text = prolog ++ (first ++ rest)

/-! ## Content -/

theorem rootOf_run (stack : List Open) (read run : List Piece) (rest : List Token) :
    rootOf stack read (run.map Piece.token ++ rest) = rootOf stack (run.reverse ++ read) rest := by
  induction run generalizing read with
  | nil => rfl
  | cons piece run ih =>
    rw [List.reverse_cons, List.append_assoc, List.singleton_append, ← ih]
    cases piece <;> rfl

/-- A run of text in front of a tag adds its nodes to the open element. -/
theorem settle_run (run : List Piece) (nodes : List Node) :
    settle (run.reverse ++ []) nodes = (runNodes run).reverse ++ nodes := by
  rw [List.append_nil, settle_eq, runNodes]

/-- An end tag completes the element that some nodes have been added to. -/
theorem rootOf_completed (name attributes : List Char) (content : List Node) (stack : List Open)
    (rest : List Token) :
    rootOf (⟨name, attributes, content.reverse ++ []⟩ :: stack) [] (.endTag name :: rest) =
      match stack with
      | [] => some (.element name attributes content)
      | e :: stack =>
        rootOf ({ e with content := .element name attributes content :: e.content } :: stack) []
          rest := by
  have hnodes : (settle [] (content.reverse ++ [])).reverse = content := by
    rw [List.append_nil]
    exact List.reverse_reverse content
  cases stack <;> rw [rootOf, if_pos rfl, hnodes]

mutual

/-- The tokens of an element add it to the open element. -/
theorem Spells.rootOf_eq {first : List Token} {node : Node} (hspells : Spells first node)
    (e : Open) (stack : List Open) (run : List Piece) (rest : List Token) :
    rootOf (e :: stack) run (first ++ rest) =
      rootOf ({ e with content := node :: settle run e.content } :: stack) [] rest := by
  match first, node, hspells with
  | _, _, .closed name attributes => rfl
  | _, .element _ _ content, .opened name attributes hinner =>
    have hcontent := SpellsContent.rootOf_eq hinner ⟨name, attributes, []⟩
      ({ e with content := settle run e.content } :: stack) name rest
    rw [List.cons_append, List.append_assoc]
    exact hcontent.trans (rootOf_completed name attributes content _ rest)

/-- Up to an end tag, the tokens of a content add its nodes to the open element. -/
theorem SpellsContent.rootOf_eq {inner : List Token} {nodes : List Node}
    (hspells : SpellsContent inner nodes) (e : Open)
    (stack : List Open) (name : List Char) (rest : List Token) :
    rootOf (e :: stack) [] (inner ++ .endTag name :: rest) =
      rootOf ({ e with content := nodes.reverse ++ e.content } :: stack) []
        (.endTag name :: rest) := by
  match inner, nodes, hspells with
  | _, _, .text run => rw [rootOf_run, rootOf_endTag, settle_run]
  | _, _, .element run hfirst hbehind =>
    rw [List.append_assoc, rootOf_run, List.append_assoc, Spells.rootOf_eq hfirst,
      SpellsContent.rootOf_eq hbehind, settle_run]
    simp

end

/-! ## Documents -/

/-- Whether a piece is a text of blanks. -/
def Piece.isBlank : Piece → Bool
  | .text raw => raw.all Text.isBlank
  | .cdata _ => false

theorem trimRunStart_of_blank {run : List Piece} (hblank : ∀ p ∈ run, p.isBlank = true) :
    trimRunStart run = [] := by
  induction run with
  | nil => rfl
  | cons p run ih =>
    have hp := hblank p List.mem_cons_self
    cases p with
    | text raw =>
      have hdrop : raw.dropWhile Text.isBlank = [] :=
        List.dropWhile_eq_nil_iff.mpr (List.all_eq_true.mp hp)
      rw [trimRunStart, hdrop]
      exact ih fun q hq => hblank q (List.mem_cons_of_mem _ hq)
    | cdata => cases hp

/-- Blanks in front of the root are no content. -/
theorem settle_of_blank {run : List Piece} (hblank : ∀ p ∈ run, p.isBlank = true) :
    settle run [] = [] := by
  have hrun : trimRunStart run.reverse = [] :=
    trimRunStart_of_blank fun p hp => hblank p (List.mem_reverse.mp hp)
  rw [settle, trimRun, hrun]
  rfl

/-- What stands in front of the root is passed over. -/
theorem rootOf_prolog {prolog : List Token} (hprolog : ∀ t ∈ prolog, t.isProlog = true)
    {run : List Piece} (hblank : ∀ p ∈ run, p.isBlank = true)
    {first : List Token} {root : Node} (hfirst : Spells first root) (rest : List Token) :
    rootOf [] run (prolog ++ (first ++ rest)) = some root := by
  induction prolog generalizing run with
  | nil =>
    match first, root, hfirst with
    | _, _, .closed name attributes =>
      rw [List.nil_append, List.singleton_append, rootOf, settle_of_blank hblank]
      rfl
    | _, .element _ _ content, .opened name attributes hinner =>
      have hcontent := hinner.rootOf_eq ⟨name, attributes, []⟩ [] name rest
      rw [List.nil_append, List.cons_append, rootOf, settle_of_blank hblank, List.append_assoc]
      exact hcontent.trans (rootOf_completed name attributes content [] rest)
  | cons t prolog ih =>
    have hrest : ∀ t ∈ prolog, t.isProlog = true := fun u hu =>
      hprolog u (List.mem_cons_of_mem t hu)
    have ht := hprolog t List.mem_cons_self
    cases t with
    | text raw =>
      refine ih hrest fun p hp => ?_
      obtain rfl | hp := List.mem_cons.mp hp
      · exact ht
      · exact hblank p hp
    | doctype =>
      rw [List.cons_append, rootOf, settle_of_blank hblank]
      exact ih hrest (by simp)
    | cdata | startTag | endTag | malformed => cases ht

theorem IsDocument.root?_eq {body : List UInt8} {root : Node} (hdocument : IsDocument body root) :
    ∃ text, Utf8.decode? body = some text ∧ root? text = some root := by
  obtain ⟨text, prolog, first, rest, htext, hprolog, hfirst, htokens⟩ := hdocument
  refine ⟨text, htext, ?_⟩
  rw [root?, htokens]
  exact rootOf_prolog hprolog (by simp) hfirst rest

end StoreAdmin.Xml
