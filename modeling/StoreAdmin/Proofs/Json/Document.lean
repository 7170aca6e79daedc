import StoreAdmin.Json.Reader
import StoreAdmin.Proofs.Json.Literal
import StoreAdmin.Proofs.Text.Utf8

/-!
# Reading documents back

A value in which all numbers are integers and all strings have a text is written
as a text that is read as the value, wherever a value may come.  The statement
is about any stack of open containers and any rest of the document, so it
composes along the value.
-/

namespace StoreAdmin.Json

/-- All numbers in a value are integers, and all names and strings have a text. -/
inductive Value.IsExact : Value → Prop
  | boolean (b : Bool) : IsExact (.boolean b)
  | integer (i : Int) : IsExact (.number (.ofInt i))
  | string (text : String) : IsExact (.string (some text))
  | array {items : List Value} (hitems : ∀ v ∈ items, v.IsExact) : IsExact (.array items)
  | object {members : List (Option String × Value)} (hnames : ∀ m ∈ members, m.1.isSome)
    (hvalues : ∀ m ∈ members, m.2.IsExact) : IsExact (.object members)

/-! ## Where a value may come -/

/-- The reader waits for a value to hand to the innermost container of a stack. -/
inductive Awaits : List Frame → List Frame × Expect → Prop
  | value (stack : List Frame) : Awaits stack (stack, .value)
  | firstItem (stack : List Frame) : Awaits (.array [] :: stack) (stack, .firstItem)

theorem readStep_of_awaits {stack : List Frame} {state : List Frame × Expect}
    (hstate : Awaits stack state) {t : Token} (ht : t ≠ .endArray) :
    readStep state t = readValue stack t := by
  cases hstate with
  | value => rfl
  | firstItem stack => cases t <;> first | rfl | exact absurd rfl ht

theorem readTokens_cons {state next : List Frame × Expect} {t : Token}
    (hstep : readStep state t = some next) (rest : List Token) :
    readTokens state (t :: rest) = readTokens next rest := by
  rw [readTokens, hstep]

/-- A text is read as a value wherever one may come, up to where a literal ends. -/
def Reads (text : List Char) (v : Value) : Prop :=
  ∀ stack state, Awaits stack state → ∀ rest, Ends rest →
    readTokens state (lexer.run .between (text.map some ++ rest)) =
      readTokens (complete v stack) (lexer.run .between rest)

theorem reads_of_token {text : List Char} {t : Token} {v : Value}
    (hrun : ∀ rest, Ends rest →
      lexer.run .between (text.map some ++ rest) = t :: lexer.run .between rest)
    (ht : t ≠ .endArray) (hvalue : ∀ stack, readValue stack t = some (complete v stack)) :
    Reads text v := by
  intro stack state hstate rest hends
  rw [hrun rest hends, readTokens_cons]
  rw [readStep_of_awaits hstate ht, hvalue]

/-! ## Containers -/

/-- A sign is a token of its own. -/
theorem run_sign {c : Char} {t : Token} (hsign : start (some c) = (.between, [t]))
    (rest : List (Option Char)) :
    lexer.run .between (some c :: rest) = t :: lexer.run .between rest := by
  have hstep : lexer.step .between (some c) = (.between, [t]) := hsign
  rw [Scanner.run, hstep, List.singleton_append]

/-- The parts of a container behind the first one, each with its comma. -/
def partsBehind {α : Type} (text : α → List Char) (parts : List α) : List Char :=
  parts.flatMap fun part => ',' :: text part

theorem partsBehind_cons {α : Type} (text : α → List Char) (part : α) (parts : List α) :
    partsBehind text (part :: parts) = ',' :: (text part ++ partsBehind text parts) := rfl

theorem ends_partsBehind {α : Type} (text : α → List Char) (parts : List α) {close : Char}
    (hclose : close = ']' ∨ close = '}') (rest : List (Option Char)) :
    Ends ((partsBehind text parts).map some ++ some close :: rest) := by
  cases parts with
  | nil => exact ends_cons (.inr hclose) rest
  | cons part parts => exact ends_cons (.inl rfl) _

/-- How the parts of a container are written and read one after the other.  The parts that have
been read so far stand in reverse. -/
structure Container (α : Type) where
  opening : Char
  closing : Char
  opens : Token
  closes : Token
  text : α → List Char
  whole : List α → Value
  /-- What is expected behind the opening sign. -/
  first : Expect
  /-- What is expected behind the parts that have been read. -/
  behind : List α → Expect
  /-- The state behind a comma. -/
  next : List Frame → List α → List Frame × Expect
  lex_opening : start (some opening) = (.between, [opens])
  lex_closing : start (some closing) = (.between, [closes])
  ends_closing : closing = ']' ∨ closing = '}'
  opens_ne : opens ≠ .endArray
  read_opening : ∀ stack, readValue stack opens = some (stack, first)
  read_empty : ∀ stack, readStep (stack, first) closes = some (complete (whole []) stack)
  read_closing : ∀ stack read,
    readStep (stack, behind read) closes = some (complete (whole read.reverse) stack)
  read_comma : ∀ stack read, readStep (stack, behind read) .comma = some (next stack read)

namespace Container

variable {α : Type} (k : Container α)

/-- What is written between the signs of a container. -/
def inner : List α → List Char
  | [] => []
  | part :: parts => k.text part ++ partsBehind k.text parts

/-- A part is read from a state, up to where a literal ends. -/
def ReadsPart (state : List Frame × Expect) (part : α) (next : List Frame × Expect) : Prop :=
  ∀ rest, Ends rest → readTokens state (lexer.run .between ((k.text part).map some ++ rest)) =
    readTokens next (lexer.run .between rest)

/-- A part is read wherever one may come in the container. -/
structure Takes (part : α) : Prop where
  first : ∀ stack, k.ReadsPart (stack, k.first) part (stack, k.behind [part])
  next : ∀ stack read, k.ReadsPart (k.next stack read) part (stack, k.behind (part :: read))

variable {k} {parts : List α} (hparts : ∀ part ∈ parts, k.Takes part)

include hparts

/-- The rest of a container is read behind the parts that have been read. -/
theorem readTokens_behind (stack : List Frame) (read : List α) (rest : List (Option Char)) :
    readTokens (stack, k.behind read)
        (lexer.run .between ((partsBehind k.text parts).map some ++ some k.closing :: rest)) =
      readTokens (complete (k.whole (read.reverse ++ parts)) stack) (lexer.run .between rest) := by
  induction parts generalizing read with
  | nil =>
    rw [List.append_nil]
    exact (congrArg _ (run_sign k.lex_closing rest)).trans
      (readTokens_cons (k.read_closing stack read) _)
  | cons part parts ih =>
    have hfirst := (hparts part List.mem_cons_self).next stack read _
      (ends_partsBehind k.text parts k.ends_closing rest)
    have hrest := ih (fun p hp => hparts p (List.mem_cons_of_mem part hp)) (part :: read)
    rw [partsBehind_cons, List.map_cons, List.cons_append, run_sign rfl,
      readTokens_cons (k.read_comma stack read), List.map_append, List.append_assoc, hfirst, hrest,
      List.reverse_cons, List.append_assoc, List.singleton_append]

theorem reads : Reads (k.opening :: k.inner parts ++ [k.closing]) (k.whole parts) := by
  intro stack state hstate rest hends
  have hopen : readStep state k.opens = some (stack, k.first) :=
    (readStep_of_awaits hstate k.opens_ne).trans (k.read_opening stack)
  rw [List.cons_append, List.map_cons, List.cons_append, run_sign k.lex_opening,
    readTokens_cons hopen]
  cases parts with
  | nil =>
    exact (congrArg _ (run_sign k.lex_closing rest)).trans
      (readTokens_cons (k.read_empty stack) _)
  | cons part parts =>
    have hfirst := (hparts part List.mem_cons_self).first stack _
      (ends_partsBehind k.text parts k.ends_closing rest)
    have hrest := readTokens_behind (fun p hp => hparts p (List.mem_cons_of_mem part hp))
      stack [part] rest
    have htext : (k.inner (part :: parts) ++ [k.closing]).map some ++ rest =
        (k.text part).map some ++
          ((partsBehind k.text parts).map some ++ some k.closing :: rest) := by
      simp [inner]
    rw [htext, hfirst, hrest, List.reverse_singleton, List.singleton_append]

end Container

/-! ## Arrays -/

def Container.array : Container Value where
  opening := '['
  closing := ']'
  opens := .beginArray
  closes := .endArray
  text := Value.text
  whole := .array
  first := .firstItem
  behind := .afterItem
  next stack read := (.array read :: stack, .value)
  lex_opening := rfl
  lex_closing := rfl
  ends_closing := .inl rfl
  opens_ne := by simp
  read_opening _ := rfl
  read_empty _ := rfl
  read_closing _ _ := rfl
  read_comma _ _ := rfl

theorem itemsText_eq (items : List Value) : itemsText items = Container.array.inner items := by
  induction items with
  | nil => rfl
  | cons v items ih =>
    cases items with
    | nil => exact (List.append_nil _).symm
    | cons next rest =>
      have hnext : itemsText (v :: next :: rest) = v.text ++ ',' :: itemsText (next :: rest) := by
        simp [itemsText]
      rw [hnext, ih]
      rfl

theorem reads_array {items : List Value} (hitems : ∀ v ∈ items, Reads v.text v) :
    Reads (Value.array items).text (.array items) := by
  have htakes : ∀ v ∈ items, Container.array.Takes v := fun v hv => {
    first := fun stack => hitems v hv (.array [] :: stack) _ (.firstItem stack)
    next := fun stack read => hitems v hv (.array read :: stack) _ (.value _) }
  rw [Value.text, itemsText_eq]
  exact Container.reads htakes

/-! ## Objects -/

/-- A member with its name. -/
def memberText (m : Option String × Value) : List Char :=
  stringText m.1 ++ ':' :: m.2.text

def Container.object : Container (Option String × Value) where
  opening := '{'
  closing := '}'
  opens := .beginObject
  closes := .endObject
  text := memberText
  whole := .object
  first := .firstName
  behind := .afterMember
  next stack read := (stack, .name read)
  lex_opening := rfl
  lex_closing := rfl
  ends_closing := .inr rfl
  opens_ne := by simp
  read_opening _ := rfl
  read_empty _ := rfl
  read_closing _ _ := rfl
  read_comma _ _ := rfl

theorem membersText_eq (members : List (Option String × Value)) :
    membersText members = Container.object.inner members := by
  induction members with
  | nil => rfl
  | cons m members ih =>
    obtain ⟨name, v⟩ := m
    cases members with
    | nil => simp [membersText, Container.inner, partsBehind, Container.object, memberText]
    | cons next rest =>
      have hnext : membersText ((name, v) :: next :: rest) =
          memberText (name, v) ++ ',' :: membersText (next :: rest) := by
        simp [membersText, memberText]
      rw [hnext, ih]
      rfl

/-- A member is read where a name may come. -/
theorem readsPart_member {m : Option String × Value} (hname : m.1.isSome)
    (hvalue : Reads m.2.text m.2) {stack : List Frame} {state : List Frame × Expect}
    {read : List (Option String × Value)}
    (hstate : ∀ name, readStep state (.string name) = some (stack, .colon read name)) :
    Container.object.ReadsPart state m (stack, .afterMember (m :: read)) := by
  intro rest hends
  obtain ⟨name?, v⟩ := m
  obtain ⟨name, rfl⟩ := Option.isSome_iff_exists.mp hname
  have hcolon : readStep (stack, .colon read (some name)) .colon =
      some (.object read (some name) :: stack, .value) := rfl
  have hmember : Container.object.text (some name, v) = quote name.toList ++ ':' :: v.text := rfl
  have htext : (Container.object.text (some name, v)).map some ++ rest =
      (quote name.toList).map some ++ (some ':' :: (v.text.map some ++ rest)) := by
    rw [hmember, List.map_append, List.append_assoc]
    rfl
  rw [htext, run_quote, String.ofList_toList, readTokens_cons (hstate _), run_sign rfl,
    readTokens_cons hcolon]
  exact hvalue _ _ (.value _) rest hends

theorem reads_object {members : List (Option String × Value)}
    (hnames : ∀ m ∈ members, m.1.isSome) (hvalues : ∀ m ∈ members, Reads m.2.text m.2) :
    Reads (Value.object members).text (.object members) := by
  have htakes : ∀ m ∈ members, Container.object.Takes m := fun m hm => {
    first := fun stack => readsPart_member (hnames m hm) (hvalues m hm) fun _ => rfl
    next := fun stack read => readsPart_member (hnames m hm) (hvalues m hm) fun _ => rfl }
  rw [Value.text, membersText_eq]
  exact Container.reads htakes

/-! ## Documents -/

/-- What is written of an exact value is read as the value. -/
theorem Value.IsExact.reads {v : Value} (hv : v.IsExact) : Reads v.text v := by
  induction hv with
  | boolean b => exact reads_of_token (fun _ hends => run_flag b hends) (by simp) fun _ => rfl
  | integer i => exact reads_of_token (fun _ hends => run_integer i hends) (by simp) fun _ => rfl
  | string text =>
    apply reads_of_token (t := .string (some text)) _ (by simp) fun _ => rfl
    intro rest _
    have hrun := run_quote text.toList rest
    rwa [String.ofList_toList] at hrun
  | array _ ih => exact reads_array ih
  | object hnames _ ih => exact reads_object hnames ih

/-- A document with an exact value holds that value. -/
theorem ofBytes?_text {v : Value} (hv : v.IsExact) : ofBytes? (Utf8.encode v.text) = some v := by
  have hread := hv.reads [] _ (.value []) [] ends_nil
  rw [List.append_nil] at hread
  rw [ofBytes?, Utf8.units_encode, ofUnits?, tokens, hread]
  rfl

end StoreAdmin.Json
