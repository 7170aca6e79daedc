import StoreAdmin.Proofs.Json.Document

/-!
# How values are spelled

A value is spelled by a list of tokens, and whatever else a document looks like,
the value that its tokens spell is the one that is read.
-/

namespace StoreAdmin.Json

mutual

/-- The tokens of a value. -/
def Value.tokens : Value → List Token
  | .string text => [.string text]
  | .array [] => [.beginArray, .endArray]
  | .array (v :: items) => .beginArray :: (v.tokens ++ itemTokens items)
  | .object [] => [.beginObject, .endObject]
  | .object ((name, v) :: members) =>
    .beginObject :: .string name :: .colon :: (v.tokens ++ memberTokens members)
  | v => [.scalar v]

/-- The tokens of an array behind its first item. -/
def itemTokens : List Value → List Token
  | [] => [.endArray]
  | v :: items => .comma :: (v.tokens ++ itemTokens items)

/-- The tokens of an object behind its first member. -/
def memberTokens : List (Option String × Value) → List Token
  | [] => [.endObject]
  | (name, v) :: members =>
    .comma :: .string name :: .colon :: (v.tokens ++ memberTokens members)

end

/-- The body is a document that spells the value `v`. -/
def IsDocument (body : List UInt8) (v : Value) : Prop :=
  tokens (Utf8.units body) = v.tokens

mutual

/-- A value is read wherever one may come, whatever stands behind it. -/
theorem readTokens_value (v : Value) {stack : List Frame} {state : List Frame × Expect}
    (hstate : Awaits stack state) (rest : List Token) :
    readTokens state (v.tokens ++ rest) = readTokens (complete v stack) rest := by
  match v with
  | .null | .boolean _ | .number _ | .string _ =>
    exact readTokens_cons ((readStep_of_awaits hstate (by simp)).trans rfl) rest
  | .array [] =>
    have hopen := (readStep_of_awaits hstate (t := .beginArray) (by simp)).trans rfl
    exact (readTokens_cons hopen _).trans (readTokens_cons rfl rest)
  | .array (v :: items) =>
    have hopen := (readStep_of_awaits hstate (t := .beginArray) (by simp)).trans rfl
    rw [Value.tokens, List.cons_append, readTokens_cons hopen, List.append_assoc,
      readTokens_value v (.firstItem stack)]
    exact readTokens_items items stack [v] rest
  | .object [] =>
    have hopen := (readStep_of_awaits hstate (t := .beginObject) (by simp)).trans rfl
    exact (readTokens_cons hopen _).trans (readTokens_cons rfl rest)
  | .object ((name, v) :: members) =>
    have hopen := (readStep_of_awaits hstate (t := .beginObject) (by simp)).trans rfl
    rw [Value.tokens, List.cons_append, readTokens_cons hopen, List.cons_append,
      readTokens_cons rfl, List.cons_append, readTokens_cons rfl, List.append_assoc,
      readTokens_value v (.value (.object [] name :: stack))]
    exact readTokens_members members stack [(name, v)] rest

/-- The rest of an array is read behind the items that have been read. -/
theorem readTokens_items (items : List Value) (stack : List Frame) (read : List Value)
    (rest : List Token) :
    readTokens (stack, .afterItem read) (itemTokens items ++ rest) =
      readTokens (complete (.array (read.reverse ++ items)) stack) rest := by
  match items with
  | [] =>
    rw [List.append_nil]
    exact readTokens_cons rfl rest
  | v :: items =>
    have hrest := readTokens_items items stack (v :: read) rest
    rw [List.reverse_cons, List.append_assoc, List.singleton_append] at hrest
    rw [itemTokens, List.cons_append, readTokens_cons rfl, List.append_assoc,
      readTokens_value v (.value (.array read :: stack))]
    exact hrest

/-- The rest of an object is read behind the members that have been read. -/
theorem readTokens_members (members : List (Option String × Value)) (stack : List Frame)
    (read : List (Option String × Value)) (rest : List Token) :
    readTokens (stack, .afterMember read) (memberTokens members ++ rest) =
      readTokens (complete (.object (read.reverse ++ members)) stack) rest := by
  match members with
  | [] =>
    rw [List.append_nil]
    exact readTokens_cons rfl rest
  | (name, v) :: members =>
    have hrest := readTokens_members members stack ((name, v) :: read) rest
    rw [List.reverse_cons, List.append_assoc, List.singleton_append] at hrest
    rw [memberTokens, List.cons_append, readTokens_cons rfl, List.cons_append,
      readTokens_cons rfl, List.cons_append, readTokens_cons rfl, List.append_assoc,
      readTokens_value v (.value (.object read name :: stack))]
    exact hrest

end

theorem IsDocument.ofBytes?_eq {body : List UInt8} {v : Value} (hdocument : IsDocument body v) :
    ofBytes? body = some v := by
  have hread := readTokens_value v (.value []) []
  rw [List.append_nil] at hread
  rw [ofBytes?, ofUnits?, hdocument, hread]
  rfl

end StoreAdmin.Json
