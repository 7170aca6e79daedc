import StoreAdmin.Record.Shape
import StoreAdmin.Number.Shortest
import StoreAdmin.Number.Parse
import StoreAdmin.Xml.Attribute
import StoreAdmin.Xml.Element
import StoreAdmin.Xml.Name

/-!
# Records in XML

A record is an element with one child element for each field, a list is a run of equally named
elements. Names are compared without their prefix. Attributes count as fields whose name starts with
`@`. Other children are passed over, but a text that starts such a child must still be readable. A
field that comes twice is an error, and so is a list that is interrupted by another element.
-/

namespace StoreAdmin

namespace Xml

/-- An element with one content, closed at once if there is none. -/
def elementText (name content : List Char) : List Char :=
  if content = [] then '<' :: name ++ "/>".toList
  else '<' :: name ++ '>' :: content ++ "</".toList ++ name ++ ['>']

/-- The text of an element that holds nothing else; an empty one holds the empty text. -/
def contentText? : List Node → Option (List Char)
  | [] => some []
  | [.text pieces] => piecesText? pieces
  | _ => none

/-- Whether a child that is passed over can be: a text at its start must be readable. -/
def isSkippable : List Node → Bool
  | .text pieces :: _ => (piecesText? pieces).isSome
  | _ => true

/-- A field of an element: an attribute value as it is written, or the nodes that make it up. -/
inductive Source where
  | attribute (raw : List Char)
  | nodes (nodes : List Node)

/-- The name that a field is looked up by. -/
def keyOf (name : List Char) : String :=
  String.ofList (localName name)

/-- The name that an attribute is looked up by. Only a namespace declaration keeps its prefix. -/
def attributeKey (name : List Char) : String :=
  String.ofList ('@' :: if name.take 6 = "xmlns:".toList then name else localName name)

/-- The fields of a content, in order. `isList` tells the names of list fields. The elements of a
list are taken together, as long as each has the same name with the same prefix; text among them or
behind them counts as an item. The open run is given by its key, the name of its elements and its
nodes in reverse order. Other text is no field, but must be readable. -/
def childSources (isList : String → Bool) :
    Option (String × List Char × List Node) → List Node → Option (List (String × Source))
  | none, [] => some []
  | some (key, _, nodes), [] => some [(key, .nodes nodes.reverse)]
  | none, .text pieces :: rest =>
    if (piecesText? pieces).isSome then childSources isList none rest else none
  | none, .element name attributes content :: rest =>
    let key := keyOf name
    if isList key then
      childSources isList (some (key, name, [.element name attributes content])) rest
    else
      (childSources isList none rest).map ((key, .nodes [.element name attributes content]) :: ·)
  | some (key, name, nodes), .text pieces :: rest =>
    childSources isList (some (key, name, .text pieces :: nodes)) rest
  | some (key, name, nodes), .element name' attributes content :: rest =>
    let node := Node.element name' attributes content
    if name = name' then childSources isList (some (key, name, node :: nodes)) rest
    else
      let key' := keyOf name'
      if isList key' then
        (childSources isList (some (key', name', [node])) rest).map
          ((key, .nodes nodes.reverse) :: ·)
      else
        (childSources isList none rest).map
          fun more => (key, .nodes nodes.reverse) :: (key', .nodes [node]) :: more

/-- All fields of an element, attributes first. -/
def sources? (isList : String → Bool) (attributes : List Char) (content : List Node) :
    Option (List (String × Source)) :=
  match attributes? attributes, childSources isList none content with
  | some found, some children =>
    some (found.map (fun a => (attributeKey a.name, .attribute a.raw)) ++ children)
  | _, _ => none

/-- Whether a field that no record knows can be passed over. -/
def Source.isSkippable : Source → Bool
  | .nodes [.element _ _ content] => Xml.isSkippable content
  | _ => true

end Xml

/-! ## Writing -/

mutual

/-- The contents of the elements that a value is written as, one for each item of a list. -/
def Shape.xmlContents : (s : Shape) → s.Val → List (List Char)
  | .text, (v : String) => [Xml.escape v.toList]
  | .integer, (v : Int64) => [Decimal.intText v.toInt]
  | .flag, (v : Bool) => [if v then "true".toList else "false".toList]
  | .ratio, (v : Binary64) => [v.text .plain]
  | .list item, vs => (List.map item.xmlContents vs).flatten
  | .record _ fields, v => [fields.xmlContent v]

/-- The child elements of a record. -/
def Fields.xmlContent : (fs : Fields) → fs.Val → List Char
  | .nil, _ => []
  | .cons field shape rest, (v, vs) =>
    (if field.isWritten shape v then
      (shape.xmlContents v).flatMap (Xml.elementText field.wire.toList)
    else []) ++ rest.xmlContent vs

end

/-! ## Reading -/

namespace Xml

/-- The text that a source holds, if it holds nothing else. -/
def Source.text? : Source → Option (List Char)
  | .attribute raw => resolve? raw
  | .nodes [.text pieces] => piecesText? pieces
  | .nodes [.element _ _ content] => contentText? content
  | .nodes _ => none

/-- A flag is a word or a digit. -/
def flag? (text : List Char) : Option Bool :=
  if text = "true".toList ∨ text = ['1'] then some true
  else if text = "false".toList ∨ text = ['0'] then some false
  else none

end Xml

/-- Whether a name belongs to a field. -/
def Fields.isName : Fields → String → Bool
  | .nil, _ => false
  | .cons field _ rest, name => field.answersTo name || rest.isName name

/-- Whether a name belongs to a list field. -/
def Fields.isListName : Fields → String → Bool
  | .nil, _ => false
  | .cons field (.list _) rest, name => field.answersTo name || rest.isListName name
  | .cons _ _ rest, name => rest.isListName name

mutual

/-- Reads a value. -/
def Shape.ofSource? : (s : Shape) → Xml.Source → Option s.Val
  | .text, source => source.text?.map String.ofList
  | .integer, source => (source.text?.bind Decimal.int?).bind Decimal.int64?
  | .flag, source => source.text?.bind Xml.flag?
  | .ratio, source => source.text?.bind Binary64.ofText?
  | .list item, source =>
    match source with
    | .nodes nodes => nodes.mapM fun node => item.ofSource? (.nodes [node])
    | .attribute _ => none
  | .record heading fields, source =>
    match source with
    | .nodes [.element _ attributes content] =>
      match Xml.sources? fields.isListName attributes content with
      | some sources =>
        if sources.all fun s => fields.isName s.1 || s.2.isSkippable then
          fields.ofSources? heading.lenient sources
        else none
      | none => none
    | _ => none

/-- Reads each field from the source that has one of its names. -/
def Fields.ofSources? (lenient : Bool) :
    (fs : Fields) → List (String × Xml.Source) → Option fs.Val
  | .nil, _ => some ()
  | .cons field shape rest, sources =>
    let missing := if lenient || field.omission = .always then some shape.default else none
    let own := sources.filter fun s => field.answersTo s.1
    match Field.pick missing (fun s => shape.ofSource? s.2) own,
      rest.ofSources? lenient sources with
    | some v, some vs => some (v, vs)
    | _, _ => none

end

namespace Model

variable {α : Type} [Model α]

/-- A record as an XML document with a given root, if its name may be written. -/
def xmlText? (root : String) (a : α) : Option (List Char) :=
  if Xml.isWritableName root.toList then
    some (Xml.elementText root.toList ((fields α).xmlContent (toVal a)))
  else none

/-- The record that an XML document describes; the name of its root does not matter. -/
def ofXml? (document : List Char) : Option α :=
  match Xml.root? document with
  | some root => ((shape α).ofSource? (.nodes [root])).map ofVal
  | none => none

end Model
end StoreAdmin
