import StoreAdmin.Text.Blank

/-!
# Formats of documents

Documents travel as XML or as JSON. A request names its format by the exact media type; the media
type of an answer is read leniently.
-/

namespace StoreAdmin

/-- The format of a document. -/
inductive Format where
  | xml
  | json
  deriving DecidableEq, Repr

namespace Format

/-- The media type that is sent. -/
def mediaType : Format → String
  | .xml => "application/xml"
  | .json => "application/json"

/-- The short name. -/
def name : Format → String
  | .xml => "xml"
  | .json => "json"

/-- The format with exactly this media type. -/
def ofExact? (text : String) : Option Format :=
  if text = xml.mediaType then some .xml
  else if text = json.mediaType then some .json
  else none

/-- Whether two texts differ at most in the case of ASCII letters. -/
def sameLetters (a b : List Char) : Bool :=
  a.map Char.toLower = b.map Char.toLower

/-- The format that a header names. Parameters, blanks around the media type and the case of letters
do not matter, and XML has a second media type. -/
def ofMediaType? (header : String) : Option Format :=
  let media := Text.trim Text.isWhiteSpace (header.toList.takeWhile (· ≠ ';'))
  if sameLetters media xml.mediaType.toList || sameLetters media "text/xml".toList then some .xml
  else if sameLetters media json.mediaType.toList then some .json
  else none

end Format
end StoreAdmin
