import NodeIdGen.Digest.Sha256

/-!
# The header of a generated document

A header has two lines: a fixed marker, and a line with the time stamp that the caller gives. All
else in a document depends on the declarations alone, so that `body?`, which drops the line with the
time stamp, yields the same for two runs over the same declarations.
-/

namespace NodeIdGen.Generate

/-- The first line of a header. -/
def generatedMarker : String := "// AUTOMATICALLY GENERATED - DO NOT EDIT"

/-- What the second line starts with. -/
def producedMark : String := "// Produced "

/-- Who produced a document. -/
def producer : String := "astgen"

/-- A line break would end the line that the time stamp stands in. -/
def lineChar (c : Char) : Char :=
  if c = '\r' ∨ c = '\n' then ' ' else c

/-- The second line of a header, without its end. -/
def producedLine (timestamp : String) : List Char :=
  producedMark.toList ++ timestamp.toList.map lineChar ++ " by ".toList ++ producer.toList

/-- The header with the time stamp, as characters. -/
def headerChars (timestamp : String) : List Char :=
  generatedMarker.toList ++ '\n' :: (producedLine timestamp ++ ['\n'])

def header (timestamp : String) : String :=
  String.ofList (headerChars timestamp)

/-- The rest behind a beginning, if the text has it. -/
def behind? (start : List Char) (text : List Char) : Option (List Char) :=
  if start.isPrefixOf text then some (text.drop start.length) else none

/-- The characters of a document without the line of its time stamp, if it starts with a header. -/
def bodyChars? (doc : List Char) : Option (List Char) := do
  let rest ← behind? (generatedMarker.toList ++ ['\n']) doc
  if producedMark.toList.isPrefixOf rest then
    some (generatedMarker.toList ++ '\n' :: (rest.dropWhile (· ≠ '\n')).drop 1)
  else
    none

/-- A document without the line of its time stamp, if it starts with a header. -/
def body? (doc : String) : Option String :=
  (bodyChars? doc.toList).map String.ofList

/-- The digest of a document without the line of its time stamp. -/
def bodyDigest (doc : String) : String :=
  Digest.sha256Hex ((body? doc).getD doc).toUTF8

end NodeIdGen.Generate
