import MappedCoverage.Json.Shape
import MappedCoverage.SourceMap.Comment
import MappedCoverage.SourceMap.Mapping

/-!
# Source maps

A source map lists sources, the contents of sources where they are known, and line mappings. It is
read from JSON: a record of three fields that may all be missing, or a list of them in order.
-/

namespace MappedCoverage

/-- A decoded source map. -/
structure SourceMap where
  sources : List String
  contents : List (Option String)
  mappings : List SourceMap.LineMapping

namespace SourceMap

/-- Why a text has no source map or no content to show. -/
inductive Fault where
  | base64 (flaw : Base64.Flaw)
  | json (fault : Json.Fault) (text : String)
  | utf8
  | mapping (malformed : Malformed)
  | noSources
  | noContent (source : String)

/-- The wording of a fault. -/
def Fault.message : Fault → String
  | .base64 flaw => s!"inline source map is not valid base64: {flaw.message}"
  | .json fault text => s!"inline source map is not valid JSON: {fault.report text}"
  | .utf8 => "inline source map is not valid UTF-8"
  | .mapping malformed => s!"a mapping is malformed: \"{String.ofList malformed.segment}\""
  | .noSources => "source map lists no sources"
  | .noContent source => s!"source map has no content for source '{source}'"

/-- The fields of a source map as they are written; a field not read yet is `none`. -/
structure Written where
  sources : Option (List (Option String))
  contents : Option (List (Option String))
  mappings : Option String

/-- No field read. -/
def Written.empty : Written := ⟨none, none, none⟩

/-- Reads a list of texts of which some may be null. -/
def readNames (text : List Char) : Except Json.Fault (List (Option String) × List Char) :=
  Json.readList Json.readOptionalText text

/-- The fault of a field that stands twice: it is noticed after the key, and reported behind the
end of the record if that follows at once. -/
def duplicate (field : String) (rest : List Char) : Json.Fault :=
  let behind :=
    match Json.skipBlanks rest with
    | '}' :: rest => rest
    | rest => rest
  .here (.shape ("duplicate field " ++ String.ofList [Char.ofNat 0x60] ++ field
    ++ String.ofList [Char.ofNat 0x60])) behind

/-- Reads the value of a field by a reader, after its colon, unless the field stands twice. -/
def readField
    {α : Type}
    (field : String)
    (old : Option α)
    (readValue : List Char → Except Json.Fault (α × List Char))
    (text : List Char) :
    Except Json.Fault (α × List Char) := do
  if old.isSome then throw (duplicate field text)
  let (_, rest) ← Json.readColon text
  readValue rest

/-- Reads an entry after its key; entries of other names are passed over. -/
def Written.readEntry (written : Written) (key : String) (text : List Char) :
    Except Json.Fault (Written × List Char) := do
  if key = "sources" then
    let (sources, rest) ← readField key written.sources readNames text
    return ({ written with sources := some sources }, rest)
  else if key = "sourcesContent" then
    let (contents, rest) ← readField key written.contents readNames text
    return ({ written with contents := some contents }, rest)
  else if key = "mappings" then
    let (mappings, rest) ← readField key written.mappings Json.readTextValue text
    return ({ written with mappings := some mappings }, rest)
  else
    let (_, rest) ← Json.readColon text
    let (_, rest) ← Json.skipValue rest
    return (written, rest)

/-- Reads the entries of a record up to its end; `fuel` bounds their number. -/
def readEntries : Nat → Bool → Written → List Char → Except Json.Fault (Written × List Char)
  | 0, _, _, text => .error (.here .endInRecord text)
  | fuel + 1, first, written, text => do
      match ← Json.nextKey first text with
      | .close rest => return (written, rest)
      | .item rest =>
          let (key, rest) ← Json.readText rest
          let (written, rest) ← written.readEntry key rest
          readEntries fuel false written rest

/-- Reads a list of at most three fields in order. -/
def readPositions (text : List Char) : Except Json.Fault (Written × List Char) := do
  match ← Json.nextItem true text with
  | .close rest => return (.empty, rest)
  | .item rest =>
      let (sources, rest) ← readNames rest
      match ← Json.nextItem false rest with
      | .close rest => return (⟨some sources, none, none⟩, rest)
      | .item rest =>
          let (contents, rest) ← readNames rest
          match ← Json.nextItem false rest with
          | .close rest => return (⟨some sources, some contents, none⟩, rest)
          | .item rest =>
              let (mappings, rest) ← Json.readTextValue rest
              let (_, rest) ← Json.closeList rest
              return (⟨some sources, some contents, some mappings⟩, rest)

/-- Reads the fields of a source map. -/
def readWritten (text : List Char) : Except Json.Fault (Written × List Char) :=
  match Json.skipBlanks text with
  | '{' :: rest => readEntries (rest.length + 1) true .empty rest
  | '[' :: rest => readPositions rest
  | rest => .error (Json.refuse "struct RawSourceMap" rest)

/-- The source map that written fields give: a missing field is empty, and so is a null source. -/
def Written.sourceMap (written : Written) : Except Malformed SourceMap := do
  let mappings ← readMappings (written.mappings.getD "")
  return {
    sources := (written.sources.getD []).map (·.getD "")
    contents := written.contents.getD []
    mappings }

/-- The source map that a JSON text denotes. -/
def ofJson (text : String) : Except Fault SourceMap := do
  let written ← (Json.finish (readWritten text.toList)).mapError (Fault.json · text)
  written.sourceMap.mapError .mapping

/-- The source map that a payload encodes. -/
def ofPayload (payload : String) : Except Fault SourceMap := do
  let bytes ← (Base64.decode payload.toList).mapError .base64
  match String.fromUTF8? ⟨bytes.toArray⟩ with
  | none => .error .utf8
  | some text => ofJson text

/-- The source map of the last map comment of a text, if it has one. -/
def extract? (text : String) : Except Fault (Option SourceMap) :=
  match findPayload? text with
  | none => .ok none
  | some payload => (ofPayload payload).map some

/-- The content of the first source. -/
def firstContent (map : SourceMap) : Except Fault String :=
  match map.sources with
  | [] => .error .noSources
  | source :: _ =>
      match map.contents with
      | some content :: _ => .ok content
      | _ => .error (.noContent source)

end SourceMap

end MappedCoverage
