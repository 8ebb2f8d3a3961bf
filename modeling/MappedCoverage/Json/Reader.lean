import MappedCoverage.Json.Token

/-!
# Reading JSON documents

A document is one value between blanks. Lists and records nest to at most 127 levels. In a record a
repeated key keeps its first place and takes the last value.
-/

namespace MappedCoverage.Json

/-- One more than the number of levels that lists and records may nest to. -/
def depthLimit : Nat := 128

/-- What the separator after an item of a list leads to. -/
inductive Continuation where
  | item (rest : List Char)
  | close (rest : List Char)

/-- Reads up to the next item of a list or to its end. -/
def nextItem (first : Bool) (text : List Char) : Except Fault Continuation :=
  match skipBlanks text with
  | [] => .error (.here .endInList [])
  | ']' :: rest => .ok (.close rest)
  | ',' :: rest =>
      if first then .ok (.item (',' :: rest))
      else
        match skipBlanks rest with
        | [] => .error (.here .endInValue [])
        | ']' :: rest => .error (.next .trailingComma (']' :: rest))
        | rest => .ok (.item rest)
  | rest => if first then .ok (.item rest) else .error (.next .listSeparatorExpected rest)

/-- Reads up to the opening quote of the next key of a record, which it takes, or to its end. -/
def nextKey (first : Bool) (text : List Char) : Except Fault Continuation :=
  match skipBlanks text with
  | [] => .error (.here .endInRecord [])
  | '}' :: rest => .ok (.close rest)
  | '"' :: rest =>
      if first then .ok (.item rest)
      else .error (.next .recordSeparatorExpected ('"' :: rest))
  | ',' :: rest =>
      if first then .error (.next .keyExpected (',' :: rest))
      else
        match skipBlanks rest with
        | [] => .error (.here .endInValue [])
        | '"' :: rest => .ok (.item rest)
        | '}' :: rest => .error (.next .trailingComma ('}' :: rest))
        | rest => .error (.next .keyExpected rest)
  | rest =>
      .error (.next (if first then .keyExpected else .recordSeparatorExpected) rest)

/-- Reads the colon between a key and its value. -/
def readColon (text : List Char) : Reading Unit :=
  match skipBlanks text with
  | [] => .error (.here .endInRecord [])
  | ':' :: rest => .ok ((), rest)
  | rest => .error (.next .colonExpected rest)

mutual

/-- Reads a value; `fuel` bounds the steps and `depth` the levels of nesting left. -/
def readValue : Nat → Nat → List Char → Except Fault (Document × List Char)
  | 0, _, text => .error (.here .endInValue text)
  | fuel + 1, depth, text =>
      match skipBlanks text with
      | [] => .error (.here .endInValue [])
      | 'n' :: rest => do
          let (_, rest) ← readWord ['u', 'l', 'l'] rest
          return (.null, rest)
      | 't' :: rest => do
          let (_, rest) ← readWord ['r', 'u', 'e'] rest
          return (.boolean true, rest)
      | 'f' :: rest => do
          let (_, rest) ← readWord ['a', 'l', 's', 'e'] rest
          return (.boolean false, rest)
      | '-' :: rest => do
          let (value, rest) ← readNumber false rest
          return (.number value, rest)
      | '"' :: rest => do
          let (value, rest) ← readText rest
          return (.text value, rest)
      | '[' :: rest =>
          if depth ≤ 1 then .error (.next .tooDeep ('[' :: rest))
          else readItems fuel (depth - 1) true [] rest
      | '{' :: rest =>
          if depth ≤ 1 then .error (.next .tooDeep ('{' :: rest))
          else readEntries fuel (depth - 1) true [] rest
      | c :: rest =>
          if c.isDigit then do
            let (value, rest) ← readNumber true (c :: rest)
            return (.number value, rest)
          else .error (.next .valueExpected (c :: rest))

/-- Reads the items of a list up to its end; `taken` holds those read so far, in reverse. -/
def readItems :
    Nat → Nat → Bool → List Document → List Char → Except Fault (Document × List Char)
  | 0, _, _, _, text => .error (.here .endInList text)
  | fuel + 1, depth, first, taken, text => do
      match ← nextItem first text with
      | .close rest => return (.sequence taken.reverse, rest)
      | .item rest =>
          let (value, rest) ← readValue fuel depth rest
          readItems fuel depth false (value :: taken) rest

/-- Reads the entries of a record up to its end. -/
def readEntries :
    Nat → Nat → Bool → Entries Document → List Char → Except Fault (Document × List Char)
  | 0, _, _, _, text => .error (.here .endInRecord text)
  | fuel + 1, depth, first, taken, text => do
      match ← nextKey first text with
      | .close rest => return (.record taken, rest)
      | .item rest =>
          let (key, rest) ← readText rest
          let (_, rest) ← readColon rest
          let (value, rest) ← readValue fuel depth rest
          readEntries fuel depth false (Entries.insert key value taken) rest

end

/-- Enough steps for any value in a text: each step but the last of a list or record takes a
character. -/
def stepBound (text : List Char) : Nat :=
  2 * text.length + 2

/-- After a whole document only blanks may follow. -/
def finish {α : Type} (reading : Reading α) : Except Fault α := do
  let (value, rest) ← (reading : Except Fault (α × List Char))
  match skipBlanks rest with
  | [] => return value
  | rest => .error (.next .trailingCharacters rest)

/-- The document that a JSON text denotes. -/
def read (text : String) : Except Fault Document :=
  finish (readValue (stepBound text.toList) depthLimit text.toList)

end MappedCoverage.Json
