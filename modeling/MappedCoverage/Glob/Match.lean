import MappedCoverage.Glob.Pattern

/-!
# Matching of glob patterns

Tokens are matched from left to right, and a run tries the shortest text first. A text that ends
while a token still needs a character ends the search at once: no longer run could leave more
characters to that token.
-/

namespace MappedCoverage.Glob

/-- How matching some tokens against a text ends. -/
inductive Verdict where
  | matched
  | missed
  /-- The text ended too early, whatever an earlier run takes. -/
  | exhausted
deriving DecidableEq

/-- Whether a token for one character admits a character; only a plain character can be a
separator. -/
def Token.admits (c : Char) : Token → Bool
  | .char d => c = d
  | .anyChar => c ≠ '/'
  | .anyOf members => c ≠ '/' && members.any (Member.admits c)
  | .noneOf members => c ≠ '/' && !members.any (Member.admits c)
  | .anyRun => false
  | .anyPieces => false

/-- Goes on after each prefix of the text that stays within a piece, shortest first. -/
def afterRun (next : List Char → Verdict) : List Char → Verdict
  | [] => next []
  | c :: rest =>
      match next (c :: rest) with
      | .missed => if c = '/' then .missed else afterRun next rest
      | verdict => verdict

/-- Goes on after each later separator, nearest first, and at last at the end of the text. -/
def afterSeparator (next : List Char → Verdict) : List Char → Verdict
  | [] => next []
  | c :: rest =>
      if c = '/' then
        match next rest with
        | .missed => afterSeparator next rest
        | verdict => verdict
      else afterSeparator next rest

/-- Goes on here or after each later separator. -/
def afterPieces (next : List Char → Verdict) (text : List Char) : Verdict :=
  match next text with
  | .missed => afterSeparator next text
  | verdict => verdict

/-- Matches tokens against a whole text. -/
def run : List Token → List Char → Verdict
  | [], [] => .matched
  | [], _ :: _ => .missed
  | .anyRun :: tokens, text => afterRun (run tokens) text
  | .anyPieces :: tokens, text => afterPieces (run tokens) text
  | _ :: _, [] => .exhausted
  | token :: tokens, c :: rest => if token.admits c then run tokens rest else .missed

/-- Whether a pattern matches a path. -/
def Pattern.matches (pattern : Pattern) (path : String) : Bool :=
  run pattern.tokens path.toList = .matched

end MappedCoverage.Glob
