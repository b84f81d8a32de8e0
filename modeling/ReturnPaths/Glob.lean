/-!
# Glob patterns

A pattern is read as a sequence of tokens, and matches a text if the whole text can be divided
among them.

* `?` takes any one character and `*` any number of them, slashes included.
* `**` is a whole component of the pattern and takes any number of whole components of the text,
  together with the slashes after them, or all that is left of the text.
* `[…]` takes one of the characters and ranges between the brackets, `[!…]` any other one.  The
  first character between the brackets never closes them.
* Any other character takes itself.

Reading fails (`Glob.parse?`) on three stars in a row, on two stars that are no whole component and
on a bracket that is not closed.

A text is matched by following all divisions at once: `Glob.step` takes the suffixes of the text
that may be left before a token, the longest first, to those that may be left after it.
-/

namespace ReturnPaths.Glob

/-- A part of a pattern. -/
inductive Token where
  /-- Any one character. -/
  | one
  /-- Any number of characters. -/
  | many
  /-- Any number of components, or the whole rest. -/
  | components
  /-- A character within one of the ranges. -/
  | within (ranges : List (Char × Char))
  /-- A character outside all of the ranges. -/
  | outside (ranges : List (Char × Char))
  /-- This character. -/
  | char (c : Char)
  deriving DecidableEq, Repr

/-- The ranges between two brackets; a single character is a range of its own. -/
def ranges : List Char → List (Char × Char)
  | low :: '-' :: high :: rest => (low, high) :: ranges rest
  | c :: rest => (c, c) :: ranges rest
  | [] => []

/-- Where the reader of a pattern stands. -/
inductive State where
  /-- Outside brackets; the flag tells whether a component starts here. -/
  | outer (start : Bool)
  /-- After an opening bracket. -/
  | opened
  /-- Between brackets, after the given characters, the last one first. -/
  | bracket (negated : Bool) (read : List Char)
  deriving DecidableEq, Repr

/-- Reads on from some state. -/
def parseFrom : State → List Char → Option (List Token)
  | .outer _, [] => some []
  | _, [] => none
  | .outer _, '*' :: '*' :: '*' :: _ => none
  | .outer start, ['*', '*'] => if start then some [.components] else none
  | .outer start, '*' :: '*' :: '/' :: rest =>
    if start then (parseFrom (.outer true) rest).map (.components :: ·) else none
  | .outer _, '*' :: '*' :: _ => none
  | .outer _, '*' :: rest => (parseFrom (.outer false) rest).map (.many :: ·)
  | .outer _, '?' :: rest => (parseFrom (.outer false) rest).map (.one :: ·)
  | .outer _, '[' :: rest => parseFrom .opened rest
  | .outer _, c :: rest => (parseFrom (.outer (c == '/')) rest).map (.char c :: ·)
  | .opened, '!' :: rest => parseFrom (.bracket true []) rest
  | .opened, c :: rest => parseFrom (.bracket false [c]) rest
  | .bracket negated [], c :: rest => parseFrom (.bracket negated [c]) rest
  | .bracket negated (r :: read), c :: rest =>
    if c = ']' then
      let ranges := ranges (r :: read).reverse
      (parseFrom (.outer false) rest).map
        ((if negated then .outside ranges else .within ranges) :: ·)
    else parseFrom (.bracket negated (c :: r :: read)) rest

/-- The tokens of a pattern, if it is well formed. -/
def parse? (pattern : String) : Option (List Token) :=
  parseFrom (.outer true) pattern.toList

/-- Whether a character lies in one of the ranges. -/
def inRanges (ranges : List (Char × Char)) (c : Char) : Bool :=
  ranges.any fun (low, high) => low ≤ c && c ≤ high

/-- Whether a token that takes one character takes this one. -/
def Token.takes : Token → Char → Bool
  | one, _ => true
  | within ranges, c => inRanges ranges c
  | outside ranges, c => !inRanges ranges c
  | char d, c => d == c
  | many, _ | components, _ => false

/-- All suffixes of a text, the longest first. -/
def suffixes : List Char → List (List Char)
  | [] => [[]]
  | c :: rest => (c :: rest) :: suffixes rest

/-- The suffixes of a text that follow one of its slashes, the longest first. -/
def afterSlashes : List Char → List (List Char)
  | [] => []
  | c :: rest => if c = '/' then rest :: afterSlashes rest else afterSlashes rest

/-- What may be left of a text after a token, given what may be left before it. -/
def step (left : List (List Char)) : Token → List (List Char)
  | .many =>
    match left with
    | [] => []
    | longest :: _ => suffixes longest
  | .components =>
    match left with
    | [] => []
    | longest :: _ => longest :: (afterSlashes longest ++ [[]])
  | token =>
    left.filterMap fun
      | c :: rest => if token.takes c then some rest else none
      | [] => none

/-- Whether tokens match a whole text. -/
def matchesTokens (tokens : List Token) (text : List Char) : Bool :=
  (tokens.foldl step [text]).contains []

/-- Whether a pattern is well formed and matches a whole text. -/
def matchesText (pattern text : String) : Bool :=
  match parse? pattern with
  | some tokens => matchesTokens tokens text.toList
  | none => false

end ReturnPaths.Glob
