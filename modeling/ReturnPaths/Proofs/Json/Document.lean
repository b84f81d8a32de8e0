import ReturnPaths.Json.Token
import Mathlib.Data.Nat.Notation

/-!
# JSON documents

What a JSON text is, said without a reader.  A document is a tree whose leaves keep how they are
written: numbers as numerals and strings as pieces.  Its text is made of tokens with any blanks in
front of, between and after them.

* `Piece` : a character or an escape of a string, and `Piece.content?` the string that pieces stand
  for; half of a surrogate pair without the other stands for nothing.
* `Numeral` : a number as it is written, and `Numeral.natural?` its value, if it is written in plain
  decimal.
* `Tree` : a document, and `Tree.tokens` its tokens.
* `Writes` : a text writes a document.
-/

namespace ReturnPaths.Json

/-! ### Strings -/

/-- The escapes of one letter, and the characters they stand for. -/
def shortEscapes : List (Char × Char) :=
  [('"', '"'), ('\\', '\\'), ('/', '/'), ('b', '\x08'), ('f', '\x0c'), ('n', '\n'), ('r', '\r'),
   ('t', '\t')]

/-- A hexadecimal digit. -/
structure HexDigit where
  /-- The digit as it is written. -/
  char : Char
  /-- Its value. -/
  value : ℕ
  /-- The digit has this value. -/
  value_eq : Text.hexValue? char = some value

/-- A part of a string between its quotes. -/
inductive Piece where
  /-- A character that stands for itself. -/
  | plain (c : Char) (printable : 0x20 ≤ c.toNat) (ne_quote : c ≠ '"') (ne_backslash : c ≠ '\\')
  /-- A backslash and a letter. -/
  | short (letter c : Char) (known : (letter, c) ∈ shortEscapes)
  /-- A backslash, a `u` and the four digits of a unit of UTF-16. -/
  | unit (a b c d : HexDigit)

namespace Piece

/-- A part of a string as it is written. -/
def chars : Piece → List Char
  | plain c .. => [c]
  | short letter .. => ['\\', letter]
  | unit a b c d => ['\\', 'u', a.char, b.char, c.char, d.char]

/-- The number that four digits write. -/
def unitValue (a b c d : HexDigit) : ℕ :=
  0x1000 * a.value + 0x100 * b.value + 0x10 * c.value + d.value

/-- The characters that parts of a string stand for.  A unit below or above the surrogates is a
character; a first surrogate needs a second one right after it. -/
def contentChars? : List Piece → Option (List Char)
  | [] => some []
  | plain c .. :: pieces => (contentChars? pieces).map (c :: ·)
  | short _ c _ :: pieces => (contentChars? pieces).map (c :: ·)
  | unit a b c d :: pieces =>
    if unitValue a b c d < 0xd800 ∨ 0xdfff < unitValue a b c d then
      (contentChars? pieces).map (Char.ofNat (unitValue a b c d) :: ·)
    else match pieces with
      | unit a' b' c' d' :: pieces =>
        if unitValue a b c d < 0xdc00 ∧ 0xdc00 ≤ unitValue a' b' c' d' ∧
            unitValue a' b' c' d' ≤ 0xdfff then
          (contentChars? pieces).map (Char.ofNat ((unitValue a b c d - 0xd800) * 0x400 +
            (unitValue a' b' c' d' - 0xdc00) + 0x10000) :: ·)
        else none
      | _ => none

/-- The string that parts of it stand for. -/
def content? (pieces : List Piece) : Option String :=
  (contentChars? pieces).map String.ofList

/-- A string as it is written, with its quotes. -/
def quoted (pieces : List Piece) : List Char :=
  '"' :: (pieces.flatMap chars ++ ['"'])

end Piece

/-! ### Numbers -/

/-- One or more digits. -/
structure IsDigits (chars : List Char) : Prop where
  /-- There is a digit. -/
  ne_nil : chars ≠ []
  /-- There are only digits. -/
  digits : ∀ c ∈ chars, c.isDigit = true

/-- The exponent of a number. -/
structure Exponent where
  /-- The letter in front of it. -/
  mark : Char
  /-- Its sign, if it has one. -/
  sign : List Char
  /-- Its digits. -/
  digits : List Char
  /-- The letter is an `e`, small or capital. -/
  mark_eq : mark = 'e' ∨ mark = 'E'
  /-- The sign is a plus or a minus. -/
  sign_eq : sign = [] ∨ sign = ['+'] ∨ sign = ['-']
  /-- The digits are digits. -/
  isDigits : IsDigits digits

/-- An exponent as it is written. -/
def Exponent.chars (exponent : Exponent) : List Char :=
  exponent.mark :: (exponent.sign ++ exponent.digits)

/-- A number as it is written. -/
structure Numeral where
  /-- It starts with a minus. -/
  negative : Bool
  /-- The digits before the point. -/
  whole : List Char
  /-- The digits after the point. -/
  fraction : Option (List Char)
  /-- The exponent. -/
  exponent : Option Exponent
  /-- The digits before the point are digits. -/
  whole_isDigits : IsDigits whole
  /-- A zero is the only digit before the point, if it is the first. -/
  no_leading_zero : ∀ rest, whole = '0' :: rest → rest = []
  /-- The digits after the point are digits. -/
  fraction_isDigits : ∀ digits, fraction = some digits → IsDigits digits

namespace Numeral

/-- What follows the digits before the point. -/
def tail (numeral : Numeral) : List Char :=
  numeral.fraction.elim [] ('.' :: ·) ++ numeral.exponent.elim [] Exponent.chars

/-- A number as it is written. -/
def chars (numeral : Numeral) : List Char :=
  (if numeral.negative then ['-'] else []) ++ numeral.whole ++ numeral.tail

/-- The value of a number in plain decimal, without sign, fraction and exponent. -/
def natural? (numeral : Numeral) : Option ℕ :=
  if numeral.negative ∨ numeral.fraction.isSome ∨ numeral.exponent.isSome then none
  else some (Nat.ofDigitChars 10 numeral.whole 0)

end Numeral

/-! ### Values -/

/-- A JSON document. -/
inductive Tree where
  /-- The null value. -/
  | null
  /-- A truth value. -/
  | flag (value : Bool)
  /-- A number. -/
  | number (numeral : Numeral)
  /-- A string. -/
  | text (pieces : List Piece)
  /-- A list. -/
  | list (elements : List Tree)
  /-- An object; keys may be repeated. -/
  | object (members : List (List Piece × Tree))

/-- The values of the members with some key in an object. -/
def valuesOf (name : String) (members : List (List Piece × Tree)) : List Tree :=
  (members.filter fun member => Piece.content? member.1 = some name).map Prod.snd

/-- The characters of a word, a number, a string or a mark. -/
abbrev Token := List Char

namespace Tree

/-- Tokens with a comma in front of them, unless they come first. -/
def separated (first : Bool) (tokens : List Token) : List Token :=
  if first then tokens else [','] :: tokens

mutual

/-- The tokens of a document, in front of more tokens. -/
def tokens (more : List Token) : Tree → List Token
  | null => "null".toList :: more
  | flag true => "true".toList :: more
  | flag false => "false".toList :: more
  | number numeral => numeral.chars :: more
  | text pieces => Piece.quoted pieces :: more
  | list elements => ['['] :: elementTokens true more elements
  | object members => ['\x7b'] :: memberTokens true more members

/-- The tokens of elements and of the end of their list. -/
def elementTokens (first : Bool) (more : List Token) : List Tree → List Token
  | [] => [']'] :: more
  | element :: elements =>
    separated first (element.tokens (elementTokens false more elements))

/-- The tokens of members and of the end of their object. -/
def memberTokens (first : Bool) (more : List Token) : List (List Piece × Tree) → List Token
  | [] => ['\x7d'] :: more
  | (key, value) :: members =>
    separated first (Piece.quoted key :: [':'] :: value.tokens (memberTokens false more members))

end

end Tree

/-- A text is made of tokens, with any blanks in front of, between and after them. -/
inductive Spaced : List Token → List Char → Prop
  /-- Blanks alone. -/
  | nil {blanks : List Char} (hblanks : ∀ c ∈ blanks, isBlank c = true) : Spaced [] blanks
  /-- Blanks and a token in front of a text. -/
  | cons {token : Token} {tokens : List Token} {blanks text : List Char}
      (hblanks : ∀ c ∈ blanks, isBlank c = true) (htext : Spaced tokens text) :
      Spaced (token :: tokens) (blanks ++ (token ++ text))

/-- A text writes a document. -/
def Writes (text : String) (tree : Tree) : Prop := Spaced (tree.tokens []) text.toList

end ReturnPaths.Json
