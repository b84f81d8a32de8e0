import ReturnPaths.Json.Fault
import ReturnPaths.Text.Digits

/-!
# Reading JSON strings

Both readers start after the opening quote and stop after the closing one.

* `readText` gives the characters of the string.  Escaped surrogates have to come in pairs.
* `skipText` passes over a string that is not looked at; its escapes only have to be well formed.

Each is a walk over the characters in a small state: outside an escape, after a backslash, or
within the four digits of a `\u` escape.  An escape whose digits are wrong is noticed after four
bytes, and one that has fewer than four bytes after it at the end of the text.
-/

namespace ReturnPaths.Json

open Text (hexValue?)

/-- The character a one-letter escape stands for. -/
def shortEscape? : Char → Option Char
  | '"' => some '"'
  | '\\' => some '\\'
  | '/' => some '/'
  | 'b' => some '\x08'
  | 'f' => some '\x0c'
  | 'n' => some '\n'
  | 'r' => some '\r'
  | 't' => some '\t'
  | _ => none

/-- The fault of a `\u` escape that is followed by this text instead of four digits. -/
def badDigits (digits : List Char) : Fault :=
  if byteCount (digits.take 4) < 4 then .before [] .endInString
  else ⟨.invalidEscape, digits, 4⟩

/-- A UTF-16 unit that starts a surrogate pair. -/
def isHighSurrogate (unit : Nat) : Bool :=
  0xd800 ≤ unit && unit ≤ 0xdbff

/-- A UTF-16 unit that ends a surrogate pair. -/
def isLowSurrogate (unit : Nat) : Bool :=
  0xdc00 ≤ unit && unit ≤ 0xdfff

/-- The character of a surrogate pair. -/
def pairChar (high low : Nat) : Char :=
  Char.ofNat ((high - 0xd800) * 0x400 + (low - 0xdc00) + 0x10000)

/-- Where a reader of strings stands. -/
inductive TextState where
  /-- Outside an escape. -/
  | plain
  /-- After a backslash. -/
  | escape
  /-- Within a `\u` escape: what followed the `u`, the digits still to come, the value of those
  read, and the first half of a pair, if this is to be the second one. -/
  | digits (start : List Char) (left value : Nat) (high : Option Nat)
  /-- After the first half of a pair. -/
  | pair (high : Nat)
  /-- After the first half of a pair and a backslash. -/
  | pairEscape (high : Nat)
  deriving DecidableEq, Repr

/-- The state after a complete `\u` escape, and the character it completes, if any. -/
def completeUnit (rest : List Char) (unit : Nat) :
    Option Nat → Except Fault (TextState × Option Char)
  | none =>
    if isLowSurrogate unit then .error (.before rest .loneSurrogate)
    else if isHighSurrogate unit then .ok (.pair unit, none)
    else .ok (.plain, some (Char.ofNat unit))
  | some high =>
    if isLowSurrogate unit then .ok (.plain, some (pairChar high unit))
    else .error (.before rest .loneSurrogate)

/-- Reads on from some state; `read` are the characters so far, the last one first. -/
def readTextFrom (read : List Char) :
    TextState → List Char → Except Fault (String × List Char)
  | .digits start _ _ _, [] => .error (badDigits start)
  | _, [] => .error (.before [] .endInString)
  | .plain, c :: rest =>
    if c = '"' then .ok (String.ofList read.reverse, rest)
    else if c = '\\' then readTextFrom read .escape rest
    else if c.toNat < 0x20 then .error (.here (c :: rest) .controlCharacter)
    else readTextFrom (c :: read) .plain rest
  | .escape, c :: rest =>
    if c = 'u' then readTextFrom read (.digits rest 4 0 none) rest
    else match shortEscape? c with
      | some escaped => readTextFrom (escaped :: read) .plain rest
      | none => .error (.here (c :: rest) .invalidEscape)
  | .digits start left value high, c :: rest =>
    match hexValue? c with
    | none => .error (badDigits start)
    | some digit =>
      if left ≤ 1 then
        match completeUnit rest (16 * value + digit) high with
        | .ok (state, none) => readTextFrom read state rest
        | .ok (state, some unit) => readTextFrom (unit :: read) state rest
        | .error fault => .error fault
      else readTextFrom read (.digits start (left - 1) (16 * value + digit) high) rest
  | .pair high, c :: rest =>
    if c = '\\' then readTextFrom read (.pairEscape high) rest
    else .error (.here (c :: rest) .openSurrogate)
  | .pairEscape high, c :: rest =>
    if c = 'u' then readTextFrom read (.digits rest 4 0 (some high)) rest
    else .error (.here (c :: rest) .openSurrogate)

/-- The string after an opening quote, and what follows its closing quote. -/
def readText (text : List Char) : Except Fault (String × List Char) :=
  readTextFrom [] .plain text

/-- Passes over a string from some state. -/
def skipTextFrom : TextState → List Char → Except Fault (List Char)
  | .digits start _ _ _, [] => .error (badDigits start)
  | _, [] => .error (.before [] .endInString)
  | .escape, c :: rest =>
    if c = 'u' then skipTextFrom (.digits rest 4 0 none) rest
    else if (shortEscape? c).isSome then skipTextFrom .plain rest
    else .error (.here (c :: rest) .invalidEscape)
  | .digits start left _ _, c :: rest =>
    if (hexValue? c).isNone then .error (badDigits start)
    else if left ≤ 1 then skipTextFrom .plain rest
    else skipTextFrom (.digits start (left - 1) 0 none) rest
  | _, c :: rest =>
    if c = '"' then .ok rest
    else if c = '\\' then skipTextFrom .escape rest
    else if c.toNat < 0x20 then .error (.before (c :: rest) .controlCharacter)
    else skipTextFrom .plain rest

/-- What follows the closing quote of a string. -/
def skipText (text : List Char) : Except Fault (List Char) :=
  skipTextFrom .plain text

end ReturnPaths.Json
