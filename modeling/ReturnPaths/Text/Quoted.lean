import ReturnPaths.Text.Classes

/-!
# Quoted text in messages

`quoted` shows a text between double quotes so that every character of it can be seen: quotes,
backslashes and the usual controls are escaped with a backslash, and any other character that
cannot be shown, or that would merge with the character before it, is given by its code point.
-/

namespace ReturnPaths.Text

/-- The code point of a character as an escape, in hexadecimal without leading zeros. -/
def codePointEscape (c : Char) : List Char :=
  "\\u\x7b".toList ++ Nat.toDigits 16 c.toNat ++ ['\x7d']

/-- A character as it is shown between quotes. -/
def quotedChar (c : Char) : List Char :=
  match c with
  | '\x00' => ['\\', '0']
  | '\t' => ['\\', 't']
  | '\r' => ['\\', 'r']
  | '\n' => ['\\', 'n']
  | '\\' => ['\\', '\\']
  | '"' => ['\\', '"']
  | c => if isExtending c || isUnprintable c then codePointEscape c else [c]

/-- A text as it is shown in messages. -/
def quoted (text : String) : String :=
  String.ofList ('"' :: text.toList.flatMap quotedChar ++ ['"'])

end ReturnPaths.Text
