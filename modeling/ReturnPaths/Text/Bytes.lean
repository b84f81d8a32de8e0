/-!
# Texts and bytes

The bytes of a text are those of its UTF-8 encoding.  Not all bytes are bytes of a text, but all can
be shown as one: where no character is encoded, a replacement character stands for the bytes that
could have started one, as many as there are, or else for a single byte.

* `Text.bytes` : the bytes of a text.
* `Text.ofBytes` : the text that bytes are shown as.
-/

namespace ReturnPaths.Text

/-- The bytes of a text. -/
def bytes (text : String) : List UInt8 := text.toUTF8.data.toList

/-- The least and the greatest value of each byte that follows a first byte in the encoding of a
character. -/
def followers (first : UInt8) : List (UInt8 × UInt8) :=
  if 0xc2 ≤ first ∧ first ≤ 0xdf then [(0x80, 0xbf)]
  else if first = 0xe0 then [(0xa0, 0xbf), (0x80, 0xbf)]
  else if first = 0xed then [(0x80, 0x9f), (0x80, 0xbf)]
  else if 0xe1 ≤ first ∧ first ≤ 0xef then [(0x80, 0xbf), (0x80, 0xbf)]
  else if first = 0xf0 then [(0x90, 0xbf), (0x80, 0xbf), (0x80, 0xbf)]
  else if first = 0xf4 then [(0x80, 0x8f), (0x80, 0xbf), (0x80, 0xbf)]
  else if 0xf1 ≤ first ∧ first ≤ 0xf3 then [(0x80, 0xbf), (0x80, 0xbf), (0x80, 0xbf)]
  else []

/-- The number of bytes that lie in the ranges, up to the first one that does not. -/
def countWithin : List (UInt8 × UInt8) → List UInt8 → Nat
  | (least, greatest) :: ranges, byte :: bytes =>
    if least ≤ byte ∧ byte ≤ greatest then countWithin ranges bytes + 1 else 0
  | _, _ => 0

/-- The characters that bytes are shown as, when some of them are passed over. -/
def shown : Nat → List UInt8 → List Char
  | _, [] => []
  | passed + 1, _ :: bytes => shown passed bytes
  | 0, first :: bytes =>
    -- no character has more than four bytes
    match (first :: bytes.take 3).toByteArray.utf8DecodeChar? 0 with
    | some c => c :: shown (c.utf8Size - 1) bytes
    | none => '\uFFFD' :: shown (countWithin (followers first) bytes) bytes

/-- The text that bytes are shown as. -/
def ofBytes (bytes : List UInt8) : String := String.ofList (shown 0 bytes)

end ReturnPaths.Text
