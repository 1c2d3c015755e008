import SqlChain.Text.Hex
import SqlChain.Text.Invisible

/-!
# Quoted texts

A text between double quotes for a reader of messages: the quote, the
backslash and the common controls have short escapes, and whatever else has
nothing to show is written as its code point in braces. A single quote stands
as it is.
-/

namespace SqlChain.Text

/-- One character of a quoted text. -/
def quotedChar (c : Char) : List Char :=
  if c = '"' then ['\\', '"']
  else if c = '\\' then ['\\', '\\']
  else if c = '\n' then ['\\', 'n']
  else if c = '\r' then ['\\', 'r']
  else if c = '\t' then ['\\', 't']
  else if c = '\x00' then ['\\', '0']
  else if isInvisible c then ['\\', 'u', '\x7b'] ++ hexDigits c.toNat ++ ['\x7d']
  else [c]

/-- The text between double quotes, escaped. -/
def quoted (s : String) : String :=
  String.ofList ('"' :: s.toList.flatMap quotedChar ++ ['"'])

end SqlChain.Text
