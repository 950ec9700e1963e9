import QueryBuilder.Text.Printable

/-!
# Quoted text for messages

A text in double quotes with what cannot be shown escaped: quotes, backslashes, line ends,
tabs, the null character, and by its code point every other character that is not printable.
-/

namespace QueryBuilder.Text
set_option autoImplicit false

/-- A character as it stands between quotes. -/
def quotedChar (c : Char) : List Char :=
  if c == '"' || c == '\\' then ['\\', c]
  else if c == '\n' then ['\\', 'n']
  else if c == '\r' then ['\\', 'r']
  else if c == '\t' then ['\\', 't']
  else if c == '\x00' then ['\\', '0']
  else if isPrintable c then [c]
  else '\\' :: 'u' :: '\x7b' :: Nat.toDigits 16 c.toNat ++ ['\x7d']

/-- A text in double quotes. -/
def quoted (s : String) : String :=
  String.ofList ('"' :: s.toList.flatMap quotedChar ++ ['"'])

end QueryBuilder.Text
