import ConnectionConfig.Text.Unprintable

/-!
# Text in double quotes

A quoted text shows what a reader could mistake: quotes, backslashes, line ends and whatever has no
form of its own in print are written as escapes, so that the quoted text is one line.
-/

namespace ConnectionConfig.Text

/-- A character as it stands between double quotes. -/
def quoteChar (c : Char) : List Char :=
  if c = '\x00' then ['\\', '0']
  else if c = '\t' then ['\\', 't']
  else if c = '\r' then ['\\', 'r']
  else if c = '\n' then ['\\', 'n']
  else if c = '\\' || c = '"' then ['\\', c]
  else if isUnprintable c then "\\u\x7b".toList ++ Nat.toDigits 16 c.toNat ++ "\x7d".toList
  else [c]

/-- The text between double quotes. -/
def quote (cs : List Char) : String := String.ofList ('"' :: cs.flatMap quoteChar ++ ['"'])

end ConnectionConfig.Text
