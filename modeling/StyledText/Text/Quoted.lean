import StyledText.Text.Visible

/-!
# Quoted text

The quoted form of a text stands between double quotes.  A double quote and a backslash inside are
written behind a backslash, NUL, tab, line feed and carriage return by their letters, and every
other hidden character by its number, `\u` and the hexadecimal digits in braces.  A single quote
stands for itself.
-/

namespace StyledText.Text

/-- The hexadecimal digits of a number, most significant first, lower case. -/
def hexDigits (n : Nat) : List Char := Nat.toDigits 16 n

/-- How one character is written between the quotes. -/
def quotedChar (c : Char) : List Char :=
  if c = '\x22' then ['\\', '\x22']
  else if c = '\\' then ['\\', '\\']
  else if c = '\x00' then ['\\', '0']
  else if c = '\t' then ['\\', 't']
  else if c = '\n' then ['\\', 'n']
  else if c = '\r' then ['\\', 'r']
  else if isVisible c then [c]
  else ['\\', 'u', '\x7b'] ++ hexDigits c.toNat ++ ['\x7d']

/-- The quoted form of a text. -/
def quoted (s : String) : String :=
  String.ofList ('\x22' :: s.toList.flatMap quotedChar ++ ['\x22'])

example : quoted "it's \x22a\tb\x22" = "\x22it's \\\x22a\\tb\\\x22\x22" := by decide +kernel

end StyledText.Text
