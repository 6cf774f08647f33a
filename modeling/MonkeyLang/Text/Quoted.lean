import MonkeyLang.Text.GraphemeExtend
import MonkeyLang.Text.Printable

/-!
# Quoted text

Text is shown between quotes on one line.  A quote and a backslash get a
backslash; NUL, tab, line feed and carriage return have letters of their own;
any other character that is not printable, or that extends the one before it,
is written by its code point in hexadecimal.
-/

set_option autoImplicit false

namespace MonkeyLang.Text

/-- The character of a hexadecimal digit. -/
def hexDigit (value : Nat) : Char :=
  if value < 10 then Char.ofNat (48 + value) else Char.ofNat (87 + value)

/-- The hexadecimal digits of a number, the most significant first. -/
def hexDigits (value : Nat) : List Char :=
  if value < 16 then [hexDigit value] else hexDigits (value / 16) ++ [hexDigit (value % 16)]
termination_by value

/-- A character written by its code point. -/
def escapeByCode (c : Char) : List Char :=
  ['\\', 'u', '{'] ++ hexDigits c.toNat ++ ['}']

/-- A character as it stands between quotes. -/
def escapeChar (c : Char) : List Char :=
  if c = '"' then ['\\', '"']
  else if c = '\\' then ['\\', '\\']
  else if c = '\x00' then ['\\', '0']
  else if c = '\t' then ['\\', 't']
  else if c = '\n' then ['\\', 'n']
  else if c = '\r' then ['\\', 'r']
  else if extendsGrapheme c || !isPrintable c then escapeByCode c
  else [c]

/-- A text between quotes. -/
def quoted (text : String) : String :=
  String.ofList (['"'] ++ text.toList.flatMap escapeChar ++ ['"'])

end MonkeyLang.Text
