import HubDispatch.Text.CharacterClass
import HubDispatch.Decimal.Text

/-!
# Quoted text

A text in double quotes, with a backslash before a quote or a backslash, short escapes for tab, line
feed, carriage return and the null character, and the code point in hexadecimal for every other
character that is not shown as itself. Lists of such texts, and of numbers, stand in square
brackets.
-/

namespace HubDispatch
namespace Text

/-- A character inside double quotes. -/
def escape (c : Char) : List Char :=
  if c = '"' then ['\\', '"']
  else if c = '\\' then ['\\', '\\']
  else if c = '\n' then ['\\', 'n']
  else if c = '\r' then ['\\', 'r']
  else if c = '\t' then ['\\', 't']
  else if c.toNat = 0 then ['\\', '0']
  else if isShown c then [c]
  else ['\\', 'u', '\x7b'] ++ Nat.toDigits 16 c.toNat ++ ['\x7d']

/-- A text in double quotes. -/
def quoted (s : String) : String := String.ofList ('"' :: s.toList.flatMap escape ++ ['"'])

/-- Items between square brackets. -/
def bracketed (items : List String) : String := "[" ++ String.intercalate ", " items ++ "]"

/-- A list of quoted texts. -/
def quotedList (items : List String) : String := bracketed (items.map quoted)

/-- A list of whole numbers. -/
def wholeList (items : List Nat) : String := bracketed (items.map Decimal.wholeText)

end Text
end HubDispatch
