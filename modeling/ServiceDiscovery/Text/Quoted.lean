import ServiceDiscovery.Text.Hidden
import ServiceDiscovery.Net.AddressText

/-!
# Quoted text

Text from outside is shown between double quotes, with every character in it visible: the quote
and the backslash behind a backslash, line ends, the tab and the null character by a letter, and
any other character that does not show by its code point in hexadecimal, as in `\u{200b}`.
-/

namespace ServiceDiscovery.Text

/-- How a character is shown inside quotes. -/
def shown (c : Char) : List Char :=
  if c = '"' then ['\\', '"']
  else if c = '\\' then ['\\', '\\']
  else if c = '\n' then ['\\', 'n']
  else if c = '\r' then ['\\', 'r']
  else if c = '\t' then ['\\', 't']
  else if c.toNat = 0 then ['\\', '0']
  else if c.toNat < 127 ∧ 32 ≤ c.toNat then [c]
  else if isHidden c then ['\\', 'u', '\x7b'] ++ hexDigits c.toNat ++ ['\x7d']
  else [c]

/-- The text between quotes. -/
def quoted (text : String) : String :=
  String.ofList ('"' :: text.toList.flatMap shown ++ ['"'])

end ServiceDiscovery.Text
