import FeedOperator.Text.Numeral
import FeedOperator.Text.Quoted.Hidden

/-!
# Quoted text

A text between double quotes on one line. Quotes, backslashes and line ends are written with a
backslash, and a character that would not show is written by its number, as in `\u{200b}`.
-/

namespace FeedOperator.Text.Quoted

/-- One character inside the quotes. -/
def encodeChar (c : Char) : List Char :=
  if c = '\x00' then ['\\', '0']
  else if c = '\t' then ['\\', 't']
  else if c = '\r' then ['\\', 'r']
  else if c = '\n' then ['\\', 'n']
  else if c = '\\' then ['\\', '\\']
  else if c = '\"' then ['\\', '\"']
  else if isHidden c then ['\\', 'u', '{'] ++ hexLower c.toNat ++ ['}']
  else [c]

/-- A text between double quotes. -/
def encode (s : String) : String :=
  String.ofList ('\"' :: s.toList.flatMap encodeChar ++ ['\"'])

end FeedOperator.Text.Quoted
