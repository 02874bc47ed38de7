import ConnectionPool.Text.Hidden
import ConnectionPool.Text.Numeral

/-!
Contract: text between double quotes, as messages show it.

Owns: `quoted`, which escapes quotes, backslashes, the usual control characters and everything that would
not be visible.

Does not own: the strings of settings files; see `Toml.Quotation`.
-/

namespace ConnectionPool.Text

def quotedChar (char : Char) : List Char :=
  if char = '\x00' then ['\\', '0']
  else if char = '\t' then ['\\', 't']
  else if char = '\r' then ['\\', 'r']
  else if char = '\n' then ['\\', 'n']
  else if char = '"' then ['\\', '"']
  else if char = '\\' then ['\\', '\\']
  else if isHidden char then
    ['\\', 'u', '\x7b'] ++ Numeral.render 16 char.toNat ++ ['\x7d']
  else [char]

/-- Text between double quotes. -/
def quoted (text : String) : String :=
  String.ofList ('"' :: (text.toList.flatMap quotedChar ++ ['"']))

end ConnectionPool.Text
