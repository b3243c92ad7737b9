import DirectoryAccess.Text.Hexadecimal
import DirectoryAccess.Text.PrintTable
/-!
# Quoted texts

The form of a text in descriptions meant for developers: between double quotes, with a backslash before quotes and
backslashes, short escapes for the usual controls, and the code point in hexadecimal for every other character that
does not print or has no shape of its own.
-/
namespace DirectoryAccess.Text

def quoteChar (c : Char) : List Char :=
  if c = '"' then ['\\', '"']
  else if c = '\\' then ['\\', '\\']
  else if c = '\n' then ['\\', 'n']
  else if c = '\r' then ['\\', 'r']
  else if c = '\t' then ['\\', 't']
  else if c.toNat = 0 then ['\\', '0']
  else if joining.has c || unprintable.has c then ['\\', 'u', '\x7b'] ++ hexDigits c.toNat ++ ['\x7d']
  else [c]

def quoteChars (cs : List Char) : List Char := '"' :: (cs.flatMap quoteChar ++ ['"'])

def quoted (s : String) : String := String.ofList (quoteChars s.toList)

end DirectoryAccess.Text
