import StorageController.Text.Hex
import StorageController.Text.Unicode.Printable

namespace StorageController.Text

def singleQuote : Char := '\x27'

def quotedChar (quote c : Char) : List Char :=
  if c = quote ∨ c = '\\' then ['\\', c]
  else if c = '\n' then ['\\', 'n']
  else if c = '\r' then ['\\', 'r']
  else if c = '\t' then ['\\', 't']
  else if isPrintable c then [c]
  else if c.toNat < 0x100 then '\\' :: 'x' :: hex 2 c.toNat
  else if c.toNat < 0x10000 then '\\' :: 'u' :: hex 4 c.toNat
  else '\\' :: 'U' :: hex 8 c.toNat

/-- The quote that a text is put between: double only if it has single quotes and no double ones. -/
def quoteFor (s : List Char) : Char :=
  if s.contains singleQuote && !s.contains '"' then '"' else singleQuote

def quoted (s : String) : List Char :=
  let quote := quoteFor s.toList
  quote :: s.toList.flatMap (quotedChar quote) ++ [quote]

end StorageController.Text
