import TemplateLint.Text.Printable

/-!
Quoted text. The quote is an apostrophe unless the text holds an apostrophe and no double quote.
-/

namespace TemplateLint.Text

def apostrophe : Char := '\x27'

def doubleQuote : Char := '\x22'

def quoteFor (s : List Char) : Char :=
  if s.contains apostrophe && !s.contains doubleQuote then doubleQuote else apostrophe

/-- The low `width` hexadecimal digits of a number, in lower case. -/
def hexDigits (width n : Nat) : List Char :=
  (List.range width).reverse.map fun i => Nat.digitChar (n / Nat.pow 16 i % 16)

/-- A character by its number. -/
def numbered (c : Char) : List Char :=
  if c.toNat < 0x100 then '\\' :: 'x' :: hexDigits 2 c.toNat
  else if c.toNat < 0x10000 then '\\' :: 'u' :: hexDigits 4 c.toNat
  else '\\' :: 'U' :: hexDigits 8 c.toNat

/-- The quote in use, the backslash and what is not printable are escaped. -/
def escape (quote c : Char) : List Char :=
  if c = quote || c = '\\' then ['\\', c]
  else if c = '\n' then ['\\', 'n']
  else if c = '\r' then ['\\', 'r']
  else if c = '\t' then ['\\', 't']
  else if isPrintable c then [c] else numbered c

def quoted (s : String) : String :=
  let quote := quoteFor s.toList
  String.ofList (quote :: s.toList.flatMap (escape quote) ++ [quote])

/-- A text in seven-bit characters: the others by their numbers. -/
def sevenBit (s : List Char) : List Char :=
  s.flatMap fun c => if c.toNat < 0x80 then [c] else numbered c

end TemplateLint.Text
