/-! Reading text from the front. -/

namespace TemplateLint.Text

/-- A reader of a text: it takes characters from the front, or fails. -/
abbrev Scanner (ε : Type) := StateT (List Char) (Except ε)

namespace Scanner

variable {ε : Type}

/-- Takes characters while they satisfy a test. -/
def takeWhile (p : Char → Bool) : Scanner ε (List Char) := do
  let s ← get
  set (s.dropWhile p)
  return s.takeWhile p

def skipWhile (p : Char → Bool) : Scanner ε Unit :=
  modify (List.dropWhile p)

/-- Takes a literal when the text starts with it, and says whether it did. -/
def accept (literal : List Char) : Scanner ε Bool := do
  let s ← get
  if literal.isPrefixOf s then
    set (s.drop literal.length)
    return true
  else return false

def expect (fault : ε) (literal : List Char) : Scanner ε Unit := do
  unless ← accept literal do throw fault

end Scanner

end TemplateLint.Text
