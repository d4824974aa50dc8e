import TemplateLint.Number.Decimal

/-! Texts, blanks and comments of a configuration file. -/

namespace TemplateLint.Toml

def isSpace (c : Char) : Bool := c = ' ' || c = '\t'

def isSpaceOrNewline (c : Char) : Bool := isSpace c || c = '\n'

/-- Control characters, which texts and comments do not hold; the tab is none of them. -/
def isControl (c : Char) : Bool := (c < ' ' && c ≠ '\t') || c = '\x7f'

def quotes : List Char := ['\x22', '\x22', '\x22']

def apostrophes : List Char := ['\x27', '\x27', '\x27']

/-- Skips blanks, newlines and comments. -/
def skipFiller (inComment : Bool) : List Char → Option (List Char)
  | [] => some []
  | c :: rest =>
    if c = '\n' then skipFiller false rest
    else if inComment then if isControl c then none else skipFiller true rest
    else if isSpace c then skipFiller false rest
    else if c = '#' then skipFiller true rest
    else some (c :: rest)

/-- The character with the code that the hexadecimal digits write. -/
def scalar? (digits : List Char) : Option Char := do
  let values ← digits.mapM (Number.digitOf? 16)
  let code := TemplateLint.Text.ofDigits 16 values
  if code < 0xd800 ∨ (0xdfff < code ∧ code < 0x110000) then some (Char.ofNat code) else none

def shortEscape? : Char → Option Char
  | 'b' => some '\x08'
  | 't' => some '\t'
  | 'n' => some '\n'
  | 'f' => some '\x0c'
  | 'r' => some '\r'
  | '\x22' => some '\x22'
  | '\\' => some '\\'
  | _ => none

/-- The character of an escape after its backslash, and what follows it. -/
def escaped? : List Char → Option (Char × List Char)
  | 'u' :: rest =>
    if rest.length < 4 then none else (scalar? (rest.take 4)).map (·, rest.drop 4)
  | 'U' :: rest =>
    if rest.length < 8 then none else (scalar? (rest.take 8)).map (·, rest.drop 8)
  | c :: rest => (shortEscape? c).map (·, rest)
  | [] => none

theorem length_escaped?_lt {s rest : List Char} {c : Char} (h : escaped? s = some (c, rest)) :
    rest.length < s.length := by
  unfold escaped? at h
  split at h
  · split at h
    · cases h
    · obtain ⟨_, _, h⟩ := Option.map_eq_some_iff.1 h
      cases h; simp only [List.length_drop, List.length_cons]; omega
  · split at h
    · cases h
    · obtain ⟨_, _, h⟩ := Option.map_eq_some_iff.1 h
      cases h; simp only [List.length_drop, List.length_cons]; omega
  · obtain ⟨_, _, h⟩ := Option.map_eq_some_iff.1 h
    cases h; simp only [List.length_cons]; omega
  · cases h

/-- A text on one line up to its closing quote, and what follows it. -/
def quotedText (s : List Char) : Option (List Char × List Char) :=
  match s with
  | [] => none
  | c :: rest =>
    if c = '\x22' then some ([], rest)
    else if c = '\\' then
      match _h : escaped? rest with
      | none => none
      | some (d, after) => (quotedText after).map fun (t, after) => (d :: t, after)
    else if isControl c then none
    else (quotedText rest).map fun (t, after) => (c :: t, after)
termination_by s.length
decreasing_by
  · have := length_escaped?_lt _h
    simp only [List.length_cons]; omega
  · simp

/-- What follows a backslash at the end of a line, without the blanks and newlines at its front.
Nothing but blanks may stand between the backslash and the end of the line. -/
def joinedLine? (s : List Char) : Option (List Char) :=
  match s.dropWhile isSpace with
  | '\n' :: rest => some (rest.dropWhile isSpaceOrNewline)
  | _ => none

theorem length_dropWhile_le (p : Char → Bool) (s : List Char) :
    (s.dropWhile p).length ≤ s.length :=
  (List.dropWhile_suffix p).length_le

theorem length_joinedLine?_lt {s rest : List Char} (h : joinedLine? s = some rest) :
    rest.length < s.length := by
  unfold joinedLine? at h
  have hs := length_dropWhile_le isSpace s
  split at h
  · next tail he =>
    have ht := length_dropWhile_le isSpaceOrNewline tail
    rw [he] at hs
    cases h
    simp at hs
    omega
  · cases h

/-- A text over several lines up to its closing quotes, and what follows them. -/
def longText (s : List Char) : Option (List Char × List Char) :=
  match s with
  | [] => none
  | c :: rest =>
    if quotes.isPrefixOf s then some ([], s.drop 3)
    else if c = '\\' then
      match _h : joinedLine? rest with
      | some after => longText after
      | none =>
        match _h : escaped? rest with
        | none => none
        | some (d, after) => (longText after).map fun (t, after) => (d :: t, after)
    else if isControl c && c ≠ '\n' then none
    else (longText rest).map fun (t, after) => (c :: t, after)
termination_by s.length
decreasing_by
  · have := length_joinedLine?_lt _h
    simp only [List.length_cons]; omega
  · have := length_escaped?_lt _h
    simp only [List.length_cons]; omega
  · simp

/-- The characters before a delimiter, and what follows it. -/
def upTo (delimiter : List Char) : List Char → Option (List Char × List Char)
  | [] => none
  | c :: rest =>
    if delimiter.isPrefixOf (c :: rest) then some ([], (c :: rest).drop delimiter.length)
    else (upTo delimiter rest).map fun (t, after) => (c :: t, after)

/-- A text without escapes on one line. -/
def plainText (s : List Char) : Option (List Char × List Char) :=
  (upTo ['\x27'] s).filter fun (t, _) => !t.any isControl

/-- A text without escapes over several lines. -/
def longPlainText (s : List Char) : Option (List Char × List Char) :=
  (upTo apostrophes s).filter fun (t, _) => !t.any fun c => isControl c && c ≠ '\n'

/-- A newline right after the opening quotes is left out. -/
def afterOpening : List Char → List Char
  | '\n' :: rest => rest
  | s => s

/-- Up to two more quotes after the closing ones belong to the text. -/
def withExtra (quote : Char) : List Char × List Char → List Char × List Char
  | (t, a :: b :: rest) =>
    if a = quote then
      if b = quote then (t ++ [a, b], rest) else (t ++ [a], b :: rest)
    else (t, a :: b :: rest)
  | (t, [a]) => if a = quote then (t ++ [a], []) else (t, [a])
  | (t, []) => (t, [])

/-- The text of a value: on one line or over several, with escapes or without. -/
def text? (s : List Char) : Option (List Char × List Char) :=
  if quotes.isPrefixOf s then (longText (afterOpening (s.drop 3))).map (withExtra '\x22')
  else if apostrophes.isPrefixOf s then
    (longPlainText (afterOpening (s.drop 3))).map (withExtra '\x27')
  else
    match s with
    | '\x22' :: rest => quotedText rest
    | '\x27' :: rest => plainText rest
    | _ => none

end TemplateLint.Toml
