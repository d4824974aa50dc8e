import TemplateLint.Syntax.Location
import TemplateLint.Text.Lines
import TemplateLint.Text.Slice

/-! The source text that a location spans. -/

namespace TemplateLint

/-- The spanned parts of the lines. A span that starts outside the lines, or ends on a line before
its start, has none; lines past the end are left out. -/
def Location.spanned (loc : Location) (lines : List (List Char)) : List (List Char) :=
  let first := loc.start.line - 1
  let last := loc.stop.line - 1
  if first < 0 ∨ last < first then []
  else
    match lines.drop first.toNat with
    | [] => []
    | line :: after =>
      if first = last then [Text.slice loc.start.column loc.stop.column line]
      else
        let between := (last - first - 1).toNat
        Text.sliceFrom loc.start.column line :: after.take between
          ++ (after.drop between).head?.toList.map (Text.sliceTo loc.stop.column)

/-- The text that a location spans, with its lines joined by line feeds. -/
def Location.snippet (loc : Option Location) (source : String) : String :=
  match loc with
  | none => ""
  | some loc => "\n".intercalate ((loc.spanned (Text.splitLines source.toList)).map String.ofList)

end TemplateLint
