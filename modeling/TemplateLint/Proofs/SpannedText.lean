import Mathlib.Algebra.GroupWithZero.Nat
import TemplateLint.Lint.Snippet
import TemplateLint.Syntax.Node

/-!
The snippet of a location in a text whose lines end with line feeds. Main statement: it is the part
of the text between the offsets of the two positions.
-/

namespace TemplateLint

namespace Text

variable {cs line : List Char} {before after lines : List (List Char)} {n : Nat}

/-- No character of the text ends a line but the line feed. -/
def EndsByLineFeed (cs : List Char) : Prop :=
  ∀ c ∈ cs, c ∈ lineBoundaries → c = '\n'

/-- The lines one after the other, each with a line feed at its end. -/
def withLineFeeds (lines : List (List Char)) : List Char :=
  lines.flatMap (· ++ ['\n'])

@[simp] theorem withLineFeeds_nil : withLineFeeds [] = [] := rfl

@[simp] theorem withLineFeeds_cons (line : List Char) (lines : List (List Char)) :
    withLineFeeds (line :: lines) = line ++ '\n' :: withLineFeeds lines := by
  simp [withLineFeeds]

@[simp] theorem withLineFeeds_append (before after : List (List Char)) :
    withLineFeeds (before ++ after) = withLineFeeds before ++ withLineFeeds after :=
  List.flatMap_append

theorem length_withLineFeeds (lines : List (List Char)) :
    (withLineFeeds lines).length = (lines.map fun line => line.length + 1).sum := by
  simp [withLineFeeds, List.length_flatMap]

theorem EndsByLineFeed.tail {c : Char} (h : EndsByLineFeed (c :: cs)) : EndsByLineFeed cs :=
  fun d hd => h d (List.mem_cons_of_mem c hd)

theorem splitLines_lineFeed (rest : List Char) :
    splitLines ('\n' :: rest) = [] :: splitLines rest := by
  simp [splitLines, lineBoundaries]

theorem splitLines_cons {c : Char} (hc : c ∉ lineBoundaries) (rest : List Char) :
    splitLines (c :: rest) = match splitLines rest with
      | [] => [[c]]
      | line :: lines => (c :: line) :: lines := by
  have hr : c ≠ '\r' := by
    rintro rfl
    exact hc (by decide)
  cases hs : splitLines rest with
  | nil => simp [splitLines, hc, hr, hs]
  | cons line lines => simp [splitLines, hc, hr, hs]

/-- The lines of a text give the text again, with a line feed more when it does not end with one. -/
theorem withLineFeeds_splitLines (h : EndsByLineFeed cs) :
    ∃ added, withLineFeeds (splitLines cs) = cs ++ added ∧ added.length ≤ 1 := by
  induction cs with
  | nil => exact ⟨[], rfl, Nat.zero_le 1⟩
  | cons c rest ih =>
    obtain ⟨added, hrest, hlen⟩ := ih h.tail
    by_cases hc : c ∈ lineBoundaries
    · have hlf : c = '\n' := h c List.mem_cons_self hc
      subst hlf
      refine ⟨added, ?_, hlen⟩
      rw [splitLines_lineFeed, withLineFeeds_cons, hrest]
      rfl
    · rw [splitLines_cons hc]
      cases hsplit : splitLines rest with
      | nil =>
        rw [hsplit] at hrest
        obtain ⟨hnil, -⟩ := List.append_eq_nil_iff.mp hrest.symm
        exact ⟨['\n'], by rw [hnil]; rfl, Nat.le_refl 1⟩
      | cons line lines =>
        rw [hsplit, withLineFeeds_cons] at hrest
        refine ⟨added, ?_, hlen⟩
        rw [withLineFeeds_cons, List.cons_append, hrest]
        rfl

/-- Up to a column of a line stand the lines before it and a part of its own. -/
theorem take_withLineFeeds (hn : n ≤ line.length) :
    (withLineFeeds (before ++ line :: after)).take ((withLineFeeds before).length + n) =
      withLineFeeds before ++ line.take n := by
  rw [withLineFeeds_append, withLineFeeds_cons, List.take_length_add_append,
    List.take_append_of_le_length hn]

end Text

open Text

/-- The position is in one of the lines: at a character of it, or after its last one. -/
def Position.Within (p : Position) (lines : List (List Char)) : Prop :=
  ∃ before line after, lines = before ++ line :: after ∧ p.line = before.length + 1 ∧
    0 ≤ p.column ∧ p.column ≤ line.length

/-- How many characters of the text stand before a position, when one character ends each line. -/
def Position.offset (p : Position) (lines : List (List Char)) : Int :=
  (((lines.take (p.line - 1).toNat).map fun line => line.length + 1).sum : Nat) + p.column

/-- Both positions are in the lines, and the second one is not before the first. -/
structure Location.Within (loc : Location) (lines : List (List Char)) : Prop where
  start : loc.start.Within lines
  stop : loc.stop.Within lines
  ordered : loc.start.line < loc.stop.line ∨
    loc.start.line = loc.stop.line ∧ loc.start.column ≤ loc.stop.column

variable {cs line last : List Char} {before between after lines : List (List Char)}
  {p : Position} {loc : Location} {source : String}

theorem Position.offset_eq (hl : p.line = before.length + 1) :
    p.offset (before ++ line :: after) = (withLineFeeds before).length + p.column := by
  have hn : (p.line - 1).toNat = before.length := by omega
  rw [Position.offset, hn, List.take_left, length_withLineFeeds]

theorem place_of_column {column : Int} (h₀ : 0 ≤ column) (hc : column ≤ line.length) :
    place line.length column = column.toNat := by
  have hn : column = (column.toNat : Int) := by omega
  rw [hn, place_of_nat (by omega), Int.toNat_natCast]

/-- The offset of a position in the lines is one in the text, and before it stand the earlier lines
and a part of its own. -/
theorem Position.take_offset (h : EndsByLineFeed cs) (hs : splitLines cs = before ++ line :: after)
    (hl : p.line = before.length + 1) (h₀ : 0 ≤ p.column) (hc : p.column ≤ line.length) :
    place cs.length (p.offset (splitLines cs)) = (withLineFeeds before).length + p.column.toNat ∧
    cs.take ((withLineFeeds before).length + p.column.toNat) =
      withLineFeeds before ++ line.take p.column.toNat := by
  obtain ⟨added, hcs, hadded⟩ := withLineFeeds_splitLines h
  rw [hs] at hcs
  have hlen := congrArg List.length hcs
  simp only [withLineFeeds_append, withLineFeeds_cons, List.length_append, List.length_cons] at hlen
  have hn : (withLineFeeds before).length + p.column.toNat ≤ cs.length := by omega
  have ho : p.offset (splitLines cs) = ((withLineFeeds before).length + p.column.toNat : Nat) := by
    rw [hs, offset_eq hl]
    omega
  constructor
  · rw [ho, place_of_nat hn]
  · rw [← List.take_append_of_le_length hn, ← hcs]
    exact take_withLineFeeds (by omega)

namespace Location

/-- A location that ends in the line in which it starts. -/
theorem spanned_of_line (hs : loc.start.line = before.length + 1)
    (he : loc.stop.line = before.length + 1) :
    loc.spanned (before ++ line :: after) = [slice loc.start.column loc.stop.column line] := by
  have hfirst : loc.start.line - 1 = before.length := by omega
  have hlast : loc.stop.line - 1 = before.length := by omega
  simp [spanned, hfirst, hlast]

/-- A location that ends in a later line. -/
theorem spanned_of_lines (hs : loc.start.line = before.length + 1)
    (he : loc.stop.line = before.length + 1 + between.length + 1) :
    loc.spanned (before ++ line :: (between ++ last :: after)) =
      sliceFrom loc.start.column line :: between ++ [sliceTo loc.stop.column last] := by
  have hfirst : loc.start.line - 1 = before.length := by omega
  have hlast : loc.stop.line - 1 = before.length + 1 + between.length := by omega
  have hn : ((before.length : Int) + 1 + between.length - before.length - 1).toNat =
      between.length := by omega
  simp only [spanned, hfirst, hlast, hn]
  rw [if_neg (by omega), Int.toNat_natCast, List.drop_left]
  simp only
  rw [if_neg (by omega), List.take_left, List.drop_left]
  rfl

end Location

/-- Lines that are joined by line feeds: all but the last one have one at their end. -/
theorem intercalate_lineFeed (lines : List (List Char)) (last : List Char) :
    "\n".intercalate ((lines ++ [last]).map String.ofList) =
      String.ofList (withLineFeeds lines ++ last) := by
  have hid : String.toList ∘ String.ofList = id := funext fun _ => String.toList_ofList
  rw [← String.toList_inj, String.toList_intercalate, String.toList_ofList, List.map_map, hid,
    List.map_id]
  induction lines with
  | nil => simp
  | cons line rest ih =>
    have hne : rest ++ [last] ≠ [] := List.append_ne_nil_of_right_ne_nil _ (List.cons_ne_nil _ _)
    rw [List.cons_append, List.intercalate_cons_of_ne_nil hne, ih]
    simp

/-- Of two places in a list the later one stands behind the earlier one. -/
theorem exists_between {before' after' : List (List Char)}
    (h : before ++ line :: after = before' ++ last :: after')
    (hlt : before.length < before'.length) :
    ∃ between, before' = before ++ line :: between ∧ after = between ++ last :: after' := by
  rcases List.append_eq_append_iff.mp h with ⟨rest, hb, ha⟩ | ⟨rest, hb, ha⟩
  · cases rest with
    | nil => simp [hb] at hlt
    | cons first between =>
      obtain ⟨rfl, hafter⟩ := List.cons.inj ha
      exact ⟨between, hb, hafter⟩
  · have hlen := congrArg List.length hb
    rw [List.length_append] at hlen
    omega

/-- In a text without line ends but line feeds a location has as its snippet the part of the text
from the offset of its first position up to that of its second one. -/
theorem snippet_eq_slice {node : Node} (hs : EndsByLineFeed source.toList)
    (hn : node.loc = some loc) (h : loc.Within (splitLines source.toList)) :
    Location.snippet node.loc source = String.ofList (slice
      (loc.start.offset (splitLines source.toList)) (loc.stop.offset (splitLines source.toList))
      source.toList) := by
  obtain ⟨before, line, after, hlines, hsl, hs₀, hsc⟩ := h.start
  obtain ⟨before', last, after', hlines', hel, he₀, hec⟩ := h.stop
  obtain ⟨hstart, -⟩ := Position.take_offset hs hlines hsl hs₀ hsc
  obtain ⟨hstop, htake⟩ := Position.take_offset hs hlines' hel he₀ hec
  rw [slice, hstart, hstop, htake, hn, Location.snippet, hlines]
  rw [hlines] at hlines'
  have hcol := place_of_column hs₀ hsc
  have hcol' := place_of_column he₀ hec
  rcases h.ordered with hlater | ⟨hsame, -⟩
  · obtain ⟨between, rfl, rfl⟩ := exists_between hlines' (by omega)
    have hel' : loc.stop.line = before.length + 1 + between.length + 1 := by
      rw [hel, List.length_append, List.length_cons]
      omega
    rw [Location.spanned_of_lines hsl hel', intercalate_lineFeed, sliceFrom, sliceTo, hcol, hcol',
      withLineFeeds_append, withLineFeeds_cons, withLineFeeds_cons, List.append_assoc,
      List.append_assoc, List.drop_length_add_append, List.append_assoc,
      List.drop_append_of_le_length (by omega)]
  · obtain ⟨rfl, hrest⟩ := List.append_inj hlines' (by omega)
    obtain ⟨rfl, rfl⟩ := List.cons.inj hrest
    rw [Location.spanned_of_line hsl hel, List.drop_length_add_append, slice, hcol, hcol']
    exact String.intercalate_singleton

/-- A text of four lines, of which one is empty, and a location from the first to the third. -/
def fourLines : String := "ab\n\ncd\ne\n"

def throughEmptyLine : Location := ⟨⟨1, 1⟩, ⟨3, 1⟩⟩

theorem snippet_eq_slice_through_empty_line :
    EndsByLineFeed fourLines.toList ∧
      throughEmptyLine.Within (splitLines fourLines.toList) ∧
      Location.snippet (Node.null (some throughEmptyLine)).loc fourLines = "b\n\nc" := by
  have hs : EndsByLineFeed fourLines.toList := by
    intro c hc hb
    have hall : fourLines.toList.all fun c => !lineBoundaries.contains c || c == '\n' := by
      decide +kernel
    have hc := List.all_eq_true.mp hall c hc
    simpa [hb] using hc
  have hw : throughEmptyLine.Within (splitLines fourLines.toList) :=
    ⟨⟨[], ['a', 'b'], [[], ['c', 'd'], ['e']], by decide +kernel, rfl, by decide, by decide⟩,
      ⟨[['a', 'b'], []], ['c', 'd'], [['e']], by decide +kernel, rfl, by decide, by decide⟩,
      .inl (by decide)⟩
  refine ⟨hs, hw, ?_⟩
  rw [snippet_eq_slice hs rfl hw]
  decide +kernel

end TemplateLint
