/-! Parts of a sequence by signed positions: a negative position counts from the end. -/

namespace TemplateLint.Text

variable {α : Type}

/-- The place of a signed position in a sequence of `length` elements, never out of bounds. -/
def place (length : Nat) (position : Int) : Nat :=
  if position < 0 then (position + length).toNat else min position.toNat length

/-- The elements from `start` up to, and without, `stop`. -/
def slice (start stop : Int) (xs : List α) : List α :=
  (xs.take (place xs.length stop)).drop (place xs.length start)

def sliceFrom (start : Int) (xs : List α) : List α :=
  xs.drop (place xs.length start)

def sliceTo (stop : Int) (xs : List α) : List α :=
  xs.take (place xs.length stop)

theorem place_le (length : Nat) (position : Int) : place length position ≤ length := by
  unfold place
  split <;> omega

theorem place_of_nat {length n : Nat} (h : n ≤ length) : place length n = n := by
  simp only [place]
  split <;> omega

end TemplateLint.Text
