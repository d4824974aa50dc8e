/-! Places in a template source. -/

namespace TemplateLint

/-- Lines count from one and columns from zero. -/
structure Position where
  line : Int
  column : Int
  deriving DecidableEq, Repr

structure Location where
  start : Position
  stop : Position
  deriving DecidableEq, Repr

end TemplateLint
