import InlineCheck.Fault

/-! # Assertions

The outcome of one checked condition: its label, whether it held, and the description of the block
it was made in.
-/

namespace InlineCheck

/-- The outcome of one checked condition. -/
structure Assertion where
  text : String
  passed : Bool
  description : Option String := none
  deriving DecidableEq, Repr

end InlineCheck
