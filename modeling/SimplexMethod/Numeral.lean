/-!
# Written numbers

Texts that contain numbers are written for any type that says how its numbers are spelled.
-/

namespace SimplexMethod

/-- A type whose numbers have a written form. -/
class Numeral (α : Type) where
  /-- The written form of a number. -/
  text : α → String

end SimplexMethod
