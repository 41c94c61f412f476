import SimplexMethod.Numeral
import SimplexMethod.Pricing
import SimplexMethod.Tableau

/-!
# Configuration of a run

A run is governed by a tolerance, a pivot rule and a cap on the number of pivots. Without a cap of
its own a run may make a fixed multiple of the number of cells of its tableau.
-/

namespace SimplexMethod

/-- What governs a run. -/
structure Config (α : Type) where
  /-- The magnitude up to which a number counts as zero. -/
  tolerance : α
  rule : PivotRule := .dantzig
  /-- The number of pivots over both phases. -/
  maxPivots : Option Nat := none

/-- Why a configuration cannot be used. -/
inductive ConfigFault (α : Type) where
  | tolerance (value : α)
  | noPivots

/-- The report of an unusable configuration. -/
def ConfigFault.message {α : Type} [Numeral α] : ConfigFault α → String
  | tolerance value => "tolerance must be a positive finite number, got " ++ Numeral.text value
  | noPivots => "the iteration cap must allow at least one pivot"

namespace Config

/-- The configuration for double-precision numbers unless another one is asked for. -/
def standard : Config Float where
  tolerance := 1e-9

instance : Inhabited (Config Float) := ⟨standard⟩

variable {α : Type} [Scalar α]

/-- What is wrong with a configuration: its tolerance is looked at before its cap. -/
def fault? (config : Config α) : Option (ConfigFault α) :=
  if !Scalar.isFinite config.tolerance || decide (config.tolerance ≤ 0) then
    some (.tolerance config.tolerance)
  else if config.maxPivots = some 0 then some .noPivots
  else none

/-- Accept a usable configuration. -/
def validate (config : Config α) : Except (ConfigFault α) Unit :=
  match config.fault? with
  | some fault => .error fault
  | none => .ok ()

/-- The number of pivots allowed per cell of the tableau, if there is no cap. -/
def pivotsPerCell : Nat := 10

/-- The number of pivots that a run may make from a given tableau. -/
def pivotCap (config : Config α) (tableau : Tableau α) : Nat :=
  config.maxPivots.getD (pivotsPerCell * tableau.numRows * (tableau.numColumns + 1))

end Config

end SimplexMethod
