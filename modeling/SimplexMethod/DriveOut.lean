import SimplexMethod.Event
import SimplexMethod.Tableau.Pivot
import SimplexMethod.Tolerance

/-!
# Driving artificial columns out of the basis

After the first phase an artificial column may still be basic, at zero. It is replaced by the first
column that is not artificial and has a cell in its row that is not zero to tolerance. A row without
such a cell is taken to be redundant and keeps its artificial column. The rows are visited once, in
their order.
-/

namespace SimplexMethod

/-- A tableau after some rows have been visited, what was done, and the pivot that failed. -/
structure DrivenOut (α : Type) where
  tableau : Tableau α
  events : List (Event α)
  failure : Option (PivotError α)

namespace Tableau

variable {α : Type} [Scalar α]

/-- The first of the columns before `firstArtificial` that can become basic in a row. -/
def replacement? (tableau : Tableau α) (firstArtificial : Nat) (tolerance : α) (row : Nat) :
    Option Nat :=
  (List.range firstArtificial).find? fun col => !isZero (tableau.cell row col) tolerance

/-- The artificial column that is basic in a row, if there is one. -/
def basicArtificial? (tableau : Tableau α) (firstArtificial row : Nat) : Option Nat :=
  (tableau.basicColumn? row).filter (firstArtificial ≤ ·)

/-- Visit the given rows one after the other. A failing pivot ends the visit. -/
def driveOutRows (firstArtificial : Nat) (tolerance : α) :
    List Nat → Tableau α → DrivenOut α
  | [], tableau => ⟨tableau, [], none⟩
  | row :: rows, tableau =>
    match tableau.basicArtificial? firstArtificial row with
    | none => driveOutRows firstArtificial tolerance rows tableau
    | some artificial =>
      match tableau.replacement? firstArtificial tolerance row with
      | none =>
        let rest := driveOutRows firstArtificial tolerance rows tableau
        { rest with events := .redundant row :: rest.events }
      | some col =>
        let event :=
          .drivenOut (tableau.columnName artificial) row (tableau.columnName col)
        match tableau.pivot row col tolerance with
        | .error error => ⟨tableau, [event], some error⟩
        | .ok next =>
          let rest := driveOutRows firstArtificial tolerance rows next
          { rest with events := event :: rest.events }

/-- Visit all constraint rows. -/
def driveOut (tableau : Tableau α) (firstArtificial : Nat) (tolerance : α) : DrivenOut α :=
  driveOutRows firstArtificial tolerance (List.range' 1 tableau.numConstraints) tableau

end Tableau

end SimplexMethod
