/-!
# Assignments

An assignment gives values to finitely many decision variables. Its entries are kept in the order of
their indices, and no index appears twice.
-/

namespace SimplexMethod

/-- Values of decision variables, in the order of their indices. -/
structure Assignment (α : Type) where
  entries : List (Nat × α)
  ascending : entries.Pairwise fun earlier later => earlier.1 < later.1

namespace Assignment

variable {α : Type}

/-- The assignment of no value. -/
def empty : Assignment α := ⟨[], .nil⟩

/-- Put an entry in its place, instead of one with the same index. -/
def insertEntry (index : Nat) (value : α) : List (Nat × α) → List (Nat × α)
  | [] => [(index, value)]
  | entry :: rest =>
    if index < entry.1 then (index, value) :: entry :: rest
    else if index = entry.1 then (index, value) :: rest
    else entry :: insertEntry index value rest

theorem mem_insertEntry {index : Nat} {value : α} {entries : List (Nat × α)} {entry : Nat × α}
    (member : entry ∈ insertEntry index value entries) :
    entry = (index, value) ∨ entry ∈ entries := by
  induction entries with
  | nil => exact .inl (by simpa [insertEntry] using member)
  | cons head rest ih =>
    unfold insertEntry at member
    split at member
    · simpa using member
    · split at member
      · rcases List.mem_cons.1 member with rfl | old
        · exact .inl rfl
        · exact .inr (List.mem_cons_of_mem _ old)
      · rcases List.mem_cons.1 member with rfl | old
        · exact .inr List.mem_cons_self
        · exact (ih old).imp_right (List.mem_cons_of_mem _)

theorem ascending_insertEntry (index : Nat) (value : α) {entries : List (Nat × α)}
    (ascending : entries.Pairwise fun earlier later => earlier.1 < later.1) :
    (insertEntry index value entries).Pairwise fun earlier later => earlier.1 < later.1 := by
  induction entries with
  | nil => simp [insertEntry]
  | cons head rest ih =>
    obtain ⟨above, rest_ascending⟩ := List.pairwise_cons.1 ascending
    unfold insertEntry
    split
    · rename_i smaller
      refine List.pairwise_cons.2 ⟨fun entry member => ?_, ascending⟩
      rcases List.mem_cons.1 member with rfl | later
      · exact smaller
      · exact Nat.lt_trans smaller (above entry later)
    · split
      · rename_i same
        exact List.pairwise_cons.2 ⟨fun entry member => same ▸ above entry member, rest_ascending⟩
      · refine List.pairwise_cons.2 ⟨fun entry member => ?_, ih rest_ascending⟩
        rcases mem_insertEntry member with rfl | old
        · show head.1 < index
          omega
        · exact above entry old

/-- Give a value to a variable, which replaces the one it may have. -/
def insert (assignment : Assignment α) (index : Nat) (value : α) : Assignment α :=
  ⟨insertEntry index value assignment.entries,
    ascending_insertEntry index value assignment.ascending⟩

/-- The assignment of all pairs of a list. Of pairs with one index the last one counts. -/
def ofList (pairs : List (Nat × α)) : Assignment α :=
  pairs.foldl (fun assignment pair => assignment.insert pair.1 pair.2) empty

/-- The assignment of values to the first variables, in their order. -/
def ofValues (values : List α) : Assignment α where
  entries := values.zipIdx.map Prod.swap
  ascending := by
    rw [List.pairwise_map, List.pairwise_iff_getElem]
    intro i j hi hj less
    simpa using less

/-- The value of a variable, if it has one. -/
def value? (assignment : Assignment α) (index : Nat) : Option α :=
  (assignment.entries.find? fun entry => entry.1 == index).map Prod.snd

/-- The values in the order of their variables. -/
def values (assignment : Assignment α) : List α := assignment.entries.map Prod.snd

/-- Whether no variable has a value. -/
def isEmpty (assignment : Assignment α) : Bool := assignment.entries.isEmpty

instance [BEq α] : BEq (Assignment α) := ⟨fun left right => left.entries == right.entries⟩

end Assignment

end SimplexMethod
