import SimplexMethod.Proofs.LpFile.Expression
import SimplexMethod.Report

/-!
# The report of a solution determines it

A report is read from left to right. The status and the number of pivots have lines of their own.
What follows is the line of an objective if it begins with a letter, and the section of the
variables if it begins with a line break; either of them may be missing. The line of a variable
gives its number up to the next blank and its value up to the end of the line. Nothing is assumed
about how a solution came about.

## Main definitions

* `Numeral.IsReadable`: numbers can be told from their texts, each of which stands on one line

## Main results

* `Numeral.isReadable_float`: double-precision numbers are readable
* `Solution.eq_of_report_eq`: with readable numbers a report determines the solution
* `Solution.report_inj`: the report of a solution in double precision determines it
-/

namespace SimplexMethod

/-! ## Readable numbers -/

/-- Numbers can be told from their texts, each of which stands on one line. -/
structure Numeral.IsReadable (α : Type) [Numeral α] : Prop where
  injective : Function.Injective (Numeral.text : α → String)
  unbroken (value : α) : '\n' ∉ (Numeral.text value).toList

/-- All undefined numbers have one text, and are one number. -/
theorem Numeral.isReadable_float : Numeral.IsReadable Float where
  injective := doubleText_injective
  unbroken value := by
    change '\n' ∉ (doubleText value).toList
    cases undefined : value.isNaN with
    | true =>
      rw [DoublePrecision.doubleText_of_isNaN undefined]
      decide
    | false =>
      rw [DoublePrecision.doubleText_eq undefined, String.toList_append, List.mem_append]
      rintro (sign | magnitude)
      · split at sign <;> exact absurd sign (by decide)
      · rcases DoublePrecision.char_of_mem_magnitudeText undefined magnitude with number | letter
        · cases number
        · exact absurd letter (by decide)

theorem Status.text_injective : Function.Injective Status.text := by
  intro first second same
  cases first <;> cases second <;> simp_all [Status.text]

theorem Status.break_notMem_text (status : Status) : '\n' ∉ status.text.toList := by
  cases status <;> decide

theorem Assignment.eq_of_entries_eq {α : Type} {first second : Assignment α}
    (same : first.entries = second.entries) : first = second := by
  cases first
  cases second
  cases same
  rfl

namespace Solution

variable {α : Type} [Numeral α]

/-! ## The section of the variables -/

theorem toList_valueLine (entry : Nat × α) : (valueLine entry).toList =
    ' ' :: ' ' :: 'x' :: ((toString (entry.1 + 1)).toList ++
      ' ' :: '=' :: ' ' :: ((Numeral.text entry.2).toList ++ ['\n'])) := by
  simp [valueLine, Column.name]

/-- The line of a variable is read up to its end. -/
theorem valueLine_inj (readable : Numeral.IsReadable α) {entry entry' : Nat × α}
    {rest rest' : List Char}
    (same : (valueLine entry).toList ++ rest = (valueLine entry').toList ++ rest') :
    entry = entry' ∧ rest = rest' := by
  simp only [toList_valueLine, List.cons_append, List.append_assoc, List.nil_append,
    List.cons.injEq, true_and] at same
  obtain ⟨number, value⟩ := toString_inj (by simp) (by simp) same
  simp only [List.cons.injEq, true_and] at value
  obtain ⟨text, behind⟩ := first_inj (readable.unbroken _) (readable.unbroken _) value
  exact ⟨Prod.ext (Nat.succ.inj number) (readable.injective (String.toList_inj.1 text)), behind⟩

/-- The lines of the variables. -/
def valueChars (entries : List (Nat × α)) : List Char :=
  entries.flatMap fun entry => (valueLine entry).toList

theorem valueChars_inj (readable : Numeral.IsReadable α) {entries entries' : List (Nat × α)}
    (same : valueChars entries = valueChars entries') : entries = entries' := by
  have written (entry : Nat × α) (entries : List (Nat × α)) :
      valueChars (entry :: entries) ≠ [] := by
    simp [valueChars, toList_valueLine]
  induction entries generalizing entries' with
  | nil =>
    cases entries' with
    | nil => rfl
    | cons entry' entries' => exact (written entry' entries' same.symm).elim
  | cons entry entries ih =>
    cases entries' with
    | nil => exact (written entry entries same).elim
    | cons entry' entries' =>
      obtain ⟨rfl, behind⟩ := valueLine_inj readable same
      rw [ih behind]

theorem toList_valueSection (solution : Solution α) : solution.valueSection.toList =
    if solution.values.entries = [] then []
    else '\n' :: ("Variables\n".toList ++ valueChars solution.values.entries) := by
  rw [valueSection, Assignment.isEmpty, valueChars]
  simp only [List.isEmpty_iff]
  split
  · rfl
  · simp [String.toList_join, List.flatMap_map]

/-- A section that is written begins with a line break. -/
theorem head_valueSection (solution : Solution α) :
    ∀ char ∈ solution.valueSection.toList.head?, char = '\n' := by
  rw [toList_valueSection]
  split <;> simp

theorem values_eq_of_valueSection_eq (readable : Numeral.IsReadable α) {first second : Solution α}
    (same : first.valueSection.toList = second.valueSection.toList) :
    first.values = second.values := by
  apply Assignment.eq_of_entries_eq
  rw [toList_valueSection, toList_valueSection] at same
  -- A section that is missing differs from one that is written.
  split at same <;> split at same
  · rename_i none none'
    rw [none, none']
  · cases same
  · cases same
  · exact valueChars_inj readable (List.append_cancel_left (List.cons.inj same).2)

/-! ## The line of the objective -/

/-- The line of an objective, and nothing if there is none. -/
def objectiveChars (objective : Option α) : List Char :=
  objective.elim [] fun value => "Objective: ".toList ++ ((Numeral.text value).toList ++ ['\n'])

theorem toList_objectiveLine (solution : Solution α) :
    solution.objectiveLine.toList = objectiveChars solution.objective := by
  rw [objectiveLine]
  cases solution.objective <;> simp [objectiveChars]

/-- The line of an objective, if there is one, is told from the section behind it. -/
theorem objectiveChars_inj (readable : Numeral.IsReadable α) {objective objective' : Option α}
    {rest rest' : List Char} (breaks : ∀ char ∈ rest.head?, char = '\n')
    (breaks' : ∀ char ∈ rest'.head?, char = '\n')
    (same : objectiveChars objective ++ rest = objectiveChars objective' ++ rest') :
    objective = objective' ∧ rest = rest' := by
  -- Without the line the section would have to begin with its first letter.
  have mixed {value : α} {rest rest' : List Char} (breaks : ∀ char ∈ rest.head?, char = '\n')
      (same : rest = objectiveChars (some value) ++ rest') : False := by
    rw [same] at breaks
    exact absurd (breaks 'O' rfl) (by decide)
  cases objective with
  | none =>
    cases objective' with
    | none => exact ⟨rfl, same⟩
    | some value' => exact (mixed breaks same).elim
  | some value =>
    cases objective' with
    | none => exact (mixed breaks' same.symm).elim
    | some value' =>
      simp only [objectiveChars, Option.elim_some, List.append_assoc, List.cons_append,
        List.nil_append, List.append_cancel_left_eq] at same
      obtain ⟨text, behind⟩ := first_inj (readable.unbroken _) (readable.unbroken _) same
      exact ⟨congrArg some (readable.injective (String.toList_inj.1 text)), behind⟩

/-! ## The report -/

theorem toList_report (solution : Solution α) : solution.report.toList =
    "Status: ".toList ++ (solution.status.text.toList ++ '\n' ::
      ("Iterations: ".toList ++ ((toString solution.pivots).toList ++ '\n' ::
        (objectiveChars solution.objective ++ solution.valueSection.toList)))) := by
  simp [report, toList_objectiveLine]

/-- With readable numbers a report determines the solution, whatever parts of it are there. -/
theorem eq_of_report_eq (readable : Numeral.IsReadable α) {first second : Solution α}
    (same : first.report = second.report) : first = second := by
  have chars := congrArg String.toList same
  rw [toList_report, toList_report] at chars
  obtain ⟨status, behind⟩ := first_inj first.status.break_notMem_text
    second.status.break_notMem_text (List.append_cancel_left chars)
  obtain ⟨pivots, behind⟩ := toString_inj (by simp) (by simp) (List.append_cancel_left behind)
  obtain ⟨objective, values⟩ := objectiveChars_inj readable first.head_valueSection
    second.head_valueSection (List.cons.inj behind).2
  have status := Status.text_injective (String.toList_inj.1 status)
  have values := values_eq_of_valueSection_eq readable values
  cases first
  cases second
  simp_all

/-- The report of a solution in double precision determines its status, its number of pivots, its
objective and its values, whether a run has made the solution or not. All undefined numbers count
as one. -/
theorem report_inj {first second : Solution Float} :
    first.report = second.report ↔ first = second :=
  ⟨eq_of_report_eq Numeral.isReadable_float, fun same => same ▸ rfl⟩

end Solution

end SimplexMethod
