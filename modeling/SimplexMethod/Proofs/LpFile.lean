import SimplexMethod.Proofs.LpFile.Expression
import SimplexMethod.Proofs.Problem.WellFormed

/-!
# The .lp text of a problem determines it

The name of a problem comes first and may contain anything, so the text is read from its end. There
every line but the comment is free of line breaks, the lines of the bounds tell the number of
variables, and the last line before them tells whether there are constraints and how many. What is
left when all of these lines have been taken off is the comment with the name.

## Main definitions

* `broken`: lines, each behind a line break
* `LinearProgram.upperLines`, `LinearProgram.lowerLines`: the lines behind the comment
* `Constraint.Agrees`: constraints that differ at most in the signs of zero coefficients

## Main results

* `lines_inj`: the last lines of a text are determined by their number
* `LinearProgram.eq_of_lpText_eq`: the .lp text of a well-formed problem determines it
-/

namespace SimplexMethod

open Scalar

/-! ## Lines -/

/-- The lines of a text, each behind a line break. -/
def broken (lines : List String) : List Char := lines.flatMap fun line => '\n' :: line.toList

/-- No line contains a line break. -/
def AreLines (lines : List String) : Prop := ∀ line ∈ lines, '\n' ∉ line.toList

@[simp] theorem broken_append (lines lines' : List String) :
    broken (lines ++ lines') = broken lines ++ broken lines' := List.flatMap_append

@[simp] theorem areLines_append {lines lines' : List String} :
    AreLines (lines ++ lines') ↔ AreLines lines ∧ AreLines lines' := List.forall_mem_append

/-- The last lines of a text are determined by their number, whatever comes before them. -/
theorem lines_inj {before before' : List Char} {lines lines' : List String}
    (areLines : AreLines lines) (areLines' : AreLines lines')
    (length : lines.length = lines'.length)
    (same : before ++ broken lines = before' ++ broken lines') :
    before = before' ∧ lines = lines' := by
  induction lines using List.reverseRecOn generalizing lines' with
  | nil =>
    obtain rfl := List.length_eq_zero_iff.1 length.symm
    exact ⟨by simpa [broken] using same, rfl⟩
  | append_singleton lines line ih =>
    obtain rfl | ⟨lines', line', rfl⟩ := lines'.eq_nil_or_concat
    · simp at length
    rw [List.concat_eq_append] at *
    rw [areLines_append] at areLines areLines'
    rw [broken_append, broken_append, ← List.append_assoc, ← List.append_assoc] at same
    have last (line : String) : broken [line] = '\n' :: line.toList := by simp [broken]
    rw [last, last] at same
    obtain ⟨rest, chars⟩ := last_inj (areLines.2 line (List.mem_singleton.2 rfl))
      (areLines'.2 line' (List.mem_singleton.2 rfl)) same
    obtain ⟨rfl, rfl⟩ := ih areLines.1 areLines'.1 (by simpa using length) rest
    exact ⟨rfl, by rw [String.toList_inj.1 chars]⟩

/-- Lines that end with a break are lines behind a break, if the last break is taken in front. -/
theorem toList_join_lines {β : Type} (values : List β) (line : β → String) :
    '\n' :: (String.join (values.map fun value => line value ++ "\n")).toList =
      broken (values.map line) ++ ['\n'] := by
  rw [broken, String.toList_join, List.flatMap_map, List.flatMap_map]
  induction values with
  | nil => rfl
  | cons value values ih => simpa using ih

/-! ## The lines of a problem -/

namespace LinearProgram

variable {α : Type}

/-- The line of a bound. -/
def boundLine (index : Nat) : String := "  0 <= " ++ (Column.decision index).name

/-- The lines of the bounds and the end. -/
def lowerLines (numVariables : Nat) : List String :=
  ["", "Bounds"] ++ (List.range numVariables).map boundLine ++ ["", "End", ""]

theorem toList_boundSection (problem : LinearProgram α) : problem.boundSection.toList =
    broken (["Bounds"] ++ (List.range problem.numVariables).map boundLine) ++ ['\n'] := by
  rw [boundSection, String.toList_append, broken_append, List.append_assoc]
  exact congrArg (broken ["Bounds"] ++ ·)
    (toList_join_lines (List.range problem.numVariables) boundLine)

variable [Scalar α] [Numeral α]

/-- The line of a constraint. -/
def constraintLine (entry : Constraint α × Nat) : String :=
  "  c" ++ toString entry.2 ++ ": " ++ entry.1.lpText

/-- The lines of the constraints, with a heading if there are any. -/
def constraintLines (problem : LinearProgram α) : List String :=
  if problem.constraints.isEmpty then []
  else ["", "Subject To"] ++ problem.constraints.zipIdx.map constraintLine

/-- The lines of the objective and the constraints. -/
def upperLines (problem : LinearProgram α) : List String :=
  ["", problem.sense.heading, "  obj: " ++ expressionText problem.objective] ++
    problem.constraintLines

theorem toList_constraintSection (problem : LinearProgram α) :
    problem.constraintSection.toList = broken problem.constraintLines ++ ['\n'] := by
  rw [constraintSection, constraintLines]
  split
  · rfl
  · rw [String.toList_append, broken_append, List.append_assoc]
    exact congrArg (broken ["", "Subject To"] ++ ·)
      (toList_join_lines problem.constraints.zipIdx constraintLine)

/-- The text of a problem is a comment with its name, and lines. -/
theorem toList_lpText (problem : LinearProgram α) : problem.lpText.toList =
    ("\\ " ++ problem.name).toList ++
      broken (problem.upperLines ++ lowerLines problem.numVariables) := by
  simp only [lpText, upperLines, lowerLines, String.toList_append, toList_constraintSection,
    toList_boundSection, broken_append]
  simp [broken]

end LinearProgram

/-! ## Reading a constraint -/

/-- Constraints that differ at most in the signs of coefficients that are zero. -/
structure Constraint.Agrees (first second : Constraint Float) : Prop where
  relation_eq : first.relation = second.relation
  rhs_eq : first.rhs = second.rhs
  coefficients : List.Forall₂ (fun v w => v == w) first.coefficients second.coefficients

theorem Relation.text_injective : Function.Injective Relation.text := by
  intro first second same
  cases first <;> cases second <;> simp_all [Relation.text]

theorem Relation.blank_notMem_text (relation : Relation) : ' ' ∉ relation.text.toList := by
  cases relation <;> decide

theorem Constraint.toList_lpText (constraint : Constraint Float) : constraint.lpText.toList =
    (expressionText constraint.coefficients).toList ++
      ' ' :: constraint.relation.text.toList ++ ' ' :: (doubleText constraint.rhs).toList := by
  simp [Constraint.lpText, Numeral.text]

/-- A constraint is read from its end: the right-hand side, the relation and the expression. -/
theorem Constraint.agrees_of_lpText_eq {first second : Constraint Float} {width : Nat}
    (wellFormed : first.IsWellFormed width) (wellFormed' : second.IsWellFormed width)
    (same : first.lpText = second.lpText) : first.Agrees second := by
  have chars := congrArg String.toList same
  rw [toList_lpText, toList_lpText] at chars
  obtain ⟨behind, rhs⟩ := last_inj
    (notMem_doubleText wellFormed.rhs_finite (by decide) (by decide))
    (notMem_doubleText wellFormed'.rhs_finite (by decide) (by decide)) chars
  obtain ⟨expression, relation⟩ := last_inj first.relation.blank_notMem_text
    second.relation.blank_notMem_text behind
  exact {
    relation_eq := Relation.text_injective (String.toList_inj.1 relation)
    rhs_eq := doubleText_injective (String.toList_inj.1 rhs)
    coefficients := forall₂_of_expressionText_eq wellFormed.coefficients_finite
      wellFormed'.coefficients_finite (wellFormed.length_eq.trans wellFormed'.length_eq.symm)
      (String.toList_inj.1 expression) }

theorem Constraint.break_notMem_lpText {constraint : Constraint Float} {width : Nat}
    (wellFormed : constraint.IsWellFormed width) : '\n' ∉ constraint.lpText.toList := by
  have expression := break_notMem_expressionText wellFormed.coefficients_finite
  have relation : '\n' ∉ constraint.relation.text.toList := by
    cases constraint.relation <;> decide
  have rhs : '\n' ∉ (doubleText constraint.rhs).toList :=
    notMem_doubleText wellFormed.rhs_finite (by decide) (by decide)
  simp [toList_lpText, expression, relation, rhs]

/-! ## Reading a problem -/

theorem Sense.heading_injective : Function.Injective Sense.heading := by
  intro first second same
  cases first <;> cases second <;> simp_all [Sense.heading]

namespace LinearProgram

theorem areLines_lowerLines (numVariables : Nat) : AreLines (lowerLines numVariables) := by
  intro line member
  simp only [lowerLines, List.mem_append, List.mem_map, List.mem_cons, List.not_mem_nil,
    or_false] at member
  obtain (((rfl | rfl) | ⟨index, -, rfl⟩) | rfl | rfl | rfl) := member
  · decide
  · decide
  · simpa [boundLine, Column.name] using break_notMem_toString (index + 1)
  · decide
  · decide
  · decide

theorem areLines_upperLines {problem : LinearProgram Float} (wellFormed : problem.IsWellFormed) :
    AreLines problem.upperLines := by
  have heading : '\n' ∉ problem.sense.heading.toList := by cases problem.sense <;> decide
  have objective := break_notMem_expressionText wellFormed.objective_finite
  refine areLines_append.2 ⟨?_, ?_⟩
  · simp [AreLines, heading, objective]
  · rw [constraintLines]
    split
    · exact fun line member => absurd member List.not_mem_nil
    · refine areLines_append.2 ⟨by simp [AreLines], ?_⟩
      intro line member
      obtain ⟨⟨constraint, index⟩, listed, rfl⟩ := List.mem_map.1 member
      have text := Constraint.break_notMem_lpText
        (wellFormed.constraint constraint (List.fst_mem_of_mem_zipIdx listed))
      simpa [constraintLine, text] using break_notMem_toString index

theorem boundLine_injective : Function.Injective boundLine := by
  intro i j same
  have names : toString (i + 1) = toString (j + 1) := by
    simpa [boundLine, Column.name] using same
  exact Nat.succ.inj (Nat.repr_injective names)

/-- The line before the end is the bound of the last variable. -/
theorem numVariables_inj {before before' : List Char} {m n : Nat} (some : m ≠ 0) (some' : n ≠ 0)
    (same : before ++ broken (lowerLines m) = before' ++ broken (lowerLines n)) : m = n := by
  obtain ⟨m, rfl⟩ := Nat.exists_eq_add_one_of_ne_zero some
  obtain ⟨n, rfl⟩ := Nat.exists_eq_add_one_of_ne_zero some'
  have lastLines (n : Nat) : lowerLines (n + 1) =
      ["", "Bounds"] ++ (List.range n).map boundLine ++ [boundLine n, "", "End", ""] := by
    simp [lowerLines, List.range_succ]
  have areLines (n : Nat) := areLines_lowerLines (n + 1)
  simp only [lastLines, areLines_append] at areLines
  rw [lastLines, lastLines, broken_append, broken_append _ [_, _, _, _], ← List.append_assoc,
    ← List.append_assoc] at same
  obtain ⟨-, lines⟩ := lines_inj (areLines m).2 (areLines n).2 rfl same
  rw [boundLine_injective (List.cons.inj lines).1]

/-- The line before the bounds is the objective, or the last constraint with its number. -/
theorem upperLines_eq {α : Type} [Scalar α] [Numeral α] (problem : LinearProgram α) :
    (problem.constraints = [] ∧ problem.upperLines =
      ["", problem.sense.heading] ++ ["  obj: " ++ expressionText problem.objective]) ∨
    ∃ (front : List String) (constraint : Constraint α) (index : Nat),
      problem.constraints.length = index + 1 ∧
        problem.upperLines = front ++ [constraintLine (constraint, index)] := by
  obtain none | ⟨front, constraint, some⟩ := problem.constraints.eq_nil_or_concat
  · exact .inl ⟨none, by simp [upperLines, constraintLines, none]⟩
  · rw [List.concat_eq_append] at some
    refine .inr ⟨["", problem.sense.heading, "  obj: " ++ expressionText problem.objective] ++
      ["", "Subject To"] ++ front.zipIdx.map constraintLine, constraint, front.length, ?_, ?_⟩
    · simp [some]
    · simp [upperLines, constraintLines, some, List.zipIdx_append]

theorem toList_constraintLine {α : Type} [Scalar α] [Numeral α] (constraint : Constraint α)
    (index : Nat) : (constraintLine (constraint, index)).toList =
      ' ' :: ' ' :: 'c' :: ((toString index).toList ++ ':' :: ' ' :: constraint.lpText.toList) := by
  simp [constraintLine]

/-- The line before the bounds tells the number of constraints. -/
theorem length_constraints_inj {first second : LinearProgram Float} {before before' : List Char}
    (wellFormed : first.IsWellFormed) (wellFormed' : second.IsWellFormed)
    (same : before ++ broken first.upperLines = before' ++ broken second.upperLines) :
    first.constraints.length = second.constraints.length := by
  have areLines := areLines_upperLines wellFormed
  have areLines' := areLines_upperLines wellFormed'
  have lastLine {front front' : List String} {line line' : String}
      (upper : first.upperLines = front ++ [line])
      (upper' : second.upperLines = front' ++ [line']) : line.toList = line'.toList := by
    rw [upper, areLines_append] at areLines
    rw [upper', areLines_append] at areLines'
    rw [upper, upper', broken_append, broken_append, ← List.append_assoc, ← List.append_assoc]
      at same
    rw [(List.cons.inj (lines_inj areLines.2 areLines'.2 rfl same).2).1]
  obtain ⟨none, upper⟩ | ⟨front, constraint, index, count, upper⟩ := upperLines_eq first <;>
    obtain ⟨none', upper'⟩ | ⟨front', constraint', index', count', upper'⟩ := upperLines_eq second
  · rw [none, none']
  · -- The third character tells an objective from a constraint.
    have letters := lastLine upper upper'
    rw [toList_constraintLine] at letters
    simp at letters
  · have letters := lastLine upper upper'
    rw [toList_constraintLine] at letters
    simp at letters
  · have chars := lastLine upper upper'
    simp only [toList_constraintLine, List.cons.injEq, true_and] at chars
    rw [count, count', (toString_inj (by simp) (by simp) chars).1]

theorem length_upperLines {α : Type} [Scalar α] [Numeral α] (problem : LinearProgram α) :
    problem.upperLines.length =
      if problem.constraints.length = 0 then 3 else problem.constraints.length + 5 := by
  simp only [upperLines, constraintLines, List.isEmpty_iff, List.length_eq_zero_iff]
  split <;> simp

/-- The lines of the constraints determine them, if their number is known. -/
theorem forall₂_of_constraintLines_eq {first second : LinearProgram Float}
    (wellFormed : first.IsWellFormed) (wellFormed' : second.IsWellFormed)
    (width : first.numVariables = second.numVariables)
    (length : first.constraints.length = second.constraints.length)
    (same : first.constraintLines = second.constraintLines) :
    List.Forall₂ Constraint.Agrees first.constraints second.constraints := by
  refine List.forall₂_iff_get.2 ⟨length, fun index inside inside' => ?_⟩
  have nonempty {constraints : List (Constraint Float)} (inside : index < constraints.length) :
      ¬constraints.isEmpty := by
    rintro empty
    rw [List.isEmpty_iff.1 empty] at inside
    exact Nat.not_lt_zero _ inside
  rw [constraintLines, constraintLines, if_neg (nonempty inside), if_neg (nonempty inside')] at same
  have lines := congrArg (fun lines => lines[index]?.map String.toList)
    (List.append_cancel_left same)
  simp only [List.getElem?_map, List.getElem?_zipIdx, List.getElem?_eq_getElem inside,
    List.getElem?_eq_getElem inside', Option.map_some, Option.some_inj, Nat.zero_add,
    toList_constraintLine, List.cons.injEq, List.append_cancel_left_eq, true_and] at lines
  exact Constraint.agrees_of_lpText_eq
    (width ▸ wellFormed.constraint _ (List.getElem_mem inside))
    (wellFormed'.constraint _ (List.getElem_mem inside')) (String.toList_inj.1 lines)

/-- The .lp text of a well-formed problem determines it, whatever its name contains: name, sense,
numbers of variables and constraints, relations and right-hand sides are the same, and coefficients
are equal as numbers. -/
theorem eq_of_lpText_eq {first second : LinearProgram Float} (valid : first.validate = .ok ())
    (valid' : second.validate = .ok ()) (same : first.lpText = second.lpText) :
    first.name = second.name ∧ first.sense = second.sense ∧
      first.numVariables = second.numVariables ∧
      first.constraints.length = second.constraints.length ∧
      List.Forall₂ (fun v w => v == w) first.objective second.objective ∧
      List.Forall₂ Constraint.Agrees first.constraints second.constraints := by
  have wellFormed := defect?_eq_none_iff.1 (validate_eq_ok_iff.1 valid)
  have wellFormed' := defect?_eq_none_iff.1 (validate_eq_ok_iff.1 valid')
  have chars := congrArg String.toList same
  rw [toList_lpText, toList_lpText, broken_append, broken_append, ← List.append_assoc,
    ← List.append_assoc] at chars
  -- The bounds come first, since the last of them tells how many lines they are.
  have width : first.numVariables = second.numVariables :=
    numVariables_inj (mt List.length_eq_zero_iff.1 wellFormed.objective_ne_nil)
      (mt List.length_eq_zero_iff.1 wellFormed'.objective_ne_nil) chars
  rw [width] at chars
  have upper := List.append_cancel_right chars
  have length := length_constraints_inj wellFormed wellFormed' upper
  obtain ⟨comment, lines⟩ := lines_inj (areLines_upperLines wellFormed)
    (areLines_upperLines wellFormed') (by rw [length_upperLines, length_upperLines, length]) upper
  simp only [upperLines, List.cons_append, List.nil_append, List.cons.injEq, true_and,
    String.append_right_inj] at lines
  obtain ⟨heading, objective, constraints⟩ := lines
  rw [String.toList_inj, String.append_right_inj] at comment
  exact ⟨comment, Sense.heading_injective heading, width, length,
    forall₂_of_expressionText_eq wellFormed.objective_finite wellFormed'.objective_finite width
      objective,
    forall₂_of_constraintLines_eq wellFormed wellFormed' width length constraints⟩

/-- A problem with a line break in its name, and a zero of either sign among its coefficients. -/
def zeroProblem (zero : Float) : LinearProgram Float where
  name := "two lines\n\nMinimize"
  sense := .maximize
  objective := [-1, zero]
  constraints := [⟨[zero, 2.5], .atLeast, -3⟩]

/-- Both zeros give the same text. -/
theorem eq_of_lpText_zeroProblem :
    (zeroProblem 0).validate = .ok () ∧ (zeroProblem (-0)).validate = .ok () ∧
      (zeroProblem 0).lpText = (zeroProblem (-0)).lpText ∧
      List.Forall₂ (fun v w => v == w) (zeroProblem 0).objective (zeroProblem (-0)).objective ∧
      List.Forall₂ Constraint.Agrees (zeroProblem 0).constraints
        (zeroProblem (-0)).constraints := by
  have valid : (zeroProblem 0).validate = .ok () := by
    rw [validate_eq_ok_iff, ← Option.isNone_iff_eq_none]
    decide +kernel
  have valid' : (zeroProblem (-0)).validate = .ok () := by
    rw [validate_eq_ok_iff, ← Option.isNone_iff_eq_none]
    decide +kernel
  have same : (zeroProblem 0).lpText = (zeroProblem (-0)).lpText := by decide +kernel
  obtain ⟨-, -, -, -, objective, constraints⟩ := eq_of_lpText_eq valid valid' same
  exact ⟨valid, valid', same, objective, constraints⟩

end LinearProgram

end SimplexMethod
