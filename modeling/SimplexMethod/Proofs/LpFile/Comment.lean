import SimplexMethod.Decimal.DoublePrecision
import SimplexMethod.LpFile

/-!
# The name of a problem in its .lp text

The .lp text of a problem begins with a comment that holds the name. A line that begins with a
backslash is a comment, and a reader passes over it. The name is written as it is, behind a single
backslash, so only its first line is sure to be part of a comment: every later line that does not
begin with a backslash is read as part of the problem. Names without line breaks spill no lines.

## Main definitions

* `contentLines`: the lines of a text that are not comments
* `spilledLines`: the lines of a name that do not become part of a comment
* `LinearProgram.sections`: the .lp text behind the comment with the name

## Main results

* `LinearProgram.contentLines_lpText`: what a reader sees of an .lp text
* `LinearProgram.contentLines_rename_iff`: when two names give the same content
* `LinearProgram.contentLines_rename_ne`: a name that adds an objective
-/

namespace SimplexMethod

/-! ## Lines and comments -/

/-- A comment is a line that begins with a backslash. -/
def isComment (line : List Char) : Bool := line.head? == some '\\'

/-- The lines of a text, without the line breaks between them. -/
def textLines (text : String) : List (List Char) := text.toList.splitOn '\n'

/-- The lines of a text that are not comments. -/
def contentLines (text : String) : List (List Char) := (textLines text).filter (!isComment ·)

/-- The lines of a name behind its first one that are not comments. -/
def spilledLines (name : String) : List (List Char) := (textLines name).tail.filter (!isComment ·)

/-- Texts on both sides of a line break have their own lines. -/
theorem contentLines_append_break (first second : String) :
    contentLines (first ++ "\n" ++ second) = contentLines first ++ contentLines second := by
  have split : (first ++ "\n" ++ second).toList = first.toList ++ '\n' :: second.toList := by simp
  rw [contentLines, textLines, split, List.splitOn_append_cons_self, List.filter_append]
  rfl

/-- Behind a backslash the first line of a name is a comment, and the other lines stay as they
are. -/
theorem contentLines_comment (name : String) :
    contentLines ("\\ " ++ name) = spilledLines name := by
  have lines : textLines ("\\ " ++ name) =
      (textLines name).modifyHead fun line => '\\' :: ' ' :: line := by
    simp [textLines, List.splitOn_cons_eq_if_modifyHead, Function.comp_def]
  rw [contentLines, spilledLines, lines]
  cases textLines name with
  | nil => rfl
  | cons line lines => exact List.filter_cons_of_neg (by simp [isComment])

/-- A name without a line break spills no line. -/
theorem spilledLines_eq_nil {name : String} (unbroken : '\n' ∉ name.toList) :
    spilledLines name = [] := by
  rw [spilledLines, textLines, List.splitOn_eq_singleton unbroken]
  rfl

/-! ## The text of a problem -/

namespace LinearProgram

variable {α : Type} [Scalar α] [Numeral α]

/-- The .lp text behind the comment with the name. -/
def sections (problem : LinearProgram α) : String :=
  "\n" ++ problem.sense.heading ++ "\n  obj: " ++ expressionText problem.objective ++
    problem.constraintSection ++ problem.boundSection ++ "\nEnd\n"

theorem lpText_eq (problem : LinearProgram α) :
    problem.lpText = "\\ " ++ problem.name ++ "\n" ++ problem.sections := by
  apply String.toList_inj.1
  simp [lpText, sections]

/-- A reader sees the lines that the name spills, and then the sections. -/
theorem contentLines_lpText (problem : LinearProgram α) :
    contentLines problem.lpText =
      spilledLines problem.name ++ contentLines problem.sections := by
  rw [lpText_eq, contentLines_append_break, contentLines_comment]

/-- Two names give the same content exactly if they spill the same lines, and so they do if neither
contains a line break. -/
theorem contentLines_rename_iff (problem : LinearProgram α) (first second : String) :
    (contentLines { problem with name := first }.lpText =
        contentLines { problem with name := second }.lpText ↔
      spilledLines first = spilledLines second) ∧
    ('\n' ∉ first.toList → '\n' ∉ second.toList →
      contentLines { problem with name := first }.lpText =
        contentLines { problem with name := second }.lpText) := by
  have exactly : contentLines { problem with name := first }.lpText =
        contentLines { problem with name := second }.lpText ↔
      spilledLines first = spilledLines second := by
    rw [contentLines_lpText, contentLines_lpText]
    -- The sections do not depend on the name.
    exact List.append_left_inj (contentLines problem.sections)
  refine ⟨exactly, fun unbroken unbroken' => exactly.2 ?_⟩
  rw [spilledLines_eq_nil unbroken, spilledLines_eq_nil unbroken']

/-- A problem with one constraint. -/
def cappedProblem (name : String) : LinearProgram Float where
  name := name
  sense := .maximize
  objective := [1]
  constraints := [⟨[1], .atMost, 2⟩]

/-- Names without line breaks give the same content, with backslashes in them or without. -/
theorem contentLines_rename_cappedProblem :
    '\n' ∉ ("draft" : String).toList ∧ '\n' ∉ ("\\ final" : String).toList ∧
      contentLines (cappedProblem "draft").lpText =
        contentLines (cappedProblem "\\ final").lpText :=
  ⟨by decide, by decide,
    (contentLines_rename_iff (cappedProblem "") "draft" "\\ final").2 (by decide) (by decide)⟩

/-- A name whose later lines a reader takes for an objective in the opposite sense and the end of
the problem. -/
theorem contentLines_rename_ne :
    contentLines (cappedProblem "draft\nMinimize\n  obj: x1\nEnd").lpText =
        ["Minimize".toList, "  obj: x1".toList, "End".toList] ++
          contentLines (cappedProblem "draft").lpText ∧
      contentLines (cappedProblem "draft\nMinimize\n  obj: x1\nEnd").lpText ≠
        contentLines (cappedProblem "draft").lpText := by
  constructor <;> decide +kernel

end LinearProgram

end SimplexMethod
