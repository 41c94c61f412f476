import SimplexMethod.LpFile
import SimplexMethod.Proofs.Decimal.DoublePrecision

/-!
# The text of a linear expression

A term is read from left to right: its sign, its magnitude up to the blank behind it, and the index
of its variable up to the next character that is not a digit. A magnitude that is not written is
one. So the text of an expression determines its terms, and with the number of variables it
determines all coefficients, except that zeros of both signs are left out.

## Main results

* `span_inj`, `first_inj`, `last_inj`: texts that are split where a kind of character ends, or at
  the first or last occurrence of a character
* `expressionChars_inj`: the text of an expression determines its terms
* `forall₂_of_expressionText_eq`: with their number it determines the coefficients as numbers
* `break_notMem_expressionText`: an expression stands on one line
-/

namespace SimplexMethod

open Scalar

/-! ## Splitting texts -/

section Split

variable {a b rest rest' : List Char} {hits : Char → Bool}

/-- A text splits in one way where the characters of a kind end. -/
theorem span_inj (a_hits : ∀ char ∈ a, hits char = true) (b_hits : ∀ char ∈ b, hits char = true)
    (ends : ∀ char ∈ rest.head?, hits char = false)
    (ends' : ∀ char ∈ rest'.head?, hits char = false) (same : a ++ rest = b ++ rest') :
    a = b ∧ rest = rest' := by
  have stops {rest : List Char} (ends : ∀ char ∈ rest.head?, hits char = false) :
      rest.takeWhile hits = [] := by
    cases rest with
    | nil => rfl
    | cons char rest => exact List.takeWhile_cons_of_neg (Bool.eq_false_iff.1 (ends char rfl))
  have prefixes := congrArg (List.takeWhile hits) same
  rw [List.takeWhile_append_of_pos a_hits, List.takeWhile_append_of_pos b_hits, stops ends,
    stops ends', List.append_nil, List.append_nil] at prefixes
  subst prefixes
  exact ⟨rfl, List.append_cancel_left same⟩

theorem decide_ne_of_notMem {mark : Char} (free : mark ∉ a) :
    ∀ char ∈ a, decide (char ≠ mark) = true := by
  intro char member
  refine decide_eq_true ?_
  rintro rfl
  exact free member

/-- A text splits in one way at the first occurrence of a character. -/
theorem first_inj {mark : Char} (a_free : mark ∉ a) (b_free : mark ∉ b)
    (same : a ++ mark :: rest = b ++ mark :: rest') : a = b ∧ rest = rest' := by
  obtain ⟨front, whole⟩ := span_inj (decide_ne_of_notMem a_free) (decide_ne_of_notMem b_free)
    (by simp) (by simp) same
  exact ⟨front, (List.cons.inj whole).2⟩

/-- A text splits in one way at the last occurrence of a character. -/
theorem last_inj {mark : Char} (a_free : mark ∉ a) (b_free : mark ∉ b)
    (same : rest ++ mark :: a = rest' ++ mark :: b) : rest = rest' ∧ a = b := by
  -- Seen from the end it is the first occurrence.
  have reversed := congrArg List.reverse same
  rw [List.reverse_append, List.reverse_append, List.reverse_cons, List.reverse_cons,
    List.append_assoc, List.append_assoc] at reversed
  obtain ⟨suffix, front⟩ := first_inj (mt List.mem_reverse.1 a_free) (mt List.mem_reverse.1 b_free)
    reversed
  exact ⟨List.reverse_inj.1 front, List.reverse_inj.1 suffix⟩

end Split

/-! ## Numbers of variables and rows -/

theorem isDigit_of_mem_toString {n : Nat} {char : Char} (member : char ∈ (toString n).toList) :
    char.isDigit = true := by
  rw [Nat.toString_eq_ofList_toDigits, String.toList_ofList] at member
  exact Nat.isDigit_of_mem_toDigits (by decide) (by decide) member

/-- A whole number is read up to the first character that is not a digit. -/
theorem toString_inj {m n : Nat} {rest rest' : List Char}
    (ends : ∀ char ∈ rest.head?, char.isDigit = false)
    (ends' : ∀ char ∈ rest'.head?, char.isDigit = false)
    (same : (toString m).toList ++ rest = (toString n).toList ++ rest') : m = n ∧ rest = rest' := by
  obtain ⟨digits, behind⟩ := span_inj (fun _ => isDigit_of_mem_toString)
    (fun _ => isDigit_of_mem_toString) ends ends' same
  exact ⟨Nat.repr_injective (String.toList_inj.1 digits), behind⟩

/-! ## Terms -/

/-- The magnitude of a term, with the blank behind it. -/
def magnitudeChars {α : Type} [Scalar α] [Numeral α] (v : α) : List Char :=
  (if abs v == 1 then "" else Numeral.text (abs v) ++ " ").toList

/-- A term is its sign, its magnitude, and the number of its variable behind a letter. -/
theorem toList_termText {α : Type} [Scalar α] [Numeral α] (first : Bool) (v : α) (index : Nat) :
    (termText first v index).toList = (signText first (decide (v < 0))).toList ++
      (magnitudeChars v ++ 'x' :: (toString (index + 1)).toList) := by
  simp [termText, magnitudeChars, Column.name]

variable {v w : Float}

/-- A magnitude is read up to the name of the variable. -/
theorem magnitudeChars_inj (v_finite : isFinite v) (w_finite : isFinite w)
    {rest rest' : List Char} (same : magnitudeChars v ++ 'x' :: rest =
      magnitudeChars w ++ 'x' :: rest') : abs v = abs w ∧ rest = rest' := by
  -- A magnitude that is written is followed by a blank, and one that is not by the name.
  have mixed {v : Float} {rest rest' : List Char} (finite : isFinite v)
      (same : (Numeral.text (abs v) ++ " ").toList ++ 'x' :: rest = 'x' :: rest') : False := by
    rw [String.toList_append, List.append_assoc] at same
    obtain ⟨-, behind⟩ := span_inj (b := []) (fun _ => isNumberChar_of_mem_doubleText_abs finite)
      (by simp) (by simp [Decimal.isNumberChar]) (by simp [Decimal.isNumberChar]) same
    cases behind
  unfold magnitudeChars at same
  split at same <;> split at same
  · rename_i v_one w_one
    rw [eq_one_of_beq v_one, eq_one_of_beq w_one]
    exact ⟨rfl, (List.cons.inj same).2⟩
  · exact (mixed w_finite same.symm).elim
  · exact (mixed v_finite same).elim
  · rw [String.toList_append, String.toList_append, List.append_assoc, List.append_assoc] at same
    obtain ⟨text, behind⟩ := span_inj (fun _ => isNumberChar_of_mem_doubleText_abs v_finite)
      (fun _ => isNumberChar_of_mem_doubleText_abs w_finite) (by simp [Decimal.isNumberChar])
      (by simp [Decimal.isNumberChar]) same
    refine ⟨doubleText_injective (String.toList_inj.1 text), ?_⟩
    simpa using behind

/-- A text does not start with a minus. -/
def IsUnsigned (text : List Char) : Prop := ∀ char ∈ text.head?, char ≠ '-'

/-- What follows a number in a text does not go on with it. -/
def EndsNumber (text : List Char) : Prop := ∀ char ∈ text.head?, char.isDigit = false

theorem isUnsigned_magnitudeChars (finite : isFinite v) (rest : List Char) :
    IsUnsigned (magnitudeChars v ++ 'x' :: rest) := by
  unfold magnitudeChars
  split
  · simp [IsUnsigned]
  · rw [String.toList_append, List.append_assoc]
    cases text : (Numeral.text (abs v)).toList with
    | nil => simp [IsUnsigned]
    | cons char chars =>
      have number : Decimal.isNumberChar char = true :=
        isNumberChar_of_mem_doubleText_abs finite (text ▸ List.mem_cons_self)
      rintro other head rfl
      obtain rfl : char = '-' := by simpa using head
      cases number

/-- A sign is read before what is written without one. -/
theorem signText_inj {first negative negative' : Bool} {rest rest' : List Char}
    (unsigned : IsUnsigned rest) (unsigned' : IsUnsigned rest')
    (same : (signText first negative).toList ++ rest = (signText first negative').toList ++ rest') :
    negative = negative' ∧ rest = rest' := by
  cases first <;> cases negative <;> cases negative' <;> simp [signText] at same ⊢
  · exact same
  · exact same
  · exact same
  · exact unsigned '-' (by rw [same]; rfl) rfl
  · exact unsigned' '-' (by rw [← same]; rfl) rfl
  · exact same

/-- A term is read up to the end of the number of its variable. -/
theorem termText_inj {first : Bool} {i j : Nat} {rest rest' : List Char}
    (v_finite : isFinite v) (w_finite : isFinite w) (ends : EndsNumber rest)
    (ends' : EndsNumber rest')
    (same : (termText first v i).toList ++ rest = (termText first w j).toList ++ rest') :
    (v < 0 ↔ w < 0) ∧ abs v = abs w ∧ i = j ∧ rest = rest' := by
  simp only [toList_termText, List.append_assoc, List.cons_append] at same
  obtain ⟨sign, unsigned⟩ := signText_inj (isUnsigned_magnitudeChars v_finite _)
    (isUnsigned_magnitudeChars w_finite _) same
  obtain ⟨magnitude, named⟩ := magnitudeChars_inj v_finite w_finite unsigned
  obtain ⟨index, behind⟩ := toString_inj ends ends' named
  exact ⟨decide_eq_decide.1 sign, magnitude, Nat.succ.inj index, behind⟩

/-! ## Expressions -/

/-- The terms that are written have finite coefficients other than zero. -/
def IsTerm (term : Float × Nat) : Prop := isFinite term.1 = true ∧ (term.1 == 0) = false

/-- Terms are equal if their signs, magnitudes and variables are. -/
theorem term_inj {first : Bool} {term term' : Float × Nat} {rest rest' : List Char}
    (isTerm : IsTerm term) (isTerm' : IsTerm term') (ends : EndsNumber rest)
    (ends' : EndsNumber rest')
    (same : (termText first term.1 term.2).toList ++ rest =
      (termText first term'.1 term'.2).toList ++ rest') : term = term' ∧ rest = rest' := by
  obtain ⟨sign, magnitude, index, behind⟩ := termText_inj isTerm.1 isTerm'.1 ends ends' same
  exact ⟨Prod.ext (eq_of_abs_eq isTerm.1 isTerm'.1 isTerm.2 isTerm'.2 sign magnitude) index, behind⟩

/-- The terms behind the first one. -/
def laterChars (terms : List (Float × Nat)) : List Char :=
  terms.flatMap fun term => (termText false term.1 term.2).toList

/-- A later term starts with a blank. -/
theorem endsNumber_laterChars (terms : List (Float × Nat)) : EndsNumber (laterChars terms) := by
  cases terms with
  | nil => simp [EndsNumber, laterChars]
  | cons term terms =>
    have blank (negative : Bool) : (signText false negative).toList.head? = some ' ' := by
      cases negative <;> rfl
    rw [laterChars, List.flatMap_cons, toList_termText]
    simp [EndsNumber, List.head?_append, blank]

theorem laterChars_ne_nil {term : Float × Nat} {terms : List (Float × Nat)} :
    laterChars (term :: terms) ≠ [] := by
  rw [laterChars, List.flatMap_cons, toList_termText]
  simp

theorem laterChars_inj {terms terms' : List (Float × Nat)} (isTerm : ∀ term ∈ terms, IsTerm term)
    (isTerm' : ∀ term ∈ terms', IsTerm term) (same : laterChars terms = laterChars terms') :
    terms = terms' := by
  induction terms generalizing terms' with
  | nil =>
    cases terms' with
    | nil => rfl
    | cons term terms' => exact (laterChars_ne_nil same.symm).elim
  | cons term terms ih =>
    obtain ⟨head, tail⟩ := List.forall_mem_cons.1 isTerm
    cases terms' with
    | nil => exact (laterChars_ne_nil same).elim
    | cons term' terms' =>
      obtain ⟨head', tail'⟩ := List.forall_mem_cons.1 isTerm'
      obtain ⟨rfl, behind⟩ := term_inj head head' (endsNumber_laterChars terms)
        (endsNumber_laterChars terms') same
      rw [ih tail tail' behind]

/-- The characters of an expression: a zero, or a first term and later ones. -/
def expressionChars : List (Float × Nat) → List Char
  | [] => ['0']
  | term :: terms => (termText true term.1 term.2).toList ++ laterChars terms

theorem toList_expressionText (coefficients : List Float) :
    (expressionText coefficients).toList = expressionChars (nonzeroTerms coefficients) := by
  unfold expressionText
  cases nonzeroTerms coefficients with
  | nil => rfl
  | cons term terms =>
    simp [expressionChars, laterChars, String.toList_join, List.flatMap_map]

/-- Without terms no variable is named. -/
theorem expressionChars_cons_ne (term : Float × Nat) (terms : List (Float × Nat)) :
    expressionChars (term :: terms) ≠ expressionChars [] := by
  intro same
  have named : 'x' ∈ expressionChars (term :: terms) := by
    rw [expressionChars, toList_termText]
    simp
  rw [same] at named
  exact absurd named (by decide)

theorem expressionChars_inj {terms terms' : List (Float × Nat)}
    (isTerm : ∀ term ∈ terms, IsTerm term) (isTerm' : ∀ term ∈ terms', IsTerm term)
    (same : expressionChars terms = expressionChars terms') : terms = terms' := by
  cases terms with
  | nil =>
    cases terms' with
    | nil => rfl
    | cons term' terms' => exact (expressionChars_cons_ne _ _ same.symm).elim
  | cons term terms =>
    obtain ⟨head, tail⟩ := List.forall_mem_cons.1 isTerm
    cases terms' with
    | nil => exact (expressionChars_cons_ne _ _ same).elim
    | cons term' terms' =>
      obtain ⟨head', tail'⟩ := List.forall_mem_cons.1 isTerm'
      obtain ⟨rfl, behind⟩ := term_inj head head' (endsNumber_laterChars terms)
        (endsNumber_laterChars terms') same
      rw [laterChars_inj tail tail' behind]

/-! ## Coefficients -/

theorem mem_nonzeroTerms_iff {coefficients : List Float} {value : Float} {index : Nat} :
    (value, index) ∈ nonzeroTerms coefficients ↔
      coefficients[index]? = some value ∧ (value == 0) = false := by
  rw [nonzeroTerms, List.mem_filter, List.mem_zipIdx_iff_getElem?]
  exact and_congr_right fun _ => (Bool.not_eq_true' _).to_iff

theorem isTerm_of_mem_nonzeroTerms {coefficients : List Float}
    (finite : ∀ value ∈ coefficients, isFinite value = true) {term : Float × Nat}
    (member : term ∈ nonzeroTerms coefficients) : IsTerm term := by
  obtain ⟨at_index, nonzero⟩ := mem_nonzeroTerms_iff.1 member
  exact ⟨finite _ (List.mem_of_getElem? at_index), nonzero⟩

/-- Coefficients with the same text are equal as numbers: zeros are left out, whatever their sign,
and all other coefficients are the same. -/
theorem forall₂_of_expressionText_eq {first second : List Float}
    (finite : ∀ value ∈ first, isFinite value = true)
    (finite' : ∀ value ∈ second, isFinite value = true) (length : first.length = second.length)
    (same : expressionText first = expressionText second) :
    List.Forall₂ (fun v w => v == w) first second := by
  have chars := congrArg String.toList same
  rw [toList_expressionText, toList_expressionText] at chars
  have terms := expressionChars_inj (fun _ => isTerm_of_mem_nonzeroTerms finite)
    (fun _ => isTerm_of_mem_nonzeroTerms finite') chars
  refine List.forall₂_iff_get.2 ⟨length, fun index inside inside' => ?_⟩
  rw [List.get_eq_getElem, List.get_eq_getElem]
  -- A coefficient that is not zero is found among the terms of both lists.
  have listed {values values' : List Float} (inside : index < values.length)
      (terms : nonzeroTerms values = nonzeroTerms values')
      (nonzero : (values[index] == 0) = false) : values'[index]? = some values[index] := by
    have member := mem_nonzeroTerms_iff.2 ⟨List.getElem?_eq_getElem inside, nonzero⟩
    rw [terms] at member
    exact (mem_nonzeroTerms_iff.1 member).1
  have reflexive {value : Float} (finite : isFinite value) : value == value := by
    rw [Float.beq_self_iff, Ne, ← decide_eq_false_iff_not, ← Float.isNaN_eq_decide_eq_nan]
    exact isNaN_of_isFinite finite
  cases zero : first[index] == 0 with
  | false =>
    have found := listed inside terms zero
    rw [List.getElem?_eq_getElem inside', Option.some_inj] at found
    rw [found]
    exact reflexive (finite _ (List.getElem_mem inside))
  | true =>
    cases zero' : second[index] == 0 with
    | false =>
      have found := listed inside' terms.symm zero'
      rw [List.getElem?_eq_getElem inside, Option.some_inj] at found
      rw [found]
      exact reflexive (finite' _ (List.getElem_mem inside'))
    | true => exact PartialEquivBEq.trans zero (PartialEquivBEq.symm zero')

/-! ## Lines -/

/-- A finite number is written without any other characters than those of numbers. -/
theorem notMem_doubleText (finite : isFinite v) {char : Char}
    (other : Decimal.isNumberChar char = false) (unsigned : char ≠ '-') :
    char ∉ (doubleText v).toList := by
  intro member
  rcases char_of_mem_doubleText finite member with number | minus
  · exact absurd number (Bool.eq_false_iff.1 other)
  · exact unsigned minus

theorem break_notMem_toString (n : Nat) : '\n' ∉ (toString n).toList := fun member =>
  absurd (isDigit_of_mem_toString member) (by decide)

theorem break_notMem_termText (first : Bool) (finite : isFinite v) (index : Nat) :
    '\n' ∉ (termText first v index).toList := by
  have sign : '\n' ∉ (signText first (decide (v < 0))).toList := by
    cases first <;> cases decide (v < 0) <;> decide
  have magnitude : '\n' ∉ magnitudeChars v := by
    unfold magnitudeChars
    split
    · decide
    · rw [String.toList_append, List.mem_append, not_or]
      exact ⟨notMem_doubleText ((isFinite_abs v).trans finite) (by decide) (by decide), by decide⟩
  rw [toList_termText, List.mem_append, List.mem_append, List.mem_cons]
  rintro (member | member | member | member)
  · exact sign member
  · exact magnitude member
  · exact absurd member (by decide)
  · exact break_notMem_toString _ member

/-- An expression stands on one line. -/
theorem break_notMem_expressionText {coefficients : List Float}
    (finite : ∀ value ∈ coefficients, isFinite value = true) :
    '\n' ∉ (expressionText coefficients).toList := by
  have isTerm : ∀ term ∈ nonzeroTerms coefficients, IsTerm term :=
    fun _ => isTerm_of_mem_nonzeroTerms finite
  rw [toList_expressionText]
  cases terms : nonzeroTerms coefficients with
  | nil => decide
  | cons term terms =>
    rw [terms, List.forall_mem_cons] at isTerm
    rw [expressionChars, laterChars, List.mem_append, List.mem_flatMap]
    rintro (head | ⟨later, member, tail⟩)
    · exact break_notMem_termText true isTerm.1.1 term.2 head
    · exact break_notMem_termText false (isTerm.2 later member).1 later.2 tail

end SimplexMethod
