import SimplexMethod.Event
import SimplexMethod.Proofs.LpFile.Expression

/-!
# Pivots that messages announce

A run makes pivots that are counted and pivots that drive an artificial column out, and it writes a
message about each. Such a message is read from left to right, without looking at the event behind
it: what it tells is found between fixed words. No message about anything else reads like one of
them, so the messages of a run give its pivots in their order.

## Main definitions

* `Announcement`: a pivot, as far as its message tells
* `Announcement.ofText?`: the pivot that a message announces
* `announcements`, `countedNumbers`: the pivots that messages announce, and the numbers of those
  that are counted

## Main results

* `Announcement.ofText?_text`: the message about an event announces the pivot that it tells of
-/

namespace SimplexMethod

/-! ## Reading texts -/

/-- What stands behind `mark` in a text that begins with it. -/
def behind? (mark : String) (text : List Char) : Option (List Char) := text.dropPrefix? mark.toList

/-- The whole number that a text begins with, and what stands behind it. -/
def readNumber? (text : List Char) : Option (Nat × List Char) :=
  match text.takeWhile Char.isDigit with
  | [] => none
  | digits => some (Nat.ofDigitChars 10 digits 0, text.dropWhile Char.isDigit)

theorem behind?_append (mark : String) (rest : List Char) :
    behind? mark (mark.toList ++ rest) = some rest := by
  simp [behind?, List.dropPrefix?_append_of_beq]

/-- A number is read back from its text. -/
theorem readNumber?_append (n : Nat) {rest : List Char} (ends : EndsNumber rest) :
    readNumber? ((toString n).toList ++ rest) = some (n, rest) := by
  have digits : (toString n).toList = Nat.toDigits 10 n := by
    rw [Nat.toString_eq_ofList_toDigits, String.toList_ofList]
  have all (char : Char) (member : char ∈ (toString n).toList) : char.isDigit = true :=
    isDigit_of_mem_toString member
  have stops : rest.takeWhile Char.isDigit = [] ∧ rest.dropWhile Char.isDigit = rest := by
    cases rest with
    | nil => exact ⟨rfl, rfl⟩
    | cons char rest => simp [ends char rfl]
  unfold readNumber?
  rw [List.takeWhile_append_of_pos all, List.dropWhile_append_of_pos all, stops.1, stops.2,
    List.append_nil, digits]
  split
  · rename_i empty
    exact absurd empty Nat.toDigits_ne_nil
  · rw [Nat.ofDigitChars_ten_toDigits]

/-! ## Messages about pivots -/

/-- A pivot, as far as its message tells. -/
inductive Announcement where
  /-- A counted pivot with its number and its cell. -/
  | counted (number row col : Nat)
  /-- A pivot that puts the column of the given name in the place of an artificial one. -/
  | drivenOut (row : Nat) (replacement : String)
deriving DecidableEq

namespace Announcement

/-- The number of a counted pivot. -/
def number? : Announcement → Option Nat
  | counted number _ _ => some number
  | drivenOut _ _ => none

/-- Read `iteration N: pivot at row R, column C`. -/
def counted? (text : List Char) : Option Announcement := do
  let (number, rest) ← readNumber? (← behind? "iteration " text)
  let (row, rest) ← readNumber? (← behind? ": pivot at row " rest)
  let (col, _) ← readNumber? (← behind? ", column " rest)
  return counted number row col

/-- Read `driving A out of row R with B`, where `A` goes up to the next blank and `B` up to the end
of the text. -/
def drivenOut? (text : List Char) : Option Announcement := do
  let rest ← behind? "driving " text
  let (row, rest) ← readNumber? (← behind? " out of row " (rest.dropWhile (· ≠ ' ')))
  return drivenOut row (String.ofList (← behind? " with " rest))

/-- The pivot that a message announces. -/
def ofText? (message : String) : Option Announcement :=
  (counted? message.toList).or (drivenOut? message.toList)

end Announcement

/-- The pivots that messages announce, in their order. -/
def announcements (messages : List String) : List Announcement :=
  messages.filterMap Announcement.ofText?

/-- The numbers of the counted ones among announced pivots, in their order. -/
def countedNumbers (announced : List Announcement) : List Nat :=
  announced.filterMap Announcement.number?

theorem countedNumbers_append (early late : List Announcement) :
    countedNumbers (early ++ late) = countedNumbers early ++ countedNumbers late :=
  List.filterMap_append

/-! ## Messages about events -/

namespace Event

variable {α : Type}

/-- The pivot that an event tells of. -/
def announcement? : Event α → Option Announcement
  | pivot number row col _ _ => some (.counted number row col)
  | drivenOut _ row replacement => some (.drivenOut row replacement)
  | _ => none

/-- The name in front of others in a message can be told from what follows. -/
def IsReadable : Event α → Prop
  | drivenOut artificial _ _ => ' ' ∉ artificial.toList
  | _ => True

/-- The fixed words that a message begins with. -/
def opening : Event α → String
  | standardForm .. => "standard form: "
  | created .. => "initialized simplex run: rows: "
  | phaseOne .. => "phase 1: infeasibility "
  | phaseTwo .. => "phase 2 after "
  | capReached .. => "iteration limit "
  | unbounded .. => "unbounded along column "
  | pivot .. => "iteration "
  | tableau .. => "tableau:\n"
  | infeasible .. => "infeasible after "
  | drivenOut .. => "driving "
  | redundant .. => "row "
  | optimum .. => "found optimum in "
  | solved .. => "solved "

theorem exists_text_eq [Numeral α] (event : Event α) :
    ∃ rest, event.text = event.opening ++ rest := by
  cases event <;> unfold text <;> simp only [String.append_assoc] <;> exact ⟨_, rfl⟩

end Event

namespace Announcement

variable {α : Type} [Numeral α]

theorem ofText?_text_pivot (number row col : Nat) (column : String) (value : α) :
    ofText? (Event.text (.pivot number row col column value)) = some (.counted number row col) := by
  let rest := " (".toList ++ (column ++ (" enters), " ++ ("value " ++ Numeral.text value))).toList
  have text : (Event.text (.pivot number row col column value)).toList =
      "iteration ".toList ++ ((toString number).toList ++ (": pivot at row ".toList ++
        ((toString row).toList ++ (", column ".toList ++ ((toString col).toList ++ rest))))) := by
    unfold Event.text
    simp only [String.toList_append, List.append_assoc, rest]
    rfl
  have reads : counted? (Event.text (.pivot number row col column value)).toList =
      some (.counted number row col) := by
    simp only [text, counted?, behind?_append, Option.bind_eq_bind, Option.bind_some]
    rw [readNumber?_append number (by simp [EndsNumber])]
    simp only [behind?_append, Option.bind_some]
    rw [readNumber?_append row (by simp [EndsNumber])]
    simp only [behind?_append, Option.bind_some]
    rw [readNumber?_append col (by simp [EndsNumber, rest])]
    rfl
  rw [ofText?, reads, Option.some_or]

theorem ofText?_text_drivenOut {artificial : String} (unbroken : ' ' ∉ artificial.toList)
    (row : Nat) (replacement : String) :
    ofText? (Event.text (α := α) (.drivenOut artificial row replacement)) =
      some (.drivenOut row replacement) := by
  have text : (Event.text (α := α) (.drivenOut artificial row replacement)).toList =
      "driving ".toList ++ (artificial.toList ++ (" out of row ".toList ++
        ((toString row).toList ++ (" with ".toList ++ replacement.toList)))) := by
    unfold Event.text
    simp only [String.toList_append, List.append_assoc]
    rfl
  have silent (rest : List Char) : counted? ("driving ".toList ++ rest) = none := by
    simp [counted?, behind?, List.dropPrefix?]
  have skips (rest : List Char) : (artificial.toList ++ (" out of row ".toList ++ rest)).dropWhile
      (· ≠ ' ') = " out of row ".toList ++ rest := by
    rw [List.dropWhile_append_of_pos (decide_ne_of_notMem unbroken)]
    simp
  rw [ofText?, text, silent, Option.none_or]
  simp only [drivenOut?, behind?_append, skips, Option.bind_eq_bind, Option.bind_some]
  rw [readNumber?_append row (by simp [EndsNumber])]
  simp only [behind?_append, Option.bind_some, String.ofList_toList]
  rfl

/-- Messages about anything else than a pivot announce none. -/
theorem ofText?_text_eq_none {event : Event α} (silent : event.announcement? = none) :
    ofText? event.text = none := by
  obtain ⟨rest, text⟩ := event.exists_text_eq
  rw [text, ofText?, String.toList_append]
  cases event with
  | pivot => cases silent
  | drivenOut => cases silent
  | capReached =>
    -- Behind the first word of this message there is no number.
    simp [Event.opening, counted?, drivenOut?, behind?, readNumber?, List.dropPrefix?]
  | _ => simp [Event.opening, counted?, drivenOut?, behind?, List.dropPrefix?]

/-- The message about an event announces the pivot that the event tells of. -/
theorem ofText?_text {event : Event α} (readable : event.IsReadable) :
    ofText? event.text = event.announcement? := by
  cases event with
  | pivot number row col column value => exact ofText?_text_pivot ..
  | drivenOut artificial row replacement => exact ofText?_text_drivenOut readable ..
  | _ => exact ofText?_text_eq_none rfl

end Announcement

section Messages

variable {α : Type} [Numeral α]

theorem announcements_append (early late : List (Event α)) :
    announcements ((early ++ late).map Event.text) =
      announcements (early.map Event.text) ++ announcements (late.map Event.text) := by
  rw [List.map_append, announcements, List.filterMap_append]
  rfl

theorem announcements_cons (event : Event α) (events : List (Event α))
    (readable : event.IsReadable) :
    announcements ((event :: events).map Event.text) =
      event.announcement?.toList ++ announcements (events.map Event.text) := by
  rw [announcements, List.map_cons, List.filterMap_cons, Announcement.ofText?_text readable]
  cases event.announcement? <;> rfl

theorem announcements_eq_nil (events : List (Event α))
    (silent : ∀ event ∈ events, event.announcement? = none) :
    announcements (events.map Event.text) = [] := by
  refine List.filterMap_eq_nil_iff.2 fun message member => ?_
  obtain ⟨event, event_mem, rfl⟩ := List.mem_map.1 member
  exact Announcement.ofText?_text_eq_none (silent event event_mem)

end Messages

end SimplexMethod
