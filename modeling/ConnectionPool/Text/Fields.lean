/-!
Contract: cutting text at separators.

Owns:
- `cut?`, the two sides of the first occurrence of a separator;
- `fields`, the parts between all occurrences of one character;
- `joined`, the inverse of `fields`.

Does not own: what the parts mean.
-/

namespace ConnectionPool.Text

/-- What follows `start` in `text`, when `text` begins with it. -/
def after? : (start text : List Char) → Option (List Char)
  | [], text => some text
  | _ :: _, [] => none
  | wanted :: start, actual :: text =>
      if wanted = actual then after? start text else none

/-- The text on either side of the first occurrence of `separator`. -/
def cut? (separator : List Char) : List Char → Option (List Char × List Char)
  | [] => (after? separator []).map fun rest => ([], rest)
  | head :: tail =>
      match after? separator (head :: tail) with
      | some rest => some ([], rest)
      | none => (cut? separator tail).map fun sides => (head :: sides.1, sides.2)

/-- The parts of a text between the occurrences of `separator`; there is always one more part than
there are separators. -/
def fields (separator : Char) : List Char → List (List Char)
  | [] => [[]]
  | head :: tail =>
      if head = separator then
        [] :: fields separator tail
      else
        match fields separator tail with
        | [] => [[head]]
        | part :: parts => (head :: part) :: parts

/-- Parts written one after another with `separator` between them. -/
def joined (separator : Char) : List (List Char) → List Char
  | [] => []
  | [part] => part
  | part :: next :: parts => part ++ separator :: joined separator (next :: parts)

def firstLine (text : List Char) : List Char :=
  text.takeWhile (· != '\n')

theorem after?_eq_some_iff {start text rest : List Char} :
    after? start text = some rest ↔ text = start ++ rest := by
  induction start generalizing text with
  | nil => simp [after?, eq_comm]
  | cons wanted start inductionHypothesis =>
      cases text with
      | nil => simp [after?]
      | cons actual text =>
          by_cases same : wanted = actual
          · subst same
            simp [after?, inductionHypothesis]
          · have differs : ¬ actual = wanted := fun h => same h.symm
            simp [after?, same, differs]

/-- The two sides of a cut, put back around the separator, are the text. -/
theorem eq_of_cut? {separator text front back : List Char}
    (isCut : cut? separator text = some (front, back)) :
    text = front ++ separator ++ back := by
  induction text generalizing front with
  | nil =>
      obtain ⟨rest, found, sides⟩ := Option.map_eq_some_iff.1 isCut
      cases sides
      simpa using after?_eq_some_iff.1 found
  | cons head tail inductionHypothesis =>
      unfold cut? at isCut
      split at isCut
      · next rest found =>
          cases isCut
          simpa using after?_eq_some_iff.1 found
      · obtain ⟨sides, cutTail, paired⟩ := Option.map_eq_some_iff.1 isCut
        cases paired
        rw [@inductionHypothesis sides.1 cutTail]
        simp

theorem fields_ne_nil (separator : Char) (text : List Char) : fields separator text ≠ [] := by
  cases text with
  | nil => simp [fields]
  | cons head tail =>
      unfold fields
      split
      · simp
      · split <;> simp

/-- Joining the fields of a text gives the text back. -/
theorem joined_fields (separator : Char) (text : List Char) :
    joined separator (fields separator text) = text := by
  induction text with
  | nil => rfl
  | cons head tail inductionHypothesis =>
      unfold fields
      split
      · next isSeparator =>
          subst isSeparator
          cases split : fields head tail with
          | nil => exact absurd split (fields_ne_nil head tail)
          | cons part parts =>
              rw [split] at inductionHypothesis
              simp [joined, inductionHypothesis]
      · cases split : fields separator tail with
        | nil => exact absurd split (fields_ne_nil separator tail)
        | cons part parts =>
            rw [split] at inductionHypothesis
            cases parts with
            | nil => simpa [joined] using inductionHypothesis
            | cons next parts => simpa [joined] using inductionHypothesis

end ConnectionPool.Text
