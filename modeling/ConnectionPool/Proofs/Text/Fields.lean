import ConnectionPool.Text.Fields

/-!
Contract: what is put together with separators is taken apart at the same places.

Owns:
- `fields_joined`, the other direction of `joined_fields`, and `fields_eq_iff`;
- `cut?_eq_some_iff` and `cut?_eq_none_iff`, what a cut at the first occurrence is;
- where `cut?` cuts a text whose front cannot hold the start of the separator;
- where `cut?` cuts at a doubled separator among joined parts.

Does not own: what the parts mean.
-/

namespace ConnectionPool.Text

section

variable {separator : Char}

theorem fields_of_not_mem {part : List Char} (free : separator ∉ part) :
    fields separator part = [part] := by
  induction part with
  | nil => rfl
  | cons head tail inductionHypothesis =>
      have headDiffers : head ≠ separator := fun same => free (by simp [same])
      have tailFree : separator ∉ tail := fun inTail => free (by simp [inTail])
      simp [fields, headDiffers, inductionHypothesis tailFree]

theorem fields_append_separator {part : List Char} (free : separator ∉ part) (rest : List Char) :
    fields separator (part ++ separator :: rest) = part :: fields separator rest := by
  induction part with
  | nil => simp [fields]
  | cons head tail inductionHypothesis =>
      have headDiffers : head ≠ separator := fun same => free (by simp [same])
      have tailFree : separator ∉ tail := fun inTail => free (by simp [inTail])
      simp [fields, headDiffers, inductionHypothesis tailFree]

/-- Parts that do not contain the separator are the fields of the text they are joined to. -/
theorem fields_joined {parts : List (List Char)} (nonempty : parts ≠ [])
    (free : ∀ part ∈ parts, separator ∉ part) :
    fields separator (joined separator parts) = parts := by
  induction parts with
  | nil => exact absurd rfl nonempty
  | cons part parts inductionHypothesis =>
      have partFree : separator ∉ part := free part (by simp)
      cases parts with
      | nil => simpa [joined] using fields_of_not_mem partFree
      | cons next parts =>
          have restFree : ∀ part ∈ next :: parts, separator ∉ part :=
            fun part isPart => free part (List.mem_cons_of_mem _ isPart)
          rw [joined, fields_append_separator partFree,
            inductionHypothesis (by simp) restFree]

theorem not_mem_of_mem_fields {text part : List Char} (isPart : part ∈ fields separator text) :
    separator ∉ part := by
  induction text generalizing part with
  | nil =>
      obtain rfl := List.mem_singleton.1 isPart
      exact List.not_mem_nil
  | cons head tail inductionHypothesis =>
      unfold fields at isPart
      split at isPart
      · obtain rfl | inTail := List.mem_cons.1 isPart
        · exact List.not_mem_nil
        · exact inductionHypothesis inTail
      · next differs =>
          cases split : fields separator tail with
          | nil => exact absurd split (fields_ne_nil separator tail)
          | cons first parts =>
              rw [split] at isPart inductionHypothesis
              obtain rfl | inTail := List.mem_cons.1 isPart
              · exact List.not_mem_cons_of_ne_of_not_mem (Ne.symm differs)
                  (inductionHypothesis List.mem_cons_self)
              · exact inductionHypothesis (List.mem_cons_of_mem _ inTail)

/-- The fields of a text are the parts without the separator that it is joined from. -/
theorem fields_eq_iff {text : List Char} {parts : List (List Char)} : fields separator text = parts ↔
    parts ≠ [] ∧ (∀ part ∈ parts, separator ∉ part) ∧ text = joined separator parts := by
  constructor
  · rintro rfl
    exact ⟨fields_ne_nil separator text, fun _ => not_mem_of_mem_fields,
      (joined_fields separator text).symm⟩
  · rintro ⟨nonempty, free, rfl⟩
    exact fields_joined nonempty free

theorem mem_joined {char : Char} {parts : List (List Char)} (shown : char ∈ joined separator parts) :
    char = separator ∨ ∃ part ∈ parts, char ∈ part := by
  induction parts with
  | nil => simp [joined] at shown
  | cons part parts inductionHypothesis =>
      cases parts with
      | nil => exact .inr ⟨part, by simp, shown⟩
      | cons next parts =>
          simp only [joined, List.mem_append, List.mem_cons] at shown
          obtain inPart | isSeparator | inRest := shown
          · exact .inr ⟨part, by simp, inPart⟩
          · exact .inl isSeparator
          · obtain isSeparator | ⟨other, isPart, inOther⟩ := inductionHypothesis inRest
            · exact .inl isSeparator
            · exact .inr ⟨other, List.mem_cons_of_mem _ isPart, inOther⟩

end

section

variable {separator text front back : List Char}

theorem cut?_ne_none (isSplit : text = front ++ (separator ++ back)) : cut? separator text ≠ none := by
  induction front generalizing text with
  | nil =>
      have found : after? separator text = some back := after?_eq_some_iff.2 isSplit
      cases text <;> simp [cut?, found]
  | cons head front inductionHypothesis =>
      subst isSplit
      rw [List.cons_append, cut?]
      split
      · simp
      · simpa using inductionHypothesis rfl

/-- No occurrence of the separator is in front of the cut. -/
theorem length_le_of_cut? {otherFront otherBack : List Char} (isCut : cut? separator text = some (front, back))
    (isSplit : text = otherFront ++ (separator ++ otherBack)) : front.length ≤ otherFront.length := by
  induction text generalizing front otherFront with
  | nil =>
      obtain ⟨rest, -, sides⟩ := Option.map_eq_some_iff.1 isCut
      cases sides
      exact Nat.zero_le _
  | cons head tail inductionHypothesis =>
      unfold cut? at isCut
      split at isCut
      · cases isCut
        exact Nat.zero_le _
      · next notHere =>
          obtain ⟨sides, isCutTail, paired⟩ := Option.map_eq_some_iff.1 isCut
          cases paired
          cases otherFront with
          | nil => exact absurd (notHere.symm.trans (after?_eq_some_iff.2 isSplit)) (by simp)
          | cons otherHead otherFront =>
              have shorter := inductionHypothesis isCutTail (List.cons.inj isSplit).2
              exact Nat.succ_le_succ shorter

theorem cut?_eq_none_iff :
    cut? separator text = none ↔ ∀ front back, text ≠ front ++ separator ++ back := by
  constructor
  · intro isNone front back isSplit
    rw [List.append_assoc] at isSplit
    exact cut?_ne_none isSplit isNone
  · intro nowhere
    cases isCut : cut? separator text with
    | none => rfl
    | some sides => exact absurd (eq_of_cut? isCut) (nowhere sides.1 sides.2)

/-- A text is cut at the first occurrence of the separator. -/
theorem cut?_eq_some_iff : cut? separator text = some (front, back) ↔
    text = front ++ separator ++ back ∧
      ∀ otherFront otherBack, text = otherFront ++ separator ++ otherBack →
        front.length ≤ otherFront.length := by
  constructor
  · intro isCut
    refine ⟨eq_of_cut? isCut, fun otherFront otherBack isSplit => ?_⟩
    rw [List.append_assoc] at isSplit
    exact length_le_of_cut? isCut isSplit
  · rintro ⟨isSplit, isFirst⟩
    cases isCut : cut? separator text with
    | none => exact absurd isSplit (cut?_eq_none_iff.1 isCut front back)
    | some sides =>
        have sameText := eq_of_cut? isCut
        have shorter : sides.1.length ≤ front.length :=
          length_le_of_cut? isCut (isSplit.trans (List.append_assoc ..))
        have longer : front.length ≤ sides.1.length := isFirst sides.1 sides.2 sameText
        rw [isSplit, List.append_assoc, List.append_assoc] at sameText
        obtain ⟨sameFront, sameRest⟩ := List.append_inj sameText (Nat.le_antisymm longer shorter)
        rw [sameFront, List.append_cancel_left sameRest]

end

section

variable {start : Char} {more : List Char}

/-- A front without the first character of the separator is on the front side of the cut. -/
theorem cut?_append_of_not_mem {front : List Char} (free : start ∉ front) (text : List Char) :
    cut? (start :: more) (front ++ text) =
      (cut? (start :: more) text).map fun sides => (front ++ sides.1, sides.2) := by
  induction front with
  | nil => simp
  | cons head front inductionHypothesis =>
      have headDiffers : ¬ start = head := fun same => free (by simp [same])
      have frontFree : start ∉ front := fun inFront => free (by simp [inFront])
      simp [cut?, after?, headDiffers, inductionHypothesis frontFree, Option.map_map,
        Function.comp_def]

theorem cut?_of_not_mem {text : List Char} (free : start ∉ text) :
    cut? (start :: more) text = none := by
  have atEnd : cut? (start :: more) [] = none := rfl
  have isCut : cut? (start :: more) (text ++ []) =
      (cut? (start :: more) []).map fun sides => (text ++ sides.1, sides.2) :=
    cut?_append_of_not_mem free []
  simpa [atEnd] using isCut

theorem cut?_separator (back : List Char) :
    cut? (start :: more) (start :: more ++ back) = some ([], back) := by
  have found : after? (start :: more) (start :: (more ++ back)) = some back :=
    after?_eq_some_iff.2 rfl
  simp [cut?, found]

theorem cut?_append_separator {front : List Char} (free : start ∉ front) (back : List Char) :
    cut? (start :: more) (front ++ (start :: more ++ back)) = some (front, back) := by
  rw [cut?_append_of_not_mem free, cut?_separator]
  simp

end

section

variable {separator : Char}

theorem cut?_double_separator {text : List Char} (differs : text.head? ≠ some separator) :
    cut? [separator, separator] (separator :: text) =
      (cut? [separator, separator] text).map fun sides => (separator :: sides.1, sides.2) := by
  cases text with
  | nil => simp [cut?, after?]
  | cons head text =>
      have headDiffers : ¬ separator = head := fun same => differs (by simp [same])
      simp [cut?, after?, headDiffers]

/-- Among joined parts, none of them empty, no separator is doubled: a cut at a doubled separator is
made behind them. -/
theorem cut?_double_joined {parts : List (List Char)} (free : ∀ part ∈ parts, separator ∉ part)
    (shown : ∀ part ∈ parts, part ≠ []) (text : List Char) :
    cut? [separator, separator] (joined separator parts ++ text) =
      (cut? [separator, separator] text).map
        fun sides => (joined separator parts ++ sides.1, sides.2) := by
  induction parts with
  | nil => simp [joined]
  | cons part parts inductionHypothesis =>
      have partFree : separator ∉ part := free part (by simp)
      cases parts with
      | nil => simpa [joined] using cut?_append_of_not_mem partFree text
      | cons next parts =>
          have nextFree : separator ∉ next := free next (by simp)
          have nextShown : next ≠ [] := shown next (by simp)
          have headDiffers : (joined separator (next :: parts) ++ text).head? ≠ some separator := by
            cases next with
            | nil => exact absurd rfl nextShown
            | cons head next =>
                have differs : ¬ head = separator := fun same => nextFree (by simp [same])
                cases parts <;> simpa [joined] using differs
          have behindPart := inductionHypothesis
            (fun part isPart => free part (List.mem_cons_of_mem _ isPart))
            (fun part isPart => shown part (List.mem_cons_of_mem _ isPart))
          rw [joined, List.append_assoc, cut?_append_of_not_mem partFree, List.cons_append,
            cut?_double_separator headDiffers, behindPart]
          simp [Option.map_map, Function.comp_def]

end

end ConnectionPool.Text
