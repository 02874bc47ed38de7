import ConnectionPool.Proofs.Text.Numeral
import ConnectionPool.Proofs.Toml.Quotation
import ConnectionPool.Toml.Reader

/-!
Contract: lines that are written one after another are read one after another.

Owns:
- `Denotes`, a written value on a line of its own, for strings, whole numbers and booleans;
- `IsLine`, the text of one line, for pairs with a plain key;
- `ReadsAs`, the text of several lines, which is closed under appending.

Does not own: what lines make up a document.
-/

namespace ConnectionPool.Toml

open Text

/-! ## Numbers -/

namespace Number

theorem isDigit_of_mem_render {number : Nat} {char : Char}
    (shown : char ∈ Numeral.render 10 number) : char.isDigit = true :=
  Nat.isDigit_of_mem_toDigits (by decide) (by decide) shown

theorem ne_of_isDigit {char other : Char} (digit : char.isDigit = true) (noDigit : other.isDigit = false) :
    char ≠ other := by
  rintro rfl
  rw [digit] at noDigit
  cases noDigit

theorem isDigit_of_isDigit {char : Char} (digit : char.isDigit = true) : isDigit 10 char = true := by
  have bounds : '0' ≤ char ∧ char ≤ '9' := by
    simp only [Char.isDigit, Bool.and_eq_true, decide_eq_true_eq] at digit
    exact digit
  have value : char.toNat - '0'.toNat < 10 := by
    have high : char.toNat ≤ '9'.toNat := bounds.2
    have nine : '9'.toNat = 57 := rfl
    have zero : '0'.toNat = 48 := rfl
    omega
  simp only [isDigit, Numeral.digitValue?, if_pos bounds, if_pos value, Option.isSome_some]

variable {digits rest : List Char}

theorem moreDigits_digits (all : ∀ char ∈ digits, char.isDigit = true) :
    moreDigits 10 (digits ++ '\n' :: rest) = (digits, '\n' :: rest) := by
  induction digits with
  | nil =>
      have noDigit : isDigit 10 '\n' = false := by decide
      simp [moreDigits, noDigit]
  | cons digit digits inductionHypothesis =>
      have notUnderscore : digit ≠ '_' := ne_of_isDigit (all digit (by simp)) (by decide)
      have isFirst := isDigit_of_isDigit (all digit (by simp))
      have later := inductionHypothesis fun char isChar => all char (List.mem_cons_of_mem _ isChar)
      rw [List.cons_append]
      unfold moreDigits
      split
      · next same => exact absurd (List.cons.inj same).1 notUnderscore
      · next same =>
          obtain ⟨isHead, isTail⟩ := List.cons.inj same
          rw [← isHead, ← isTail, later]
          simp [isFirst]
      · next same => cases same

theorem wholeDigits?_render (number : Nat) :
    wholeDigits? (Numeral.render 10 number ++ '\n' :: rest) =
      some (Numeral.render 10 number, '\n' :: rest) := by
  obtain zero | positive := Nat.eq_zero_or_pos number
  · subst zero
    rfl
  · have notZero : (Numeral.render 10 number).head? ≠ some '0' :=
      Numeral.head?_render_ne_zero (by decide) positive
    have all : ∀ char ∈ Numeral.render 10 number, char.isDigit = true :=
      fun _ shown => isDigit_of_mem_render shown
    have nonempty : Numeral.render 10 number ≠ [] := Numeral.render_ne_nil
    generalize Numeral.render 10 number = digits at notZero all nonempty ⊢
    match digits with
    | [] => exact absurd rfl nonempty
    | digit :: digits =>
        have isFirst := isDigit_of_isDigit (all digit (by simp))
        have later : moreDigits 10 (digits ++ '\n' :: rest) = (digits, '\n' :: rest) :=
          moreDigits_digits fun char isChar => all char (List.mem_cons_of_mem digit isChar)
        have notZeroDigit : digit ≠ '0' := fun same => notZero (by simp [same])
        rw [List.cons_append]
        unfold wholeDigits?
        split
        · next same => exact absurd (List.cons.inj same).1 notZeroDigit
        · simp [digits?, isFirst, later]

theorem decimal?_render {number : Nat} (fits : number ≤ 9223372036854775807) :
    decimal? false (Numeral.render 10 number ++ '\n' :: rest) =
      some (.integer number, '\n' :: rest) := by
  have value : Numeral.value? 10 (Numeral.render 10 number) = some number :=
    Numeral.value?_render (by decide) (by decide)
  have inside : inRange (number : Int) = true := by
    simp only [inRange, Bool.and_eq_true, decide_eq_true_eq]
    omega
  simp [decimal?, wholeDigits?_render, fraction?, exponent?, value, inside]

theorem read?_render {number : Nat} (fits : number ≤ 9223372036854775807) :
    read? (Numeral.render 10 number ++ '\n' :: rest) = some (.integer number, '\n' :: rest) := by
  have isDecimal : read? (Numeral.render 10 number ++ '\n' :: rest) =
      decimal? false (Numeral.render 10 number ++ '\n' :: rest) := by
    obtain zero | positive := Nat.eq_zero_or_pos number
    · subst zero
      rfl
    · have notZero : (Numeral.render 10 number).head? ≠ some '0' :=
        Numeral.head?_render_ne_zero (by decide) positive
      have all : ∀ char ∈ Numeral.render 10 number, char.isDigit = true :=
        fun _ shown => isDigit_of_mem_render shown
      have nonempty : Numeral.render 10 number ≠ [] := Numeral.render_ne_nil
      generalize Numeral.render 10 number = digits at notZero all nonempty ⊢
      match digits with
      | [] => exact absurd rfl nonempty
      | digit :: digits =>
          have isFirst := all digit (by simp)
          have notZeroDigit : digit ≠ '0' := fun same => notZero (by simp [same])
          have notPlus : digit ≠ '+' := ne_of_isDigit isFirst (by decide)
          have notMinus : digit ≠ '-' := ne_of_isDigit isFirst (by decide)
          have notInfinite : digit ≠ 'i' := ne_of_isDigit isFirst (by decide)
          have notNan : digit ≠ 'n' := ne_of_isDigit isFirst (by decide)
          have unsigned : sign (digit :: (digits ++ '\n' :: rest)) =
              (none, digit :: (digits ++ '\n' :: rest)) := by
            unfold sign
            split
            · next same => exact absurd (List.cons.inj same).1 notPlus
            · next same => exact absurd (List.cons.inj same).1 notMinus
            · rfl
          unfold read?
          rw [List.cons_append, unsigned]
          dsimp only
          split
          case h_1 same => exact absurd (List.cons.inj same).1 notInfinite
          case h_2 same => exact absurd (List.cons.inj same).1 notNan
          case h_3 same => exact absurd (List.cons.inj same).1 notZeroDigit
          case h_4 same => exact absurd (List.cons.inj same).1 notZeroDigit
          case h_5 same => exact absurd (List.cons.inj same).1 notZeroDigit
          case h_6 => rfl
  rw [isDecimal, decimal?_render fits]

end Number

/-! ## Dates and times -/

section

variable {digits rest : List Char}

theorem digit_of_value? {seen value : Nat} {text : List Char}
    (isValue : Numeral.valueFrom? 10 seen text = some value) {char : Char} (shown : char ∈ text) :
    Number.isDigit 10 char = true := by
  induction text generalizing seen with
  | nil => simp at shown
  | cons head text inductionHypothesis =>
      unfold Numeral.valueFrom? at isValue
      split at isValue
      · cases isValue
      · next digit isDigit =>
          obtain isHead | inText := List.mem_cons.1 shown
          · subst isHead
            simp [Number.isDigit, isDigit]
          · exact inductionHypothesis isValue inText

/-- Behind so many digits of a number on a line stands another digit or the end of the line, so neither of the
marks between the parts of dates and times. -/
theorem head?_of_fixedDigits? (all : ∀ char ∈ digits, char.isDigit = true) {count value : Nat}
    {behind : List Char} (taken : fixedDigits? count (digits ++ '\n' :: rest) = some (value, behind)) :
    behind.head? ≠ some '-' ∧ behind.head? ≠ some ':' := by
  unfold fixedDigits? at taken
  dsimp only at taken
  split_ifs at taken with enough
  obtain ⟨number, isValue, isTaken⟩ := Option.map_eq_some_iff.1 taken
  have isBehind : (digits ++ '\n' :: rest).drop count = behind := congrArg Prod.snd isTaken
  have within : count ≤ digits.length := by
    by_contra beyond
    have lineEndTaken : '\n' ∈ (digits ++ '\n' :: rest).take count := by
      have split : (digits ++ '\n' :: rest).take count =
          digits ++ ('\n' :: rest).take (count - digits.length) := by
        rw [List.take_append, List.take_of_length_le (by omega)]
      have some : count - digits.length = count - digits.length - 1 + 1 := by omega
      rw [split, some]
      simp
    unfold Numeral.value? at isValue
    split_ifs at isValue
    exact absurd (digit_of_value? isValue lineEndTaken) (by decide)
  rw [← isBehind, List.drop_append_of_le_length within]
  cases left : digits.drop count with
  | nil => simp
  | cons digit more =>
      have inDigits : digit ∈ digits.drop count := by
        rw [left]
        exact List.mem_cons_self
      have isDigit : digit.isDigit = true := all digit (List.mem_of_mem_drop inDigits)
      have notDash : digit ≠ '-' := Number.ne_of_isDigit isDigit (by decide)
      have notColon : digit ≠ ':' := Number.ne_of_isDigit isDigit (by decide)
      simp [notDash, notColon]

theorem expect?_eq_none {wanted : Char} {text : List Char} (differs : text.head? ≠ some wanted) :
    expect? wanted text = none := by
  match text with
  | [] => rfl
  | head :: text =>
      have notWanted : head ≠ wanted := fun same => differs (by simp [same])
      simp [expect?, notWanted]

/-- The digits of a number, alone on the rest of a line, are no date and no time. -/
theorem readMoment_digits (all : ∀ char ∈ digits, char.isDigit = true) :
    readMoment (digits ++ '\n' :: rest) = none := by
  have noDate : readDate (digits ++ '\n' :: rest) = none := by
    unfold readDate
    cases taken : fixedDigits? 4 (digits ++ '\n' :: rest) with
    | none => rfl
    | some year =>
        have noMark := expect?_eq_none (head?_of_fixedDigits? all taken).1
        simp [noMark]
  have noTime : readTime (digits ++ '\n' :: rest) = none := by
    unfold readTime twoDigits?
    cases taken : fixedDigits? 2 (digits ++ '\n' :: rest) with
    | none => rfl
    | some hour =>
        have noMark := expect?_eq_none (head?_of_fixedDigits? all taken).2
        by_cases inside : hour.1 ≤ 23
        · simp [inside, noMark]
        · simp [inside]
  simp [readMoment, noDate, noTime]

end

/-! ## Values on a line -/

/-- On a line of its own the text is read as the item. -/
structure Denotes (value : List Char) (item : Item) : Prop where
  shown : ∃ head, value.head? = some head ∧ isBlank head = false
  reads : ∀ rest, readValue nestingLimit (value ++ '\n' :: rest) = some (item, '\n' :: rest)

theorem head?_render_quotation (content : List Char) :
    (Quotation.render content).head? = some '"' ∨ (Quotation.render content).head? = some '\'' := by
  unfold Quotation.render
  split <;> simp

theorem denotes_string (text : String) :
    Denotes (Quotation.render text.toList) (.scalar (.string text)) where
  shown := by
    obtain isDouble | isSingle := head?_render_quotation text.toList
    · exact ⟨'"', isDouble, by decide⟩
    · exact ⟨'\'', isSingle, by decide⟩
  reads rest := by
    have isRead := Quotation.read_render text.toList rest
    have begins := head?_render_quotation text.toList
    generalize Quotation.render text.toList = value at isRead begins ⊢
    match value with
    | [] => simp at begins
    | head :: value =>
        have scalar : readScalar (head :: (value ++ '\n' :: rest)) =
            some (.scalar (.string text), '\n' :: rest) := by
          simp only [List.head?_cons, Option.some.injEq] at begins
          rw [List.cons_append] at isRead
          rcases begins with rfl | rfl <;> simp [readScalar, isRead]
        have isScalar : readValue nestingLimit (head :: (value ++ '\n' :: rest)) =
            readScalar (head :: (value ++ '\n' :: rest)) := by
          simp only [List.head?_cons, Option.some.injEq] at begins
          rcases begins with rfl | rfl <;> rfl
        exact isScalar.trans scalar

theorem denotes_boolean (value : Bool) :
    Denotes (if value then "true".toList else "false".toList) (.scalar (.boolean value)) where
  shown := by
    cases value
    · exact ⟨'f', rfl, by decide⟩
    · exact ⟨'t', rfl, by decide⟩
  reads rest := by
    cases value <;> rfl

theorem denotes_number {number : Nat} (fits : number ≤ 9223372036854775807) :
    Denotes (Text.Numeral.render 10 number) (.scalar (.number (.integer number))) := by
  have all : ∀ char ∈ Numeral.render 10 number, char.isDigit = true :=
    fun _ shown => Number.isDigit_of_mem_render shown
  have nonempty : Numeral.render 10 number ≠ [] := Numeral.render_ne_nil
  have isNumber (rest : List Char) : Number.read? (Numeral.render 10 number ++ '\n' :: rest) =
      some (.integer number, '\n' :: rest) := Number.read?_render fits
  have noMoment (rest : List Char) : readMoment (Numeral.render 10 number ++ '\n' :: rest) = none :=
    readMoment_digits all
  generalize Numeral.render 10 number = digits at all nonempty isNumber noMoment ⊢
  match digits with
  | [] => exact absurd rfl nonempty
  | digit :: digits =>
      have differs (other : Char) (noDigit : other.isDigit = false) : digit ≠ other :=
        Number.ne_of_isDigit (all digit (by simp)) noDigit
      have notBlank : isBlank digit = false := by
        simp [isBlank, differs ' ' (by decide), differs '\t' (by decide)]
      refine ⟨⟨digit, rfl, notBlank⟩, fun rest => ?_⟩
      have isScalar : readValue nestingLimit (digit :: (digits ++ '\n' :: rest)) =
          readScalar (digit :: (digits ++ '\n' :: rest)) := by
        unfold nestingLimit readValue
        split
        · next same => exact absurd (List.cons.inj same).1 (differs _ (by decide))
        · next same => exact absurd (List.cons.inj same).1 (differs _ (by decide))
        · rfl
      have isMoment := noMoment rest
      have isRead := isNumber rest
      rw [List.cons_append] at isMoment isRead ⊢
      rw [isScalar]
      unfold readScalar
      split
      · next same => exact absurd (List.cons.inj same).1 (differs _ (by decide))
      · next same => exact absurd (List.cons.inj same).1 (differs _ (by decide))
      · next same => exact absurd (List.cons.inj same).1 (differs _ (by decide))
      · next same => exact absurd (List.cons.inj same).1 (differs _ (by decide))
      · simp [isMoment, isRead]

/-! ## Lines -/

/-- The text of one line, with its end. -/
structure IsLine (text : List Char) (line : Line) : Prop where
  shown : ∃ head, text.head? = some head ∧ isBlank head = false
  reads : ∀ rest, readLine (text ++ rest) = some (line, rest)

section

variable {key : List Char}

theorem ne_of_isBareKey {char other : Char} (bare : isBareKey char = true)
    (notBare : isBareKey other = false) : char ≠ other := by
  rintro rfl
  rw [bare] at notBare
  cases notBare

theorem skipBlanks_of_head? {text : List Char} {head : Char} (isHead : text.head? = some head)
    (notBlank : isBlank head = false) (more : List Char) : skipBlanks (text ++ more) = text ++ more := by
  match text with
  | [] => cases isHead
  | first :: text =>
      cases isHead
      simp [skipBlanks, notBlank]

/-- A plain key ends at the first character that cannot belong to it. -/
theorem readKey_bare (nonempty : key ≠ []) (bare : ∀ char ∈ key, isBareKey char = true) {next : Char}
    (ends : isBareKey next = false) (more : List Char) :
    readKey (key ++ next :: more) = some (String.ofList key, next :: more) := by
  have taken : (key ++ next :: more).takeWhile isBareKey = key := by
    rw [List.takeWhile_append_of_pos bare]
    simp [ends]
  have dropped : (key ++ next :: more).dropWhile isBareKey = next :: more := by
    rw [List.dropWhile_append_of_pos bare]
    simp [ends]
  have unquoted : Quotation.readLine (key ++ next :: more) = none := by
    match key with
    | [] => exact absurd rfl nonempty
    | first :: key =>
        have isBare := bare first (by simp)
        have notDouble : first ≠ '"' := ne_of_isBareKey isBare (by decide)
        have notSingle : first ≠ '\'' := ne_of_isBareKey isBare (by decide)
        unfold Quotation.readLine
        split
        · next same => exact absurd (List.cons.inj same).1 notDouble
        · next same => exact absurd (List.cons.inj same).1 notSingle
        · rfl
  simp [readKey, unquoted, taken, dropped, nonempty]

theorem readDottedKey_bare (nonempty : key ≠ []) (bare : ∀ char ∈ key, isBareKey char = true)
    (more : List Char) :
    readDottedKey (key ++ ' ' :: '=' :: more) = some (([], String.ofList key), '=' :: more) := by
  have isKey : readKey (key ++ ' ' :: '=' :: more) = some (String.ofList key, ' ' :: '=' :: more) :=
    readKey_bare nonempty bare (by decide) ('=' :: more)
  have unblanked : skipBlanks (key ++ ' ' :: '=' :: more) = key ++ ' ' :: '=' :: more := by
    match key with
    | [] => exact absurd rfl nonempty
    | first :: key =>
        have isBare := bare first (by simp)
        have notBlank : isBlank first = false := by
          have notSpace : first ≠ ' ' := ne_of_isBareKey isBare (by decide)
          have notTab : first ≠ '\t' := ne_of_isBareKey isBare (by decide)
          simp [isBlank, notSpace, notTab]
        exact skipBlanks_of_head? rfl notBlank _
  have behind : skipBlanks (' ' :: '=' :: more) = '=' :: more := rfl
  have isPath : readPath nestingLimit (key ++ ' ' :: '=' :: more) =
      some ([String.ofList key], '=' :: more) := by
    unfold nestingLimit readPath
    simp [unblanked, isKey, behind]
  simp [readDottedKey, isPath]

/-- A key in front of its value, as a line. -/
theorem isLine_pair {value : List Char} {item : Item} (nonempty : key ≠ [])
    (bare : ∀ char ∈ key, isBareKey char = true) (denotes : Denotes value item) :
    IsLine (key ++ ' ' :: '=' :: ' ' :: value ++ ['\n']) (.pair ⟨[], String.ofList key, item⟩) := by
  obtain ⟨head, isHead, notBlank⟩ := denotes.shown
  match key with
  | [] => exact absurd rfl nonempty
  | first :: key =>
      have isBare := bare first (by simp)
      have differs (other : Char) (notBare : isBareKey other = false) : first ≠ other :=
        ne_of_isBareKey isBare notBare
      refine ⟨⟨first, rfl, ?_⟩, fun rest => ?_⟩
      · simp [isBlank, differs ' ' (by decide), differs '\t' (by decide)]
      · have isKey := readDottedKey_bare nonempty bare (' ' :: (value ++ '\n' :: rest))
        have unblanked : skipBlanks (' ' :: (value ++ '\n' :: rest)) = value ++ '\n' :: rest :=
          skipBlanks_of_head? isHead notBlank ('\n' :: rest)
        have isPair : readPair (readValue nestingLimit)
            (first :: key ++ ' ' :: '=' :: ' ' :: (value ++ '\n' :: rest)) =
            some (⟨[], String.ofList (first :: key), item⟩, '\n' :: rest) := by
          simp only [readPair, isKey, Option.bind_some, unblanked, denotes.reads, Option.map_some]
        have ended : lineEnd? ('\n' :: rest) = some rest := rfl
        have whole : first :: key ++ ' ' :: '=' :: ' ' :: value ++ ['\n'] ++ rest =
            first :: key ++ ' ' :: '=' :: ' ' :: (value ++ '\n' :: rest) := by
          simp
        rw [whole]
        unfold readLine
        split
        · next same => exact absurd (List.cons.inj same).1 (differs _ (by decide))
        · next same => exact absurd (List.cons.inj same).1 (differs _ (by decide))
        · next same => exact absurd (List.cons.inj same).1 (differs _ (by decide))
        · next same => exact absurd (List.cons.inj same).1 (differs _ (by decide))
        · next same => exact absurd (List.cons.inj same).1 (differs _ (by decide))
        · simp only [isPair, Option.bind_some, ended, Option.map_some]

end

theorem isLine_blank : IsLine ['\n'] .nothing where
  shown := ⟨'\n', rfl, by decide⟩
  reads _ := rfl

/-! ## Texts of several lines -/

/-- In front of any text that is read as lines, the text is read as these lines in front of those. The number
of characters bounds the number of lines. -/
def ReadsAs (text : List Char) (lines : List Line) : Prop :=
  ∀ (rest : List Char) (restLines : List Line),
    (∀ fuel, rest.length < fuel → readLines fuel rest = some restLines) →
      ∀ fuel, (text ++ rest).length < fuel → readLines fuel (text ++ rest) = some (lines ++ restLines)

theorem readsAs_nil : ReadsAs [] [] :=
  fun _ _ readRest => readRest

theorem ReadsAs.of_eq {text : List Char} {lines sameLines : List Line} (reads : ReadsAs text lines)
    (same : lines = sameLines) : ReadsAs text sameLines :=
  same ▸ reads

theorem ReadsAs.append {text more : List Char} {lines moreLines : List Line} (reads : ReadsAs text lines)
    (readsMore : ReadsAs more moreLines) : ReadsAs (text ++ more) (lines ++ moreLines) := by
  intro rest restLines readRest fuel enough
  rw [List.append_assoc] at enough ⊢
  rw [List.append_assoc]
  exact reads _ _ (readsMore rest restLines readRest) fuel enough

theorem IsLine.readsAs {text : List Char} {line : Line} (isLine : IsLine text line) :
    ReadsAs text [line] := by
  intro rest restLines readRest fuel enough
  obtain ⟨head, isHead, notBlank⟩ := isLine.shown
  have isRead := isLine.reads rest
  match text with
  | [] => cases isHead
  | first :: text =>
      cases isHead
      match fuel with
      | 0 => exact absurd enough (Nat.not_lt_zero _)
      | fuel + 1 =>
          have unblanked : skipBlanks (head :: text ++ rest) = head :: text ++ rest := by
            simp [skipBlanks, notBlank]
          have later : readLines fuel rest = some restLines := by
            refine readRest fuel ?_
            simp only [List.cons_append, List.length_cons, List.length_append] at enough
            omega
          unfold readLines
          simp only [unblanked, isRead, later, Option.bind_some, Option.map_some]
          rfl

/-- A whole text is read as its lines. -/
theorem ReadsAs.whole {text : List Char} {lines : List Line} (reads : ReadsAs text lines) :
    readLines (text.length + 1) text = some lines := by
  have readNothing (fuel : Nat) (enough : ([] : List Char).length < fuel) :
      readLines fuel [] = some [] := by
    match fuel with
    | 0 => exact absurd enough (Nat.not_lt_zero _)
    | fuel + 1 => rfl
  simpa using reads [] [] readNothing (text.length + 1) (by simp)

end ConnectionPool.Toml
