import Mathlib.Tactic.IntervalCases
import ConnectionPool.Toml.Quotation

/-!
Contract: a string in its plainest form is read back as its content.

Owns:
- `Unescapes`, what the two readers with escapes have in common, and that an escaped character is read back
  by both;
- one law for each form, down to runs of quotes in front of the closing ones;
- `read_render`, the law of strings.

Does not own: which of the forms is the plainest.
-/

namespace ConnectionPool.Toml.Quotation

open Text

/-! ## Characters that need no escape -/

theorem isPlain_of_not_control {char : Char} (notControl : isControl char = false)
    (notNewline : char ≠ '\n') : isPlain char = true := by
  by_cases isTab : char = '\t'
  · simp [isPlain, isTab]
  · have visible : ' ' ≤ char := by
      by_contra below
      simp [isControl, Char.not_le.1 below, isTab, notNewline] at notControl
    have notDelete : char ≠ '\x7f' := by
      rintro rfl
      simp [isControl] at notControl
    simp [isPlain, visible, notDelete]

theorem ne_carriageReturn_of_isPlain {char : Char} (plain : isPlain char = true) : char ≠ '\r' := by
  rintro rfl
  simp [isPlain] at plain

theorem ne_newline_of_isPlain {char : Char} (plain : isPlain char = true) : char ≠ '\n' := by
  rintro rfl
  simp [isPlain] at plain

/-! ## Escapes -/

@[simp]
theorem prepend_some (char : Char) (content rest : List Char) :
    prepend (some char) (some (content, rest)) = some (char :: content, rest) :=
  rfl

/-- A reader of strings with escapes: it knows the escapes and passes plain characters. -/
structure Unescapes (reader : List Char → Option (List Char × List Char)) : Prop where
  letter : ∀ {letter char : Char} (text : List Char), escaped? letter = some char →
    reader ('\\' :: letter :: text) = prepend (some char) (reader text)
  fourDigits : ∀ (a b c d : Char) (text : List Char),
    reader ('\\' :: 'u' :: a :: b :: c :: d :: text) =
      prepend (codePoint? [a, b, c, d]) (reader text)
  plain : ∀ {char : Char} (text : List Char), isPlain char = true → char ≠ '\\' → char ≠ '"' →
    reader (char :: text) = prepend (some char) (reader text)

theorem unescapes_readBasic : Unescapes readBasic where
  letter text isEscape := by
    unfold escaped? at isEscape
    split at isEscape <;> cases isEscape <;> rfl
  fourDigits a b c d text := rfl
  plain text plain notBackslash notQuote := by simp [readBasic, plain, notBackslash]

theorem unescapes_readBasicLines : Unescapes (readBasicLines .none) where
  letter text isEscape := by
    unfold escaped? at isEscape
    split at isEscape <;> cases isEscape <;> rfl
  fourDigits a b c d text := rfl
  plain text plain notBackslash notQuote := by
    have notNewline := ne_newline_of_isPlain plain
    have notReturn := ne_carriageReturn_of_isPlain plain
    simp [readBasicLines, plain, notBackslash, notQuote, notNewline, notReturn]

/-- The control characters, and the one behind the last letters, are given back by their code. -/
theorem codePoint?_fourDigits {char : Char} (isControl : char < ' ' ∨ char = '\x7f') :
    ∃ a b c d, Quotation.fourDigits char.toNat = [a, b, c, d] ∧
      codePoint? [a, b, c, d] = some char := by
  have all : ∀ code < 128, ∃ a b c d, Quotation.fourDigits code = [a, b, c, d] ∧
      codePoint? [a, b, c, d] = some (Char.ofNat code) := by
    intro code small
    interval_cases code <;> exact ⟨_, _, _, _, rfl, rfl⟩
  have small : char.toNat < 128 := by
    obtain below | same := isControl
    · exact Nat.lt_of_lt_of_le (show char.toNat < 32 from below) (by decide)
    · subst same
      decide
  simpa [Char.ofNat_toNat] using all char.toNat small

theorem Unescapes.read_escapeChar {reader : List Char → Option (List Char × List Char)}
    (unescapes : Unescapes reader) {char : Char} (notQuote : char ≠ '"') (notNewline : char ≠ '\n')
    (text : List Char) : reader (escapeChar char ++ text) = prepend (some char) (reader text) := by
  unfold escapeChar
  split_ifs with isBackspace isTab isFeed isReturn isBackslash isControl
  · subst isBackspace
    exact unescapes.letter text rfl
  · subst isTab
    exact unescapes.letter text rfl
  · subst isFeed
    exact unescapes.letter text rfl
  · subst isReturn
    exact unescapes.letter text rfl
  · subst isBackslash
    exact unescapes.letter text rfl
  · obtain ⟨a, b, c, d, digits, isChar⟩ := codePoint?_fourDigits isControl
    rw [digits]
    exact (unescapes.fourDigits a b c d text).trans (by rw [isChar])
  · have plain : isPlain char = true := by
      simp only [not_or, Char.not_lt] at isControl
      simp [isPlain, isControl.1, isControl.2]
    exact unescapes.plain text plain isBackslash notQuote

/-! ## The forms on one line -/

theorem readBasic_escapeBasic (content rest : List Char) :
    readBasic (content.flatMap escapeBasic ++ '"' :: rest) = some (content, rest) := by
  induction content with
  | nil => rfl
  | cons char content inductionHypothesis =>
      have first : ∀ text, readBasic (escapeBasic char ++ text) =
          prepend (some char) (readBasic text) := by
        intro text
        unfold escapeBasic
        split_ifs with isQuote isNewline
        · subst isQuote
          exact unescapes_readBasic.letter text rfl
        · subst isNewline
          exact unescapes_readBasic.letter text rfl
        · exact unescapes_readBasic.read_escapeChar isQuote isNewline text
      rw [List.flatMap_cons, List.append_assoc, first, inductionHypothesis]
      rfl

theorem readLiteral_content {content : List Char} (rest : List Char)
    (plain : ∀ char ∈ content, isPlain char = true) (noQuote : '\'' ∉ content) :
    readLiteral (content ++ '\'' :: rest) = some (content, rest) := by
  induction content with
  | nil => rfl
  | cons char content inductionHypothesis =>
      have charPlain := plain char (by simp)
      have notQuote : char ≠ '\'' := fun same => noQuote (by simp [same])
      have later := inductionHypothesis (fun other isOther => plain other (List.mem_cons_of_mem _ isOther))
        (fun inContent => noQuote (List.mem_cons_of_mem _ inContent))
      simp [readLiteral, charPlain, later, prepend]

/-! ## The forms on several lines -/

/-- A quote that two more do not follow belongs to the content. -/
theorem readBasicLines_quote {text : List Char} (single : ∀ more, text ≠ '"' :: '"' :: more) :
    readBasicLines .none ('"' :: text) = prepend (some '"') (readBasicLines .none text) := by
  match text with
  | [] => rfl
  | [_] => simp [readBasicLines, isPlain]
  | second :: third :: more =>
      by_cases isQuote : second = '"'
      · subst isQuote
        have notThird : third ≠ '"' := by
          rintro rfl
          exact single more rfl
        simp [readBasicLines, isPlain, notThird]
      · simp [readBasicLines, isPlain, isQuote]

theorem readLiteralLines_quote {text : List Char} (single : ∀ more, text ≠ '\'' :: '\'' :: more) :
    readLiteralLines ('\'' :: text) = prepend (some '\'') (readLiteralLines text) := by
  match text with
  | [] => rfl
  | [_] => simp [readLiteralLines, isPlain]
  | second :: third :: more =>
      by_cases isQuote : second = '\''
      · subst isQuote
        have notThird : third ≠ '\'' := by
          rintro rfl
          exact single more rfl
        simp [readLiteralLines, isPlain, notThird]
      · simp [readLiteralLines, isPlain, isQuote]

theorem escapeLines_of_ne {char : Char} (notQuote : char ≠ '"') (notNewline : char ≠ '\n') (run : Nat)
    (content : List Char) :
    escapeLines run (char :: content) = escapeChar char ++ escapeLines 0 content := by
  simp [escapeLines]

theorem head?_escapeChar {char : Char} (notQuote : char ≠ '"') (text : List Char) :
    (escapeChar char ++ text).head? ≠ some '"' := by
  unfold escapeChar
  split_ifs <;> simp [notQuote]

/-- A quote shows only where the content has one. -/
theorem head?_escapeLines_of_ne {char : Char} (notQuote : char ≠ '"') (run : Nat)
    (content text : List Char) :
    (escapeLines run (char :: content) ++ text).head? ≠ some '"' := by
  by_cases isNewline : char = '\n'
  · subst isNewline
    simp [escapeLines]
  · rw [escapeLines_of_ne notQuote isNewline, List.append_assoc]
    exact head?_escapeChar notQuote _

/-- Behind two quotes the next one is escaped, so it does not show. -/
theorem head?_escapeLines_two {content : List Char} (nonempty : content ≠ []) (text : List Char) :
    (escapeLines 2 content ++ text).head? ≠ some '"' := by
  match content with
  | [] => exact absurd rfl nonempty
  | char :: content =>
      by_cases isQuote : char = '"'
      · subst isQuote
        simp [escapeLines]
      · exact head?_escapeLines_of_ne isQuote 2 content text

/-- Behind a quote that is not escaped, two more quotes show only at the end of the content. -/
theorem escapeLines_ne_quotes {run : Nat} (short : run < 2) {content : List Char}
    (nonempty : content ≠ []) (notLast : ¬ (run = 0 ∧ content = ['"'])) (text more : List Char) :
    escapeLines (run + 1) content ++ text ≠ '"' :: '"' :: more := by
  intro shows
  match content with
  | [] => exact nonempty rfl
  | char :: content =>
      by_cases isQuote : char = '"'
      · subst isQuote
        by_cases isSecond : run + 1 = 2
        · simp [escapeLines, isSecond] at shows
        · have isFirst : run = 0 := by omega
          subst isFirst
          have behindNonempty : content ≠ [] := fun isEmpty => notLast ⟨rfl, by rw [isEmpty]⟩
          have isHead := congrArg (fun shown => shown.tail.head?) shows
          exact head?_escapeLines_two behindNonempty text (by simpa [escapeLines] using isHead)
      · have isHead := congrArg List.head? shows
        exact head?_escapeLines_of_ne isQuote (run + 1) content text isHead

/-- The induction is on the content, with the quotes directly in front of it counted. A quote is looked at
together with the two characters behind it: these are the closing quotes, or the rest of the content shows at
most one quote there. -/
theorem readBasicLines_escapeLines {rest : List Char} (behind : rest.head? ≠ some '"') {run : Nat}
    (short : run ≤ 2) (content : List Char) :
    readBasicLines .none (escapeLines run content ++ '"' :: '"' :: '"' :: rest) =
      some (content, rest) := by
  have closes : readBasicLines .none ('"' :: '"' :: '"' :: rest) = some ([], rest) ∧
      readBasicLines .none ('"' :: '"' :: '"' :: '"' :: rest) = some (['"'], rest) ∧
      readBasicLines .none ('"' :: '"' :: '"' :: '"' :: '"' :: rest) = some (['"', '"'], rest) := by
    match rest with
    | [] => exact ⟨rfl, rfl, rfl⟩
    | next :: rest =>
        have notQuote : next ≠ '"' := fun same => behind (by simp [same])
        simp [readBasicLines, notQuote]
  induction content generalizing run with
  | nil => exact closes.1
  | cons char content inductionHypothesis =>
      by_cases isQuote : char = '"'
      · subst isQuote
        obtain isFull | notFull := Nat.eq_or_lt_of_le short
        · subst isFull
          have isEscape : escaped? '"' = some '"' := rfl
          have escaped := unescapes_readBasicLines.letter
            (escapeLines 0 content ++ '"' :: '"' :: '"' :: rest) isEscape
          rw [inductionHypothesis (Nat.zero_le 2)] at escaped
          simpa [escapeLines] using escaped
        · have shown : escapeLines run ('"' :: content) = '"' :: escapeLines (run + 1) content := by
            simp [escapeLines, Nat.ne_of_lt notFull]
          rw [shown, List.cons_append]
          by_cases isLast : content = []
          · subst isLast
            exact closes.2.1
          · by_cases isPair : run = 0 ∧ content = ['"']
            · obtain ⟨isFirst, isSecond⟩ := isPair
              subst isFirst isSecond
              exact closes.2.2
            · rw [readBasicLines_quote (escapeLines_ne_quotes notFull isLast isPair _),
                inductionHypothesis (by omega)]
              rfl
      · by_cases isNewline : char = '\n'
        · subst isNewline
          have passed : readBasicLines .none
              ('\n' :: (escapeLines 0 content ++ '"' :: '"' :: '"' :: rest)) =
              prepend (some '\n')
                (readBasicLines .none (escapeLines 0 content ++ '"' :: '"' :: '"' :: rest)) := by
            simp [readBasicLines]
          rw [inductionHypothesis (Nat.zero_le 2)] at passed
          simpa [escapeLines] using passed
        · rw [escapeLines_of_ne isQuote isNewline, List.append_assoc,
            unescapes_readBasicLines.read_escapeChar isQuote isNewline,
            inductionHypothesis (Nat.zero_le 2)]
          rfl

theorem le_longestRun (wanted : Char) (current : Nat) (content : List Char) :
    current ≤ longestRun wanted current content := by
  induction content generalizing current with
  | nil => exact Nat.le_refl current
  | cons char content inductionHypothesis =>
      unfold longestRun
      split_ifs
      · exact Nat.le_trans (Nat.le_succ current) (inductionHypothesis (current + 1))
      · exact Nat.le_max_left _ _

theorem longestRun_cons_self (wanted : Char) (current : Nat) (content : List Char) :
    longestRun wanted current (wanted :: content) = longestRun wanted (current + 1) content := by
  simp [longestRun]

/-- Behind a quote in runs of at most two, two more quotes show only at the end of the content. -/
theorem content_ne_quotes {run : Nat} {content : List Char}
    (short : longestRun '\'' (run + 1) content ≤ 2) (nonempty : content ≠ [])
    (notLast : content ≠ ['\'']) (text more : List Char) : content ++ text ≠ '\'' :: '\'' :: more := by
  intro shows
  match content with
  | [] => exact nonempty rfl
  | [second] =>
      have isSecond := (List.cons.inj shows).1
      exact notLast (by rw [isSecond])
  | second :: third :: content =>
      simp only [List.cons_append, List.cons.injEq] at shows
      obtain ⟨isSecond, isThird, -⟩ := shows
      subst isSecond isThird
      rw [longestRun_cons_self, longestRun_cons_self] at short
      have counted := le_longestRun '\'' (run + 1 + 1 + 1) content
      omega

/-- The induction is on the content. As runs of quotes have at most two, three quotes in a row show only where
the closing ones begin among them. -/
theorem readLiteralLines_content {rest : List Char} (behind : rest.head? ≠ some '\'') {run : Nat}
    {content : List Char} (plain : ∀ char ∈ content, char = '\n' ∨ isPlain char = true)
    (short : longestRun '\'' run content ≤ 2) :
    readLiteralLines (content ++ '\'' :: '\'' :: '\'' :: rest) = some (content, rest) := by
  have closes : readLiteralLines ('\'' :: '\'' :: '\'' :: rest) = some ([], rest) ∧
      readLiteralLines ('\'' :: '\'' :: '\'' :: '\'' :: rest) = some (['\''], rest) ∧
      readLiteralLines ('\'' :: '\'' :: '\'' :: '\'' :: '\'' :: rest) = some (['\'', '\''], rest) := by
    match rest with
    | [] => exact ⟨rfl, rfl, rfl⟩
    | next :: rest =>
        have notQuote : next ≠ '\'' := fun same => behind (by simp [same])
        simp [readLiteralLines, notQuote]
  induction content generalizing run with
  | nil => exact closes.1
  | cons char content inductionHypothesis =>
      have laterPlain : ∀ other ∈ content, other = '\n' ∨ isPlain other = true :=
        fun other isOther => plain other (List.mem_cons_of_mem _ isOther)
      by_cases isQuote : char = '\''
      · subst isQuote
        rw [longestRun_cons_self] at short
        by_cases isLast : content = []
        · subst isLast
          exact closes.2.1
        · by_cases isPair : content = ['\'']
          · subst isPair
            exact closes.2.2
          · rw [List.cons_append, readLiteralLines_quote (content_ne_quotes short isLast isPair _),
              inductionHypothesis laterPlain short, prepend_some]
      · have laterShort : longestRun '\'' 0 content ≤ 2 := by
          have counted : longestRun '\'' run (char :: content) =
              max run (longestRun '\'' 0 content) := by
            simp [longestRun, isQuote]
          omega
        have later := inductionHypothesis laterPlain laterShort
        obtain isNewline | charPlain := plain char (by simp)
        · subst isNewline
          simp [readLiteralLines, later]
        · have notNewline := ne_newline_of_isPlain charPlain
          have notReturn := ne_carriageReturn_of_isPlain charPlain
          simp [readLiteralLines, isQuote, notReturn, charPlain, later]

/-! ## All forms -/

theorem not_mem_of_longestRun_eq_zero {wanted : Char} {content : List Char}
    (noRun : longestRun wanted 0 content = 0) : wanted ∉ content := by
  induction content with
  | nil => simp
  | cons char content inductionHypothesis =>
      by_cases isWanted : char = wanted
      · subst isWanted
        rw [longestRun_cons_self] at noRun
        have counted := le_longestRun char (0 + 1) content
        omega
      · have counted : longestRun wanted 0 (char :: content) = longestRun wanted 0 content := by
          simp [longestRun, isWanted]
        rw [counted] at noRun
        simp [Ne.symm isWanted, inductionHypothesis noRun]

theorem content_of_form_literal {content : List Char} (isForm : form content = .literal) :
    (∀ char ∈ content, isPlain char = true) ∧ '\'' ∉ content := by
  unfold form at isForm
  dsimp only at isForm
  split_ifs at isForm with isBasic isLiteral
  simp only [Bool.and_eq_true, Bool.not_eq_true', List.any_eq_false, beq_iff_eq] at isLiteral
  obtain ⟨⟨noControl, noNewline⟩, noQuote⟩ := isLiteral
  refine ⟨fun char inContent => ?_, not_mem_of_longestRun_eq_zero noQuote⟩
  exact isPlain_of_not_control (by simpa using noControl char inContent) (noNewline char inContent)

theorem content_of_form_literalLines {content : List Char} (isForm : form content = .literalLines) :
    (∀ char ∈ content, char = '\n' ∨ isPlain char = true) ∧ longestRun '\'' 0 content ≤ 2 := by
  unfold form at isForm
  dsimp only at isForm
  split_ifs at isForm with isBasic isLiteral isBasicLines isLiteralLines
  simp only [Bool.and_eq_true, Bool.not_eq_true', List.any_eq_false, decide_eq_true_eq] at isLiteralLines
  refine ⟨fun char inContent => ?_, isLiteralLines.2⟩
  by_cases isNewline : char = '\n'
  · exact .inl isNewline
  · exact .inr (isPlain_of_not_control (by simpa using isLiteralLines.1 char inContent) isNewline)

theorem skipFirstNewline_of_head? {text : List Char} (notNewline : text.head? ≠ some '\n')
    (notReturn : text.head? ≠ some '\r') : skipFirstNewline text = text := by
  match text with
  | [] => rfl
  | head :: text =>
      simp only [List.head?_cons, ne_eq, Option.some.injEq] at notNewline notReturn
      simp [skipFirstNewline, newline?, notNewline, notReturn]

/-- The line end behind opening triple quotes is there exactly when the reader would take one away. -/
theorem skipFirstNewline_firstNewline {content text : List Char}
    (begins : '\n' ∉ content → text.head? ≠ some '\n' ∧ text.head? ≠ some '\r') :
    skipFirstNewline (firstNewline content ++ text) = text := by
  unfold firstNewline
  split_ifs with hasNewline
  · rfl
  · have noNewline : '\n' ∉ content := by simpa using hasNewline
    exact skipFirstNewline_of_head? (begins noNewline).1 (begins noNewline).2

theorem head?_escapeLines_of_no_newline {content : List Char} (noNewline : '\n' ∉ content)
    (rest : List Char) :
    (escapeLines 0 content ++ '"' :: rest).head? ≠ some '\n' ∧
      (escapeLines 0 content ++ '"' :: rest).head? ≠ some '\r' := by
  match content with
  | [] => simp [escapeLines]
  | char :: content =>
      have notNewline : char ≠ '\n' := fun same => noNewline (by simp [same])
      by_cases isQuote : char = '"'
      · subst isQuote
        simp [escapeLines]
      · rw [escapeLines_of_ne isQuote notNewline]
        unfold escapeChar
        split_ifs with isBackspace isTab isFeed isReturn <;> simp [notNewline]
        exact isReturn

theorem head?_content_of_no_newline {content : List Char} (noNewline : '\n' ∉ content)
    (plain : ∀ char ∈ content, char = '\n' ∨ isPlain char = true) (rest : List Char) :
    (content ++ '\'' :: rest).head? ≠ some '\n' ∧ (content ++ '\'' :: rest).head? ≠ some '\r' := by
  match content with
  | [] => simp
  | char :: content =>
      have notNewline : char ≠ '\n' := fun same => noNewline (by simp [same])
      have charPlain : isPlain char = true := (plain char (by simp)).resolve_left notNewline
      simp [notNewline, ne_carriageReturn_of_isPlain charPlain]

theorem head?_escapeBasic (char : Char) (text : List Char) :
    (escapeBasic char ++ text).head? ≠ some '"' := by
  unfold escapeBasic
  split_ifs with isQuote
  · simp
  · simp
  · exact head?_escapeChar isQuote text

/-- A string that begins with one quote and no two more. -/
theorem read_basic {text : List Char} (single : ∀ more, text ≠ '"' :: '"' :: more) :
    read ('"' :: text) = readBasic text := by
  match text with
  | [] => rfl
  | [second] => simp [read]
  | second :: third :: more =>
      have notTriple : ¬ (second = '"' ∧ third = '"') :=
        fun ⟨isSecond, isThird⟩ => single more (by rw [isSecond, isThird])
      by_cases isSecond : second = '"'
      · have notThird : third ≠ '"' := fun isThird => notTriple ⟨isSecond, isThird⟩
        simp [read, isSecond, notThird]
      · simp [read]

theorem read_literal {text : List Char} (single : ∀ more, text ≠ '\'' :: '\'' :: more) :
    read ('\'' :: text) = readLiteral text := by
  match text with
  | [] => rfl
  | [second] => simp [read]
  | second :: third :: more =>
      have notTriple : ¬ (second = '\'' ∧ third = '\'') :=
        fun ⟨isSecond, isThird⟩ => single more (by rw [isSecond, isThird])
      by_cases isSecond : second = '\''
      · have notThird : third ≠ '\'' := fun isThird => notTriple ⟨isSecond, isThird⟩
        simp [read, isSecond, notThird]
      · simp [read]

/-- A string behind which a line ends is read to its end, whatever its content and form. -/
theorem read_render (content rest : List Char) :
    read (render content ++ '\n' :: rest) = some (content, '\n' :: rest) := by
  unfold render
  cases isForm : form content with
  | basic =>
      have single (more : List Char) :
          content.flatMap escapeBasic ++ '"' :: '\n' :: rest ≠ '"' :: '"' :: more := by
        intro shows
        match content with
        | [] => simp at shows
        | char :: content =>
            rw [List.flatMap_cons, List.append_assoc] at shows
            exact head?_escapeBasic char _ (congrArg List.head? shows)
      have whole := read_basic single
      rw [readBasic_escapeBasic] at whole
      simpa using whole
  | literal =>
      obtain ⟨plain, noQuote⟩ := content_of_form_literal isForm
      have single (more : List Char) : content ++ '\'' :: '\n' :: rest ≠ '\'' :: '\'' :: more := by
        intro shows
        match content with
        | [] => simp at shows
        | char :: content => exact noQuote (by simp [(List.cons.inj shows).1])
      have whole := read_literal single
      rw [readLiteral_content _ plain noQuote] at whole
      simpa using whole
  | basicLines =>
      have skipped : skipFirstNewline (firstNewline content ++
          (escapeLines 0 content ++ '"' :: '"' :: '"' :: '\n' :: rest)) = _ :=
        skipFirstNewline_firstNewline fun noNewline => head?_escapeLines_of_no_newline noNewline _
      have behind : ('\n' :: rest).head? ≠ some '"' := by simp
      have whole := readBasicLines_escapeLines behind (Nat.zero_le 2) content
      rw [← skipped] at whole
      simpa [read] using whole
  | literalLines =>
      obtain ⟨plain, short⟩ := content_of_form_literalLines isForm
      have skipped : skipFirstNewline (firstNewline content ++
          (content ++ '\'' :: '\'' :: '\'' :: '\n' :: rest)) = _ :=
        skipFirstNewline_firstNewline fun noNewline => head?_content_of_no_newline noNewline plain _
      have behind : ('\n' :: rest).head? ≠ some '\'' := by simp
      have whole := readLiteralLines_content behind plain short
      rw [← skipped] at whole
      simpa [read] using whole

end ConnectionPool.Toml.Quotation
