import DocAtlas.Json.Printer
import DocAtlas.Json.Reader

/-!
# Reading texts and numbers back

This module shows that the reader takes exactly the characters of a text or an integer
that was written, and gives what was written. An escape is read whole only when something
stands behind it, which the closing quote always does.
-/

namespace DocAtlas.Json

/-! ### Texts -/

/-- A hexadecimal digit has the value that it is written for. -/
theorem hexValue?_hexDigit : ∀ value < 16, hexValue? (Text.hexDigit value) = some value := by
  decide

/-- Four hexadecimal digits are read as the number that they were written for. -/
theorem hexValue4?_hexDigits {value : Nat} (isUnit : value < 0x10000) :
    ∃ a b c d, Text.hexDigits 4 value = [a, b, c, d] ∧ hexValue4? a b c d = some value := by
  have digit (part : Nat) : hexValue? (Text.hexDigit (part % 16)) = some (part % 16) :=
    hexValue?_hexDigit _ (Nat.mod_lt _ (by decide))
  refine ⟨Text.hexDigit (value / 16 / 16 / 16 % 16), Text.hexDigit (value / 16 / 16 % 16),
    Text.hexDigit (value / 16 % 16), Text.hexDigit (value % 16), rfl, ?_⟩
  unfold hexValue4?
  rw [digit, digit, digit, digit]
  show some (((value / 16 / 16 / 16 % 16 * 16 + value / 16 / 16 % 16) * 16 + value / 16 % 16) * 16 +
    value % 16) = some value
  congr 1
  omega

variable {opening position : Nat} {taken more : List Char}

/-- Characters that an escape has taken are passed over. -/
theorem readText_passing (passed : List Char) :
    readText opening passed.length taken position (passed ++ more) =
      readText opening 0 taken (position + passed.length) more := by
  induction passed generalizing position with
  | nil => rfl
  | cons c rest inductionHypothesis =>
      rw [List.length_cons, List.cons_append, readText, inductionHypothesis]
      congr 1
      omega

/-- A backslash and a letter are read as what the letter stands for. -/
theorem readText_escaped {letter c : Char} (notUnit : letter ≠ 'u')
    (standsFor : escaped? letter = some c) :
    readText opening 0 taken position (Text.backslash :: letter :: more) =
      readText opening 0 (c :: taken) (position + 2) more := by
  rw [readText, if_neg (by decide), if_pos (by decide), if_neg notUnit, standsFor]
  exact readText_passing [letter]

/-- A code unit below the surrogates is read as its character. -/
theorem readText_unit {c next : Char} (isControl : c.toNat < 32) :
    readText opening 0 taken position
        (Text.backslash :: 'u' :: Text.hexDigits 4 c.toNat ++ next :: more) =
      readText opening 0 (c :: taken) (position + 6) (next :: more) := by
  obtain ⟨first, second, third, fourth, digits, value⟩ :=
    hexValue4?_hexDigits (Nat.lt_trans isControl (by decide))
  have unit : unitEscape? ('u' :: first :: second :: third :: fourth :: next :: more) =
      some (c.toNat, next :: more) := by
    show (if 'u' = 'u' then (hexValue4? first second third fourth).map fun code =>
      (code, next :: more) else none) = some (c.toNat, next :: more)
    rw [if_pos rfl, value]
    rfl
  have unpaired (behind : List Char) : pairedEscape? c.toNat behind = none := by
    unfold pairedEscape? pairChar?
    cases behind with
    | nil => rfl
    | cons mark rest =>
        have noPair (low : Nat) : ¬ (0xD800 ≤ c.toNat ∧ c.toNat ≤ 0xDBFF ∧ 0xDC00 ≤ low ∧
            low ≤ 0xDFFF) := by omega
        simp only [noPair, if_false]
        split
        · cases unitEscape? rest <;> rfl
        · rfl
  have char : unitChar c.toNat = c := by
    unfold unitChar
    rw [if_neg (by omega), Char.ofNat_toNat]
  rw [digits]
  show readText opening 0 taken position
    (Text.backslash :: 'u' :: first :: second :: third :: fourth :: next :: more) = _
  rw [readText, if_neg (by decide), if_pos (by decide), if_pos rfl, unit]
  dsimp only
  rw [unpaired, char]
  exact readText_passing ['u', first, second, third, fourth]

/-- A character is read back from what is written for it. -/
theorem readText_writeChar (c : Char) (next : Char) :
    readText opening 0 taken position (writeChar c ++ next :: more) =
      readText opening 0 (c :: taken) (position + (writeChar c).length) (next :: more) := by
  unfold writeChar
  split
  · rename_i isQuoted
    rcases isQuoted with rfl | rfl
    · exact readText_escaped (by decide) rfl
    · exact readText_escaped (by decide) rfl
  rename_i plain
  split
  · rename_i isShort
    subst isShort
    exact readText_escaped (by decide) rfl
  split
  · rename_i isShort
    subst isShort
    exact readText_escaped (by decide) rfl
  split
  · rename_i isShort
    subst isShort
    exact readText_escaped (by decide) rfl
  split
  · rename_i isShort
    obtain rfl : c = Char.ofNat 8 := by rw [← isShort, Char.ofNat_toNat]
    exact readText_escaped (by decide) rfl
  split
  · rename_i isShort
    obtain rfl : c = Char.ofNat 12 := by rw [← isShort, Char.ofNat_toNat]
    exact readText_escaped (by decide) rfl
  split
  · rename_i isControl
    exact readText_unit isControl
  · rename_i notControl
    have notQuote : c.toNat ≠ 34 := fun same =>
      plain (.inl (by rw [← Char.ofNat_toNat c, same]; rfl))
    have notBackslash : c.toNat ≠ 92 := fun same =>
      plain (.inr (by rw [← Char.ofNat_toNat c, same]; rfl))
    rw [List.singleton_append, readText, if_neg notQuote, if_neg notBackslash, if_neg notControl]
    rfl

/-- The closing quote ends a text. -/
theorem readText_quote :
    readText opening 0 taken position (Text.doubleQuote :: more) =
      .ok (String.ofList taken.reverse, ⟨position + 1, more⟩) := by
  cases more <;> rw [readText, if_pos (by decide)]

/-- The characters of a text are read back up to its closing quote. -/
theorem readText_flatMap (content : List Char) :
    readText opening 0 taken position
        (content.flatMap writeChar ++ Text.doubleQuote :: more) =
      .ok (String.ofList (taken.reverse ++ content),
        ⟨position + (content.flatMap writeChar).length + 1, more⟩) := by
  induction content generalizing taken position with
  | nil =>
      rw [List.flatMap_nil, List.nil_append, readText_quote, List.append_nil]
      rfl
  | cons c rest inductionHypothesis =>
      rw [List.flatMap_cons, List.append_assoc]
      obtain ⟨next, others, isNext⟩ : ∃ next others,
          rest.flatMap writeChar ++ Text.doubleQuote :: more = next :: others :=
        List.exists_cons_of_ne_nil (by simp)
      rw [isNext, readText_writeChar, ← isNext, inductionHypothesis, List.reverse_cons,
        List.append_assoc, List.length_append]
      congr 3
      omega

/-- A text is read back from what is written for it. -/
theorem readQuoted_writeText (content : String) (position : Nat) (more : List Char) :
    readQuoted ⟨position, writeText content ++ more⟩ =
      .ok (content, ⟨position + (writeText content).length, more⟩) := by
  unfold readQuoted writeText
  show readText position 0 [] (position + 1)
    (content.toList.flatMap writeChar ++ [Text.doubleQuote] ++ more) = _
  rw [List.append_assoc]
  show readText position 0 [] (position + 1)
    (content.toList.flatMap writeChar ++ Text.doubleQuote :: more) = _
  rw [readText_flatMap, List.reverse_nil, List.nil_append, String.ofList_toList]
  simp only [List.length_append, List.length_cons, List.length_nil]
  congr 3
  omega

/-! ### Integers -/

/-- What may stand behind a value: nothing, or the comma or the bracket that ends it. -/
inductive IsBehind : List Char → Prop where
  | nothing : IsBehind []
  | comma (rest : List Char) : IsBehind (',' :: rest)
  | bracket (rest : List Char) : IsBehind (']' :: rest)
  | brace (rest : List Char) : IsBehind ('\x7d' :: rest)

/-- The decimal digits of a number have its value. -/
theorem digitsValue_toDigits (number : Nat) :
    Decimal.digitsValue (Nat.toDigits 10 number) = number := by
  have sameStep : (fun (value : Nat) (digit : Char) => value * 10 + (digit.toNat - 48)) =
      fun value digit => 10 * value + (digit.toNat - '0'.toNat) := by
    funext value digit
    rw [Nat.mul_comm]
    rfl
  unfold Decimal.digitsValue
  rw [sameStep]
  exact Nat.ofDigitChars_toDigits (by decide) (by decide)

/-- The digits of a number start with a zero only for zero. -/
theorem toDigits_eq_cons_zero {number : Nat} {rest : List Char}
    (digits : Nat.toDigits 10 number = '0' :: rest) : number = 0 := by
  induction number using Nat.strongRecOn generalizing rest with
  | _ number inductionHypothesis =>
      by_cases isDigit : number < 10
      · rw [Nat.toDigits_of_lt_base isDigit] at digits
        have onlyZero : ∀ digit < 10, digit.digitChar = '0' → digit = 0 := by decide
        exact onlyZero number isDigit (List.cons.inj digits).1
      · have isLong : 10 ≤ number := Nat.le_of_not_lt isDigit
        rw [Nat.toDigits_of_base_le (by decide) isLong] at digits
        obtain ⟨first, others, isCons⟩ :=
          List.exists_cons_of_ne_nil (Nat.toDigits_ne_nil (n := number / 10) (b := 10))
        rw [isCons, List.cons_append] at digits
        rw [(List.cons.inj digits).1] at isCons
        have := inductionHypothesis (number / 10) (by omega) isCons
        omega

/-- The digits of a number are taken whole, and nothing of what stands behind. -/
theorem wholeDigits_toDigits (number : Nat) (behind : IsBehind more) :
    wholeDigits (Nat.toDigits 10 number ++ more) = Nat.toDigits 10 number := by
  have digits : leadingDigits (Nat.toDigits 10 number ++ more) = Nat.toDigits 10 number := by
    have nothing : more.takeWhile Char.isDigit = [] := by cases behind <;> rfl
    unfold leadingDigits
    rw [List.takeWhile_append_of_pos fun digit isDigit =>
      Nat.isDigit_of_mem_toDigits (by decide) (by decide) isDigit, nothing, List.append_nil]
  obtain ⟨first, others, isCons⟩ :=
    List.exists_cons_of_ne_nil (Nat.toDigits_ne_nil (n := number) (b := 10))
  by_cases isZero : first = '0'
  · rw [isZero] at isCons
    obtain rfl := toDigits_eq_cons_zero isCons
    rfl
  · rw [isCons] at digits ⊢
    rw [List.cons_append] at digits ⊢
    rw [wholeDigits]
    · exact digits
    · exact fun rest same => isZero (List.cons.inj same).1

/-- The digits of a number, with a minus sign or without, are the parts of an integer. -/
theorem numberParts?_toDigits (negative : Bool) (number : Nat) (behind : IsBehind more) :
    numberParts? ((if negative then ['-'] else []) ++ Nat.toDigits 10 number ++ more) =
      some ⟨negative, Nat.toDigits 10 number, [], none, 0⟩ := by
  have sign : (((if negative then ['-'] else []) ++ Nat.toDigits 10 number ++ more).head? ==
      some '-') = negative := by
    cases negative with
    | true => rfl
    | false =>
        obtain ⟨first, others, isCons⟩ :=
          List.exists_cons_of_ne_nil (Nat.toDigits_ne_nil (n := number) (b := 10))
        have isDigit : first.isDigit = true :=
          Nat.isDigit_of_mem_toDigits (by decide) (by decide)
            (isCons ▸ List.mem_cons_self)
        rw [isCons]
        show (some first == some '-') = false
        rw [beq_eq_false_iff_ne]
        rintro same
        rw [Option.some.inj same] at isDigit
        exact absurd isDigit (by decide)
  have unsigned : (if negative = true then
      ((if negative then ['-'] else []) ++ Nat.toDigits 10 number ++ more).drop 1
      else (if negative then ['-'] else []) ++ Nat.toDigits 10 number ++ more) =
      Nat.toDigits 10 number ++ more := by
    cases negative <;> rfl
  have noFraction : fractionDigits more = [] := by cases behind <;> rfl
  have noExponent : exponentDigits? more = none := by cases behind <;> rfl
  unfold numberParts?
  dsimp only
  rw [sign, unsigned, wholeDigits_toDigits number behind,
    if_neg (by simp [Nat.toDigits_ne_nil]), List.drop_left, noFraction, List.isEmpty_nil,
    if_pos rfl, Nat.add_zero, List.drop_left, noExponent]

/-- No word stands where a number does. -/
theorem find?_words_digit {digit : Char} (isDigit : digit.isDigit = true) :
    (words.find? fun word => word.1.isPrefixOf (digit :: more)) = none ∧
      (words.find? fun word => word.1.isPrefixOf ('-' :: digit :: more)) = none := by
  have differs {c : Char} (notDigit : c.isDigit = false) : (c == digit) = false := by
    rw [beq_eq_false_iff_ne]
    rintro rfl
    rw [isDigit] at notDigit
    exact nomatch notDigit
  have isList : words = [(['n', 'u', 'l', 'l'], .null), (['t', 'r', 'u', 'e'], .bool true),
      (['f', 'a', 'l', 's', 'e'], .bool false), (['N', 'a', 'N'], .float (0 / 0)),
      (['I', 'n', 'f', 'i', 'n', 'i', 't', 'y'], .float (1 / 0)),
      (['-', 'I', 'n', 'f', 'i', 'n', 'i', 't', 'y'], .float (-1 / 0))] := rfl
  rw [isList]
  constructor
  · simp only [List.find?_cons, List.isPrefixOf_cons_cons, differs (c := 'n') rfl,
      differs (c := 't') rfl, differs (c := 'f') rfl, differs (c := 'N') rfl,
      differs (c := 'I') rfl, differs (c := '-') rfl, Bool.false_and, List.find?_nil]
  · simp only [List.find?_cons, List.isPrefixOf_cons_cons, differs (c := 'I') rfl,
      Bool.false_and, List.find?_nil]
    rfl

/-- A number is written with a sign when it is negative and with its decimal digits. -/
theorem toList_toString (number : Int) :
    (toString number).toList =
      (if number < 0 then ['-'] else []) ++ Nat.toDigits 10 number.natAbs := by
  cases number with
  | ofNat number => exact String.toList_ofList
  | negSucc number =>
      show ("-" ++ Nat.repr (number + 1)).toList = _
      rw [String.toList_append, if_pos (Int.negSucc_lt_zero number)]
      exact congrArg (['-'] ++ ·) String.toList_ofList

/-- The digits of an integer, behind its sign, have as many characters as its text. -/
theorem size_toDigits (number : Int) :
    NumberParts.size ⟨decide (number < 0), Nat.toDigits 10 number.natAbs, [], none, 0⟩ =
      (toString number).toList.length := by
  unfold NumberParts.size
  rw [toList_toString]
  by_cases isNegative : number < 0
  · simp [isNegative, Nat.add_comm]
  · simp [isNegative]

/-- The digits of an integer, behind its sign, have its value. -/
theorem value_toDigits (number : Int) :
    NumberParts.value ⟨decide (number < 0), Nat.toDigits 10 number.natAbs, [], none, 0⟩ =
      .int number := by
  unfold NumberParts.value
  dsimp only
  rw [digitsValue_toDigits]
  congr 1
  by_cases isNegative : number < 0
  · rw [if_pos (decide_eq_true isNegative)]
    omega
  · rw [if_neg (by simp [isNegative])]
    omega

/-- An integer that can be written has no more digits than are read. -/
theorem length_toDigits_le {number : Int} (isWritable : Decimal.isWritable number = true) :
    (Nat.toDigits 10 number.natAbs).length ≤ Decimal.digitLimit := by
  rw [Decimal.isWritable, decide_eq_true_iff] at isWritable
  have positive : 0 < Decimal.digitLimit := by decide
  -- The limit stays a name, or its power would be computed.
  generalize Decimal.digitLimit = limit at isWritable positive ⊢
  exact (Nat.length_toDigits_le_iff (by decide) positive).mpr isWritable

/-- An integer is read back from what is written for it, unless it has too many digits. -/
theorem readScalar_int {number : Int} (isWritable : Decimal.isWritable number = true)
    (position : Nat) (behind : IsBehind more) :
    readScalar ⟨position, (toString number).toList ++ more⟩ =
      .ok (.int number, ⟨position + (toString number).toList.length, more⟩) := by
  have short := length_toDigits_le isWritable
  have noWord : (words.find? fun word =>
      word.1.isPrefixOf ((toString number).toList ++ more)) = none := by
    obtain ⟨first, others, isCons⟩ :=
      List.exists_cons_of_ne_nil (Nat.toDigits_ne_nil (n := number.natAbs) (b := 10))
    have isDigit : first.isDigit = true :=
      Nat.isDigit_of_mem_toDigits (by decide) (by decide) (isCons ▸ List.mem_cons_self)
    rw [toList_toString, isCons]
    by_cases isNegative : number < 0
    · rw [if_pos isNegative]
      exact (find?_words_digit isDigit).2
    · rw [if_neg isNegative]
      exact (find?_words_digit isDigit).1
  have parts := numberParts?_toDigits (decide (number < 0)) number.natAbs behind
  simp only [decide_eq_true_eq] at parts
  unfold readScalar
  dsimp only
  rw [noWord]
  dsimp only
  rw [← toList_toString] at parts
  rw [parts]
  dsimp only
  rw [if_neg (by simp [short]), size_toDigits, value_toDigits]
  unfold Text.Cursor.skip
  rw [List.drop_left]

end DocAtlas.Json
