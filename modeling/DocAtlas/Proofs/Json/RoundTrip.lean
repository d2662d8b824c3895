import DocAtlas.Proofs.Json.Scalars

/-!
# Reading JSON back

This module shows that a value is read back from its compact JSON. Every call of the reader
takes at least one character, so an allowance of as many calls as there are characters is
enough. Doubles are left out, since the reader only finds the nearest one, and moments are
written as texts.
-/

namespace DocAtlas.Json

open Text (Cursor)

mutual

/-- Whether a value is one that JSON holds as it is: no doubles and no moments stand in it,
its integers can be written, and the fields of a record have different names. -/
def isFaithful : Value → Bool
  | .null | .bool _ | .text _ => true
  | .int number => Decimal.isWritable number
  | .float _ | .moment _ => false
  | .list items => areFaithful items
  | .record fields => areFaithfulFields fields

/-- Whether all items of a list are values that JSON holds as they are. -/
def areFaithful : List Value → Bool
  | [] => true
  | item :: rest => isFaithful item && areFaithful rest

/-- Whether all fields of a record are, and have different names. -/
def areFaithfulFields : List (String × Value) → Bool
  | [] => true
  | (name, value) :: rest =>
    isFaithful value && !(rest.map (·.1)).contains name && areFaithfulFields rest

end

/-- Items are faithful together when each of them is. -/
theorem areFaithful_iff {items : List Value} :
    areFaithful items = true ↔ ∀ item ∈ items, isFaithful item = true := by
  induction items with
  | nil => simp [areFaithful]
  | cons item rest inductionHypothesis => simp [areFaithful, inductionHypothesis]

/-! ### Single steps -/

variable {allowance position : Nat} {more : List Char}

/-- No blank is skipped in front of another character. -/
theorem skipBlanks_cons {c : Char} (isFull : isBlank c = false) :
    skipBlanks ⟨position, c :: more⟩ = ⟨position, c :: more⟩ := by
  unfold skipBlanks Cursor.skipWhile
  dsimp only
  rw [List.takeWhile_cons, List.dropWhile_cons, isFull]
  rfl

/-- A character that opens a value: no blank, no bracket that closes, and no mark of the
byte order. -/
structure Opens (c : Char) : Prop where
  isFull : isBlank c = false
  notBracket : c ≠ ']'
  notBrace : c ≠ '\x7d'
  notMark : c ≠ Char.ofNat 0xFEFF

/-- A digit opens a value. -/
theorem opens_of_isDigit {c : Char} (isDigit : c.isDigit = true) : Opens c := by
  have differs (other : Char) (notDigit : other.isDigit = false) : c ≠ other := by
    rintro rfl
    rw [isDigit] at notDigit
    exact nomatch notDigit
  refine ⟨?_, differs _ rfl, differs _ rfl, differs _ rfl⟩
  unfold isBlank
  simp [differs ' ' rfl, differs '\t' rfl, differs '\n' rfl,
    differs '\r' rfl]

/-- What is written for an integer starts with a digit or a minus sign. -/
theorem toList_toString_eq_cons (number : Int) :
    ∃ first rest, (toString number).toList = first :: rest ∧
      (first = '-' ∨ first.isDigit = true) := by
  rw [toList_toString]
  by_cases isNegative : number < 0
  · rw [if_pos isNegative]
    exact ⟨_, _, rfl, .inl rfl⟩
  · rw [if_neg isNegative]
    obtain ⟨first, others, isCons⟩ :=
      List.exists_cons_of_ne_nil (Nat.toDigits_ne_nil (n := number.natAbs) (b := 10))
    exact ⟨first, others, isCons, .inr
      (Nat.isDigit_of_mem_toDigits (by decide) (by decide) (isCons ▸ List.mem_cons_self))⟩

/-- What is written for a value starts with a character that opens it. -/
theorem write_eq_cons {value : Value} (faithful : isFaithful value = true) :
    ∃ first rest, write value = first :: rest ∧ Opens first := by
  cases value with
  | null => exact ⟨_, _, rfl, rfl, by decide, by decide, by decide⟩
  | bool truth => cases truth <;> exact ⟨_, _, rfl, rfl, by decide, by decide, by decide⟩
  | int number =>
      obtain ⟨first, rest, isCons, opens⟩ := toList_toString_eq_cons number
      refine ⟨first, rest, isCons, ?_⟩
      rcases opens with rfl | isDigit
      · exact ⟨rfl, by decide, by decide, by decide⟩
      · exact opens_of_isDigit isDigit
  | float number => exact nomatch faithful
  | text content => exact ⟨_, _, rfl, by decide, by decide, by decide, by decide⟩
  | list items => exact ⟨_, _, rfl, rfl, by decide, by decide, by decide⟩
  | record fields => exact ⟨_, _, rfl, rfl, by decide, by decide, by decide⟩
  | moment given => exact nomatch faithful

/-- What opens neither a list nor a record nor a text is read as a word or a number. -/
theorem readValue_eq_readScalar {c : Char} (notList : c ≠ '[') (notRecord : c ≠ '\x7b')
    (notText : c.toNat ≠ 34) :
    readValue (allowance + 1) ⟨position, c :: more⟩ = readScalar ⟨position, c :: more⟩ := by
  rw [readValue]
  split
  · rename_i isCons
    exact absurd (List.cons.inj isCons).1 notList
  · rename_i isCons
    exact absurd (List.cons.inj isCons).1 notRecord
  · rename_i isCons
    rw [← (List.cons.inj isCons).1, if_neg notText]
  · rename_i isNil
    exact nomatch isNil

/-- A text that is written is read back. -/
theorem readValue_text (content : String) :
    readValue (allowance + 1) ⟨position, writeText content ++ more⟩ =
      .ok (.text content, ⟨position + (writeText content).length, more⟩) := by
  have isCons : writeText content ++ more =
      Text.doubleQuote :: (content.toList.flatMap writeChar ++ [Text.doubleQuote] ++ more) := rfl
  have reads := readQuoted_writeText content position more
  rw [isCons] at reads ⊢
  rw [readValue]
  split
  · rename_i isBracket
    exact absurd (List.cons.inj isBracket).1 (by decide)
  · rename_i isBrace
    exact absurd (List.cons.inj isBrace).1 (by decide)
  · rename_i isQuote
    rw [← (List.cons.inj isQuote).1, if_pos (by decide), reads]
  · rename_i isNil
    exact nomatch isNil

/-- A number that can be written is read back. -/
theorem readValue_int {number : Int} (isWritable : Decimal.isWritable number = true)
    (behind : IsBehind more) :
    readValue (allowance + 1) ⟨position, (toString number).toList ++ more⟩ =
      .ok (.int number, ⟨position + (toString number).toList.length, more⟩) := by
  obtain ⟨first, rest, isCons, opens⟩ := toList_toString_eq_cons number
  have differs (other : Char) (notSign : other ≠ '-') (notDigit : other.isDigit = false) :
      first ≠ other := by
    rintro rfl
    rcases opens with isSign | isDigit
    · exact notSign isSign
    · rw [isDigit] at notDigit
      exact nomatch notDigit
  have scalar := readScalar_int isWritable position behind
  rw [isCons, List.cons_append] at scalar ⊢
  rw [readValue_eq_readScalar (differs _ (by decide) rfl) (differs _ (by decide) rfl), scalar]
  intro isQuote
  exact differs Text.doubleQuote (by decide) rfl
    (by rw [← Char.ofNat_toNat first, isQuote]; rfl)

/-- A list whose first item is next is read item by item. -/
theorem readValue_list {first : Char} (opens : Opens first) :
    readValue (allowance + 1) ⟨position, '[' :: first :: more⟩ =
      readItems allowance [] ⟨position + 1, first :: more⟩ := by
  have isInner : skipBlanks (Cursor.skip ⟨position, '[' :: first :: more⟩ 1) =
      ⟨position + 1, first :: more⟩ := skipBlanks_cons opens.isFull
  rw [readValue]
  simp only [isInner]
  split
  · rename_i isBracket
    exact absurd (List.cons.inj isBracket).1 opens.notBracket
  · rfl

/-- A record whose first field is next is read field by field. -/
theorem readValue_record {first : Char} (opens : Opens first) :
    readValue (allowance + 1) ⟨position, '\x7b' :: first :: more⟩ =
      readFields allowance [] ⟨position + 1, first :: more⟩ := by
  have isInner : skipBlanks (Cursor.skip ⟨position, '\x7b' :: first :: more⟩ 1) =
      ⟨position + 1, first :: more⟩ := skipBlanks_cons opens.isFull
  rw [readValue]
  simp only [isInner]
  split
  · rename_i isBrace
    exact absurd (List.cons.inj isBrace).1 opens.notBrace
  · rfl

section Items

variable {taken : List Value} {item : Value} {cursor : Cursor}

/-- A closing bracket behind an item ends the list. -/
theorem readItems_bracket
    (reads : readValue allowance cursor = .ok (item, ⟨position, ']' :: more⟩)) :
    readItems (allowance + 1) taken cursor =
      .ok (.list (item :: taken).reverse, ⟨position + 1, more⟩) := by
  rw [readItems, reads]
  dsimp only
  rw [skipBlanks_cons rfl]
  rfl

/-- A comma behind an item goes on to the next. -/
theorem readItems_comma {first : Char} (opens : Opens first)
    (reads : readValue allowance cursor = .ok (item, ⟨position, ',' :: first :: more⟩)) :
    readItems (allowance + 1) taken cursor =
      readItems allowance (item :: taken) ⟨position + 1, first :: more⟩ := by
  rw [readItems, reads]
  dsimp only
  rw [skipBlanks_cons rfl]
  show readItems allowance (item :: taken) (skipBlanks ⟨position + 1, first :: more⟩) = _
  rw [skipBlanks_cons opens.isFull]

end Items

section Fields

variable {taken : List (String × Value)} {name : String} {value : Value} {start : Nat}
  {first : Char} {tail : List Char}

/-- The last field of a record is read with the brace behind it. -/
theorem readFields_brace (opens : Opens first)
    (reads : readValue allowance ⟨start + (writeText name).length + 1, first :: tail⟩ =
      .ok (value, ⟨position, '\x7d' :: more⟩)) :
    readFields (allowance + 1) taken ⟨start, writeText name ++ ':' :: first :: tail⟩ =
      .ok (.record (Value.setField name value taken), ⟨position + 1, more⟩) := by
  have isQuote : (writeText name ++ ':' :: first :: tail).head? = some Text.doubleQuote := rfl
  have isNext : Text.doubleQuote.toNat = 34 := rfl
  have colon : isBlank ':' = false := rfl
  have brace : isBlank '\x7d' = false := rfl
  simp only [readFields, isQuote, isNext, ne_eq, not_true_eq_false, if_false,
    readQuoted_writeText, skipBlanks_cons colon, skipBlanks_cons opens.isFull, reads,
    skipBlanks_cons brace, Text.Cursor.skip, List.drop_succ_cons, List.drop_zero]

/-- Any other field is read with the comma behind it. -/
theorem readFields_comma {next : Char} (opens : Opens first) (nextOpens : Opens next)
    (reads : readValue allowance ⟨start + (writeText name).length + 1, first :: tail⟩ =
      .ok (value, ⟨position, ',' :: next :: more⟩)) :
    readFields (allowance + 1) taken ⟨start, writeText name ++ ':' :: first :: tail⟩ =
      readFields allowance (Value.setField name value taken) ⟨position + 1, next :: more⟩ := by
  have isQuote : (writeText name ++ ':' :: first :: tail).head? = some Text.doubleQuote := rfl
  have isNext : Text.doubleQuote.toNat = 34 := rfl
  have colon : isBlank ':' = false := rfl
  have comma : isBlank ',' = false := rfl
  simp only [readFields, isQuote, isNext, ne_eq, not_true_eq_false, if_false,
    readQuoted_writeText, skipBlanks_cons colon, skipBlanks_cons opens.isFull, reads,
    skipBlanks_cons comma, Text.Cursor.skip, List.drop_succ_cons, List.drop_zero,
    skipBlanks_cons nextOpens.isFull]

end Fields

/-- A field of a new name is put behind the others. -/
theorem setField_of_not_mem {name : String} {value : Value} {fields : List (String × Value)}
    (isNew : name ∉ fields.map (·.1)) :
    Value.setField name value fields = fields ++ [(name, value)] := by
  induction fields with
  | nil => rfl
  | cons entry rest inductionHypothesis =>
      rw [List.map_cons, List.mem_cons, not_or] at isNew
      rw [Value.setField, if_neg (by simpa using Ne.symm isNew.1), inductionHypothesis isNew.2]
      rfl

/-- What is written of items starts with a character that opens a value. -/
theorem writeItems_eq_cons {item : Value} (rest : List Value)
    (faithful : isFaithful item = true) :
    ∃ first tail, writeItems (item :: rest) = first :: tail ∧ Opens first := by
  obtain ⟨first, tail, isCons, opens⟩ := write_eq_cons faithful
  cases rest with
  | nil => exact ⟨first, tail, isCons, opens⟩
  | cons next others =>
      refine ⟨first, tail ++ ',' :: writeItems (next :: others), ?_, opens⟩
      show write item ++ ',' :: writeItems (next :: others) = _
      rw [isCons]
      rfl

/-! ### Whole values -/

mutual

/-- A value is read back from its JSON, up to what stands behind it. -/
theorem readValue_write : ∀ (value : Value) (allowance position : Nat) (more : List Char),
    isFaithful value = true → IsBehind more → (write value).length ≤ allowance →
      readValue allowance ⟨position, write value ++ more⟩ =
        .ok (value, ⟨position + (write value).length, more⟩)
  | value, 0 => by
      intro position more faithful _ enough
      obtain ⟨first, rest, isCons, -⟩ := write_eq_cons faithful
      rw [isCons] at enough
      exact absurd enough (Nat.not_succ_le_zero _)
  | .null, allowance + 1 => fun _ _ _ _ _ => rfl
  | .bool true, allowance + 1 => fun _ _ _ _ _ => rfl
  | .bool false, allowance + 1 => fun _ _ _ _ _ => rfl
  | .int number, allowance + 1 => fun _ _ faithful behind _ => readValue_int faithful behind
  | .float number, allowance + 1 => fun _ _ faithful => nomatch faithful
  | .text content, allowance + 1 => fun _ _ _ _ _ => readValue_text content
  | .list [], allowance + 1 => fun _ _ _ _ _ => rfl
  | .list (item :: rest), allowance + 1 => by
      intro position more faithful _ enough
      obtain ⟨first, tail, isCons, opens⟩ := writeItems_eq_cons rest
        (Bool.and_eq_true_iff.mp faithful).1
      have size : (write (.list (item :: rest))).length =
          (writeItems (item :: rest)).length + 2 := by
        show ('[' :: writeItems (item :: rest) ++ [']']).length = _
        simp
      have items := readItems_writeItems item rest allowance [] (position + 1) more faithful
        (by omega)
      show readValue (allowance + 1)
        ⟨position, '[' :: (writeItems (item :: rest) ++ [']']) ++ more⟩ = _
      rw [List.cons_append, List.append_assoc, List.singleton_append, size]
      rw [isCons, List.cons_append] at items ⊢
      rw [readValue_list opens, items]
      simp only [List.reverse_nil, List.nil_append]
      congr 3
      omega
  | .moment given, allowance + 1 => fun _ _ faithful => nomatch faithful
  | .record [], allowance + 1 => fun _ _ _ _ _ => rfl
  | .record ((name, value) :: rest), allowance + 1 => by
      intro position more faithful _ enough
      have size : (write (.record ((name, value) :: rest))).length =
          (writeFields ((name, value) :: rest)).length + 2 := by
        show ('\x7b' :: writeFields ((name, value) :: rest) ++ ['\x7d']).length = _
        simp
      obtain ⟨tail, isCons⟩ : ∃ tail,
          writeFields ((name, value) :: rest) = Text.doubleQuote :: tail := by
        cases rest <;> exact ⟨_, rfl⟩
      have fields := readFields_writeFields name value rest allowance [] (position + 1) more
        faithful (by simp) (by omega)
      show readValue (allowance + 1)
        ⟨position, '\x7b' :: (writeFields ((name, value) :: rest) ++ ['\x7d']) ++ more⟩ = _
      rw [List.cons_append, List.append_assoc, List.singleton_append, size]
      rw [isCons, List.cons_append] at fields ⊢
      rw [readValue_record ⟨by decide, by decide, by decide, by decide⟩, fields, List.nil_append]
      congr 3
      omega

/-- The items of a list are read back up to its bracket. -/
theorem readItems_writeItems : ∀ (item : Value) (rest : List Value) (allowance : Nat)
    (taken : List Value) (position : Nat) (more : List Char),
    areFaithful (item :: rest) = true → (writeItems (item :: rest)).length + 1 ≤ allowance →
      readItems allowance taken ⟨position, writeItems (item :: rest) ++ ']' :: more⟩ =
        .ok (.list (taken.reverse ++ item :: rest),
          ⟨position + (writeItems (item :: rest)).length + 1, more⟩)
  | item, rest, 0 => fun _ _ _ _ enough => absurd enough (Nat.not_succ_le_zero _)
  | item, [], allowance + 1 => by
      intro taken position more faithful enough
      have reads := readValue_write item allowance position (']' :: more)
        (Bool.and_eq_true_iff.mp faithful).1 (.bracket more) (Nat.le_of_succ_le_succ enough)
      show readItems (allowance + 1) taken ⟨position, write item ++ ']' :: more⟩ = _
      rw [readItems_bracket reads, List.reverse_cons]
      rfl
  | item, next :: others, allowance + 1 => by
      intro taken position more faithful enough
      obtain ⟨isItem, areOthers⟩ := Bool.and_eq_true_iff.mp faithful
      obtain ⟨first, tail, isCons, opens⟩ := writeItems_eq_cons others
        (Bool.and_eq_true_iff.mp areOthers).1
      have size : (writeItems (item :: next :: others)).length =
          (write item).length + (writeItems (next :: others)).length + 1 := by
        show (write item ++ ',' :: writeItems (next :: others)).length = _
        rw [List.length_append, List.length_cons]
        omega
      have reads := readValue_write item allowance position
        (',' :: (writeItems (next :: others) ++ ']' :: more)) isItem (.comma _) (by omega)
      have further := readItems_writeItems next others allowance (item :: taken)
        (position + (write item).length + 1) more areOthers (by omega)
      show readItems (allowance + 1) taken
        ⟨position, write item ++ ',' :: writeItems (next :: others) ++ ']' :: more⟩ = _
      rw [List.append_assoc, List.cons_append, size]
      rw [isCons, List.cons_append] at reads further ⊢
      rw [readItems_comma opens reads, further, List.reverse_cons, List.append_assoc]
      congr 3
      rw [← isCons]
      omega

/-- The fields of a record are read back up to its brace. -/
theorem readFields_writeFields : ∀ (name : String) (value : Value)
    (rest : List (String × Value)) (allowance : Nat) (taken : List (String × Value))
    (position : Nat) (more : List Char),
    areFaithfulFields ((name, value) :: rest) = true →
    (∀ other ∈ ((name, value) :: rest).map (·.1), other ∉ taken.map (·.1)) →
    (writeFields ((name, value) :: rest)).length + 1 ≤ allowance →
      readFields allowance taken ⟨position, writeFields ((name, value) :: rest) ++ '\x7d' :: more⟩ =
        .ok (.record (taken ++ (name, value) :: rest),
          ⟨position + (writeFields ((name, value) :: rest)).length + 1, more⟩)
  | name, value, rest, 0 => fun _ _ _ _ _ enough => absurd enough (Nat.not_succ_le_zero _)
  | name, value, [], allowance + 1 => by
      intro taken position more faithful areNew enough
      obtain ⟨isValue, -⟩ := Bool.and_eq_true_iff.mp faithful
      obtain ⟨isValue, -⟩ := Bool.and_eq_true_iff.mp isValue
      obtain ⟨first, tail, isCons, opens⟩ := write_eq_cons isValue
      have size : (writeFields [(name, value)]).length =
          (writeText name).length + 1 + (write value).length := by
        show (writeText name ++ ':' :: write value).length = _
        rw [List.length_append, List.length_cons]
        omega
      have reads := readValue_write value allowance (position + (writeText name).length + 1)
        ('\x7d' :: more) isValue (.brace more) (by omega)
      show readFields (allowance + 1) taken
        ⟨position, writeText name ++ ':' :: write value ++ '\x7d' :: more⟩ = _
      rw [List.append_assoc, List.cons_append, size]
      rw [isCons, List.cons_append] at reads ⊢
      rw [readFields_brace opens reads, setField_of_not_mem (areNew name List.mem_cons_self)]
      congr 3
      omega
  | name, value, next :: others, allowance + 1 => by
      intro taken position more faithful areNew enough
      obtain ⟨isField, areOthers⟩ := Bool.and_eq_true_iff.mp faithful
      obtain ⟨isValue, isDistinct⟩ := Bool.and_eq_true_iff.mp isField
      obtain ⟨first, tail, isCons, opens⟩ := write_eq_cons isValue
      obtain ⟨nextName, nextValue⟩ := next
      obtain ⟨nextTail, nextIsCons⟩ : ∃ nextTail,
          writeFields ((nextName, nextValue) :: others) = Text.doubleQuote :: nextTail := by
        cases others <;> exact ⟨_, rfl⟩
      have size : (writeFields ((name, value) :: (nextName, nextValue) :: others)).length =
          (writeText name).length + 1 + (write value).length + 1 +
            (writeFields ((nextName, nextValue) :: others)).length := by
        show (writeText name ++ ':' :: write value ++
          ',' :: writeFields ((nextName, nextValue) :: others)).length = _
        simp only [List.length_append, List.length_cons]
        omega
      have reads := readValue_write value allowance (position + (writeText name).length + 1)
        (',' :: (writeFields ((nextName, nextValue) :: others) ++ '\x7d' :: more)) isValue
        (.comma _) (by omega)
      have setsNew : Value.setField name value taken = taken ++ [(name, value)] :=
        setField_of_not_mem (areNew name List.mem_cons_self)
      have further := readFields_writeFields nextName nextValue others allowance
        (taken ++ [(name, value)])
        (position + (writeText name).length + 1 + (write value).length + 1) more areOthers
        (by
          intro other among
          rw [List.map_append, List.mem_append, not_or]
          refine ⟨areNew other (List.mem_cons_of_mem _ among), ?_⟩
          rintro same
          obtain rfl := List.mem_singleton.mp same
          simp only [Bool.not_eq_true', List.contains_eq_mem, decide_eq_false_iff_not]
            at isDistinct
          exact isDistinct among)
        (by omega)
      show readFields (allowance + 1) taken
        ⟨position, writeText name ++ ':' :: write value ++
          ',' :: writeFields ((nextName, nextValue) :: others) ++ '\x7d' :: more⟩ = _
      rw [List.append_assoc, List.append_assoc, List.cons_append, List.cons_append, size]
      rw [nextIsCons, isCons, List.cons_append, List.cons_append] at reads
      rw [nextIsCons, isCons, List.cons_append] at further
      rw [nextIsCons, isCons, List.cons_append, List.cons_append]
      rw [readFields_comma opens ⟨by decide, by decide, by decide, by decide⟩ reads, setsNew,
        further, List.append_assoc]
      congr 3
      rw [List.length_cons]
      omega

end

/-- A value is read back from its compact JSON. -/
theorem readChars_write {value : Value} (faithful : isFaithful value = true) :
    readChars (write value) = .ok value := by
  obtain ⟨first, rest, isCons, opens⟩ := write_eq_cons faithful
  have noMark : (write value).head? ≠ some (Char.ofNat 0xFEFF) := by
    rw [isCons]
    exact fun same => opens.notMark (Option.some.inj same)
  have reads := readValue_write value (2 * (write value).length + 2) 0 [] faithful .nothing
    (by omega)
  unfold readChars
  rw [if_neg noMark]
  rw [List.append_nil] at reads
  have start : skipBlanks (Cursor.start (write value)) = ⟨0, write value⟩ := by
    rw [isCons]
    exact skipBlanks_cons opens.isFull
  rw [start, reads]
  rfl

/-! ### Characters -/

/-- There are no control characters among hexadecimal digits. -/
theorem not_control_of_mem_hexDigits {count value : Nat} {c : Char}
    (among : c ∈ Text.hexDigits count value) : 32 ≤ c.toNat := by
  have digit : ∀ value < 16, 32 ≤ (Text.hexDigit value).toNat := by decide
  induction count generalizing value with
  | zero => exact absurd among List.not_mem_nil
  | succ count inductionHypothesis =>
      rcases List.mem_append.mp among with isBefore | isLast
      · exact inductionHypothesis isBefore
      · rw [List.mem_singleton.mp isLast]
        exact digit _ (Nat.mod_lt _ (by decide))

/-- No character is written as a control character. -/
theorem not_control_of_mem_writeChar {c written : Char} (among : written ∈ writeChar c) :
    32 ≤ written.toNat := by
  have short {letter : Char} (notControl : 32 ≤ letter.toNat)
      (among : written ∈ [Text.backslash, letter]) : 32 ≤ written.toNat := by
    rcases List.mem_cons.mp among with rfl | among
    · decide
    · rw [List.mem_singleton.mp among]
      exact notControl
  unfold writeChar at among
  split at among
  · rename_i isQuoted
    rcases isQuoted with rfl | rfl <;> exact short (by decide) among
  iterate 5
    split at among
    · exact short (by decide) among
  split at among
  · rcases List.mem_cons.mp among with rfl | among
    · decide
    rcases List.mem_cons.mp among with rfl | among
    · decide
    · exact not_control_of_mem_hexDigits among
  · rename_i notControl
    rw [List.mem_singleton.mp among]
    exact Nat.le_of_not_lt notControl

/-- There are no control characters in what is written of a text. -/
theorem not_control_of_mem_writeText {content : String} {c : Char}
    (among : c ∈ writeText content) : 32 ≤ c.toNat := by
  unfold writeText at among
  rcases List.mem_append.mp among with isInside | isClosing
  · rcases List.mem_cons.mp isInside with rfl | isInside
    · decide
    · obtain ⟨source, -, isWritten⟩ := List.mem_flatMap.mp isInside
      exact not_control_of_mem_writeChar isWritten
  · rw [List.mem_singleton.mp isClosing]
    decide

/-- There are no control characters in a word without them. -/
theorem not_control_of_mem_word {word : List Char} {c : Char}
    (noControl : word.all (fun c => decide (32 ≤ c.toNat)) = true) (among : c ∈ word) :
    32 ≤ c.toNat :=
  of_decide_eq_true (List.all_eq_true.mp noControl c among)

/-- There are no control characters in what is written of a number. -/
theorem not_control_of_mem_toString {number : Int} {c : Char}
    (among : c ∈ (toString number).toList) : 32 ≤ c.toNat := by
  have digit (isDigit : c.isDigit = true) : 32 ≤ c.toNat := by
    have atLeast : 48 ≤ c.toNat := (Char.isDigit_iff_toNat.mp isDigit).1
    omega
  rw [toList_toString] at among
  rcases List.mem_append.mp among with isSign | isDigit
  · split at isSign
    · rw [List.mem_singleton.mp isSign]
      decide
    · exact absurd isSign List.not_mem_nil
  · exact digit (Nat.isDigit_of_mem_toDigits (by decide) (by decide) isDigit)

mutual

/-- The JSON of a value holds no control character, so it stands on one line. -/
theorem not_control_of_mem_write : ∀ (value : Value) (c : Char), isFaithful value = true →
    c ∈ write value → 32 ≤ c.toNat
  | .null => fun _ _ among => not_control_of_mem_word (by decide) among
  | .bool true => fun _ _ among => not_control_of_mem_word (by decide) among
  | .bool false => fun _ _ among => not_control_of_mem_word (by decide) among
  | .int number => fun _ _ among => not_control_of_mem_toString among
  | .float number => fun _ faithful => nomatch faithful
  | .text content => fun _ _ among => not_control_of_mem_writeText among
  | .moment given => fun _ faithful => nomatch faithful
  | .list items => by
      intro c faithful among
      rcases List.mem_append.mp among with isInside | isClosing
      · rcases List.mem_cons.mp isInside with rfl | isInside
        · decide
        · exact not_control_of_mem_writeItems items c faithful isInside
      · rw [List.mem_singleton.mp isClosing]
        decide
  | .record fields => by
      intro c faithful among
      rcases List.mem_append.mp among with isInside | isClosing
      · rcases List.mem_cons.mp isInside with rfl | isInside
        · decide
        · exact not_control_of_mem_writeFields fields c faithful isInside
      · rw [List.mem_singleton.mp isClosing]
        decide

/-- There are no control characters in what is written of faithful items. -/
theorem not_control_of_mem_writeItems : ∀ (items : List Value) (c : Char),
    areFaithful items = true → c ∈ writeItems items → 32 ≤ c.toNat
  | [] => fun _ _ among => absurd among List.not_mem_nil
  | [item] => fun c faithful among =>
      not_control_of_mem_write item c (Bool.and_eq_true_iff.mp faithful).1 among
  | item :: next :: others => by
      intro c faithful among
      obtain ⟨isItem, areOthers⟩ := Bool.and_eq_true_iff.mp faithful
      rcases List.mem_append.mp among with isHere | isBehind
      · exact not_control_of_mem_write item c isItem isHere
      · rcases List.mem_cons.mp isBehind with rfl | isBehind
        · decide
        · exact not_control_of_mem_writeItems (next :: others) c areOthers isBehind

/-- There are no control characters in what is written of faithful fields. -/
theorem not_control_of_mem_writeFields : ∀ (fields : List (String × Value)) (c : Char),
    areFaithfulFields fields = true → c ∈ writeFields fields → 32 ≤ c.toNat
  | [] => fun _ _ among => absurd among List.not_mem_nil
  | (name, value) :: rest => by
      intro c faithful among
      obtain ⟨isField, areOthers⟩ := Bool.and_eq_true_iff.mp faithful
      obtain ⟨isValue, -⟩ := Bool.and_eq_true_iff.mp isField
      have inEntry (among : c ∈ writeText name ++ ':' :: write value) : 32 ≤ c.toNat := by
        rcases List.mem_append.mp among with isName | isBehind
        · exact not_control_of_mem_writeText isName
        · rcases List.mem_cons.mp isBehind with rfl | isBehind
          · decide
          · exact not_control_of_mem_write value c isValue isBehind
      cases rest with
      | nil => exact inEntry among
      | cons next others =>
          rcases List.mem_append.mp among with isHere | isBehind
          · exact inEntry isHere
          · rcases List.mem_cons.mp isBehind with rfl | isBehind
            · decide
            · exact not_control_of_mem_writeFields (next :: others) c areOthers isBehind

end

end DocAtlas.Json
