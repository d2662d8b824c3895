import DocAtlas.Decimal.Nearest
import DocAtlas.Text.Cursor
import DocAtlas.Text.Segments

/-!
# Literals

This module decides whether a text is a literal: a number, a sum of a real and an
imaginary number, a quoted text or quoted bytes, a constant, a tuple, a set or a
record. Keys of a record and members of a set have to be fixed: no set and no record
may stand in them. There are no lists, since no text that is asked about holds square
brackets.
-/

namespace DocAtlas.Literal

/-- The two kinds of brackets. -/
inductive Bracket where
  | round
  | curly
deriving DecidableEq, Repr

/-- The smallest parts of a literal. -/
inductive Token where
  | opened (bracket : Bracket)
  | closed (bracket : Bracket)
  | comma
  | colon
  | sign
  | number (isImaginary : Bool)
  | text
  | bytes
  | constant
  /-- The name of the set without members, which has no brackets of its own. -/
  | setName
  | lineEnd
deriving DecidableEq, Repr

/-! ## Numbers -/

/-- Whether characters are digits of a kind with single underscores between them. -/
def areDigits (isDigit : Char → Bool) (chars : List Char) : Bool :=
  (Text.splitChars '_' chars).all fun group => !group.isEmpty && group.all isDigit

/-- The kind of digits that a number has behind a zero and a letter. -/
def radixDigit? : Char → Option (Char → Bool)
  | 'x' | 'X' => some fun c => c.isDigit || ('a' ≤ c.toLower && c.toLower ≤ 'f')
  | 'o' | 'O' => some fun c => '0' ≤ c && c ≤ '7'
  | 'b' | 'B' => some fun c => c == '0' || c == '1'
  | _ => none

/-- Whether decimal digits write an integer: zeros, or digits that no zero leads and that
are few enough. -/
def isInteger (digits : List Char) : Bool :=
  let plain := digits.filter (· != '_')
  areDigits Char.isDigit digits &&
    (plain.all (· == '0') || (plain.head? != some '0' && plain.length ≤ Decimal.digitLimit))

/-- Whether digits may stand on one side of a decimal point. -/
def isSide (digits : List Char) : Bool :=
  digits.isEmpty || areDigits Char.isDigit digits

/-- Whether the part of a number in front of its exponent has a decimal point, with a
digit on one side of it at least. -/
def hasPoint (mantissa : List Char) : Bool :=
  match Text.splitChars '.' mantissa with
  | [whole, fraction] =>
    isSide whole && isSide fraction && !(whole.isEmpty && fraction.isEmpty)
  | _ => false

/-- Whether an exponent is digits with at most one sign in front of them. -/
def isExponent (chars : List Char) : Bool :=
  match chars with
  | '+' :: digits | '-' :: digits => areDigits Char.isDigit digits
  | digits => areDigits Char.isDigit digits

/-- Whether characters write a number with a point or an exponent. -/
def isFractional (chars : List Char) : Bool :=
  let isMark (c : Char) : Bool := c == 'e' || c == 'E'
  let mantissa := chars.takeWhile fun c => !isMark c
  match chars.dropWhile fun c => !isMark c with
  | [] => hasPoint mantissa
  | _ :: exponent =>
    isExponent exponent && (areDigits Char.isDigit mantissa || hasPoint mantissa)

/-- The number that a word writes. -/
def numberOf? (word : List Char) : Option Token :=
  let decimal :=
    match word.reverse with
    | 'j' :: rest | 'J' :: rest =>
      let digits := rest.reverse
      if areDigits Char.isDigit digits || isFractional digits then some (.number true) else none
    | _ => if isInteger word || isFractional word then some (.number false) else none
  match word with
  | '0' :: letter :: rest =>
    match radixDigit? letter with
    | some isDigit =>
      let digits := match rest with
        | '_' :: digits => digits
        | digits => digits
      if areDigits isDigit digits then some (.number false) else none
    | none => decimal
  | _ => decimal

/-- Whether a character goes on with a word. -/
def continuesWord (c : Char) : Bool :=
  c.isAlphanum || c == '_' || 128 ≤ c.toNat

/-- The word of a number at the head of some characters, and what stands behind it. An
exponent may have a sign, unless the number has digits beyond nine. -/
def numberWord (isDecimal : Bool) : List Char → List Char × List Char
  | [] => ([], [])
  | c :: rest =>
    if continuesWord c || c == '.' then
      let (word, behind) := numberWord isDecimal rest
      match (c == 'e' || c == 'E') && isDecimal, rest with
      | true, '+' :: exponent =>
        let (word, behind) := numberWord isDecimal exponent
        (c :: '+' :: word, behind)
      | true, '-' :: exponent =>
        let (word, behind) := numberWord isDecimal exponent
        (c :: '-' :: word, behind)
      | _, _ => (c :: word, behind)
    else ([], c :: rest)

/-! ## Quoted texts -/

/-- What stands in front of the closing quote or of three of them, and what stands
behind. A character behind a backslash closes nothing; a line ends only between
three quotes. -/
def closing? (quote : Char) (isTriple : Bool) : List Char → Option (List Char × List Char)
  | [] => none
  | '\\' :: c :: rest =>
    (closing? quote isTriple rest).map fun found => ('\\' :: c :: found.1, found.2)
  | c :: rest =>
    if c = quote ∧ !isTriple then some ([], rest)
    else if c = quote ∧ [quote, quote].isPrefixOf rest then some ([], rest.drop 2)
    else if c = '\n' ∧ !isTriple then none
    else (closing? quote isTriple rest).map fun found => (c :: found.1, found.2)

/-- The value of a hexadecimal digit in either case. -/
def hexValue? (c : Char) : Option Nat :=
  if c.isDigit then some (c.toNat - 48)
  else if 'a' ≤ c.toLower ∧ c.toLower ≤ 'f' then some (c.toLower.toNat - 87)
  else none

/-- How many hexadecimal digits an escape needs behind its letter. -/
def escapeSize (isBytes : Bool) (letter : Char) : Nat :=
  if letter = 'x' then 2
  else if isBytes then 0
  else if letter = 'u' then 4
  else if letter = 'U' then 8
  else 0

/-- Whether every escape has its digits and stays among the code points. Characters
cannot be given by name. -/
def escapesHold (isBytes : Bool) : List Char → Bool
  | [] => true
  | '\\' :: letter :: rest =>
    let size := escapeSize isBytes letter
    let isNamed := letter == 'N' && !isBytes
    let isPoint := match (rest.take size).mapM hexValue? with
      | some digits =>
        digits.length == size && digits.foldl (fun point digit => point * 16 + digit) 0 ≤ 0x10FFFF
      | none => false
    !isNamed && isPoint && escapesHold isBytes rest
  | _ :: rest => escapesHold isBytes rest

/-- The quoted text or bytes behind a mark, and what stands behind; `chars` starts with
a quote. -/
def quoted? (mark : String) (chars : List Char) : Option (Token × List Char) := do
  let quote ← chars.head?
  let isTriple := [quote, quote, quote].isPrefixOf chars
  let (body, rest) ← closing? quote isTriple (chars.drop (if isTriple then 3 else 1))
  let isBytes := mark.contains 'b'
  let isRaw := mark.contains 'r'
  if ["", "r", "u", "b", "br", "rb"].contains mark &&
      (isRaw || escapesHold isBytes body) && (!isBytes || body.all fun c => c.toNat < 128) then
    some (if isBytes then .bytes else .text, rest)
  else none

/-! ## Tokens -/

/-- Whether a character is a quote. -/
def isQuote (c : Char) : Bool :=
  c.toNat == 34 || c.toNat == 39

/-- The token that a character is by itself. -/
def single? : Char → Option Token
  | '(' => some (.opened .round)
  | ')' => some (.closed .round)
  | '\x7b' => some (.opened .curly)
  | '\x7d' => some (.closed .curly)
  | ',' => some .comma
  | ':' => some .colon
  | '+' => some .sign
  | '-' => some .sign
  | '\n' => some .lineEnd
  | _ => none

/-- The constant or the name that a word is. -/
def named? : String → Option Token
  | "True" | "False" | "None" => some .constant
  | "set" => some .setName
  | _ => none

/-- The first token of some characters and what stands behind it. Blanks, comments and
line ends behind a backslash give no token. -/
def token? : List Char → Option (Option Token × List Char)
  | [] => none
  | '\\' :: '\n' :: rest => some (none, rest)
  | '.' :: '.' :: '.' :: rest => some (some .constant, rest)
  | c :: rest =>
    if c = ' ' ∨ c = '\t' ∨ c.toNat = 12 then some (none, rest)
    else if c = '#' then some (none, rest.dropWhile (· != '\n'))
    else if isQuote c then (quoted? "" (c :: rest)).map fun found => (some found.1, found.2)
    else if c.isDigit || (c == '.' && (rest.head?.map Char.isDigit).getD false) then
      let isDecimal := c != '0' || !(rest.head? == some 'x' || rest.head? == some 'X')
      let (word, behind) := numberWord isDecimal (c :: rest)
      (numberOf? word).map fun token => (some token, behind)
    else if continuesWord c then
      let word := String.ofList (c :: rest.takeWhile continuesWord)
      let behind := rest.dropWhile continuesWord
      if (behind.head?.map isQuote).getD false then
        (quoted? word.toLower behind).map fun found => (some found.1, found.2)
      else (named? word).map fun token => (some token, behind)
    else (single? c).map fun token => (some token, rest)

/-- The tokens of characters, as far as the allowance goes; every token takes one
character at least. -/
def tokensWithin : (allowance : Nat) → List Char → Option (List Token)
  | _, [] => some []
  | 0, _ => none
  | allowance + 1, chars => do
    let (token, rest) ← token? chars
    let others ← tokensWithin allowance rest
    pure (token.toList ++ others)

/-- How deep brackets may stand in one another. -/
def depthLimit : Nat := 200

/-- Tokens without the line ends between brackets. -/
def joinLines : (depth : Nat) → List Token → Option (List Token)
  | _, [] => some []
  | depth, .opened bracket :: rest =>
    if depthLimit ≤ depth then none
    else (joinLines (depth + 1) rest).map (.opened bracket :: ·)
  | depth, .closed bracket :: rest => (joinLines (depth - 1) rest).map (.closed bracket :: ·)
  | depth, .lineEnd :: rest =>
    if depth = 0 then (joinLines depth rest).map (.lineEnd :: ·) else joinLines depth rest
  | depth, token :: rest => (joinLines depth rest).map (token :: ·)

/-- Tokens without the line ends in front of them and behind them. -/
def withoutMargins (tokens : List Token) : List Token :=
  ((tokens.dropWhile (· == .lineEnd)).reverse.dropWhile (· == .lineEnd)).reverse

/-! ## Grammar -/

/-- What a literal can be part of. A number without sign may get one, a real number
may start a sum and an imaginary one without sign may end it. -/
inductive Form where
  | real
  | imaginary
  | signedReal
  | fixed
  | changeable
deriving DecidableEq, Repr

/-- Whether a literal may be a key or a member of a set. -/
def Form.isFixed (form : Form) : Bool :=
  form ≠ .changeable

/-- The form of a literal with a sign in front of it. -/
def Form.signed? : Form → Option Form
  | real => some signedReal
  | imaginary => some fixed
  | _ => none

/-- The form of a sum. -/
def Form.sum? : Form → Form → Option Form
  | real, imaginary => some fixed
  | signedReal, imaginary => some fixed
  | _, _ => none

/-- The form of a tuple. -/
def tupleForm (isFixed : Bool) : Form :=
  if isFixed then .fixed else .changeable

mutual

/-- A literal that may be a sum, and the tokens behind it. -/
def sum? : (allowance : Nat) → List Token → Option (Form × List Token)
  | 0, _ => none
  | allowance + 1, tokens => do
    let (left, rest) ← signed? allowance tokens
    match rest with
    | .sign :: rest =>
      let (right, rest) ← signed? allowance rest
      pure (← left.sum? right, rest)
    | rest => pure (left, rest)

/-- A literal that may have a sign in front of it, and the tokens behind it. -/
def signed? : (allowance : Nat) → List Token → Option (Form × List Token)
  | 0, _ => none
  | allowance + 1, tokens =>
    match tokens with
    | .sign :: rest => do
      let (form, rest) ← part? allowance rest
      pure (← form.signed?, rest)
    | tokens => part? allowance tokens

/-- A literal that is neither a sum nor signed, and the tokens behind it. -/
def part? : (allowance : Nat) → List Token → Option (Form × List Token)
  | 0, _ => none
  | allowance + 1, tokens =>
    match tokens with
    | .number isImaginary :: rest => some (if isImaginary then .imaginary else .real, rest)
    | .text :: rest => some (.fixed, rest.dropWhile (· == .text))
    | .bytes :: rest => some (.fixed, rest.dropWhile (· == .bytes))
    | .constant :: rest => some (.fixed, rest)
    | .setName :: .opened .round :: .closed .round :: rest => some (.changeable, rest)
    | .opened .round :: .closed .round :: rest => some (.fixed, rest)
    | .opened .round :: rest => do
      let (first, rest) ← sum? allowance rest
      match rest with
      | .closed .round :: rest => pure (first, rest)
      | .comma :: rest => items? allowance first.isFixed rest
      | _ => none
    | .opened .curly :: .closed .curly :: rest => some (.changeable, rest)
    | .opened .curly :: rest => do
      let (first, rest) ← sum? allowance rest
      if !first.isFixed then none
      else
        match rest with
        | .closed .curly :: rest => pure (.changeable, rest)
        | .comma :: rest => members? allowance rest
        | .colon :: rest => do
          let (_, rest) ← sum? allowance rest
          entries? allowance rest
        | _ => none
    | _ => none

/-- The items of a tuple behind a comma, and the tokens behind the tuple. -/
def items? : (allowance : Nat) → (isFixed : Bool) → List Token → Option (Form × List Token)
  | 0, _, _ => none
  | allowance + 1, isFixed, tokens =>
    match tokens with
    | .closed .round :: rest => some (tupleForm isFixed, rest)
    | tokens => do
      let (item, rest) ← sum? allowance tokens
      match rest with
      | .closed .round :: rest => pure (tupleForm (isFixed && item.isFixed), rest)
      | .comma :: rest => items? allowance (isFixed && item.isFixed) rest
      | _ => none

/-- The members of a set behind a comma, and the tokens behind the set. -/
def members? : (allowance : Nat) → List Token → Option (Form × List Token)
  | 0, _ => none
  | allowance + 1, tokens =>
    match tokens with
    | .closed .curly :: rest => some (.changeable, rest)
    | tokens => do
      let (member, rest) ← sum? allowance tokens
      if !member.isFixed then none
      else
        match rest with
        | .closed .curly :: rest => pure (.changeable, rest)
        | .comma :: rest => members? allowance rest
        | _ => none

/-- The entries of a record behind one of them, and the tokens behind the record. -/
def entries? : (allowance : Nat) → List Token → Option (Form × List Token)
  | 0, _ => none
  | allowance + 1, tokens =>
    match tokens with
    | .closed .curly :: rest => some (.changeable, rest)
    | .comma :: .closed .curly :: rest => some (.changeable, rest)
    | .comma :: rest => do
      let (key, rest) ← sum? allowance rest
      if !key.isFixed then none
      else
        match rest with
        | .colon :: rest => do
          let (_, rest) ← sum? allowance rest
          entries? allowance rest
        | _ => none
    | _ => none

end

/-- How many steps some tokens may need: four for each of them. -/
def allowanceFor (tokens : List Token) : Nat :=
  4 * tokens.length + 4

/-- Whether tokens are literals with commas between them; one may stand at the end. -/
def areSeparated (allowance : Nat) (tokens : List Token) : Bool :=
  match allowance, sum? (allowanceFor tokens) tokens with
  | _, some (_, []) => true
  | _, some (_, [.comma]) => true
  | allowance + 1, some (_, .comma :: rest) => areSeparated allowance rest
  | _, _ => false

/-- Whether the first token stands behind blanks on its line; `column` counts those
that have been passed, also on lines that a backslash goes on with. -/
def isIndented (column : Nat) (inComment : Bool) : List Char → Bool
  | [] => false
  | '\\' :: '\n' :: rest => isIndented (if inComment then 0 else column) false rest
  | c :: rest =>
    if c = '\n' ∨ (c.toNat = 12 ∧ !inComment) then isIndented 0 false rest
    else if inComment || c == '#' then isIndented column true rest
    else if c = ' ' ∨ c = '\t' then isIndented (column + 1) false rest
    else 0 < column

/-- Whether a text is a literal, or a tuple without its brackets. A null character
stands in no literal. -/
def holds (chars : List Char) : Bool :=
  let chars := (Text.unifyLineEnds (String.ofList chars)).toList
  match (tokensWithin chars.length chars).bind (joinLines 0) with
  | some tokens =>
    let tokens := withoutMargins tokens
    !chars.contains (Char.ofNat 0) && !isIndented 0 false chars &&
      areSeparated tokens.length tokens
  | none => false

end DocAtlas.Literal
