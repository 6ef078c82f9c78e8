import OntologyModules.Json

/-!
# Tokens of a JSON text

A text is cut into brackets, marks, words, numbers and quoted texts; blanks between them are
dropped. A token that cannot be read is marked with its defect. If passing over it fails as
well, the tokens end there, for nothing behind it matters.
-/

namespace OntologyModules

/-- A piece of a JSON text. -/
inductive Token where
  /-- The beginning of an array. -/
  | openArray
  /-- The end of an array. -/
  | closeArray
  /-- The beginning of an object. -/
  | openObject
  /-- The end of an object. -/
  | closeObject
  /-- What separates items and members. -/
  | comma
  /-- What separates a name from its value. -/
  | colon
  /-- The word for the null value. -/
  | null
  /-- A word for a truth value. -/
  | bool (value : Bool)
  /-- A number. -/
  | number (value : Number)
  /-- A quoted text. -/
  | string (text : String)
  /-- Something that cannot be read. -/
  | broken (opening : Opening) (read : Defect) (passed : Option Defect)
deriving DecidableEq, Repr

namespace Token

/-- The characters that may stand between tokens. -/
def isBlank (char : Char) : Bool := char == ' ' || char == '\t' || char == '\n' || char == '\r'

/-- The tokens of one character. -/
def ofMark? : Char → Option Token
  | '[' => some openArray
  | ']' => some closeArray
  | '\x7b' => some openObject
  | '\x7d' => some closeObject
  | ',' => some comma
  | ':' => some colon
  | _ => none

/-! ### Words -/

/-- Reads the letters of a word. -/
def scanWord (opening : Opening) (token : Token) : List Char → List Char → Token × List Char
  | [], chars => (token, chars)
  | _ :: _, [] => (broken opening .truncated (some .truncated), [])
  | letter :: letters, char :: chars =>
    if letter = char then scanWord opening token letters chars
    else (broken opening .malformed (some .malformed), [])

/-- Reading a word leaves no more characters than there were. -/
theorem scanWord_length (opening : Opening) (token : Token) (letters chars : List Char) :
    (scanWord opening token letters chars).2.length ≤ chars.length := by
  induction letters generalizing chars with
  | nil => exact Nat.le_refl _
  | cons letter letters ih =>
    cases chars with
    | nil => exact Nat.le_refl _
    | cons char chars =>
      rw [scanWord]
      split
      · exact Nat.le_succ_of_le (ih chars)
      · exact Nat.zero_le _

/-! ### Quoted texts -/

/-- The value of a hexadecimal digit. -/
def hexDigit? (char : Char) : Option Nat :=
  if '0' ≤ char ∧ char ≤ '9' then some (char.toNat - '0'.toNat)
  else if 'a' ≤ char ∧ char ≤ 'f' then some (char.toNat - 'a'.toNat + 10)
  else if 'A' ≤ char ∧ char ≤ 'F' then some (char.toNat - 'A'.toNat + 10)
  else none

/-- The value of four hexadecimal digits. -/
def hexUnit? (first second third fourth : Char) : Option Nat := do
  let first ← hexDigit? first
  let second ← hexDigit? second
  let third ← hexDigit? third
  let fourth ← hexDigit? fourth
  return ((first * 16 + second) * 16 + third) * 16 + fourth

/-- The character that an escape of one letter stands for. -/
def escaped? : Char → Option Char
  | '"' => some '"'
  | '\\' => some '\\'
  | '/' => some '/'
  | 'b' => some '\x08'
  | 'f' => some '\x0c'
  | 'n' => some '\n'
  | 'r' => some '\r'
  | 't' => some '\t'
  | _ => none

/-- A part of a quoted text. -/
inductive Piece where
  /-- A character, written as itself or as an escape of one letter. -/
  | char (char : Char)
  /-- A code unit of 16 bits, written in hexadecimal. -/
  | unit (value : Nat)
deriving DecidableEq, Repr

/-- The parts of a quoted text, how it ends unless with its quotation mark, and the characters
behind it. -/
structure Quoted where
  /-- The parts up to the end. -/
  pieces : List Piece
  /-- The defect that ends the text. -/
  defect : Option Defect
  /-- The characters behind the text. -/
  rest : List Char

/-- One more part in front. -/
def Quoted.cons (piece : Piece) (quoted : Quoted) : Quoted :=
  { quoted with pieces := piece :: quoted.pieces }

/-- A quoted text that ends with a defect. -/
def Quoted.ended (defect : Defect) : Quoted := ⟨[], some defect, []⟩

/-- The defect of a hexadecimal escape with fewer than four characters behind it: the text is
too short if they take fewer than four bytes. -/
def shortEscape (chars : List Char) : Defect :=
  if (String.ofList chars).utf8ByteSize < 4 then .truncated else .malformed

/-- Reads a quoted text behind its opening quotation mark. -/
def scanQuoted : List Char → Quoted
  | [] => .ended .truncated
  | '"' :: rest => ⟨[], none, rest⟩
  | ['\\'] => .ended .truncated
  | '\\' :: 'u' :: first :: second :: third :: fourth :: rest =>
    match hexUnit? first second third fourth with
    | some value => (scanQuoted rest).cons (.unit value)
    | none => .ended .malformed
  | '\\' :: 'u' :: rest => .ended (shortEscape rest)
  | '\\' :: letter :: rest =>
    match escaped? letter with
    | some char => (scanQuoted rest).cons (.char char)
    | none => .ended .malformed
  | char :: rest =>
    if char < ' ' then .ended .malformed else (scanQuoted rest).cons (.char char)

/-- Reading a quoted text leaves no more characters than there were. -/
theorem scanQuoted_length (chars : List Char) :
    (scanQuoted chars).rest.length ≤ chars.length := by
  fun_induction scanQuoted chars <;> simp_all [Quoted.ended, Quoted.cons] <;> omega

/-- Whether a code unit is the first of a pair. -/
def isHighSurrogate (unit : Nat) : Bool := 0xd800 ≤ unit && unit < 0xdc00

/-- Whether a code unit is the second of a pair. -/
def isLowSurrogate (unit : Nat) : Bool := 0xdc00 ≤ unit && unit < 0xe000

/-- The character of a pair of code units. -/
def pairChar (high low : Nat) : Char :=
  Char.ofNat (0x10000 + (high - 0xd800) * 0x400 + (low - 0xdc00))

/-- The characters of a quoted text that ends as given, if its surrogates are paired. -/
def joinPieces (ending : Option Defect) : List Piece → Except Defect (List Char)
  | [] => match ending with
    | none => .ok []
    | some defect => .error defect
  | .char char :: rest => (char :: ·) <$> joinPieces ending rest
  | [.unit unit] =>
    if isHighSurrogate unit then .error (ending.getD .malformed)
    else if isLowSurrogate unit then .error .malformed
    else (Char.ofNat unit :: ·) <$> joinPieces ending []
  | .unit unit :: .char char :: rest =>
    if isHighSurrogate unit || isLowSurrogate unit then .error .malformed
    else (Char.ofNat unit :: char :: ·) <$> joinPieces ending rest
  | .unit unit :: .unit next :: rest =>
    if isHighSurrogate unit then
      if isLowSurrogate next then (pairChar unit next :: ·) <$> joinPieces ending rest
      else .error .malformed
    else if isLowSurrogate unit then .error .malformed
    else (Char.ofNat unit :: ·) <$> joinPieces ending (.unit next :: rest)

/-- The token of a quoted text. -/
def ofQuoted (quoted : Quoted) : Token :=
  match joinPieces quoted.defect quoted.pieces with
  | .ok chars => string (String.ofList chars)
  | .error defect => broken .text defect quoted.defect

/-! ### Numbers -/

/-- The digits in front, and the characters behind them. -/
def scanDigits : List Char → List Nat × List Char
  | [] => ([], [])
  | char :: rest =>
    if char.isDigit then
      let (digits, rest) := scanDigits rest
      ((char.toNat - '0'.toNat) :: digits, rest)
    else ([], char :: rest)

/-- Reading digits leaves no more characters than there were. -/
theorem scanDigits_length (chars : List Char) :
    (scanDigits chars).2.length ≤ chars.length := by
  induction chars with
  | nil => exact Nat.le_refl _
  | cons char rest ih =>
    rw [scanDigits]
    split
    · exact Nat.le_succ_of_le ih
    · exact Nat.le_refl _

/-- A number that lacks a digit before the given characters. -/
def lackingDigit (chars : List Char) : Token × List Char :=
  (broken .other (if chars.isEmpty then .truncated else .malformed) (some .malformed), [])

/-- The token of a number literal. -/
def ofNumeral (numeral : Numeral) : Token :=
  match numeral.value? with
  | some value => number value
  | none => broken .other .malformed none

/-- Reads the digits of an exponent. -/
def scanExponent (numeral : Numeral) (negative : Bool) (chars : List Char) :
    Token × List Char :=
  match scanDigits chars with
  | ([], rest) => lackingDigit rest
  | (digits, rest) => (ofNumeral { numeral with exponent := some (negative, digits) }, rest)

/-- Reads what may follow the digits of a number. -/
def scanScale (numeral : Numeral) : List Char → Token × List Char
  | [] => (ofNumeral numeral, [])
  | char :: rest =>
    if char = 'e' ∨ char = 'E' then
      match rest with
      | '+' :: rest => scanExponent numeral false rest
      | '-' :: rest => scanExponent numeral true rest
      | rest => scanExponent numeral false rest
    else (ofNumeral numeral, char :: rest)

/-- Reads a number behind its sign. -/
def scanNumber (negative : Bool) (chars : List Char) : Token × List Char :=
  match scanDigits chars with
  | ([], rest) => lackingDigit rest
  | (0 :: _ :: _, _) => (broken .other .malformed (some .malformed), [])
  | (whole, '.' :: rest) =>
    match scanDigits rest with
    | ([], rest) => lackingDigit rest
    | (fraction, rest) => scanScale ⟨negative, whole, fraction, none⟩ rest
  | (whole, rest) => scanScale ⟨negative, whole, [], none⟩ rest

/-- Reading an exponent leaves no more characters than there were. -/
theorem scanExponent_length (numeral : Numeral) (negative : Bool) (chars : List Char) :
    (scanExponent numeral negative chars).2.length ≤ chars.length := by
  have digits := scanDigits_length chars
  unfold scanExponent
  split
  · exact Nat.zero_le _
  next eq => simpa [eq] using digits

/-- Reading a scale leaves no more characters than there were. -/
theorem scanScale_length (numeral : Numeral) (chars : List Char) :
    (scanScale numeral chars).2.length ≤ chars.length := by
  unfold scanScale
  split
  · exact Nat.le_refl _
  · split
    · split
      · exact Nat.le_trans (scanExponent_length ..) (by simp only [List.length_cons]; omega)
      · exact Nat.le_trans (scanExponent_length ..) (by simp only [List.length_cons]; omega)
      · exact Nat.le_trans (scanExponent_length ..) (Nat.le_succ _)
    · exact Nat.le_refl _

/-- Reading a number leaves no more characters than there were. -/
theorem scanNumber_length (negative : Bool) (chars : List Char) :
    (scanNumber negative chars).2.length ≤ chars.length := by
  have digits := scanDigits_length chars
  unfold scanNumber
  split
  · exact Nat.zero_le _
  · exact Nat.zero_le _
  next whole rest _ _ eq =>
    have fraction := scanDigits_length rest
    rw [eq] at digits
    split
    · exact Nat.zero_le _
    next eq =>
      rw [eq] at fraction
      exact Nat.le_trans (scanScale_length ..)
        (Nat.le_trans fraction (Nat.le_trans (Nat.le_succ _) digits))
  next eq =>
    rw [eq] at digits
    exact Nat.le_trans (scanScale_length ..) digits

/-! ### Texts -/

/-- Reads the token that begins with the given character, which is no blank and no mark. -/
def scan (char : Char) (rest : List Char) : Token × List Char :=
  if char = '"' then (ofQuoted (scanQuoted rest), (scanQuoted rest).rest)
  else if char = '-' then scanNumber true rest
  else if char.isDigit then scanNumber false (char :: rest)
  else if char = 'n' then scanWord .nullWord null ['u', 'l', 'l'] rest
  else if char = 't' then scanWord .other (bool true) ['r', 'u', 'e'] rest
  else if char = 'f' then scanWord .other (bool false) ['a', 'l', 's', 'e'] rest
  else (broken .other .malformed (some .malformed), [])

/-- A number that begins with a digit leaves fewer characters than there were. -/
theorem scanNumber_length_lt (negative : Bool) {char : Char} (rest : List Char)
    (isDigit : char.isDigit) :
    (scanNumber negative (char :: rest)).2.length < (char :: rest).length := by
  have digits : (scanDigits (char :: rest)).2.length < (char :: rest).length := by
    rw [scanDigits, if_pos isDigit]
    exact Nat.lt_succ_of_le (scanDigits_length rest)
  unfold scanNumber
  split
  · exact Nat.zero_lt_succ _
  · exact Nat.zero_lt_succ _
  next _ tail _ _ eq =>
    rw [eq] at digits
    split
    · exact Nat.zero_lt_succ _
    next eq' =>
      have fraction := scanDigits_length tail
      rw [eq'] at fraction
      exact Nat.lt_of_le_of_lt (scanScale_length ..)
        (Nat.lt_of_le_of_lt fraction (Nat.lt_trans (Nat.lt_succ_self _) digits))
  next eq =>
    rw [eq] at digits
    exact Nat.lt_of_le_of_lt (scanScale_length ..) digits

/-- Reading a token leaves fewer characters than there were. -/
theorem scan_length (char : Char) (rest : List Char) :
    (scan char rest).2.length ≤ rest.length := by
  unfold scan
  split
  · exact scanQuoted_length rest
  split
  · exact scanNumber_length true rest
  split
  next isDigit => exact Nat.le_of_lt_succ (scanNumber_length_lt false rest isDigit)
  split
  · exact scanWord_length ..
  split
  · exact scanWord_length ..
  split
  · exact scanWord_length ..
  · exact Nat.zero_le _

/-- The tokens of a text. -/
def ofChars : List Char → List Token
  | [] => []
  | char :: rest =>
    if isBlank char then ofChars rest
    else match ofMark? char with
      | some token => token :: ofChars rest
      | none =>
        let next := scan char rest
        next.1 :: ofChars next.2
termination_by chars => chars.length
decreasing_by
  · exact Nat.lt_succ_self _
  · exact Nat.lt_succ_self _
  · exact Nat.lt_succ_of_le (scan_length char rest)

end Token

end OntologyModules
