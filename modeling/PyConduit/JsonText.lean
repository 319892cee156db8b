import Mathlib.Data.List.Basic

/-!
# Flat records as JSON text

`json.dumps` of a dictionary of texts, integers and None with its default settings,
which leaves nothing but printable ASCII in the text, and a reader of what it writes. A
character outside the basic plane is written as two units. The reader takes the text
off the front of its input.
-/

namespace PyConduit.JsonText

set_option autoImplicit false

inductive Scalar
  | null
  | text (given : String)
  | number (value : Int)
  deriving DecidableEq

/-- The letter behind a backslash and what it stands for. -/
def letters : List (Char × Char) :=
  [('"', '"'), ('\\', '\\'), ('n', '\n'), ('r', '\r'), ('t', '\t'), ('b', Char.ofNat 8),
    ('f', Char.ofNat 12)]

def letterOf (char : Char) : Option Char :=
  (letters.find? fun entry => entry.2 = char).map Prod.fst

/-- `\uXXXX` without its first two characters. -/
def unitDigits (code : Nat) : List Char :=
  [Nat.digitChar (code / 4096), Nat.digitChar (code / 256 % 16), Nat.digitChar (code / 16 % 16),
    Nat.digitChar (code % 16)]

def writeUnit (code : Nat) : List Char := '\\' :: 'u' :: unitDigits code

def writeChar (char : Char) : List Char :=
  match letterOf char with
  | some letter => ['\\', letter]
  | none =>
      let code := char.toNat
      if 0x20 ≤ code ∧ code ≤ 0x7E then [char]
      else if code < 0x10000 then writeUnit code
      else
        writeUnit (0xD800 + (code - 0x10000) / 0x400) ++ writeUnit (0xDC00 + (code - 0x10000) % 0x400)

def writeText (text : String) : List Char := '"' :: (text.toList.flatMap writeChar ++ ['"'])

def writeInt : Int → List Char
  | .ofNat number => Nat.toDigits 10 number
  | .negSucc number => '-' :: Nat.toDigits 10 (number + 1)

def writeScalar : Scalar → List Char
  | .null => "null".toList
  | .text given => writeText given
  | .number value => writeInt value

def writeField (field : String × Scalar) : List Char :=
  writeText field.1 ++ ':' :: ' ' :: writeScalar field.2

def writeFields : List (String × Scalar) → List Char
  | [] => ['}']
  | [field] => writeField field ++ ['}']
  | field :: next :: later => writeField field ++ ',' :: ' ' :: writeFields (next :: later)

def dumps (record : List (String × Scalar)) : List Char := '{' :: writeFields record

def hexValue (char : Char) : Option Nat :=
  if '0' ≤ char ∧ char ≤ '9' then some (char.toNat - 48)
  else if 'a' ≤ char ∧ char ≤ 'f' then some (char.toNat - 87)
  else none

def readUnit : List Char → Option (Nat × List Char)
  | first :: second :: third :: fourth :: rest => do
      let first ← hexValue first
      let second ← hexValue second
      let third ← hexValue third
      let fourth ← hexValue fourth
      some (((first * 16 + second) * 16 + third) * 16 + fourth, rest)
  | _ => none

/-- The second unit of a pair, given the first. -/
def readLow (high : Nat) : List Char → Option (Char × List Char)
  | '\\' :: 'u' :: rest => do
      let (low, rest) ← readUnit rest
      some (Char.ofNat (0x10000 + (high - 0xD800) * 0x400 + (low - 0xDC00)), rest)
  | _ => none

def readEscape : List Char → Option (Char × List Char)
  | [] => none
  | letter :: rest =>
      if letter = 'u' then do
        let (code, rest) ← readUnit rest
        if 0xD800 ≤ code ∧ code < 0xDC00 then readLow code rest else some (Char.ofNat code, rest)
      else (letters.lookup letter).map fun char => (char, rest)

def readChar : List Char → Option (Char × List Char)
  | [] => none
  | char :: rest => if char = '\\' then readEscape rest else some (char, rest)

def readChars : Nat → List Char → Option (List Char × List Char)
  | 0, _ => none
  | fuel + 1, input =>
      if input.head? = some '"' then some ([], input.tail)
      else do
        let (char, rest) ← readChar input
        let (chars, rest) ← readChars fuel rest
        some (char :: chars, rest)

def readText : List Char → Option (String × List Char)
  | '"' :: rest => (readChars rest.length rest).map fun read => (String.ofList read.1, read.2)
  | _ => none

def readNat (input : List Char) : Option (Nat × List Char) :=
  let digits := input.takeWhile Char.isDigit
  if digits = [] then none
  else some (Nat.ofDigitChars 10 digits 0, input.dropWhile Char.isDigit)

def readScalar : List Char → Option (Scalar × List Char)
  | 'n' :: 'u' :: 'l' :: 'l' :: rest => some (.null, rest)
  | '"' :: rest => (readText ('"' :: rest)).map fun read => (.text read.1, read.2)
  | '-' :: rest => (readNat rest).map fun read => (.number (-read.1), read.2)
  | input => (readNat input).map fun read => (.number read.1, read.2)

def readField (input : List Char) : Option ((String × Scalar) × List Char) := do
  let (name, rest) ← readText input
  match rest with
  | ':' :: ' ' :: rest =>
      let (value, rest) ← readScalar rest
      some ((name, value), rest)
  | _ => none

def readFields : Nat → List Char → Option (List (String × Scalar) × List Char)
  | 0, _ => none
  | fuel + 1, input => do
      let (field, rest) ← readField input
      match rest with
      | '}' :: rest => some ([field], rest)
      | ',' :: ' ' :: rest =>
          let (later, rest) ← readFields fuel rest
          some (field :: later, rest)
      | _ => none

def loads : List Char → Option (List (String × Scalar) × List Char)
  | '{' :: '}' :: rest => some ([], rest)
  | '{' :: rest => readFields rest.length rest
  | _ => none

section Characters

variable {char : Char} {code : Nat}

theorem hex_value_digit {digit : Nat} (small : digit < 16) :
    hexValue (Nat.digitChar digit) = some digit := by
  have each : ∀ digit, digit < 16 → hexValue (Nat.digitChar digit) = some digit := by decide
  exact each digit small

theorem read_unit_digits (small : code < 0x10000) (rest : List Char) :
    readUnit (unitDigits code ++ rest) = some (code, rest) := by
  have first := hex_value_digit (show code / 4096 < 16 by omega)
  have second := hex_value_digit (Nat.mod_lt (code / 256) (by decide : 0 < 16))
  have third := hex_value_digit (Nat.mod_lt (code / 16) (by decide : 0 < 16))
  have fourth := hex_value_digit (Nat.mod_lt code (by decide : 0 < 16))
  have whole : ((code / 4096 * 16 + code / 256 % 16) * 16 + code / 16 % 16) * 16 + code % 16 =
      code := by omega
  simp only [unitDigits, List.cons_append, List.nil_append, readUnit, first, second, third, fourth,
    Option.bind_eq_bind, Option.bind_some, whole]

theorem letter_read {letter : Char} (found : letterOf char = some letter) :
    letters.lookup letter = some char ∧ letter ≠ 'u' := by
  have inverse : ∀ entry ∈ letters, letters.lookup entry.1 = some entry.2 ∧ entry.1 ≠ 'u' := by decide
  obtain ⟨entry, first, rfl⟩ := Option.map_eq_some_iff.mp found
  have member := List.mem_of_find?_eq_some first
  have same : entry.2 = char := by simpa using List.find?_some first
  exact same ▸ inverse entry member

theorem letter_of_none (plain : letterOf char = none) : char ≠ '"' ∧ char ≠ '\\' := by
  constructor
  · rintro rfl
    exact absurd plain (by decide)
  · rintro rfl
    exact absurd plain (by decide)

theorem read_single (single : code < 0xD800 ∨ 0xDC00 ≤ code) (small : code < 0x10000)
    (rest : List Char) : readChar (writeUnit code ++ rest) = some (Char.ofNat code, rest) := by
  have noHigh : ¬(0xD800 ≤ code ∧ code < 0xDC00) := by omega
  simp only [writeUnit, List.cons_append, readChar, if_true, readEscape, read_unit_digits small,
    Option.bind_eq_bind, Option.bind_some, if_neg noHigh]

theorem read_pair {high low : Nat} (first : 0xD800 ≤ high ∧ high < 0xDC00) (small : low < 0x10000)
    (rest : List Char) :
    readChar (writeUnit high ++ (writeUnit low ++ rest)) =
      some (Char.ofNat (0x10000 + (high - 0xD800) * 0x400 + (low - 0xDC00)), rest) := by
  have highSmall : high < 0x10000 := by omega
  simp only [writeUnit, List.cons_append, readChar, if_true, readEscape,
    read_unit_digits highSmall, Option.bind_eq_bind, Option.bind_some, if_pos first, readLow,
    read_unit_digits small]

theorem code_range (char : Char) :
    char.toNat < 0xD800 ∨ 0xE000 ≤ char.toNat ∧ char.toNat < 0x110000 := by
  rcases char.valid with low | ⟨high, bound⟩
  · exact Or.inl low
  · exact Or.inr ⟨high, bound⟩

theorem read_char_write (char : Char) (rest : List Char) :
    readChar (writeChar char ++ rest) = some (char, rest) := by
  have range := code_range char
  unfold writeChar
  split
  · next letter found =>
      obtain ⟨known, notUnit⟩ := letter_read found
      simp [readChar, readEscape, notUnit, known]
  · next plain =>
      have notEscape : char ≠ '\\' := (letter_of_none plain).2
      dsimp only
      split_ifs with printable short
      · simp [readChar, notEscape]
      · rw [read_single (by omega) short, Char.ofNat_toNat]
      · have first : 0xD800 ≤ 0xD800 + (char.toNat - 0x10000) / 0x400 ∧
            0xD800 + (char.toNat - 0x10000) / 0x400 < 0xDC00 := by omega
        have whole : 0x10000 + (0xD800 + (char.toNat - 0x10000) / 0x400 - 0xD800) * 0x400 +
            (0xDC00 + (char.toNat - 0x10000) % 0x400 - 0xDC00) = char.toNat := by omega
        rw [List.append_assoc, read_pair first (by omega), whole, Char.ofNat_toNat]

theorem write_char_opens (char : Char) :
    ∃ first rest, writeChar char = first :: rest ∧ first ≠ '"' := by
  unfold writeChar
  split
  · exact ⟨_, _, rfl, by decide⟩
  · next plain =>
      dsimp only
      split_ifs
      · exact ⟨char, [], rfl, (letter_of_none plain).1⟩
      · exact ⟨_, _, rfl, by decide⟩
      · exact ⟨_, _, rfl, by decide⟩

end Characters

section Texts

theorem read_chars_write (chars : List Char) {fuel : Nat} (enough : chars.length < fuel)
    (rest : List Char) :
    readChars fuel (chars.flatMap writeChar ++ '"' :: rest) = some (chars, rest) := by
  induction chars generalizing fuel with
  | nil =>
      cases fuel with
      | zero => cases enough
      | succ fuel => rfl
  | cons char later induction =>
      cases fuel with
      | zero => cases enough
      | succ fuel =>
          have still : later.length < fuel := Nat.lt_of_succ_lt_succ enough
          obtain ⟨first, tail, opens, notQuote⟩ := write_char_opens char
          have goesOn : ((char :: later).flatMap writeChar ++ '"' :: rest).head? ≠ some '"' := by
            simpa [opens] using notQuote
          rw [readChars, if_neg goesOn, List.flatMap_cons, List.append_assoc, read_char_write]
          simp only [Option.bind_eq_bind, Option.bind_some, induction still]

theorem chars_fit (chars : List Char) : chars.length ≤ (chars.flatMap writeChar).length := by
  induction chars with
  | nil => exact Nat.le_refl 0
  | cons char later induction =>
      obtain ⟨first, tail, opens, _⟩ := write_char_opens char
      simp only [List.flatMap_cons, List.length_append, opens, List.length_cons]
      omega

theorem read_text_write (text : String) (rest : List Char) :
    readText (writeText text ++ rest) = some (text, rest) := by
  have fits := chars_fit text.toList
  have enough : text.toList.length < (text.toList.flatMap writeChar ++ '"' :: rest).length := by
    simp only [List.length_append, List.length_cons]
    omega
  simp only [writeText, List.cons_append, List.append_assoc, List.nil_append, readText,
    read_chars_write text.toList enough rest, Option.map_some, String.ofList_toList]

def Stops (rest : List Char) : Prop := rest.head?.all fun char => !char.isDigit

theorem take_digits {digits rest : List Char} (each : ∀ char ∈ digits, char.isDigit = true)
    (stops : Stops rest) : (digits ++ rest).takeWhile Char.isDigit = digits ∧
      (digits ++ rest).dropWhile Char.isDigit = rest := by
  have nothing : rest.takeWhile Char.isDigit = [] ∧ rest.dropWhile Char.isDigit = rest := by
    cases rest with
    | nil => exact ⟨rfl, rfl⟩
    | cons char later =>
        have noDigit : char.isDigit = false := by simpa [Stops] using stops
        simp [noDigit]
  constructor
  · rw [List.takeWhile_append_of_pos each, nothing.1, List.append_nil]
  · rw [List.dropWhile_append_of_pos each, nothing.2]

theorem read_nat_write (number : Nat) {rest : List Char} (stops : Stops rest) :
    readNat (Nat.toDigits 10 number ++ rest) = some (number, rest) := by
  have each : ∀ char ∈ Nat.toDigits 10 number, char.isDigit = true :=
    fun char member => Nat.isDigit_of_mem_toDigits (by decide) (by decide) member
  obtain ⟨taken, left⟩ := take_digits each stops
  simp only [readNat, taken, left, if_neg Nat.toDigits_ne_nil, Nat.ofDigitChars_ten_toDigits]

theorem read_scalar_digits (number : Nat) {rest : List Char} (stops : Stops rest) :
    readScalar (Nat.toDigits 10 number ++ rest) = some (.number number, rest) := by
  have digit : ∀ first later, Nat.toDigits 10 number ++ rest = first :: later →
      first.isDigit = true := by
    intro first later opens
    cases digits : Nat.toDigits 10 number with
    | nil => exact absurd digits Nat.toDigits_ne_nil
    | cons leading others =>
        rw [digits] at opens
        cases opens
        exact Nat.isDigit_of_mem_toDigits (by decide) (by decide) (digits ▸ List.mem_cons_self)
  unfold readScalar
  split
  · next opens => exact absurd (digit _ _ opens) (by decide)
  · next opens => exact absurd (digit _ _ opens) (by decide)
  · next opens => exact absurd (digit _ _ opens) (by decide)
  · rw [read_nat_write number stops, Option.map_some]

theorem read_scalar_write (value : Scalar) {rest : List Char} (stops : Stops rest) :
    readScalar (writeScalar value ++ rest) = some (value, rest) := by
  cases value with
  | null => rfl
  | text given =>
      have read := read_text_write given rest
      rw [writeText, List.cons_append] at read
      rw [writeScalar, writeText, List.cons_append, readScalar, read, Option.map_some]
  | number value =>
      cases value with
      | ofNat number => exact read_scalar_digits number stops
      | negSucc number =>
          have read := read_nat_write (number + 1) stops
          rw [writeScalar, writeInt, List.cons_append, readScalar, read, Option.map_some]
          rfl

theorem read_field_write (field : String × Scalar) {rest : List Char} (stops : Stops rest) :
    readField (writeField field ++ rest) = some (field, rest) := by
  simp only [writeField, List.append_assoc, List.cons_append, readField, read_text_write,
    Option.bind_eq_bind, Option.bind_some, read_scalar_write field.2 stops]

theorem read_fields_write (field : String × Scalar) (later : List (String × Scalar)) {fuel : Nat}
    (enough : later.length < fuel) (rest : List Char) :
    readFields fuel (writeFields (field :: later) ++ rest) = some (field :: later, rest) := by
  induction later generalizing field fuel with
  | nil =>
      cases fuel with
      | zero => cases enough
      | succ fuel =>
          have read := read_field_write field (show Stops ('}' :: rest) from rfl)
          simp only [writeFields, List.append_assoc, List.cons_append, List.nil_append, readFields,
            read, Option.bind_eq_bind, Option.bind_some]
  | cons next later induction =>
      cases fuel with
      | zero => cases enough
      | succ fuel =>
          have behind := induction next (Nat.lt_of_succ_lt_succ enough)
          have read := read_field_write field
            (show Stops (',' :: ' ' :: (writeFields (next :: later) ++ rest)) from rfl)
          simp only [writeFields, List.append_assoc, List.cons_append, readFields, read,
            Option.bind_eq_bind, Option.bind_some, behind]

theorem fields_fit (field : String × Scalar) (later : List (String × Scalar)) :
    later.length < (writeFields (field :: later)).length := by
  induction later generalizing field with
  | nil => simp [writeFields]
  | cons next later induction =>
      have behind := induction next
      simp only [writeFields, List.length_append, List.length_cons]
      omega

/-- A record is read back off the front of what follows it. -/
theorem loads_dumps (record : List (String × Scalar)) (rest : List Char) :
    loads (dumps record ++ rest) = some (record, rest) := by
  cases record with
  | nil => rfl
  | cons field later =>
      have fits := fields_fit field later
      have enough : later.length < (writeFields (field :: later) ++ rest).length := by
        rw [List.length_append]
        omega
      have read := read_fields_write field later enough rest
      have opens : ∀ tail, writeFields (field :: later) ++ rest ≠ '}' :: tail := by
        intro tail same
        cases later with
        | nil => simp [writeFields, writeField, writeText] at same
        | cons next later => simp [writeFields, writeField, writeText] at same
      rw [dumps, List.cons_append, loads]
      · exact read
      · intro tail same
        exact opens tail same

end Texts

end PyConduit.JsonText
