/-
This file writes the letters of any script with the letters, digits and hyphens of a host name.
-/

namespace Switchboard.Domain.Punycode

/-- Digits are the letters from zero to twenty-five and then the decimal digits. -/
def digitChar (digit : Nat) : Char :=
  if digit < 26 then Char.ofNat (0x61 + digit) else Char.ofNat (0x30 + (digit - 26))

def digit? (character : Char) : Option Nat :=
  let code := character.toNat
  if 0x61 ≤ code ∧ code ≤ 0x7A then some (code - 0x61)
  else if 0x30 ≤ code ∧ code ≤ 0x39 then some (code - 0x30 + 26)
  else none

/-- A digit below the threshold of its place ends a number. -/
def threshold (bias place : Nat) : Nat :=
  if place ≤ bias then 1 else if bias + 26 ≤ place then 26 else place - bias

theorem one_le_threshold (bias place : Nat) : 1 ≤ threshold bias place := by
  unfold threshold
  split
  · omega
  · split <;> omega

/-- The bias grows with the size of the number that was just written. -/
def scaledBias (number bias : Nat) : Nat :=
  if 455 < number then scaledBias (number / 35) (bias + 36)
  else bias + 36 * number / (number + 38)
termination_by number
decreasing_by exact Nat.div_lt_self (by omega) (by omega)

/-- The first number is expected to be much larger than the later ones. -/
def adapt (number length : Nat) (first : Bool) : Nat :=
  let scaled := if first then number / 700 else number / 2
  scaledBias (scaled + scaled / length) 0

/-- A number is written from its least digit on; the places count in steps of thirty-six. -/
def writeNumber (bias place number : Nat) : List Char :=
  let least := threshold bias place
  if number < least then [digitChar number]
  else
    digitChar (least + (number - least) % (36 - least)) ::
      writeNumber bias (place + 36) ((number - least) / (36 - least))
termination_by number
decreasing_by
  have positive := one_le_threshold bias place
  calc (number - threshold bias place) / (36 - threshold bias place)
      ≤ number - threshold bias place := Nat.div_le_self _ _
    _ < number := by omega

/-- The weight multiplies the next digit; the total holds the digits so far. -/
def readNumber (bias place weight total : Nat) : List Char → Option (Nat × List Char)
  | [] => none
  | character :: rest =>
    match digit? character with
    | none => none
    | some digit =>
      let least := threshold bias place
      if digit < least then some (total + digit * weight, rest)
      else readNumber bias (place + 36) (weight * (36 - least)) (total + digit * weight) rest

theorem length_readNumber_lt {bias place weight total number : Nat} {text rest : List Char}
    (read : readNumber bias place weight total text = some (number, rest)) :
    rest.length < text.length := by
  induction text generalizing place weight total with
  | nil => simp [readNumber] at read
  | cons character tail inductionHypothesis =>
      rw [readNumber] at read
      split at read
      · simp at read
      · dsimp only at read
        split at read
        · simp only [Option.some.injEq, Prod.mk.injEq] at read
          rw [← read.2]
          exact Nat.lt_succ_self _
        · exact Nat.lt_succ_of_lt (inductionHypothesis read)

/-- An insertion puts a character at an index of what was there before. -/
structure Insertion where
  character : Char
  index : Nat
  deriving DecidableEq, Repr

def isBasic (character : Char) : Bool := character.toNat < 0x80

/-- Of the greatest characters of a text, the last one is found with its index. -/
def lastGreatest : List Char → Option Insertion
  | [] => none
  | character :: rest =>
    match lastGreatest rest with
    | none => some ⟨character, 0⟩
    | some found =>
      if character.toNat ≤ found.character.toNat then some ⟨found.character, found.index + 1⟩
      else some ⟨character, 0⟩

theorem index_lt_of_lastGreatest {text : List Char} {found : Insertion}
    (isFound : lastGreatest text = some found) : found.index < text.length := by
  induction text generalizing found with
  | nil => simp [lastGreatest] at isFound
  | cons character rest inductionHypothesis =>
      rw [lastGreatest] at isFound
      split at isFound
      · simp only [Option.some.injEq] at isFound
        simp [← isFound]
      next later isLater =>
        have bound := inductionHypothesis isLater
        split at isFound <;> simp only [Option.some.injEq] at isFound <;> simp [← isFound]
        omega

/--
A text arises from its basic characters by insertions of the others, in ascending order of the
characters and from left to right among equal ones.
-/
def insertions (text : List Char) : List Insertion :=
  match _isFound : lastGreatest text with
  | none => []
  | some last =>
    if isBasic last.character then []
    else insertions (text.eraseIdx last.index) ++ [last]
termination_by text.length
decreasing_by
  have bound := index_lt_of_lastGreatest _isFound
  rw [List.length_eraseIdx_of_lt bound]
  omega

/-- An insertion is told by its distance from the one before, over all characters and indices. -/
structure Position where
  code : Nat
  index : Nat
  length : Nat
  bias : Nat
  first : Bool

def Position.start (basicLength : Nat) : Position := ⟨128, 0, basicLength, 72, true⟩

def Position.after (position : Position) (distance code index : Nat) : Position :=
  ⟨code, index + 1, position.length + 1, adapt distance (position.length + 1) position.first,
    false⟩

def writeInsertions (position : Position) : List Insertion → List Char
  | [] => []
  | insertion :: rest =>
    let distance := (insertion.character.toNat - position.code) * (position.length + 1) +
      insertion.index - position.index
    writeNumber position.bias 36 distance ++
      writeInsertions (position.after distance insertion.character.toNat insertion.index) rest

/-- The basic characters come first, and a hyphen ends them if there are any. -/
def encode (text : List Char) : List Char :=
  let basic := text.filter isBasic
  let extension := writeInsertions (.start basic.length) (insertions text)
  if basic = [] then extension else basic ++ '-' :: extension

/-- Every distance that is read inserts one character. -/
def readInsertions (position : Position) (text : List Char) : List Char → Option (List Char)
  | [] => some text
  | character :: tail =>
    match read : readNumber position.bias 36 1 0 (character :: tail) with
    | none => none
    | some (distance, rest) =>
      let total := position.index + distance
      let code := position.code + total / (position.length + 1)
      let index := total % (position.length + 1)
      if code.isValidChar then
        readInsertions (position.after distance code index)
          (text.insertIdx index (Char.ofNat code)) rest
      else none
termination_by written => written.length
decreasing_by exact length_readNumber_lt read

/-- This function splits a text at its last hyphen, if that is not its first character. -/
def splitAtLastHyphen : List Char → Option (List Char × List Char)
  | [] => none
  | character :: rest =>
    match splitAtLastHyphen rest with
    | some (before, after) => some (character :: before, after)
    | none =>
      match rest with
      | '-' :: after => some ([character], after)
      | _ => none

def decode (written : List Char) : Option (List Char) :=
  match splitAtLastHyphen written with
  | some (basic, extension) => readInsertions (.start basic.length) basic extension
  | none => readInsertions (.start 0) [] written

end Switchboard.Domain.Punycode
