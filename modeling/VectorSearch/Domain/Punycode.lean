namespace VectorSearch.Domain.Punycode

/-! Punycode: texts spelled in ASCII.

The ASCII characters of a text come first. After the last hyphen, the others follow in the
order of their codes, each as a number that says how far it is, in steps through all codes and
all places in the text, from the one before it. Numbers are written with 36 digits, the least
first, and adapt to how large the numbers before them were.
-/

/-- The digits are the letters, of either case, and then the figures. -/
def digitValue? (c : Char) : Option Nat :=
  if 'a' ≤ c ∧ c ≤ 'z' then some (c.toNat - 97)
  else if 'A' ≤ c ∧ c ≤ 'Z' then some (c.toNat - 65)
  else if '0' ≤ c ∧ c ≤ '9' then some (c.toNat - 22)
  else none

def digitChar (value : Nat) : Char :=
  if value < 26 then Char.ofNat (97 + value) else Char.ofNat (22 + value)

/-- A digit below the threshold of its place is the last one of its number. -/
def threshold (bias place : Nat) : Nat :=
  if place ≤ bias then 1 else if bias + 26 ≤ place then 26 else place - bias

theorem threshold_pos (bias place : Nat) : 0 < threshold bias place := by
  unfold threshold
  split
  · omega
  · split <;> omega

/-- Divides a number until it is small, counting 36 for each time. -/
def shrink (n count : Nat) : Nat × Nat :=
  if 455 < n then shrink (n / 35) (count + 36) else (n, count)
termination_by n
decreasing_by exact Nat.div_lt_self (by omega) (by omega)

/-- The bias after a number, given how many characters there are now. -/
def adapt (distance count : Nat) (isFirst : Bool) : Nat :=
  let scaled := if isFirst then distance / 700 else distance / 2
  let (rest, bias) := shrink (scaled + scaled / count) 0
  bias + 36 * rest / (rest + 38)

/-- The bias that the first number is written with. -/
def firstBias : Nat := 72

/-- The code that the first distance is counted from. -/
def firstCode : Nat := 0x80

/-- All numbers on the way stay below this. -/
def limit : Nat := UInt32.size

/-- Adds the number at the start of a text to a sum, and gives what follows it. -/
def readNumber? (bias place weight sum : Nat) : List Char → Option (Nat × List Char)
  | [] => none
  | c :: rest =>
      match digitValue? c with
      | none => none
      | some digit =>
          let total := sum + digit * weight
          if limit ≤ total then none
          else if digit < threshold bias place then some (total, rest)
          else if limit ≤ weight * (36 - threshold bias place) then none
          else readNumber? bias (place + 36) (weight * (36 - threshold bias place)) total rest

theorem readNumber?_length {bias place weight sum total : Nat} {text rest : List Char}
    (found : readNumber? bias place weight sum text = some (total, rest)) :
    rest.length < text.length := by
  induction text generalizing place weight sum with
  | nil => simp [readNumber?] at found
  | cons c text ih =>
      unfold readNumber? at found
      split at found
      · simp at found
      · simp only at found
        split at found
        · simp at found
        · split at found
          · simp only [Option.some.injEq, Prod.mk.injEq] at found
            simp [found.2]
          · split at found
            · simp at found
            · exact Nat.lt_succ_of_lt (ih found)

def charOf? (code : Nat) : Option Char :=
  if code.isValidChar then some (Char.ofNat code) else none

/-- Puts the characters that numbers stand for into a text; distances are counted from `code`
and `place`. -/
def insertAll? (bias code place : Nat) (text : List Char) (numbers : List Char) :
    Option (List Char) :=
  match numbers with
  | [] => some text
  | c :: more =>
      match _found : readNumber? bias 36 1 place (c :: more) with
      | none => none
      | some (total, rest) =>
          let count := text.length + 1
          match charOf? (code + total / count) with
          | none => none
          | some char =>
              insertAll? (adapt (total - place) count (place == 0)) (code + total / count)
                (total % count + 1) (text.insertIdx (total % count) char) rest
termination_by numbers.length
decreasing_by exact readNumber?_length (by assumption)

/-- The text that is spelled, if it is one. A hyphen in front separates nothing. -/
def decode? (spelled : List Char) : Option (List Char) :=
  let numbers := (spelled.reverse.takeWhile (· ≠ '-')).reverse
  let ascii := spelled.take (spelled.length - numbers.length - 1)
  insertAll? firstBias firstCode 0 ascii (if ascii.isEmpty then spelled else numbers)

/-- The digits of a number. -/
def writeNumber (bias place n : Nat) : List Char :=
  if n < threshold bias place then [digitChar n]
  else
    let rest := n - threshold bias place
    let base := 36 - threshold bias place
    digitChar (threshold bias place + rest % base) :: writeNumber bias (place + 36) (rest / base)
termination_by n
decreasing_by
  have := threshold_pos bias place
  exact Nat.lt_of_le_of_lt (Nat.div_le_self _ _) (by omega)

/-- How far a text has been spelled: the distance that has not been written yet, how many
characters have been, and the digits so far, the last first. -/
structure Progress where
  bias : Nat
  distance : Nat
  count : Nat
  written : List Char

/-- Goes past a character of the text while those with one code are written. -/
def Progress.pass (progress : Progress) (isFirst : Bool) (code : Nat) (c : Char) : Progress :=
  if c.toNat < code then { progress with distance := progress.distance + 1 }
  else if c.toNat = code then
    ⟨adapt progress.distance (progress.count + 1) isFirst, 0, progress.count + 1,
      (writeNumber progress.bias 36 progress.distance).reverse ++ progress.written⟩
  else progress

/-- Writes the characters with the codes that are left, from `code` on. -/
def Progress.writeAll (progress : Progress) (text : List Char) (ascii code : Nat) :
    List Nat → Progress
  | [] => progress
  | next :: rest =>
      let start := { progress with
        distance := progress.distance + (next - code) * (progress.count + 1) }
      let after := text.foldl
        (fun progress c => progress.pass (progress.count == ascii) next c) start
      Progress.writeAll { after with distance := after.distance + 1 } text ascii (next + 1) rest

def encode (text : List Char) : List Char :=
  let ascii := text.filter (·.toNat < 0x80)
  let codes := (((text.filter (0x80 ≤ ·.toNat)).map Char.toNat).mergeSort).eraseDups
  let progress := Progress.writeAll ⟨firstBias, 0, ascii.length, []⟩ text ascii.length firstCode codes
  (if ascii.isEmpty then [] else ascii ++ ['-']) ++ progress.written.reverse

end VectorSearch.Domain.Punycode
