/-!
# Decimal digits

Runs of decimal digits, the numbers they write, and the digits that write a number. Readers
elsewhere take a run off the front of a text with `Digit.takeRun` and look at what follows it.

Only the ten ASCII digits count as digits.
-/

namespace SoundLedger

/-- A power of ten. -/
def tenTo (exponent : Nat) : Nat := Nat.pow 10 exponent

/-- A decimal digit, held as its value. -/
abbrev Digit := Fin 10

namespace Digit

/-- The digit `0`. -/
def zero : Digit := ⟨0, by decide⟩

/-- The character that writes a digit. -/
def toChar (d : Digit) : Char := Char.ofNat (48 + d.val)

/-- The digit that a character writes, if it is one of `0` to `9`. -/
def ofChar? (c : Char) : Option Digit :=
  if h : 48 ≤ c.toNat ∧ c.toNat < 58 then some ⟨c.toNat - 48, by omega⟩ else none

/-- The run of digits at the front of a text, and the text after it. -/
def takeRun : List Char → List Digit × List Char
  | [] => ([], [])
  | c :: rest =>
    match ofChar? c with
    | some d => (d :: (takeRun rest).1, (takeRun rest).2)
    | none => ([], c :: rest)

/-- The number that a run of digits writes, most significant digit first. -/
def value (digits : List Digit) : Nat := digits.foldl (fun n d => 10 * n + d.val) 0

/-- The digits of a number without leading zeros; zero is the single digit `0`. -/
def ofNat (n : Nat) : List Digit :=
  if h : n < 10 then [⟨n, h⟩] else ofNat (n / 10) ++ [⟨n % 10, by omega⟩]
termination_by n

/-- The digits of a number with zeros in front up to a least width. -/
def padded (width n : Nat) : List Digit :=
  List.replicate (width - (ofNat n).length) zero ++ ofNat n

/-- The characters of a run of digits. -/
def toChars (digits : List Digit) : List Char := digits.map toChar

/-- A whole text that is an unsigned number of at most `limit`: an optional plus sign and at least
one digit, leading zeros included. -/
def readUnsigned? (limit : Nat) (text : List Char) : Option Nat :=
  let body := match text with
    | '+' :: rest => rest
    | _ => text
  match takeRun body with
  | ([], _) => none
  | (digits, []) => if value digits ≤ limit then some (value digits) else none
  | _ => none

/-! ## Writing a digit and reading it back -/

theorem ofChar?_toChar (d : Digit) : ofChar? d.toChar = some d := by
  revert d; decide

/-- Reading a written run gives the run and what stood after it, as long as no further digit does.
-/
theorem takeRun_toChars_append (digits : List Digit) (rest : List Char)
    (stop : ∀ c ∈ rest.head?, ofChar? c = none) :
    takeRun (toChars digits ++ rest) = (digits, rest) := by
  induction digits with
  | nil =>
    cases rest with
    | nil => rfl
    | cons c tail => simp [toChars, takeRun, stop c (by simp)]
  | cons d digits ih =>
    simp only [toChars, List.map_cons, List.cons_append, takeRun, ofChar?_toChar]
    simp only [toChars] at ih
    simp [ih]

theorem value_append_singleton (digits : List Digit) (d : Digit) :
    value (digits ++ [d]) = 10 * value digits + d.val := by
  simp [value]

/-- The digits of a number write that number. -/
theorem value_ofNat (n : Nat) : value (ofNat n) = n := by
  induction n using Nat.strongRecOn with
  | _ n ih =>
    rw [ofNat]
    split
    · simp [value]
    · rw [value_append_singleton, ih (n / 10) (by omega)]
      simp only
      omega

/-- A number always has a digit. -/
theorem ofNat_ne_nil (n : Nat) : ofNat n ≠ [] := by
  rw [ofNat]; split <;> simp

end Digit

end SoundLedger
