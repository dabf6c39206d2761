import WorkspacePool.Text.Split

/-!
Labels of domain names written in ASCII. Characters beyond ASCII are told by where and how far they
are inserted, in numbers of base 36 whose digits count less the further the numbers grow.
-/

namespace WorkspacePool.Url.Punycode

/-- What a digit counts: letters of either case first, then decimal digits. -/
def digitValue? (character : Char) : Option Nat :=
  if 'a' ≤ character ∧ character ≤ 'z' then some (character.toNat - 'a'.toNat)
  else if 'A' ≤ character ∧ character ≤ 'Z' then some (character.toNat - 'A'.toNat)
  else if '0' ≤ character ∧ character ≤ '9' then some (character.toNat - '0'.toNat + 26)
  else none

/-- The bound that ends a number, for the digit at a position. -/
def threshold (bias position : Nat) : Nat :=
  if position ≤ bias then 1 else if bias + 26 ≤ position then 26 else position - bias

/-- How often a step is divided until it is small, at 36 a division, and what is left of it. -/
def shrink (step bias : Nat) : Nat × Nat :=
  if 455 < step then shrink (step / 35) (bias + 36) else (step, bias)
termination_by step

/-- The bias after an insertion, by the size of its step and the characters there are by then. -/
def adapt (step count : Nat) (isFirst : Bool) : Nat :=
  let damped := if isFirst then step / 700 else step / 2
  let (rest, bias) := shrink (damped + damped / count) 0
  bias + 36 * rest / (rest + 38)

/-- Read one number, added to a start value, and what follows it. -/
def readNumber (bias : Nat) : List Char → (position weight value : Nat) →
    Option (Nat × List Char)
  | [], _, _, _ => none
  | first :: rest, position, weight, value => do
      let digit ← digitValue? first
      let bound := threshold bias position
      if digit < bound then some (value + digit * weight, rest)
      else readNumber bias rest (position + 36) (weight * (36 - bound)) (value + digit * weight)

theorem readNumber_length {bias : Nat} {text : List Char} {position weight value : Nat}
    {result : Nat × List Char} (read : readNumber bias text position weight value = some result) :
    result.2.length < text.length := by
  induction text generalizing position weight value with
  | nil => simp [readNumber] at read
  | cons first rest ih =>
      simp only [readNumber, Option.bind_eq_bind, Option.bind_eq_some_iff] at read
      obtain ⟨digit, _, read⟩ := read
      split at read
      · simp only [Option.some.injEq] at read
        subst read
        simp
      · exact Nat.lt_trans (ih read) (by simp)

/-- Insert the characters that numbers tell, each with at least the code of the one before it. The
number for a character counts on from the place behind the one before. -/
def insertAll (bias code place : Nat) (done text : List Char) : Option (List Char) :=
  match text with
  | [] => some done
  | first :: rest =>
      match number : readNumber bias (first :: rest) 36 1 place with
      | none => none
      | some (reached, others) =>
          let count := done.length + 1
          let next := code + reached / count
          let target := reached % count
          if next.isValidChar then
            insertAll (adapt (reached - place) count (place == 0)) next (target + 1)
              (done.insertIdx target (Char.ofNat next)) others
          else none
termination_by text.length
decreasing_by exact readNumber_length number

/-- The characters of a label. ASCII ones stand before the last hyphen, numbers behind it. -/
def decode? (text : List Char) : Option (List Char) :=
  match Text.splitLast? '-' text with
  | some (plain, numbers) => insertAll 72 128 0 plain numbers
  | none => insertAll 72 128 0 [] text

end WorkspacePool.Url.Punycode
