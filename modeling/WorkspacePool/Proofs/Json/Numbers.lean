import WorkspacePool.Json.Value
import WorkspacePool.Json.Writer
import WorkspacePool.Proofs.Json.Tokens
import WorkspacePool.Proofs.Text.Numerals
import WorkspacePool.Proofs.Text.Utf8

/-!
Natural numbers in JSON, written and read back. A written number is one token as long as what
follows it could not be more of the number.
-/

namespace WorkspacePool.Json

open Text (utf8)
open Text.Decimal (digits)

/-! ### Digits as bytes -/

def asciiByte (character : Char) : UInt8 :=
  UInt8.ofNat character.toNat

theorem toNat_asciiByte {character : Char} (digit : Text.Decimal.isDigit character = true) :
    (asciiByte character).toNat = character.toNat := by
  have bounds := (Text.Decimal.isDigit_iff character).mp digit
  rw [asciiByte, UInt8.toNat_ofNat']
  omega

theorem isDigit_asciiByte {character : Char} (digit : Text.Decimal.isDigit character = true) :
    Token.isDigit (asciiByte character) = true := by
  have bounds := (Text.Decimal.isDigit_iff character).mp digit
  simp only [Token.isDigit, Bool.and_eq_true, decide_eq_true_eq, UInt8.le_iff_toNat_le,
    toNat_asciiByte digit]
  exact bounds

theorem utf8_of_digits {run : List Char}
    (all : ∀ character ∈ run, Text.Decimal.isDigit character = true) :
    utf8 run = run.map asciiByte := by
  induction run with
  | nil => rfl
  | cons first run ih =>
      have bounds := (Text.Decimal.isDigit_iff first).mp (all first (by simp))
      rw [Text.utf8_cons, Text.utf8EncodeChar_of_ascii (by omega),
        ih fun character member => all character (by simp [member])]
      rfl

namespace Numeral

/-- A natural number as it is written. -/
def ofNat (value : Nat) : Numeral :=
  utf8 (Writer.natural value)

theorem ofNat_eq_map (value : Nat) : ofNat value = (digits value).map asciiByte :=
  utf8_of_digits (Text.Decimal.digits_all value)

theorem ofNat_ne_nil (value : Nat) : ofNat value ≠ [] := by
  simp [ofNat_eq_map, Text.Decimal.digits_ne_nil]

theorem ofNat_all (value : Nat) : ∀ byte ∈ ofNat value, Token.isDigit byte = true := by
  intro byte member
  rw [ofNat_eq_map, List.mem_map] at member
  obtain ⟨character, written, rfl⟩ := member
  exact isDigit_asciiByte (Text.Decimal.digits_all value character written)

theorem ofNat_eq_cons (value : Nat) :
    ∃ first run, ofNat value = first :: run ∧ Token.isDigit first = true := by
  obtain ⟨first, run, written⟩ := List.exists_cons_of_ne_nil (ofNat_ne_nil value)
  exact ⟨first, run, written, ofNat_all value first (by simp [written])⟩

@[simp] theorem natural?_ofNat (value : Nat) : natural? (ofNat value) = some value := by
  have all : (ofNat value).all Token.isDigit = true := List.all_eq_true.mpr (ofNat_all value)
  have counts : (ofNat value).foldl (fun total digit => total * 10 + (digit.toNat - 48)) 0 =
      Text.Decimal.ofDigits (digits value) := by
    rw [ofNat_eq_map, List.foldl_map]
    refine List.foldl_ext _ _ _ fun total character member => ?_
    rw [toNat_asciiByte (Text.Decimal.digits_all value character member)]
    rfl
  rw [natural?, if_pos (by simp [all, ofNat_ne_nil]), counts, Text.Decimal.ofDigits_digits]

end Numeral

namespace Token

/-- A text that cannot go on with a number. -/
def Breaks (bytes : List UInt8) : Prop :=
  ∀ byte ∈ bytes.head?, isDigit byte = false ∧ byte ≠ 46 ∧ byte ≠ 101 ∧ byte ≠ 69

theorem breaks_nil : Breaks [] := by simp [Breaks]

theorem breaks_cons {first : UInt8} (rest : List UInt8)
    (mark : isDigit first = false ∧ first ≠ 46 ∧ first ≠ 101 ∧ first ≠ 69) :
    Breaks (first :: rest) := by
  intro byte member
  rw [List.head?_cons, Option.mem_some_iff] at member
  rwa [← member]

theorem readDigits_run {run rest : List UInt8} (all : ∀ byte ∈ run, isDigit byte = true)
    (nonempty : run ≠ []) (ends : ∀ byte ∈ rest.head?, isDigit byte = false) :
    readDigits (run ++ rest) = some (run, rest) := by
  have kept : rest.takeWhile isDigit = [] ∧ rest.dropWhile isDigit = rest := by
    cases rest with
    | nil => exact ⟨rfl, rfl⟩
    | cons first later => simp [ends first (by simp)]
  have parted : (run ++ rest).span isDigit = (run, rest) := by
    rw [List.span_eq_takeWhile_dropWhile, List.takeWhile_append_of_pos all,
      List.dropWhile_append_of_pos all, kept.1, kept.2, List.append_nil]
  rw [readDigits, parted]
  split
  · next empty => exact absurd (Prod.mk.inj empty).1 nonempty
  · next same => rw [same]

theorem readFraction_of_breaks {rest : List UInt8} (breaks : Breaks rest) :
    readFraction rest = some ([], rest) := by
  unfold readFraction
  split
  · exact absurd rfl (breaks 46 (by simp)).2.1
  · rfl

theorem readExponent_of_breaks {rest : List UInt8} (breaks : Breaks rest) :
    readExponent rest = some ([], rest) := by
  unfold readExponent
  split
  · next mark later =>
      obtain ⟨-, -, notSmall, notLarge⟩ := breaks mark (by simp)
      rw [if_neg (by simp [notSmall, notLarge])]
  · rfl

/-- The whole part of a number is all its digits, since only zero starts with a zero. -/
theorem readWhole_ofNat (value : Nat) {rest : List UInt8} (breaks : Breaks rest) :
    readWhole (Numeral.ofNat value ++ rest) = some (Numeral.ofNat value, rest) := by
  rcases Nat.eq_zero_or_pos value with rfl | positive
  · have zero : Numeral.ofNat 0 = [48] := by decide +kernel
    rw [zero]
    rfl
  · have run := readDigits_run (Numeral.ofNat_all value) (Numeral.ofNat_ne_nil value)
      fun byte member => (breaks byte member).1
    unfold readWhole
    split
    · next bytes left same =>
        exfalso
        have leading := Text.Decimal.head_digits_ne_zero positive
        have head := congrArg List.head? same
        rw [List.head?_append_of_ne_nil _ (Numeral.ofNat_ne_nil value), Numeral.ofNat_eq_map,
          List.head?_map, List.head?_cons, Option.map_eq_some_iff] at head
        obtain ⟨first, written, code⟩ := head
        have digit := Text.Decimal.digits_all value first (List.mem_of_mem_head? written)
        have named : first.toNat = 48 := by rw [← toNat_asciiByte digit, code]; rfl
        exact leading (written.trans (congrArg some (Char.toNat_inj.mp named)))
    · exact run

theorem readSign_of_digit {first : UInt8} (digit : isDigit first = true) (later : List UInt8) :
    readSign (first :: later) = ([], first :: later) := by
  unfold readSign
  split
  · next same => exact absurd ((List.cons.inj same).1 ▸ digit) (by decide)
  · rfl

theorem isSpace_of_isDigit {byte : UInt8} (digit : isDigit byte = true) : isSpace byte = false := by
  simp only [isDigit, Bool.and_eq_true, decide_eq_true_eq, UInt8.le_iff_toNat_le] at digit
  have apart {other : UInt8} (small : other.toNat < 48) : byte ≠ other := by
    rintro rfl
    exact absurd digit.1 (Nat.not_le.mpr small)
  simp [isSpace, apart]

theorem read_of_digit {first : UInt8} (digit : isDigit first = true) (later : List UInt8) :
    read (first :: later) =
      (readNumeral (first :: later)).map fun (numeral, left) => (.number numeral, left) := by
  unfold read
  split
  case h_11 => rfl
  all_goals
    next same => exact absurd ((List.cons.inj same).1 ▸ digit) (by decide)

theorem readNumeral_ofNat (value : Nat) {rest : List UInt8} (breaks : Breaks rest) :
    readNumeral (Numeral.ofNat value ++ rest) = some (Numeral.ofNat value, rest) := by
  have unsigned : readSign (Numeral.ofNat value ++ rest) = ([], Numeral.ofNat value ++ rest) := by
    obtain ⟨first, run, written, digit⟩ := Numeral.ofNat_eq_cons value
    rw [written]
    exact readSign_of_digit digit _
  simp [readNumeral, unsigned, readWhole_ofNat value breaks, readFraction_of_breaks breaks,
    readExponent_of_breaks breaks]

/-- A written number is one token in front of a text that could not belong to it. -/
theorem ofBytes_natural (value : Nat) {rest : List UInt8} (breaks : Breaks rest) :
    ofBytes (utf8 (Writer.natural value) ++ rest) =
      (ofBytes rest).map (.number (Numeral.ofNat value) :: ·) := by
  have numeral := readNumeral_ofNat value breaks
  change ofBytes (Numeral.ofNat value ++ rest) = _
  obtain ⟨first, run, written, digit⟩ := Numeral.ofNat_eq_cons value
  rw [written, List.cons_append] at numeral ⊢
  refine ofBytes_of_read (isSpace_of_isDigit digit) ?_
  rw [read_of_digit digit, numeral]
  rfl

end Token

end WorkspacePool.Json
