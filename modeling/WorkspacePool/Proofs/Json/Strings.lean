import WorkspacePool.Json.Value
import WorkspacePool.Json.Writer
import WorkspacePool.Proofs.Json.Tokens
import WorkspacePool.Proofs.Text.Utf8

/-!
Strings of JSON, written and read back. What is written between the quotes never ends the string
early, and the text of what is read there is the text that was written.
-/

namespace WorkspacePool.Json

open Text (utf8)

namespace Writer

/-- A control character without a letter of its own, which is written by its code. -/
def isCoded (char : Char) : Bool :=
  char.toNat < 32 && !(['\x08', '\t', '\n', '\x0c', '\r'].contains char)

end Writer

namespace Quoted

/-- What is read of a character that was written inside a string. -/
def ofChar (char : Char) : Quoted :=
  if Writer.isCoded char then [.unit char.toNat] else (String.utf8EncodeChar char).map .byte

/-- What is read of a text that was written as a string. -/
def ofText (text : String) : Quoted :=
  text.toList.flatMap ofChar

/-! ### The text of what is read -/

theorem bytes_bytes_append (encoded : List UInt8) (rest : Quoted) :
    bytes (encoded.map .byte ++ rest) = (encoded ++ ·) <$> bytes rest := by
  induction encoded with
  | nil => simp
  | cons first encoded ih =>
      simp only [List.map_cons, List.cons_append, bytes, ih, Option.map_eq_map, Option.map_map]
      rfl

/-- A code below the surrogates is a character by itself, whatever follows it. -/
theorem bytes_unit_append {code : Nat} (low : code < 0xD800) (rest : Quoted) :
    bytes (.unit code :: rest) =
      (String.utf8EncodeChar (Char.ofNat code) ++ ·) <$> bytes rest := by
  have notHigh : isHigh code = false := by
    simp only [isHigh, Bool.and_eq_false_iff, decide_eq_false_iff_not]
    omega
  have notLow : isLow code = false := by
    simp only [isLow, Bool.and_eq_false_iff, decide_eq_false_iff_not]
    omega
  cases rest with
  | nil => simp [bytes, notHigh, notLow]
  | cons next later => cases next <;> simp [bytes, notHigh, notLow]

theorem bytes_ofChar_append (char : Char) (rest : Quoted) :
    bytes (ofChar char ++ rest) = (String.utf8EncodeChar char ++ ·) <$> bytes rest := by
  unfold ofChar
  split
  · next coded =>
      simp only [Writer.isCoded, Bool.and_eq_true, decide_eq_true_eq] at coded
      rw [List.singleton_append, bytes_unit_append (by omega), Char.ofNat_toNat]
  · exact bytes_bytes_append _ rest

theorem bytes_flatMap_ofChar (text : List Char) :
    bytes (text.flatMap ofChar) = some (utf8 text) := by
  induction text with
  | nil => rfl
  | cons first rest ih =>
      rw [List.flatMap_cons, bytes_ofChar_append, ih, Text.utf8_cons]
      rfl

@[simp] theorem text?_ofText (text : String) : text? (ofText text) = some text := by
  simp [text?, ofText, bytes_flatMap_ofChar, Text.fromUTF8?_utf8]

end Quoted

/-! ### Reading what was written -/

namespace Token

/-- Bytes that stand for themselves inside a string. -/
def IsPlain (byte : UInt8) : Prop :=
  32 ≤ byte.toNat ∧ byte ≠ 34 ∧ byte ≠ 92

theorem readQuoted_plain {encoded : List UInt8} (plain : ∀ byte ∈ encoded, IsPlain byte)
    (done : Quoted) (rest : List UInt8) :
    readQuoted done (encoded ++ rest) = readQuoted ((encoded.map .byte).reverse ++ done) rest := by
  induction encoded generalizing done with
  | nil => rfl
  | cons first encoded ih =>
      obtain ⟨visible, notQuote, notEscape⟩ := plain first (by simp)
      have large : ¬ first < 32 := by
        rw [UInt8.lt_iff_toNat_lt]
        exact Nat.not_lt.mpr visible
      rw [List.cons_append, readQuoted]
      · rw [if_neg (by simp [large, notEscape]),
          ih (fun byte member => plain byte (by simp [member])), List.map_cons, List.reverse_cons,
          List.append_assoc, List.singleton_append]
      · exact notQuote
      · exact fun a b c d left same => absurd same notEscape
      · exact fun letter left same => absurd same notEscape

theorem readQuoted_letter {letter byte : UInt8} (named : escape? letter = some byte)
    (done : Quoted) (rest : List UInt8) :
    readQuoted done (92 :: letter :: rest) = readQuoted (.byte byte :: done) rest := by
  rw [readQuoted]
  · simp only [named]
  · intro a b c d left same
    cases same
    cases named

theorem readQuoted_unit {a b c d : UInt8} {code : Nat} (named : unit? a b c d = some code)
    (done : Quoted) (rest : List UInt8) :
    readQuoted done (92 :: 117 :: a :: b :: c :: d :: rest) =
      readQuoted (.unit code :: done) rest := by
  rw [readQuoted]
  simp only [named]

theorem readQuoted_coded {code : Nat} (control : code < 32) (done : Quoted) (rest : List UInt8) :
    readQuoted done (utf8 ['\\', 'u', '0', '0', Writer.hexDigit (code / 16),
      Writer.hexDigit (code % 16)] ++ rest) = readQuoted (.unit code :: done) rest := by
  -- There are 32 control characters, so that their digits can be looked at one by one.
  have digits : ∀ code < 32, utf8 ['\\', 'u', '0', '0', Writer.hexDigit (code / 16),
      Writer.hexDigit (code % 16)] = [92, 117, 48, 48,
        UInt8.ofNat (Writer.hexDigit (code / 16)).toNat,
        UInt8.ofNat (Writer.hexDigit (code % 16)).toNat] := by decide +kernel
  have named : ∀ code < 32, unit? 48 48 (UInt8.ofNat (Writer.hexDigit (code / 16)).toNat)
      (UInt8.ofNat (Writer.hexDigit (code % 16)).toNat) = some code := by decide +kernel
  rw [digits code control]
  exact readQuoted_unit (named code control) done rest

/-- Characters that are neither quotes nor backslashes nor control characters. -/
theorem isPlain_of_mem_utf8EncodeChar {char : Char} (visible : 32 ≤ char.toNat)
    (notQuote : char ≠ '"') (notEscape : char ≠ '\\') :
    ∀ byte ∈ String.utf8EncodeChar char, IsPlain byte := by
  intro byte member
  by_cases ascii : char.toNat < 128
  · rw [Text.utf8EncodeChar_of_ascii ascii, List.mem_singleton] at member
    have code : byte.toNat = char.toNat := by
      rw [member, UInt8.toNat_ofNat']
      omega
    have other {mark : Char} (differs : char ≠ mark) : byte.toNat ≠ mark.toNat := by
      rw [code]
      exact fun same => differs (Char.toNat_inj.mp same)
    refine ⟨by omega, ?_, ?_⟩
    · rintro rfl
      exact other notQuote rfl
    · rintro rfl
      exact other notEscape rfl
  · have large := Text.utf8EncodeChar_of_not_ascii (by omega) byte member
    refine ⟨by omega, ?_, ?_⟩ <;> rintro rfl <;> exact absurd large (by decide)

theorem readQuoted_character (char : Char) (done : Quoted) (rest : List UInt8) :
    readQuoted done (utf8 (Writer.character char) ++ rest) =
      readQuoted ((Quoted.ofChar char).reverse ++ done) rest := by
  unfold Writer.character
  split
  · exact readQuoted_letter (show escape? 34 = some 34 from rfl) done rest
  · exact readQuoted_letter (show escape? 92 = some 92 from rfl) done rest
  · exact readQuoted_letter (show escape? 98 = some 8 from rfl) done rest
  · exact readQuoted_letter (show escape? 116 = some 9 from rfl) done rest
  · exact readQuoted_letter (show escape? 110 = some 10 from rfl) done rest
  · exact readQuoted_letter (show escape? 102 = some 12 from rfl) done rest
  · exact readQuoted_letter (show escape? 114 = some 13 from rfl) done rest
  · next notQuote notEscape notBack notTab notLine notPage notReturn =>
      unfold Quoted.ofChar
      split
      · next control =>
          have coded : Writer.isCoded char = true := by
            simpa [Writer.isCoded, control] using
              ⟨notBack, notTab, notLine, notPage, notReturn⟩
          rw [if_pos coded]
          exact readQuoted_coded control done rest
      · next visible =>
          have uncoded : Writer.isCoded char = false := by simp [Writer.isCoded, visible]
          have encoded : utf8 [char] = String.utf8EncodeChar char := List.append_nil _
          rw [if_neg (by simp [uncoded]), encoded]
          exact readQuoted_plain
            (isPlain_of_mem_utf8EncodeChar (by omega) notQuote notEscape) done rest

/-- Characters that were written inside a string are read up to the quote behind them. -/
theorem readQuoted_written (text : List Char) (done : Quoted) (rest : List UInt8) :
    readQuoted done (utf8 (text.flatMap Writer.character) ++ 34 :: rest) =
      some (done.reverse ++ text.flatMap Quoted.ofChar, rest) := by
  induction text generalizing done with
  | nil => simp [readQuoted]
  | cons first text ih =>
      rw [List.flatMap_cons, Text.utf8_append, List.append_assoc, readQuoted_character, ih]
      simp

/-- A written string is one token, whatever follows it. -/
theorem ofBytes_string (text : String) (rest : List UInt8) :
    ofBytes (utf8 (Writer.string text) ++ rest) =
      (ofBytes rest).map (.string (Quoted.ofText text) :: ·) := by
  have quote : utf8 ['"'] = [34] := by decide
  have shape : utf8 (Writer.string text) ++ rest =
      34 :: (utf8 (text.toList.flatMap Writer.character) ++ 34 :: rest) := by
    rw [Writer.string, List.cons_append, Text.utf8_cons, Text.utf8_append, quote,
      List.append_assoc, List.append_assoc]
    rfl
  rw [shape]
  refine ofBytes_of_read (by decide) ?_
  rw [read, readQuoted_written]
  rfl

end Token

end WorkspacePool.Json
