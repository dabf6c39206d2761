import Mathlib.Tactic

/-!
Text as bytes. The bytes of a text are those of its characters one after the other; characters up
to 127 are their own byte, and bytes below 128 stand for nothing else.
-/

namespace WorkspacePool.Text

/-- The bytes of a text. -/
def utf8 (text : List Char) : List UInt8 :=
  text.flatMap String.utf8EncodeChar

@[simp] theorem utf8_nil : utf8 [] = [] := rfl

@[simp] theorem utf8_append (first second : List Char) :
    utf8 (first ++ second) = utf8 first ++ utf8 second :=
  List.flatMap_append

theorem utf8_cons (first : Char) (rest : List Char) :
    utf8 (first :: rest) = String.utf8EncodeChar first ++ utf8 rest := rfl

theorem bytes_eq_utf8 (text : String) : text.toUTF8.data.toList = utf8 text.toList := by
  have whole : text.toUTF8 = (utf8 text.toList).toByteArray := by
    conv_lhs => rw [← String.ofList_toList (s := text)]
    rfl
  rw [whole, List.data_toByteArray]

theorem fromUTF8?_utf8 (text : List Char) :
    String.fromUTF8? (utf8 text).toByteArray = some (String.ofList text) := by
  have valid : (utf8 text).toByteArray.IsValidUTF8 := ⟨text, rfl⟩
  rw [String.fromUTF8?, dif_pos valid]
  rfl

theorem fromUTF8?_eq_some_iff {bytes : List UInt8} {text : String} :
    String.fromUTF8? bytes.toByteArray = some text ↔ bytes = utf8 text.toList := by
  constructor
  · intro read
    unfold String.fromUTF8? at read
    split at read
    · rw [← bytes_eq_utf8, ← Option.some.inj read]
      change bytes = bytes.toByteArray.data.toList
      rw [List.data_toByteArray]
    · contradiction
  · rintro rfl
    rw [fromUTF8?_utf8, String.ofList_toList]

theorem utf8_injective : Function.Injective utf8 := by
  intro first second same
  have read := fromUTF8?_utf8 first
  rw [same, fromUTF8?_utf8 second, Option.some.injEq] at read
  simpa using congrArg String.toList read.symm

theorem utf8EncodeChar_of_ascii {character : Char} (ascii : character.toNat < 128) :
    String.utf8EncodeChar character = [UInt8.ofNat character.toNat] := by
  have small : character.val.toNat ≤ 127 := Nat.lt_succ_iff.mp ascii
  simp only [String.utf8EncodeChar, small, if_true]
  rfl

theorem utf8EncodeChar_of_not_ascii {character : Char} (beyond : 128 ≤ character.toNat) :
    ∀ byte ∈ String.utf8EncodeChar character, 128 ≤ byte.toNat := by
  have large : ¬ character.val.toNat ≤ 127 := by
    have : 128 ≤ character.val.toNat := beyond
    omega
  intro byte member
  simp only [String.utf8EncodeChar, large, if_false] at member
  split at member
  · simp only [List.mem_cons, List.not_mem_nil, or_false] at member
    rcases member with rfl | rfl <;> simp only [UInt8.toNat_ofNat'] <;> omega
  · split at member
    · simp only [List.mem_cons, List.not_mem_nil, or_false] at member
      rcases member with rfl | rfl | rfl <;> simp only [UInt8.toNat_ofNat'] <;> omega
    · simp only [List.mem_cons, List.not_mem_nil, or_false] at member
      rcases member with rfl | rfl | rfl | rfl <;> simp only [UInt8.toNat_ofNat'] <;> omega

end WorkspacePool.Text
