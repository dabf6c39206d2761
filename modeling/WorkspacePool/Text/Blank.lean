/-!
White space and trimming. A character is blank when it has the Unicode property `White_Space`;
trimming removes blank characters from both ends of a text and nothing else.
-/

namespace WorkspacePool.Text

/-- The characters with the Unicode property `White_Space`. -/
def isBlank (character : Char) : Bool :=
  let code := character.toNat
  (9 ≤ code && code ≤ 13) || code == 0x20 || code == 0x85 || code == 0xA0 || code == 0x1680 ||
    (0x2000 ≤ code && code ≤ 0x200A) || code == 0x2028 || code == 0x2029 || code == 0x202F ||
    code == 0x205F || code == 0x3000

/-- The rest of a text behind its leading blanks. -/
def dropBlanks (text : List Char) : List Char :=
  text.dropWhile isBlank

/-- A text without the blanks at its two ends. -/
def trim (text : String) : String :=
  String.ofList (dropBlanks (dropBlanks text.toList).reverse).reverse

/-- A text that is empty once trimmed. -/
def isBlankText (text : String) : Bool :=
  text.toList.all isBlank

theorem dropBlanks_eq_nil_iff {text : List Char} :
    dropBlanks text = [] ↔ text.all isBlank = true := by
  unfold dropBlanks
  induction text with
  | nil => simp
  | cons first rest ih => by_cases blank : isBlank first = true <;> simp_all

theorem dropBlanks_cons {first : Char} (rest : List Char) (mark : isBlank first = false) :
    dropBlanks (first :: rest) = first :: rest := by
  simp [dropBlanks, mark]

/-- What is left behind the leading blanks does not start with one. -/
theorem isBlank_of_dropBlanks_eq_cons {text rest : List Char} {first : Char}
    (left : dropBlanks text = first :: rest) : isBlank first = false := by
  have head := List.head?_dropWhile_not isBlank text
  rw [show text.dropWhile isBlank = first :: rest from left] at head
  simpa using head

/-- Trimming leaves nothing exactly of the texts that hold blanks only. -/
theorem trim_eq_empty_iff {text : String} : trim text = "" ↔ isBlankText text = true := by
  have nothing : trim text = "" ↔ dropBlanks (dropBlanks text.toList).reverse = [] := by
    rw [trim, ← String.toList_inj]
    simp
  rw [nothing, dropBlanks_eq_nil_iff, List.all_reverse]
  constructor
  · intro blank
    cases left : dropBlanks text.toList with
    | nil => exact dropBlanks_eq_nil_iff.mp left
    | cons first rest =>
        rw [left] at blank
        simp [isBlank_of_dropBlanks_eq_cons left] at blank
  · intro blank
    rw [dropBlanks_eq_nil_iff.mpr blank]
    rfl

end WorkspacePool.Text
