import Mathlib.Tactic
import WorkspacePool.Text.Blank

/-!
What trimming leaves of a text: the one part of it that has only blanks in front and behind, and
itself neither starts nor ends with a blank.
-/

namespace WorkspacePool.Text

variable {text value front back rest : List Char}

/-- A text is a value with blanks in front of it and behind it, and no blank at the value's own
ends. -/
def Trims (text value : List Char) : Prop :=
  ∃ front back, text = front ++ value ++ back ∧
    (∀ character ∈ front, isBlank character = true) ∧
    (∀ character ∈ back, isBlank character = true) ∧
    (∀ first ∈ value.head?, isBlank first = false) ∧
    ∀ last ∈ value.getLast?, isBlank last = false

theorem dropBlanks_append (blank : ∀ character ∈ front, isBlank character = true) :
    dropBlanks (front ++ rest) = dropBlanks rest := by
  induction front with
  | nil => rfl
  | cons first front ih =>
      rw [List.cons_append, dropBlanks, List.dropWhile_cons_of_pos (blank first (by simp))]
      exact ih fun character member => blank character (by simp [member])

theorem dropBlanks_of_head (mark : ∀ first ∈ text.head?, isBlank first = false) :
    dropBlanks text = text := by
  cases text with
  | nil => rfl
  | cons first rest => exact dropBlanks_cons rest (mark first (by simp))

/-- The leading blanks that are dropped, and what is left. -/
theorem dropBlanks_split (text : List Char) :
    ∃ front, text = front ++ dropBlanks text ∧
      (∀ character ∈ front, isBlank character = true) ∧
      ∀ first ∈ (dropBlanks text).head?, isBlank first = false := by
  refine ⟨text.takeWhile isBlank, List.takeWhile_append_dropWhile.symm, ?_, ?_⟩
  · exact List.all_eq_true.mp List.all_takeWhile
  · intro first left
    obtain ⟨rest, shape⟩ := List.head?_eq_some_iff.mp left
    exact isBlank_of_dropBlanks_eq_cons shape

theorem trims_trim (text : String) : Trims text.toList (trim text).toList := by
  obtain ⟨front, whole, frontBlank, headMark⟩ := dropBlanks_split text.toList
  obtain ⟨rear, turned, rearBlank, lastMark⟩ := dropBlanks_split (dropBlanks text.toList).reverse
  have middle : dropBlanks text.toList = (trim text).toList ++ rear.reverse := by
    rw [trim, String.toList_ofList, ← List.reverse_append, ← turned, List.reverse_reverse]
  refine ⟨front, rear.reverse, by rw [List.append_assoc, ← middle, ← whole], frontBlank,
    by simpa using rearBlank, ?_, ?_⟩
  · intro first found
    apply headMark
    rw [middle, List.head?_append, found]
    rfl
  · intro last found
    apply lastMark
    rw [trim, String.toList_ofList, List.getLast?_reverse] at found
    exact found

theorem Trims.trim_eq {text value : String} (trims : Trims text.toList value.toList) :
    trim text = value := by
  obtain ⟨front, back, whole, frontBlank, backBlank, headMark, lastMark⟩ := trims
  have left : dropBlanks text.toList = dropBlanks (value.toList ++ back) := by
    rw [whole, List.append_assoc, dropBlanks_append frontBlank]
  have rearBlank : ∀ character ∈ back.reverse, isBlank character = true := by simpa using backBlank
  cases written : value.toList with
  | nil =>
      have nothing : dropBlanks text.toList = [] := by
        rw [left, written, List.nil_append, dropBlanks_eq_nil_iff]
        simpa using backBlank
      rw [trim, nothing, ← String.toList_inj, written]
      rfl
  | cons first rest =>
      have kept : dropBlanks (value.toList ++ back) = value.toList ++ back := by
        apply dropBlanks_of_head
        simpa [written] using headMark
      have turned : dropBlanks value.toList.reverse = value.toList.reverse := by
        apply dropBlanks_of_head
        simpa using lastMark
      rw [trim, left, kept, List.reverse_append, dropBlanks_append rearBlank, turned,
        List.reverse_reverse, String.ofList_toList]

theorem trim_eq_iff {text value : String} : trim text = value ↔ Trims text.toList value.toList :=
  ⟨fun trimmed => trimmed ▸ trims_trim text, Trims.trim_eq⟩

end WorkspacePool.Text
