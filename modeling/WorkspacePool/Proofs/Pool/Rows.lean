import WorkspacePool.Pool.Operation

/-!
Rows of a pool. Every change of a slot replaces one row of the list by another, so what a change
does to the whole list is told once, by `Replaced`.
-/

namespace WorkspacePool

/-- A slot is busy exactly when it has a project, and exactly when its status is not empty. A free
slot serves no session. -/
structure Slot.Consistent (slot : Slot) : Prop where
  busy_iff_project : slot.isBusy = true ↔ slot.projectId ≠ ""
  busy_iff_status : slot.isBusy = true ↔ slot.status ≠ .empty
  free_session : slot.isBusy = false → slot.sessionId = ""

/-- Two slots are apart unless both are busy with the same project. -/
def Slot.Apart (left right : Slot) : Prop :=
  left.isBusy = true → right.isBusy = true → left.projectId ≠ right.projectId

namespace Slot

/-- The project and the session that a slot serves. -/
def tenant? (slot : Slot) : Option (String × String) :=
  if slot.isBusy then some (slot.projectId, slot.sessionId) else none

theorem tenant?_of_free {slot : Slot} (free : slot.isBusy = false) : slot.tenant? = none := by
  simp [tenant?, free]

theorem tenant?_of_busy {slot : Slot} (busy : slot.isBusy = true) :
    slot.tenant? = some (slot.projectId, slot.sessionId) := by
  simp [tenant?, busy]

@[simp] theorem tenant?_occupy (slot : Slot) (projectId sessionId : String) (now : Millis) :
    (slot.occupy projectId sessionId now).tenant? = some (projectId, sessionId) := rfl

@[simp] theorem tenant?_clear (slot : Slot) (now : Millis) : (slot.clear now).tenant? = none := rfl

theorem Apart.symm {left right : Slot} (apart : left.Apart right) : right.Apart left :=
  fun rightBusy leftBusy same => apart leftBusy rightBusy same.symm

theorem free_consistent (id : SlotId) (now : Millis) : (free id now).Consistent :=
  ⟨by simp [free], by simp [free], fun _ => rfl⟩

theorem occupy_consistent (slot : Slot) {projectId : String} (sessionId : String) (now : Millis)
    (named : projectId ≠ "") : (slot.occupy projectId sessionId now).Consistent :=
  ⟨by simp [occupy, named], by simp [occupy], by simp [occupy]⟩

theorem Consistent.holds_iff {slot : Slot} (consistent : slot.Consistent) {projectId : String} :
    slot.holds projectId = true ↔ slot.isBusy = true ∧ slot.projectId = projectId := by
  rw [Slot.holds_iff]
  constructor
  · intro held
    exact ⟨held.1, held.2.2⟩
  · intro held
    refine ⟨held.1, ?_, held.2⟩
    rw [← held.2]
    exact consistent.busy_iff_project.mp held.1

end Slot

namespace Pool

variable {before after : List Slot} {old new slot : Slot}

/-- One row of a list is replaced by another; the rest is as it was. -/
def Replaced (old new : Slot) (before after : List Slot) : Prop :=
  ∃ front back, before = front ++ old :: back ∧ after = front ++ new :: back

theorem updateFirst_replaced {test : Slot → Bool} {slots : List Slot} (change : Slot → Slot)
    (found : slots.find? test = some slot) :
    Replaced slot (change slot) slots (updateFirst test change slots) := by
  induction slots with
  | nil => simp at found
  | cons first rest ih =>
      by_cases hit : test first = true
      · have same : first = slot := by simpa [List.find?_cons, hit] using found
        subst same
        exact ⟨[], rest, rfl, by simp [updateFirst, hit]⟩
      · have later : rest.find? test = some slot := by simpa [List.find?_cons, hit] using found
        obtain ⟨front, back, split, changed⟩ := ih later
        exact ⟨first :: front, back, by simp [split], by simp [updateFirst, hit, changed]⟩

namespace Replaced

theorem map_eq {β : Type} (replaced : Replaced old new before after) (view : Slot → β)
    (same : view new = view old) : after.map view = before.map view := by
  obtain ⟨front, back, rfl, rfl⟩ := replaced
  simp [same]

theorem length_eq (replaced : Replaced old new before after) : after.length = before.length := by
  obtain ⟨front, back, rfl, rfl⟩ := replaced
  simp

theorem old_mem (replaced : Replaced old new before after) : old ∈ before := by
  obtain ⟨front, back, rfl, -⟩ := replaced
  simp

theorem mem_cases (replaced : Replaced old new before after) (member : slot ∈ after) :
    slot = new ∨ slot ∈ before := by
  obtain ⟨front, back, rfl, rfl⟩ := replaced
  simp only [List.mem_append, List.mem_cons] at member ⊢
  rcases member with inFront | same | inBack
  · exact .inr (.inl inFront)
  · exact .inl same
  · exact .inr (.inr (.inr inBack))

end Replaced

end Pool

end WorkspacePool
