import Mathlib.Data.List.Forall2
import WorkspacePool.Json.Fields

/-!
Fields among the members of an object. A record goes by what is given under the names of its
fields, wherever it is given; members of other names need only have names that are text.
-/

namespace WorkspacePool.Json.Fields

variable {names : List String} {name : String} {members before after : List (Quoted × Value)}

/-- The values that are given under a name, which is compared as text. -/
def given (name : String) (members : List (Quoted × Value)) : List Value :=
  (members.filter fun member => Quoted.text? member.1 == some name).map (·.2)

/-- Every name is text. -/
def Legible (members : List (Quoted × Value)) : Prop :=
  ∀ member ∈ members, ∃ name, Quoted.text? member.1 = some name

/-- A field is given at most once, and read as the given result. -/
def Reads {α : Type} (read : Option Value → Option α) (values : List Value) (result : α) : Prop :=
  ∃ slot : Option Value, values = slot.toList ∧ read slot = some result

theorem Reads.missing {α : Type} {read : Option Value → Option α} {values : List Value}
    {result : α} (reads : Reads read values result) (nothing : values = []) :
    read none = some result := by
  obtain ⟨slot, found, read⟩ := reads
  cases slot with
  | none => exact read
  | some value => cases nothing.symm.trans found

@[simp] theorem given_append (first second : List (Quoted × Value)) :
    given name (first ++ second) = given name first ++ given name second := by
  simp [given]

theorem given_cons (key : Quoted) (value : Value) (members : List (Quoted × Value)) :
    given name ((key, value) :: members) =
      if Quoted.text? key = some name then value :: given name members else given name members := by
  by_cases named : Quoted.text? key = some name <;> simp [given, named]

/-- A value that is given and gives a field is the only one. -/
theorem append_cons_eq_toList_iff {earlier later : List Value} {value : Value}
    {slot : Option Value} :
    earlier ++ value :: later = slot.toList ↔ earlier = [] ∧ later = [] ∧ slot = some value := by
  cases slot with
  | none => simp
  | some held => simp [List.append_eq_singleton_iff, eq_comm, and_comm]

/-! ### What is found for a record -/

theorem mapM_eq_some_iff {α β : Type} {step : α → Option β} {items : List α} {results : List β} :
    items.mapM step = some results ↔
      List.Forall₂ (fun item result => step item = some result) items results := by
  induction items generalizing results with
  | nil => cases results <;> simp
  | cons first items ih =>
      simp only [List.mapM_cons, Option.bind_eq_bind, Option.pure_def, Option.bind_eq_some_iff,
        Option.some.injEq, ih, List.forall₂_cons_left_iff]
      constructor
      · intro found
        obtain ⟨result, one, results, all, rfl⟩ := found
        exact ⟨result, results, one, all, rfl⟩
      · intro found
        obtain ⟨result, results, one, all, rfl⟩ := found
        exact ⟨result, one, results, all, rfl⟩

theorem readName_eq_some_iff {member : Quoted × Value} {result : String × Value} :
    readName member = some result ↔
      ∃ text, Quoted.text? member.1 = some text ∧ (text, member.2) = result := by
  simp [readName, Option.bind_eq_some_iff]

theorem named_of_readNames {named : List (String × Value)}
    (read : members.mapM readName = some named) : Fields.named name named = given name members := by
  induction mapM_eq_some_iff.mp read with
  | nil => rfl
  | @cons member result members named first rest ih =>
      obtain ⟨key, value⟩ := member
      obtain ⟨text, decoded, rfl⟩ := readName_eq_some_iff.mp first
      rw [given_cons, ← ih (mapM_eq_some_iff.mpr rest), decoded]
      by_cases same : text = name <;> simp [Fields.named, same]

theorem legible_iff : Legible members ↔ ∃ named, members.mapM readName = some named := by
  simp only [mapM_eq_some_iff]
  induction members with
  | nil => simp [Legible]
  | cons member members ih =>
      have parts : Legible (member :: members) ↔
          (∃ text, Quoted.text? member.1 = some text) ∧ Legible members := by simp [Legible]
      simp only [parts, ih, List.forall₂_cons_left_iff, readName_eq_some_iff]
      constructor
      · intro both
        obtain ⟨⟨text, decoded⟩, named, rest⟩ := both
        exact ⟨_, _, _, ⟨text, decoded, rfl⟩, rest, rfl⟩
      · intro whole
        obtain ⟨_, _, named, ⟨text, decoded, _⟩, rest, _⟩ := whole
        exact ⟨⟨text, decoded⟩, named, rest⟩

/-- A record is found in an object whose names are text and which gives no field twice. -/
theorem collect_object_eq_some_iff {slots : List (Option Value)} :
    collect names (.object members) = some slots ↔ Legible members ∧
      List.Forall₂ (fun name slot => given name members = slot.toList) names slots := by
  rw [legible_iff]
  constructor
  · intro found
    obtain ⟨named, read, found⟩ := Option.bind_eq_some_iff.mp found
    refine ⟨⟨named, read⟩, (mapM_eq_some_iff.mp found).imp fun name slot one => ?_⟩
    rw [named_of_readNames read] at one
    split at one
    · next nothing =>
      rw [nothing, ← Option.some.inj one]
      rfl
    · next value only =>
      rw [only, ← Option.some.inj one]
      rfl
    · contradiction
  · intro found
    obtain ⟨⟨named, read⟩, found⟩ := found
    refine Option.bind_eq_some_iff.mpr ⟨named, read, mapM_eq_some_iff.mpr (found.imp ?_)⟩
    intro name slot one
    rw [named_of_readNames read, one]
    cases slot <;> rfl

/-! ### Other ways to give the same -/

/-- Members in another order, or with one more among them whose name is none of the given. -/
inductive Rearranged (names : List String) : (before after : List (Quoted × Value)) → Prop
  | permuted {before after : List (Quoted × Value)} (same : before.Perm after) :
      Rearranged names before after
  | extended {front back : List (Quoted × Value)} {key : Quoted} {value : Value} {name : String}
      (decoded : Quoted.text? key = some name) (foreign : name ∉ names) :
      Rearranged names (front ++ back) (front ++ (key, value) :: back)

theorem Rearranged.given (rearranged : Rearranged names before after) (known : name ∈ names) :
    (Fields.given name before).Perm (Fields.given name after) := by
  cases rearranged with
  | permuted same => exact (same.filter _).map _
  | @extended front back key value another decoded foreign =>
      have other : Quoted.text? key ≠ some name := by
        intro same
        obtain rfl : another = name := Option.some.inj (decoded.symm.trans same)
        exact foreign known
      rw [given_append, given_append, given_cons, if_neg other]

theorem Rearranged.legible (rearranged : Rearranged names before after) :
    Legible before ↔ Legible after := by
  cases rearranged with
  | permuted same => simp only [Legible, same.mem_iff]
  | extended decoded foreign => simp [Legible, or_imp, forall_and, decoded]

/-- A list of one value at most has no other order. -/
theorem eq_toList_of_perm {first second : List Value} {slot : Option Value}
    (same : first.Perm second) (found : first = slot.toList) : second = slot.toList := by
  rw [found] at same
  cases slot with
  | none => exact same.nil_eq.symm
  | some value => exact List.perm_singleton.mp same.symm

theorem Rearranged.collect (rearranged : Rearranged names before after) :
    Fields.collect names (.object after) = Fields.collect names (.object before) := by
  apply Option.ext
  intro slots
  rw [collect_object_eq_some_iff, collect_object_eq_some_iff, rearranged.legible,
    List.forall₂_iff_zip, List.forall₂_iff_zip]
  have alike {name : String} {slot : Option Value} (listed : (name, slot) ∈ names.zip slots) :
      Fields.given name after = slot.toList ↔ Fields.given name before = slot.toList := by
    have same := rearranged.given (List.of_mem_zip listed).1
    exact ⟨eq_toList_of_perm same.symm, eq_toList_of_perm same⟩
  constructor
  · intro found
    exact ⟨found.1, found.2.1, fun listed => (alike listed).mp (found.2.2 listed)⟩
  · intro found
    exact ⟨found.1, found.2.1, fun listed => (alike listed).mpr (found.2.2 listed)⟩

/-- Members two of which have the same name, and it is one of the given. -/
inductive Repeated (names : List String) : List (Quoted × Value) → Prop
  | twice {front middle back : List (Quoted × Value)} {key other : Quoted} {value another : Value}
      {name : String} (known : name ∈ names) (first : Quoted.text? key = some name)
      (second : Quoted.text? other = some name) :
      Repeated names (front ++ (key, value) :: middle ++ (other, another) :: back)

theorem Repeated.collect (repeated : Repeated names members) :
    Fields.collect names (.object members) = none := by
  cases repeated with
  | @twice front middle back key other value another name known first second =>
      rw [Option.eq_none_iff_forall_ne_some]
      intro slots found
      obtain ⟨-, found⟩ := collect_object_eq_some_iff.mp found
      obtain ⟨same, found⟩ := List.forall₂_iff_get.mp found
      obtain ⟨index, bound, rfl⟩ := List.mem_iff_getElem.mp known
      have twice := congrArg List.length (found index bound (same ▸ bound))
      simp only [List.get_eq_getElem, given_append, given_cons, first, second, ↓reduceIte,
        List.length_append, List.length_cons] at twice
      have once : slots[index].toList.length ≤ 1 := Option.length_toList_le
      omega

end WorkspacePool.Json.Fields
