import WorkspacePool.Json.Fields
import WorkspacePool.Proofs.Json.Numbers
import WorkspacePool.Proofs.Json.Strings

/-!
JSON values, written and read back. Reading meets a written value wherever it stands in a text: it
goes on behind the value as if the value had just been read. An object is written member by member,
and a record finds its fields among the members.
-/

namespace WorkspacePool.Json

open Text (utf8)

namespace Value

/-- Read the tokens of a text from some point on. -/
def readText (phase : Phase) (stack : List Frame) (bytes : List UInt8) : Option Value :=
  (Token.ofBytes bytes).bind (readTokens phase stack)

/-- The text is a value as it is written: reading passes over it and has the value. -/
def Written (text : List Char) (value : Value) : Prop :=
  ∀ stack rest, Token.Breaks rest →
    readText .value stack (utf8 text ++ rest) = readText (.after value) stack rest

theorem Written.ofBytes {text : List Char} {value : Value} (written : Written text value) :
    Value.ofBytes (utf8 text) = some value := by
  have whole := written [] [] Token.breaks_nil
  rw [List.append_nil] at whole
  calc Value.ofBytes (utf8 text)
      = readText .value [] (utf8 text) := rfl
    _ = readText (.after value) [] [] := whole
    _ = some value := rfl

/-! ### Values without parts -/

theorem written_string (text : String) :
    Written (Writer.string text) (.string (Quoted.ofText text)) := by
  intro stack rest _
  rw [readText, Token.ofBytes_string, Option.bind_map]
  rfl

theorem written_natural (value : Nat) :
    Written (Writer.natural value) (.number (Numeral.ofNat value)) := by
  intro stack rest breaks
  rw [readText, Token.ofBytes_natural value breaks, Option.bind_map]
  rfl

theorem written_bool (value : Bool) : Written (Writer.bool value) (.bool value) := by
  intro stack rest _
  have token : Token.ofBytes (utf8 (Writer.bool value) ++ rest) =
      (Token.ofBytes rest).map (.bool value :: ·) := by
    cases value <;> exact Token.ofBytes_of_read (by decide) rfl
  rw [readText, token, Option.bind_map]
  rfl

/-! ### Objects -/

/-- A name and the colon behind it. -/
theorem ofBytes_name (name : String) (rest : List UInt8) :
    Token.ofBytes (utf8 (Writer.string name) ++ 58 :: rest) =
      (Token.ofBytes rest).map fun more => .string (Quoted.ofText name) :: .colon :: more := by
  have colon : Token.ofBytes (58 :: rest) = (Token.ofBytes rest).map (.colon :: ·) :=
    Token.ofBytes_of_read (by decide) rfl
  rw [Token.ofBytes_string, colon, Option.map_map]
  rfl

theorem readText_first_name (stack : List Frame) (name : String) (rest : List UInt8) :
    readText .value stack (123 :: (utf8 (Writer.string name) ++ 58 :: rest)) =
      readText .value (.object [] (Quoted.ofText name) :: stack) rest := by
  rw [readText, Token.ofBytes_of_read (by decide) rfl, ofBytes_name, Option.map_map,
    Option.bind_map]
  rfl

theorem readText_next_name (value : Value) (done : List (Quoted × Value)) (key : Quoted)
    (stack : List Frame) (name : String) (rest : List UInt8) :
    readText (.after value) (.object done key :: stack)
        (44 :: (utf8 (Writer.string name) ++ 58 :: rest)) =
      readText .value (.object ((key, value) :: done) (Quoted.ofText name) :: stack) rest := by
  rw [readText, Token.ofBytes_of_read (by decide) rfl, ofBytes_name, Option.map_map,
    Option.bind_map]
  rfl

theorem readText_object_end (value : Value) (done : List (Quoted × Value)) (key : Quoted)
    (stack : List Frame) (rest : List UInt8) :
    readText (.after value) (.object done key :: stack) (125 :: rest) =
      readText (.after (.object ((key, value) :: done).reverse)) stack rest := by
  rw [readText, Token.ofBytes_of_read (by decide) rfl, Option.bind_map]
  rfl

theorem readText_object_empty (stack : List Frame) (rest : List UInt8) :
    readText .value stack (123 :: 125 :: rest) = readText (.after (.object [])) stack rest := by
  rw [readText, Token.ofBytes_of_read (by decide) rfl, Token.ofBytes_of_read (by decide) rfl,
    Option.map_map, Option.bind_map]
  rfl

/-- A member of an object: its name, its value as it is written, and the value. -/
structure Member where
  name : String
  text : List Char
  value : Value
  written : Written text value

/-- A member with the comma in front of it. -/
def Member.tail (member : Member) : List Char :=
  ',' :: (Writer.string member.name ++ ':' :: member.text)

theorem utf8_member (name : String) (text : List Char) :
    utf8 (Writer.string name ++ ':' :: text) = utf8 (Writer.string name) ++ 58 :: utf8 text := by
  rw [Text.utf8_append]
  rfl

theorem breaks_tails (members : List Member) (rest : List UInt8) :
    Token.Breaks (utf8 (members.flatMap Member.tail) ++ 125 :: rest) := by
  cases members <;> exact Token.breaks_cons _ (by decide)

/-- The members behind the first one, up to the brace that closes the object. -/
theorem readText_tails (members : List Member) (value : Value) (done : List (Quoted × Value))
    (key : Quoted) (stack : List Frame) (rest : List UInt8) :
    readText (.after value) (.object done key :: stack)
        (utf8 (members.flatMap Member.tail) ++ 125 :: rest) =
      readText (.after (.object (((key, value) :: done).reverse ++
        members.map fun member => (Quoted.ofText member.name, member.value)))) stack rest := by
  -- The value before the comma is the last one that was read; it joins those done with its key.
  induction members generalizing value done key with
  | nil =>
      rw [List.map_nil, List.append_nil]
      exact readText_object_end value done key stack rest
  | cons first members ih =>
      have shape : utf8 ((first :: members).flatMap Member.tail) ++ 125 :: rest =
          44 :: (utf8 (Writer.string first.name) ++ 58 :: (utf8 first.text ++
            (utf8 (members.flatMap Member.tail) ++ 125 :: rest))) := by
        rw [List.flatMap_cons, Member.tail, List.cons_append, Text.utf8_cons, Text.utf8_append,
          utf8_member]
        simp only [List.append_assoc, List.cons_append]
        rfl
      rw [shape, readText_next_name, first.written _ _ (breaks_tails members rest), ih]
      simp

theorem separated_cons (item : List Char) (items : List (List Char)) :
    Writer.separated (item :: items) = item ++ items.flatMap (',' :: ·) := by
  induction items generalizing item with
  | nil => simp [Writer.separated]
  | cons next items ih => rw [Writer.separated, ih, List.flatMap_cons, List.cons_append]; simp

theorem written_object (members : List Member) :
    Written (Writer.object (members.map fun member => (member.name, member.text)))
      (.object (members.map fun member => (Quoted.ofText member.name, member.value))) := by
  intro stack rest _
  cases members with
  | nil => exact readText_object_empty stack rest
  | cons first members =>
      have shape : utf8 (Writer.object
          ((first :: members).map fun member => (member.name, member.text))) ++ rest =
          123 :: (utf8 (Writer.string first.name) ++ 58 :: (utf8 first.text ++
            (utf8 (members.flatMap Member.tail) ++ 125 :: rest))) := by
        rw [Writer.object, List.map_cons, List.map_cons, separated_cons, List.map_map,
          List.flatMap_map, List.cons_append, Text.utf8_cons, Text.utf8_append, Text.utf8_append,
          utf8_member]
        simp only [List.append_assoc, List.cons_append]
        rfl
      rw [shape, readText_first_name, first.written _ _ (breaks_tails members rest),
        readText_tails]
      rfl

end Value

/-! ### Records -/

open Value (Member)

namespace Fields

theorem named_of_absent {name : String} {members : List Member}
    (absent : name ∉ members.map Member.name) :
    named name (members.map fun member => (member.name, member.value)) = [] := by
  have none :
      (members.map fun member => (member.name, member.value)).filter (·.1 == name) = [] := by
    rw [List.filter_eq_nil_iff]
    intro pair listed
    obtain ⟨member, present, rfl⟩ := List.mem_map.mp listed
    have differs : member.name ≠ name := by
      rintro rfl
      exact absent (List.mem_map_of_mem present)
    simpa using differs
  rw [named, none, List.map_nil]

theorem named_of_mem {members : List Member} (distinct : (members.map Member.name).Nodup)
    {member : Member} (present : member ∈ members) :
    named member.name (members.map fun each => (each.name, each.value)) = [member.value] := by
  induction members with
  | nil => cases present
  | cons first members ih =>
      obtain ⟨fresh, distinct⟩ := List.nodup_cons.mp distinct
      rcases List.mem_cons.mp present with rfl | later
      · have others := named_of_absent fresh
        rw [named] at others
        rw [named, List.map_cons, List.filter_cons_of_pos (by simp), List.map_cons, others]
      · have differs : first.name ≠ member.name := by
          intro same
          exact fresh (same ▸ List.mem_map_of_mem later)
        have others := ih distinct later
        rw [named] at others
        rw [named, List.map_cons, List.filter_cons_of_neg (by simpa using differs), others]

theorem mapM_of_each {α β : Type} {step : α → Option β} {result : α → β} {items : List α}
    (each : ∀ item ∈ items, step item = some (result item)) :
    items.mapM step = some (items.map result) := by
  induction items with
  | nil => rfl
  | cons first items ih =>
      rw [List.mapM_cons, each first (by simp), ih fun item listed => each item (by simp [listed])]
      rfl

theorem collect_object (members : List Member) (distinct : (members.map Member.name).Nodup) :
    collect (members.map Member.name)
        (.object (members.map fun member => (Quoted.ofText member.name, member.value))) =
      some (members.map fun member => some member.value) := by
  have names : (members.map fun member => (Quoted.ofText member.name, member.value)).mapM
      readName = some (members.map fun member => (member.name, member.value)) := by
    rw [List.mapM_map]
    exact mapM_of_each fun member _ => by simp [readName]
  rw [collect, names, Option.bind_eq_bind, Option.bind_some, List.mapM_map]
  exact mapM_of_each fun member present => by simp [named_of_mem distinct present]

end Fields

/-! ### Values read by their type -/

/-- The text is a value as it is written, of which the decoder makes the given one. -/
def Encodes {α : Type} (decoder : Decoder α) (text : List Char) (value : α) : Prop :=
  ∃ written, Value.Written text written ∧ decoder written = some value

/-- A record that is written member by member is read from the fields that are found for it. -/
theorem Encodes.record {α : Type} {decoder : Decoder α} {value : α} (names : List String)
    (members : List Member) (named : members.map Member.name = names) (distinct : names.Nodup)
    (read : ∀ json,
      Fields.collect names json = some (members.map fun member => some member.value) →
        decoder json = some value) :
    Encodes decoder (Writer.object (members.map fun member => (member.name, member.text)))
      value := by
  subst named
  exact ⟨_, Value.written_object members, read _ (Fields.collect_object members distinct)⟩

namespace Decoder

@[simp] theorem string_ofText (text : String) : string (.string (Quoted.ofText text)) = some text :=
  Quoted.text?_ofText text

@[simp] theorem choice_ofText (text : String) : choice (.string (Quoted.ofText text)) = some text :=
  Quoted.text?_ofText text

@[simp] theorem bool_value (value : Bool) : bool (.bool value) = some value := rfl

theorem natural_ofNat {bound value : Nat} (bounded : value ≤ bound) :
    natural bound (.number (Numeral.ofNat value)) = some value := by
  simp [natural, bounded]

@[simp] theorem uint32_ofNat (value : UInt32) :
    uint32 (.number (Numeral.ofNat value.toNat)) = some value := by
  have bounded : value.toNat ≤ 4294967295 := Nat.lt_succ_iff.mp value.toNat_lt
  simp [uint32, natural_ofNat bounded]

@[simp] theorem uint64_ofNat (value : UInt64) :
    uint64 (.number (Numeral.ofNat value.toNat)) = some value := by
  have bounded : value.toNat ≤ 18446744073709551615 := Nat.lt_succ_iff.mp value.toNat_lt
  simp [uint64, natural_ofNat bounded]

end Decoder

end WorkspacePool.Json
