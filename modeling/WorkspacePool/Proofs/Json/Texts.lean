import WorkspacePool.Json.Value
import WorkspacePool.Proofs.Json.Grammar

/-!
The texts of a value. A value has one sequence of tokens, and its texts are the spellings of it.
The reader's stack of open brackets stands for the tokens read so far, so that what it makes of a
text is the only value with these tokens, and every text of a value is read as that value.
-/

namespace WorkspacePool.Json.Value

mutual

/-- The tokens that a value is written with. -/
def tokens : Value → List Token
  | .null => [.null]
  | .bool value => [.bool value]
  | .number numeral => [.number numeral]
  | .string quoted => [.string quoted]
  | .array [] => [.openArray, .closeArray]
  | .array (first :: rest) => .openArray :: (first.tokens ++ elementTails rest ++ [.closeArray])
  | .object [] => [.openObject, .closeObject]
  | .object ((key, value) :: rest) =>
      .openObject :: .string key :: .colon :: (value.tokens ++ memberTails rest ++ [.closeObject])

/-- The elements of an array behind the first one. -/
def elementTails : List Value → List Token
  | [] => []
  | next :: rest => .comma :: (next.tokens ++ elementTails rest)

/-- The members of an object behind the first one. -/
def memberTails : List (Quoted × Value) → List Token
  | [] => []
  | (key, value) :: rest => .comma :: .string key :: .colon :: (value.tokens ++ memberTails rest)

end

/-! ### Tokens are read as their value -/

theorem tokens_eq_cons (value : Value) :
    ∃ token later, value.tokens = token :: later ∧ token ≠ .closeArray := by
  cases value with
  | array elements => cases elements <;> simp [tokens]
  | object members =>
      cases members with
      | nil => simp [tokens]
      | cons member members =>
          obtain ⟨key, value⟩ := member
          simp [tokens]
  | _ => simp [tokens]

theorem readTokens_array_first (value : Value) (stack : List Frame) (rest : List Token) :
    readTokens .value stack (.openArray :: (value.tokens ++ rest)) =
      readTokens .value (.array [] :: stack) (value.tokens ++ rest) := by
  obtain ⟨token, later, shape, other⟩ := value.tokens_eq_cons
  rw [shape, List.cons_append, readTokens]
  intro more same
  exact other (List.cons.inj same).1

mutual

/-- Reading passes over the tokens of a value, and has the value. -/
theorem readTokens_tokens (value : Value) (stack : List Frame) (rest : List Token) :
    readTokens .value stack (value.tokens ++ rest) = readTokens (.after value) stack rest := by
  cases value with
  | array elements =>
      cases elements with
      | nil => rfl
      | cons first elements =>
          simp only [tokens, List.cons_append, List.append_assoc, List.nil_append]
          rw [readTokens_array_first, readTokens_tokens first, readTokens_elementTails]
          rfl
  | object members =>
      cases members with
      | nil => rfl
      | cons member members =>
          obtain ⟨key, first⟩ := member
          simp only [tokens, List.cons_append, List.append_assoc, List.nil_append]
          rw [readTokens, readTokens_tokens first, readTokens_memberTails]
          rfl
  | _ => rfl

/-- The value in front of a comma was read before it, and joins those done. -/
theorem readTokens_elementTails (elements : List Value) (last : Value) (done : List Value)
    (stack : List Frame) (rest : List Token) :
    readTokens (.after last) (.array done :: stack)
        (elementTails elements ++ .closeArray :: rest) =
      readTokens (.after (.array ((last :: done).reverse ++ elements))) stack rest := by
  cases elements with
  | nil => simp [elementTails, readTokens]
  | cons next elements =>
      simp only [elementTails, List.cons_append, List.append_assoc]
      rw [readTokens, readTokens_tokens next, readTokens_elementTails]
      simp

theorem readTokens_memberTails (members : List (Quoted × Value)) (last : Value)
    (done : List (Quoted × Value)) (key : Quoted) (stack : List Frame) (rest : List Token) :
    readTokens (.after last) (.object done key :: stack)
        (memberTails members ++ .closeObject :: rest) =
      readTokens (.after (.object (((key, last) :: done).reverse ++ members))) stack rest := by
  cases members with
  | nil => simp [memberTails, readTokens]
  | cons member members =>
      obtain ⟨nextKey, next⟩ := member
      simp only [memberTails, List.cons_append, List.append_assoc]
      rw [readTokens, readTokens_tokens next, readTokens_memberTails]
      simp

end

/-! ### No other tokens are read as a value -/

/-- The tokens read since a bracket was opened. A comma follows every part that is done. -/
def Frame.tokens : Frame → List Token
  | .array done => .openArray :: done.reverse.flatMap fun value => value.tokens ++ [.comma]
  | .object done key =>
      .openObject :: (done.reverse.flatMap fun (key, value) =>
        .string key :: .colon :: (value.tokens ++ [.comma])) ++ [.string key, .colon]

def Phase.tokens : Phase → List Token
  | .value => []
  | .after last => last.tokens

/-- The tokens read so far. -/
def consumed (phase : Phase) (stack : List Frame) : List Token :=
  stack.reverse.flatMap Frame.tokens ++ phase.tokens

theorem elementTails_concat (elements : List Value) (last : Value) :
    elementTails (elements ++ [last]) = .comma ::
      ((elements.flatMap fun value => value.tokens ++ [.comma]) ++ last.tokens) := by
  induction elements with
  | nil => simp [elementTails]
  | cons first elements ih => simp [elementTails, ih]

theorem memberTails_concat (members : List (Quoted × Value)) (key : Quoted) (last : Value) :
    memberTails (members ++ [(key, last)]) = .comma ::
      ((members.flatMap fun (key, value) =>
        .string key :: .colon :: (value.tokens ++ [.comma])) ++
          .string key :: .colon :: last.tokens) := by
  induction members with
  | nil => simp [memberTails]
  | cons first members ih =>
      obtain ⟨firstKey, value⟩ := first
      simp [memberTails, ih]

theorem tokens_array_concat (elements : List Value) (last : Value) :
    (Value.array (elements ++ [last])).tokens = (Frame.array elements.reverse).tokens ++
      (last.tokens ++ [.closeArray]) := by
  cases elements with
  | nil => simp [tokens, Frame.tokens, elementTails]
  | cons first elements => simp [tokens, Frame.tokens, elementTails_concat]

theorem tokens_object_concat (members : List (Quoted × Value)) (key : Quoted) (last : Value) :
    (Value.object (members ++ [(key, last)])).tokens =
      (Frame.object members.reverse key).tokens ++ (last.tokens ++ [.closeObject]) := by
  cases members with
  | nil => simp [tokens, Frame.tokens, memberTails]
  | cons first members =>
      obtain ⟨firstKey, value⟩ := first
      simp [tokens, Frame.tokens, memberTails_concat]

/-- The tokens read so far and those left are, all together, those of the value in the end. -/
theorem readTokens_sound {phase : Phase} {stack : List Frame} {left : List Token} {value : Value}
    (found : readTokens phase stack left = some value) :
    value.tokens = consumed phase stack ++ left := by
  induction phase, stack, left using readTokens.induct with
  | case1 _ _ ih | case3 _ _ ih | case5 _ _ ih | case6 _ _ _ ih | case7 _ _ _ ih
  | case8 _ _ _ ih =>
      -- A value without parts was read.
      rw [readTokens] at found
      simp [ih found, consumed, Phase.tokens, tokens]
  | case2 _ _ other ih =>
      rw [readTokens] at found
      · simp [ih found, consumed, Phase.tokens, Frame.tokens]
      · exact other
  | case4 _ _ _ ih | case10 _ _ _ _ ih | case12 _ _ _ _ _ _ ih =>
      -- A bracket was opened, or a further part begins.
      rw [readTokens] at found
      simp [ih found, consumed, Phase.tokens, Frame.tokens]
  | case9 last =>
      obtain rfl : last = value := Option.some.inj found
      simp [consumed, Phase.tokens]
  | case11 _ _ _ _ ih =>
      rw [readTokens] at found
      simp [ih found, consumed, Phase.tokens, tokens_array_concat]
  | case13 _ _ _ _ _ ih =>
      rw [readTokens] at found
      simp [ih found, consumed, Phase.tokens, tokens_object_concat]
  | case14 =>
      rw [readTokens] at found
      · contradiction
      all_goals assumption

/-! ### Texts -/

section Apart

open Token (Apart IsNumber)

theorem apart_cons {token : Token} {rest : List Token} (plain : ¬ token.IsNumber)
    (apart : Apart rest) : Apart (token :: rest) :=
  List.isChain_cons.mpr ⟨fun _ _ both => plain both.1, apart⟩

mutual

/-- A number in a value has a comma or a closing bracket behind it. -/
theorem apart_tokens (value : Value) {rest : List Token} (apart : Apart rest)
    (other : ∀ token ∈ rest.head?, ¬ token.IsNumber) : Apart (value.tokens ++ rest) := by
  cases value with
  | number numeral =>
      exact List.isChain_cons.mpr ⟨fun token next both => other token next both.2, apart⟩
  | array elements =>
      cases elements with
      | nil => exact apart_cons (by simp [IsNumber]) (apart_cons (by simp [IsNumber]) apart)
      | cons first elements =>
          simp only [tokens, List.cons_append, List.append_assoc, List.nil_append]
          apply apart_cons (by simp [IsNumber])
          apply apart_tokens first
          · exact apart_elementTails elements (apart_cons (by simp [IsNumber]) apart)
          · cases elements <;> simp [elementTails, IsNumber]
  | object members =>
      cases members with
      | nil => exact apart_cons (by simp [IsNumber]) (apart_cons (by simp [IsNumber]) apart)
      | cons member members =>
          obtain ⟨key, first⟩ := member
          simp only [tokens, List.cons_append, List.append_assoc, List.nil_append]
          apply apart_cons (by simp [IsNumber])
          apply apart_cons (by simp [IsNumber])
          apply apart_cons (by simp [IsNumber])
          apply apart_tokens first
          · exact apart_memberTails members (apart_cons (by simp [IsNumber]) apart)
          · cases members <;> simp [memberTails, IsNumber]
  | _ => exact apart_cons (by simp [IsNumber]) apart

theorem apart_elementTails (elements : List Value) {rest : List Token}
    (apart : Apart (.closeArray :: rest)) :
    Apart (elementTails elements ++ .closeArray :: rest) := by
  cases elements with
  | nil => exact apart
  | cons next elements =>
      simp only [elementTails, List.cons_append, List.append_assoc]
      apply apart_cons (by simp [IsNumber])
      apply apart_tokens next (apart_elementTails elements apart)
      cases elements <;> simp [elementTails, IsNumber]

theorem apart_memberTails (members : List (Quoted × Value)) {rest : List Token}
    (apart : Apart (.closeObject :: rest)) :
    Apart (memberTails members ++ .closeObject :: rest) := by
  cases members with
  | nil => exact apart
  | cons member members =>
      obtain ⟨key, next⟩ := member
      simp only [memberTails, List.cons_append, List.append_assoc]
      apply apart_cons (by simp [IsNumber])
      apply apart_cons (by simp [IsNumber])
      apply apart_cons (by simp [IsNumber])
      apply apart_tokens next (apart_memberTails members apart)
      cases members <;> simp [memberTails, IsNumber]

end

end Apart

/-- A text is read as a value exactly if it spells the tokens of that value. -/
theorem ofBytes_eq_some_iff {text : List UInt8} {value : Value} :
    ofBytes text = some value ↔ Token.Spells text value.tokens := by
  constructor
  · intro found
    obtain ⟨left, spelled, read⟩ := Option.bind_eq_some_iff.mp found
    rw [readTokens_sound read]
    exact Token.ofBytes_sound spelled
  · intro spells
    have apart : Token.Apart (value.tokens ++ []) :=
      apart_tokens value (by simp [Token.Apart]) (by simp)
    rw [List.append_nil] at apart
    have read := readTokens_tokens value [] []
    rw [List.append_nil] at read
    rw [ofBytes, spells.ofBytes apart, Option.bind_some, read]
    rfl

end WorkspacePool.Json.Value
