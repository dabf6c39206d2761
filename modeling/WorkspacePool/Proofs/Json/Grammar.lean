import Mathlib.Data.List.TakeWhile
import WorkspacePool.Proofs.Json.Numbers
import WorkspacePool.Proofs.Json.Strings

/-!
How tokens are written. The grammar says what a string and a number may look like without saying
how they are read, and a text spells tokens when it is their spellings one after the other, with
white space anywhere around them. Reading finds the tokens that a text spells, and no others; only
two numbers in a row would run into each other.
-/

namespace WorkspacePool.Json.Token

/-! ### The grammar -/

/-- What may stand between the quotes of a string. A byte that is no control character stands for
itself, and any code may be given, whether or not there is text of that kind. -/
inductive Inside : Quoted → List UInt8 → Prop
  | nil : Inside [] []
  | plain {byte : UInt8} {quoted : Quoted} {text : List UInt8} (plain : IsPlain byte)
      (more : Inside quoted text) : Inside (.byte byte :: quoted) (byte :: text)
  | letter {letter byte : UInt8} {quoted : Quoted} {text : List UInt8}
      (named : escape? letter = some byte) (more : Inside quoted text) :
      Inside (.byte byte :: quoted) (92 :: letter :: text)
  | unit {a b c d : UInt8} {code : Nat} {quoted : Quoted} {text : List UInt8}
      (named : unit? a b c d = some code) (more : Inside quoted text) :
      Inside (.unit code :: quoted) (92 :: 117 :: a :: b :: c :: d :: text)

structure IsRun (run : List UInt8) : Prop where
  nonempty : run ≠ []
  all : ∀ byte ∈ run, isDigit byte = true

/-- Only zero itself starts with a zero. -/
inductive IsWhole : List UInt8 → Prop
  | zero : IsWhole [48]
  | run {run : List UInt8} (digits : IsRun run) (leading : run.head? ≠ some 48) : IsWhole run

inductive IsFraction : List UInt8 → Prop
  | absent : IsFraction []
  | present {run : List UInt8} (digits : IsRun run) : IsFraction (46 :: run)

inductive IsExponent : List UInt8 → Prop
  | absent : IsExponent []
  | present {mark : UInt8} {sign run : List UInt8} (letter : mark = 101 ∨ mark = 69)
      (signed : sign = [] ∨ sign = [43] ∨ sign = [45]) (digits : IsRun run) :
      IsExponent (mark :: (sign ++ run))

/-- A number may have any number of digits and any exponent. -/
inductive IsNumeral : Numeral → Prop
  | parts {sign whole fraction exponent : List UInt8} (signed : sign = [] ∨ sign = [45])
      (isWhole : IsWhole whole) (isFraction : IsFraction fraction)
      (isExponent : IsExponent exponent) :
      IsNumeral (sign ++ whole ++ fraction ++ exponent)

/-- The text is the token as it may be written. -/
inductive Spelling : Token → List UInt8 → Prop
  | openArray : Spelling .openArray [91]
  | closeArray : Spelling .closeArray [93]
  | openObject : Spelling .openObject [123]
  | closeObject : Spelling .closeObject [125]
  | comma : Spelling .comma [44]
  | colon : Spelling .colon [58]
  | null : Spelling .null [110, 117, 108, 108]
  | yes : Spelling (.bool true) [116, 114, 117, 101]
  | no : Spelling (.bool false) [102, 97, 108, 115, 101]
  | string {quoted : Quoted} {text : List UInt8} (inside : Inside quoted text) :
      Spelling (.string quoted) (34 :: (text ++ [34]))
  | number {numeral : Numeral} (isNumeral : IsNumeral numeral) :
      Spelling (.number numeral) numeral

def IsBlank (text : List UInt8) : Prop :=
  ∀ byte ∈ text, isSpace byte = true

/-- The text is these tokens as they may be written, with white space around them. -/
inductive Spells : List UInt8 → List Token → Prop
  | nil {blank : List UInt8} (space : IsBlank blank) : Spells blank []
  | cons {blank text rest : List UInt8} {token : Token} {tokens : List Token}
      (space : IsBlank blank) (spelling : Spelling token text) (more : Spells rest tokens) :
      Spells (blank ++ (text ++ rest)) (token :: tokens)

theorem isBlank_nil : IsBlank [] := by simp [IsBlank]

theorem Spells.first {text rest : List UInt8} {token : Token} {tokens : List Token}
    (more : Spells rest tokens) (spelling : Spelling token text) :
    Spells (text ++ rest) (token :: tokens) :=
  Spells.cons isBlank_nil spelling more

theorem Spells.blank {blank text : List UInt8} {tokens : List Token} (spells : Spells text tokens)
    (space : IsBlank blank) : Spells (blank ++ text) tokens := by
  have both {more : List UInt8} (further : IsBlank more) : IsBlank (blank ++ more) := by
    intro byte member
    cases List.mem_append.mp member with
    | inl early => exact space byte early
    | inr late => exact further byte late
  cases spells with
  | nil further => exact .nil (both further)
  | cons further spelling more =>
      rw [← List.append_assoc]
      exact .cons (both further) spelling more

theorem Spells.append {front back : List UInt8} {earlier later : List Token}
    (first : Spells front earlier) (second : Spells back later) :
    Spells (front ++ back) (earlier ++ later) := by
  induction first with
  | nil space => exact second.blank space
  | cons space spelling more ih =>
      simp only [List.append_assoc, List.cons_append]
      exact .cons space spelling ih

/-! ### Numbers -/

section Numbers

variable {bytes run rest : List UInt8}

theorem readDigits_sound (found : readDigits bytes = some (run, rest)) :
    IsRun run ∧ bytes = run ++ rest := by
  unfold readDigits at found
  rw [List.span_eq_takeWhile_dropWhile] at found
  split at found
  · contradiction
  · next taken left nonempty parted =>
    obtain ⟨rfl, rfl⟩ := Prod.mk.inj (Option.some.inj found)
    obtain ⟨front, back⟩ := Prod.mk.inj parted
    rw [← front, ← back]
    refine ⟨⟨front ▸ nonempty, fun byte member => ?_⟩, ?_⟩
    · exact List.mem_takeWhile_imp member
    · exact (List.takeWhile_append_dropWhile).symm

theorem readWhole_sound (found : readWhole bytes = some (run, rest)) :
    IsWhole run ∧ bytes = run ++ rest := by
  unfold readWhole at found
  split at found
  · obtain ⟨rfl, rfl⟩ := Prod.mk.inj (Option.some.inj found)
    exact ⟨.zero, rfl⟩
  · next other =>
    obtain ⟨digits, whole⟩ := readDigits_sound found
    refine ⟨.run digits fun zero => ?_, whole⟩
    obtain ⟨later, rfl⟩ := List.head?_eq_some_iff.mp zero
    exact other _ whole

theorem readFraction_sound (found : readFraction bytes = some (run, rest)) :
    IsFraction run ∧ bytes = run ++ rest := by
  unfold readFraction at found
  split at found
  · simp only [Option.map_eq_some_iff, Prod.exists, Prod.mk.injEq] at found
    obtain ⟨digits, left, taken, rfl, rfl⟩ := found
    obtain ⟨isRun, rfl⟩ := readDigits_sound taken
    exact ⟨.present isRun, rfl⟩
  · obtain ⟨rfl, rfl⟩ := Prod.mk.inj (Option.some.inj found)
    exact ⟨.absent, rfl⟩

theorem readExponent_sound (found : readExponent bytes = some (run, rest)) :
    IsExponent run ∧ bytes = run ++ rest := by
  unfold readExponent at found
  split at found
  · next mark later =>
    split at found
    · next letter =>
      have letter : mark = 101 ∨ mark = 69 := by simpa using letter
      split at found
      all_goals
        simp only [Option.map_eq_some_iff, Prod.exists, Prod.mk.injEq] at found
        obtain ⟨digits, left, taken, rfl, rfl⟩ := found
        obtain ⟨isRun, whole⟩ := readDigits_sound taken
      · exact ⟨.present letter (.inr (.inl rfl)) isRun, by simp [whole]⟩
      · exact ⟨.present letter (.inr (.inr rfl)) isRun, by simp [whole]⟩
      · exact ⟨.present letter (.inl rfl) isRun, by simp [whole]⟩
    · obtain ⟨rfl, rfl⟩ := Prod.mk.inj (Option.some.inj found)
      exact ⟨.absent, rfl⟩
  · obtain ⟨rfl, rfl⟩ := Prod.mk.inj (Option.some.inj found)
    exact ⟨.absent, rfl⟩

theorem readSign_sound (bytes : List UInt8) :
    ((readSign bytes).1 = [] ∨ (readSign bytes).1 = [45]) ∧
      bytes = (readSign bytes).1 ++ (readSign bytes).2 := by
  unfold readSign
  split
  · exact ⟨.inr rfl, rfl⟩
  · exact ⟨.inl rfl, rfl⟩

theorem readNumeral_sound {numeral : Numeral} (found : readNumeral bytes = some (numeral, rest)) :
    IsNumeral numeral ∧ bytes = numeral ++ rest := by
  simp only [readNumeral, Option.bind_eq_bind, Option.bind_eq_some_iff, Prod.exists,
    Option.some.injEq, Prod.mk.injEq] at found
  obtain ⟨whole, _, first, fraction, _, second, exponent, _, third, rfl, rfl⟩ := found
  obtain ⟨signed, whole⟩ := readSign_sound bytes
  obtain ⟨isWhole, first⟩ := readWhole_sound first
  obtain ⟨isFraction, second⟩ := readFraction_sound second
  obtain ⟨isExponent, third⟩ := readExponent_sound third
  refine ⟨.parts signed isWhole isFraction isExponent, ?_⟩
  rw [first, second, third] at whole
  simpa using whole

/-- The text does not go on with a digit. -/
def Stops (bytes : List UInt8) : Prop :=
  ∀ byte ∈ bytes.head?, isDigit byte = false

theorem IsRun.readDigits (digits : IsRun run) (stops : Stops rest) :
    Token.readDigits (run ++ rest) = some (run, rest) :=
  readDigits_run digits.all digits.nonempty stops

theorem IsRun.head (digits : IsRun run) : ∃ first later, run = first :: later ∧
    isDigit first = true := by
  obtain ⟨first, later, rfl⟩ := List.exists_cons_of_ne_nil digits.nonempty
  exact ⟨first, later, rfl, digits.all first (by simp)⟩

theorem IsWhole.head {whole : List UInt8} (isWhole : IsWhole whole) :
    ∃ first later, whole = first :: later ∧ isDigit first = true := by
  cases isWhole with
  | zero => exact ⟨48, [], rfl, by decide⟩
  | run digits leading => exact digits.head

theorem IsWhole.read {whole : List UInt8} (isWhole : IsWhole whole) (stops : Stops rest) :
    readWhole (whole ++ rest) = some (whole, rest) := by
  cases isWhole with
  | zero => rfl
  | run digits leading =>
      unfold readWhole
      split
      · next left same =>
        obtain ⟨first, later, rfl, digit⟩ := digits.head
        simp_all
      · exact digits.readDigits stops

theorem IsFraction.read {fraction : List UInt8} (isFraction : IsFraction fraction)
    (stops : Stops rest) (noPoint : rest.head? ≠ some 46) :
    readFraction (fraction ++ rest) = some (fraction, rest) := by
  cases isFraction with
  | absent =>
      unfold readFraction
      split
      · next left same => simp_all
      · rfl
  | present digits => simp [readFraction, digits.readDigits stops]

theorem IsExponent.read {exponent : List UInt8} (isExponent : IsExponent exponent)
    (breaks : Breaks rest) : readExponent (exponent ++ rest) = some (exponent, rest) := by
  cases isExponent with
  | absent => exact readExponent_of_breaks breaks
  | @present mark sign run letter signed digits =>
      have taken := digits.readDigits fun byte member => (breaks byte member).1
      have marked : (mark == 101 || mark == 69) = true := by simpa using letter
      obtain rfl | rfl | rfl := signed
      · obtain ⟨first, later, rfl, digit⟩ := digits.head
        have plus : first ≠ 43 := by
          rintro rfl
          contradiction
        have minus : first ≠ 45 := by
          rintro rfl
          contradiction
        rw [List.cons_append] at taken
        simp [readExponent, marked, plus, minus, taken]
      · simp [readExponent, marked, taken]
      · simp [readExponent, marked, taken]

theorem readSign_append {sign : List UInt8} (signed : sign = [] ∨ sign = [45])
    (other : rest.head? ≠ some 45) : readSign (sign ++ rest) = (sign, rest) := by
  obtain rfl | rfl := signed
  · unfold readSign
    split
    · simp_all
    · rfl
  · rfl

theorem IsNumeral.head {numeral : Numeral} (isNumeral : IsNumeral numeral) :
    ∃ first later, numeral = first :: later ∧ (first = 45 ∨ isDigit first = true) := by
  cases isNumeral with
  | parts signed isWhole isFraction isExponent =>
      obtain ⟨first, later, rfl, digit⟩ := isWhole.head
      obtain rfl | rfl := signed
      · exact ⟨first, _, rfl, .inr digit⟩
      · exact ⟨45, _, rfl, .inl rfl⟩

theorem IsNumeral.read {numeral : Numeral} (isNumeral : IsNumeral numeral)
    (breaks : Breaks rest) : readNumeral (numeral ++ rest) = some (numeral, rest) := by
  cases isNumeral with
  | @parts sign whole fraction exponent signed isWhole isFraction isExponent =>
      have afterFraction : ∀ byte ∈ (exponent ++ rest).head?,
          isDigit byte = false ∧ byte ≠ 46 := by
        cases isExponent with
        | absent => exact fun byte member => ⟨(breaks byte member).1, (breaks byte member).2.1⟩
        | present letter _ _ => obtain rfl | rfl := letter <;> simp [isDigit]
      have afterWhole : Stops (fraction ++ (exponent ++ rest)) := by
        cases isFraction with
        | absent => exact fun byte member => (afterFraction byte member).1
        | present _ => simp [Stops, isDigit]
      have noPoint : (exponent ++ rest).head? ≠ some 46 := fun point =>
        (afterFraction 46 point).2 rfl
      have unsigned : (whole ++ (fraction ++ (exponent ++ rest))).head? ≠ some 45 := by
        obtain ⟨first, later, rfl, digit⟩ := isWhole.head
        rintro minus
        simp_all [isDigit]
      simp only [readNumeral, List.append_assoc, readSign_append signed unsigned,
        isWhole.read afterWhole, isFraction.read (fun byte member => (afterFraction byte member).1)
          noPoint, isExponent.read breaks, Option.bind_eq_bind, Option.bind_some]

end Numbers

/-! ### Strings -/

theorem readQuoted_sound {done quoted : Quoted} {bytes rest : List UInt8}
    (found : readQuoted done bytes = some (quoted, rest)) :
    ∃ more text, quoted = done.reverse ++ more ∧ Inside more text ∧ bytes = text ++ 34 :: rest := by
  have grow {piece : Piece} {left : List UInt8} {done : Quoted} (part : List UInt8)
      (one : ∀ {more text}, Inside more text → Inside (piece :: more) (part ++ text))
      (ih : ∃ more text, quoted = (piece :: done).reverse ++ more ∧ Inside more text ∧
        left = text ++ 34 :: rest) :
      ∃ more text, quoted = done.reverse ++ more ∧ Inside more text ∧
        part ++ left = text ++ 34 :: rest := by
    obtain ⟨more, text, rfl, inside, rfl⟩ := ih
    exact ⟨piece :: more, part ++ text, by simp, one inside, by simp⟩
  induction done, bytes using readQuoted.induct with
  | case1 done => simp [readQuoted] at found
  | case2 done left =>
      simp only [readQuoted, Option.some.injEq, Prod.mk.injEq] at found
      obtain ⟨rfl, rfl⟩ := found
      exact ⟨[], [], by simp, .nil, rfl⟩
  | case3 done a b c d left code named ih =>
      simp only [readQuoted, named] at found
      exact grow [92, 117, a, b, c, d] (.unit named) (ih found)
  | case4 done a b c d left unnamed => simp [readQuoted, unnamed] at found
  | case5 done letter left other byte named ih =>
      rw [readQuoted] at found
      · simp only [named] at found
        exact grow [92, letter] (.letter named) (ih found)
      · exact other
  | case6 done letter left other unnamed =>
      rw [readQuoted] at found
      · simp [unnamed] at found
      · exact other
  | case7 done byte left notQuote notUnit notEscape refused =>
      rw [readQuoted] at found
      · simp [refused] at found
      all_goals assumption
  | case8 done byte left notQuote notUnit notEscape plain ih =>
      rw [readQuoted] at found
      · rw [if_neg plain] at found
        have isPlain : IsPlain byte := by
          simp only [Bool.or_eq_true, decide_eq_true_eq, beq_iff_eq, not_or, UInt8.not_lt,
            UInt8.le_iff_toNat_le] at plain
          exact ⟨plain.1, notQuote, plain.2⟩
        exact grow [byte] (.plain isPlain) (ih found)
      all_goals assumption

theorem Inside.read {quoted : Quoted} {text : List UInt8} (inside : Inside quoted text)
    (done : Quoted) (rest : List UInt8) :
    readQuoted done (text ++ 34 :: rest) = some (done.reverse ++ quoted, rest) := by
  induction inside generalizing done with
  | nil => simp [readQuoted]
  | @plain byte _ text plain more ih =>
      have single : ∀ other ∈ [byte], IsPlain other := by simpa using plain
      rw [List.cons_append, ← List.singleton_append, readQuoted_plain single, ih]
      simp
  | letter named more ih =>
      rw [List.cons_append, List.cons_append, readQuoted_letter named, ih]
      simp
  | unit named more ih =>
      simp only [List.cons_append]
      rw [readQuoted_unit named, ih]
      simp

/-! ### Single tokens -/

theorem read_sound {bytes rest : List UInt8} {token : Token}
    (found : read bytes = some (token, rest)) :
    ∃ text, Spelling token text ∧ bytes = text ++ rest := by
  unfold read at found
  split at found
  case h_10 =>
    simp only [Option.map_eq_some_iff, Prod.exists, Prod.mk.injEq] at found
    obtain ⟨quoted, left, taken, rfl, rfl⟩ := found
    obtain ⟨more, text, rfl, inside, rfl⟩ := readQuoted_sound taken
    exact ⟨_, .string inside, by simp⟩
  case h_11 =>
    simp only [Option.map_eq_some_iff, Prod.exists, Prod.mk.injEq] at found
    obtain ⟨numeral, left, taken, rfl, rfl⟩ := found
    obtain ⟨isNumeral, whole⟩ := readNumeral_sound taken
    exact ⟨numeral, .number isNumeral, whole⟩
  all_goals
    obtain ⟨rfl, rfl⟩ := Prod.mk.inj (Option.some.inj found)
    exact ⟨_, by constructor, rfl⟩

def IsNumber (token : Token) : Prop :=
  ∃ numeral, token = .number numeral

theorem Spelling.read {token : Token} {text rest : List UInt8} (spelling : Spelling token text)
    (breaks : token.IsNumber → Breaks rest) : Token.read (text ++ rest) = some (token, rest) := by
  cases spelling with
  | string inside =>
      have whole := inside.read [] rest
      simp only [List.cons_append, List.append_assoc, List.nil_append, Token.read, whole]
      rfl
  | number isNumeral =>
      have whole := isNumeral.read (breaks ⟨_, rfl⟩)
      obtain ⟨first, later, rfl, minus | digit⟩ := isNumeral.head
      · subst minus
        rw [List.cons_append] at whole ⊢
        simp [Token.read, whole]
      · rw [List.cons_append] at whole ⊢
        rw [read_of_digit digit, whole]
        rfl
  | _ => rfl

theorem Spelling.head {token : Token} {text : List UInt8} (spelling : Spelling token text) :
    ∃ first later, text = first :: later ∧ isSpace first = false := by
  cases spelling with
  | number isNumeral =>
      obtain ⟨first, later, rfl, minus | digit⟩ := isNumeral.head
      · exact ⟨first, later, rfl, by subst minus; decide⟩
      · exact ⟨first, later, rfl, isSpace_of_isDigit digit⟩
  | _ => exact ⟨_, _, rfl, by decide⟩

/-- What follows a number must not be a number. -/
theorem Spells.breaks {text : List UInt8} {tokens : List Token} (spells : Spells text tokens)
    (other : ∀ token ∈ tokens.head?, ¬ token.IsNumber) : Breaks text := by
  have blank {space : List UInt8} (isBlank : IsBlank space) {rest : List UInt8}
      (breaks : Breaks rest) : Breaks (space ++ rest) := by
    cases space with
    | nil => exact breaks
    | cons first later =>
        apply breaks_cons
        have seen := isBlank first (by simp)
        simp only [isSpace, Bool.or_eq_true, beq_iff_eq] at seen
        obtain ((rfl | rfl) | rfl) | rfl := seen <;> decide
  cases spells with
  | nil space =>
      have alone := blank space breaks_nil
      rwa [List.append_nil] at alone
  | cons space spelling more =>
      apply blank space
      cases spelling with
      | number isNumeral => exact absurd ⟨_, rfl⟩ (other _ rfl)
      | _ => exact breaks_cons _ (by decide)

/-! ### All tokens -/

theorem ofBytes_blank {blank : List UInt8} (space : IsBlank blank) (bytes : List UInt8) :
    ofBytes (blank ++ bytes) = ofBytes bytes := by
  have same (bound : Nat) : readAll bound [] (blank ++ bytes) = readAll bound [] bytes := by
    unfold readAll
    rw [List.dropWhile_append_of_pos space]
  rw [ofBytes, same, ofBytes]
  exact readAll_enough (by simp) le_rfl []

theorem ofBytes_refused {first : UInt8} {later : List UInt8} (visible : isSpace first = false)
    (refused : read (first :: later) = none) : ofBytes (first :: later) = none := by
  have left : (first :: later).dropWhile isSpace = first :: later := by simp [visible]
  rw [ofBytes, List.length_cons, readAll_succ left, refused]
  rfl

theorem ofBytes_sound {bytes : List UInt8} {tokens : List Token}
    (found : ofBytes bytes = some tokens) : Spells bytes tokens := by
  -- By the length of the text: the first token leaves a shorter one.
  induction size : bytes.length using Nat.strong_induction_on generalizing bytes tokens with
  | _ size ih =>
      subst size
      have space : IsBlank (bytes.takeWhile isSpace) := fun byte member =>
        List.mem_takeWhile_imp member
      have parted := List.takeWhile_append_dropWhile (p := isSpace) (l := bytes)
      rw [← parted, ofBytes_blank space] at found
      rw [← parted]
      apply Spells.blank _ space
      cases left : bytes.dropWhile isSpace with
      | nil =>
          rw [left] at found
          obtain rfl : [] = tokens := Option.some.inj found
          exact .nil isBlank_nil
      | cons first later =>
          rw [left] at found
          have visible : isSpace first = false := by
            have := List.head?_dropWhile_not isSpace bytes
            simpa [left] using this
          cases taken : read (first :: later) with
          | none =>
              rw [ofBytes_refused visible taken] at found
              contradiction
          | some head =>
              obtain ⟨token, rest⟩ := head
              rw [ofBytes_of_read visible taken, Option.map_eq_some_iff] at found
              obtain ⟨more, others, rfl⟩ := found
              have shorter : rest.length < bytes.length :=
                (read_shorter taken).trans_le (left ▸ (List.dropWhile_suffix isSpace).length_le)
              obtain ⟨text, spelling, whole⟩ := read_sound taken
              rw [whole]
              exact (ih _ shorter others rfl).first spelling

/-- No two numbers stand next to each other. -/
def Apart (tokens : List Token) : Prop :=
  tokens.IsChain fun token next => ¬ (token.IsNumber ∧ next.IsNumber)

theorem Spells.ofBytes {text : List UInt8} {tokens : List Token} (spells : Spells text tokens)
    (apart : Apart tokens) : Token.ofBytes text = some tokens := by
  induction spells with
  | @nil blank space =>
      have alone := ofBytes_blank space []
      rwa [List.append_nil] at alone
  | @cons blank text rest token tokens space spelling more ih =>
      have follows : token.IsNumber → Breaks rest := fun number =>
        more.breaks fun next member nextNumber =>
          List.isChain_cons.mp apart |>.1 next member ⟨number, nextNumber⟩
      have taken := spelling.read follows
      obtain ⟨first, later, rfl, visible⟩ := spelling.head
      rw [List.cons_append] at taken ⊢
      rw [ofBytes_blank space, ofBytes_of_read visible taken, ih (List.isChain_cons.mp apart).2]
      rfl

end WorkspacePool.Json.Token
