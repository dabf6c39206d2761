import Mathlib.Tactic
import WorkspacePool.Text.Blank
import WorkspacePool.Text.Decimal

/-!
Digits, written and read back. A number that was written out, with or without leading zeros, is
read as itself wherever the run of its digits is seen to end: at a character that is no digit, or
because no more digits are asked for.
-/

namespace WorkspacePool.Text.Decimal

/-! ### Runs of digits -/

theorem toNat_digit (value : Nat) : (digit value).toNat = 48 + value % 10 := by
  have small : value % 10 < 10 := Nat.mod_lt _ (by decide)
  have valid : (48 + value % 10).isValidChar := by
    left
    omega
  change (Char.ofNat (48 + value % 10)).toNat = _
  rw [Char.ofNat, dif_pos valid]
  rfl

theorem isDigit_iff (character : Char) :
    isDigit character = true ↔ 48 ≤ character.toNat ∧ character.toNat ≤ 57 := by
  simp only [isDigit, Bool.and_eq_true, decide_eq_true_eq, Char.le_def, UInt32.le_iff_toNat_le]
  rfl

theorem isBlank_of_isDigit {character : Char} (digit : isDigit character = true) :
    isBlank character = false := by
  have bounds := (isDigit_iff character).mp digit
  simp only [isBlank, Bool.or_eq_false_iff, Bool.and_eq_false_iff, beq_eq_false_iff_ne,
    decide_eq_false_iff_not]
  omega

@[simp] theorem isDigit_digit (value : Nat) : isDigit (digit value) = true := by
  rw [isDigit_iff, toNat_digit]
  omega

@[simp] theorem digitValue_digit (value : Nat) : digitValue (digit value) = value % 10 := by
  change (digit value).toNat - 48 = _
  rw [toNat_digit]
  omega

theorem ofDigits_concat (run : List Char) (last : Char) :
    ofDigits (run ++ [last]) = ofDigits run * 10 + digitValue last := by
  simp [ofDigits]

/-- A run counts less than the power of ten that has its length. -/
theorem ofDigits_lt {run : List Char} (all : ∀ character ∈ run, isDigit character = true) :
    ofDigits run < 10 ^ run.length := by
  induction run using List.reverseRecOn with
  | nil => simp [ofDigits]
  | append_singleton run last ih =>
      have before := ih fun character member => all character (by simp [member])
      have small : digitValue last < 10 := by
        have bounds := (isDigit_iff last).mp (all last (by simp))
        change last.toNat - 48 < 10
        omega
      rw [ofDigits_concat, List.length_append, List.length_singleton, pow_succ]
      omega

theorem ofDigits_zeros (count : Nat) (run : List Char) :
    ofDigits (List.replicate count '0' ++ run) = ofDigits run := by
  induction count with
  | zero => rfl
  | succ count ih =>
      rw [← ih]
      rfl

theorem ofDigits_append_zeros (run : List Char) (count : Nat) :
    ofDigits (run ++ List.replicate count '0') = ofDigits run * 10 ^ count := by
  induction count with
  | zero => simp
  | succ count ih =>
      rw [List.replicate_succ', ← List.append_assoc, ofDigits_concat, ih, pow_succ]
      change _ + 0 = _
      ring

/-! ### Writing -/

theorem digits_of_small {value : Nat} (small : value < 10) : digits value = [digit value] := by
  rw [digits, if_pos small]

theorem digits_of_large {value : Nat} (large : 10 ≤ value) :
    digits value = digits (value / 10) ++ [digit value] := by
  rw [digits, if_neg (by omega)]

theorem digits_all (value : Nat) : ∀ character ∈ digits value, isDigit character = true := by
  induction value using digits.induct with
  | case1 value small => simp [digits_of_small small]
  | case2 value large ih =>
      rw [digits_of_large (by omega)]
      intro character member
      rcases List.mem_append.mp member with earlier | last
      · exact ih character earlier
      · rw [List.mem_singleton.mp last]
        exact isDigit_digit value

theorem digits_ne_nil (value : Nat) : digits value ≠ [] := by
  rw [digits]
  split <;> simp

@[simp] theorem ofDigits_digits (value : Nat) : ofDigits (digits value) = value := by
  induction value using digits.induct with
  | case1 value small =>
      rw [digits_of_small small]
      change 0 * 10 + digitValue (digit value) = value
      rw [digitValue_digit]
      omega
  | case2 value large ih =>
      rw [digits_of_large (by omega), ofDigits_concat, ih, digitValue_digit]
      omega

/-- Only zero is written with a zero in front. -/
theorem head_digits_ne_zero {value : Nat} (positive : 0 < value) :
    (digits value).head? ≠ some '0' := by
  induction value using digits.induct with
  | case1 value small =>
      rw [digits_of_small small]
      intro same
      have code := congrArg Char.toNat (Option.some.inj same)
      rw [toNat_digit] at code
      change 48 + value % 10 = 48 at code
      omega
  | case2 value large ih =>
      rw [digits_of_large (by omega),
        List.head?_append_of_ne_nil _ (digits_ne_nil (value / 10))]
      exact ih (by omega)

theorem length_digits_le {value width : Nat} (positive : 0 < width) (bounded : value < 10 ^ width) :
    (digits value).length ≤ width := by
  induction value using digits.induct generalizing width with
  | case1 value small =>
      rw [digits_of_small small]
      exact positive
  | case2 value large ih =>
      rw [digits_of_large (by omega), List.length_append, List.length_singleton]
      obtain ⟨narrow, rfl⟩ := Nat.exists_eq_succ_of_ne_zero positive.ne'
      rw [pow_succ] at bounded
      have wide : 0 < narrow := by
        rcases Nat.eq_zero_or_pos narrow with rfl | wide
        · omega
        · exact wide
      have shorter := ih wide (by omega)
      omega

theorem padded_all (width value : Nat) :
    ∀ character ∈ padded width value, isDigit character = true := by
  intro character member
  rcases List.mem_append.mp member with zero | written
  · rw [List.eq_of_mem_replicate zero]
    decide
  · exact digits_all value character written

theorem padded_ne_nil (width value : Nat) : padded width value ≠ [] := by
  simp [padded, digits_ne_nil]

theorem padded_eq_cons (width value : Nat) :
    ∃ first run, padded width value = first :: run ∧ isDigit first = true := by
  obtain ⟨first, run, written⟩ := List.exists_cons_of_ne_nil (padded_ne_nil width value)
  exact ⟨first, run, written, padded_all width value first (by simp [written])⟩

@[simp] theorem ofDigits_padded (width value : Nat) : ofDigits (padded width value) = value := by
  rw [padded, ofDigits_zeros, ofDigits_digits]

theorem length_padded (width : Nat) {value : Nat} (positive : 0 < width)
    (bounded : value < 10 ^ width) :
    (padded width value).length = width := by
  have short := length_digits_le positive bounded
  simp only [padded, List.length_append, List.length_replicate]
  omega

/-! ### Reading -/

/-- A text that does not go on with a digit. -/
def Stops (text : List Char) : Prop :=
  ∀ character ∈ text.head?, isDigit character = false

theorem stops_cons {first : Char} {rest : List Char} (no : isDigit first = false) :
    Stops (first :: rest) := by
  intro character member
  rw [List.head?_cons, Option.mem_some_iff] at member
  rw [← member]
  exact no

theorem takeDigits_of_stops (limit : Nat) {text : List Char} (stops : Stops text) :
    takeDigits limit text = ([], text) := by
  cases limit with
  | zero => rfl
  | succ limit =>
      cases text with
      | nil => rfl
      | cons first rest => simp [takeDigits, stops first (by simp)]

/-- A run of digits is taken whole when no more of them may be taken or the text stops there. -/
theorem takeDigits_run {run rest : List Char} {limit : Nat}
    (all : ∀ character ∈ run, isDigit character = true) (fits : run.length ≤ limit)
    (ends : run.length = limit ∨ Stops rest) :
    takeDigits limit (run ++ rest) = (run, rest) := by
  induction run generalizing limit with
  | nil =>
      rcases ends with rfl | stops
      · rfl
      · exact takeDigits_of_stops limit stops
  | cons first run ih =>
      obtain ⟨fewer, rfl⟩ := Nat.exists_eq_succ_of_ne_zero
        (Nat.ne_of_gt (Nat.lt_of_lt_of_le (Nat.succ_pos run.length) fits))
      have short : run.length ≤ fewer := by simpa using fits
      have later := ih (fun character member => all character (by simp [member])) short
        (by simpa using ends)
      simp [takeDigits, all first (by simp), later]

/-- What is taken are digits, as many as are asked for at most. -/
theorem takeDigits_sound {limit : Nat} {text run rest : List Char}
    (taken : takeDigits limit text = (run, rest)) :
    (∀ character ∈ run, isDigit character = true) ∧ run.length ≤ limit := by
  induction limit, text using takeDigits.induct generalizing run rest with
  | case1 text => simp_all [takeDigits]
  | case2 limit => simp_all [takeDigits]
  | case3 limit first later digit more left further ih =>
      rw [takeDigits, if_pos digit, further] at taken
      obtain ⟨rfl, rfl⟩ := Prod.mk.inj taken
      obtain ⟨all, short⟩ := ih further
      exact ⟨by simpa [digit] using all, by simpa using short⟩
  | case4 limit first later no => simp_all [takeDigits]

theorem read_padded {width value limit : Nat} {rest : List Char}
    (fits : (padded width value).length ≤ limit)
    (ends : (padded width value).length = limit ∨ Stops rest) :
    read limit (padded width value ++ rest) = some (value, rest) := by
  rw [read, takeDigits_run (padded_all width value) fits ends]
  cases written : padded width value with
  | nil => exact absurd written (padded_ne_nil width value)
  | cons first run => simp [← written]

theorem readAll_digits (value : Nat) : readAll (digits value) = some value := by
  have whole : padded 0 value = digits value := by simp [padded]
  have read : read (digits value).length (padded 0 value ++ []) = some (value, []) :=
    read_padded (by rw [whole]) (.inl (by rw [whole]))
  rw [List.append_nil, whole] at read
  rw [readAll, read]

theorem readNat_digits {bound value : Nat} (bounded : value ≤ bound) :
    readNat bound (String.ofList (digits value)) = some value := by
  obtain ⟨first, run, written⟩ := List.exists_cons_of_ne_nil (digits_ne_nil value)
  have digit : isDigit first = true := digits_all value first (by simp [written])
  have unsigned : first ≠ '+' := by
    rintro rfl
    exact absurd digit (by decide)
  have read := readAll_digits value
  rw [written] at read ⊢
  simp [readNat, unsigned, read, bounded]

/-! ### Numerals -/

/-- A run of at least one digit, and nothing else, that counts a number. -/
def Counts (run : List Char) (value : Nat) : Prop :=
  run ≠ [] ∧ (∀ character ∈ run, isDigit character = true) ∧ ofDigits run = value

/-- A natural number in digits, with or without a plus sign in front. -/
def WritesNatural (text : String) (value : Nat) : Prop :=
  ∃ run, (text.toList = run ∨ text.toList = '+' :: run) ∧ Counts run value

/-- An integer in digits, with or without a sign in front. -/
def WritesInteger (text : String) (value : Int) : Prop :=
  (∃ size : Nat, WritesNatural text size ∧ value = size) ∨
    ∃ run size, text.toList = '-' :: run ∧ Counts run size ∧ value = -(size : Int)

theorem Counts.head_digit {run : List Char} {value : Nat} (counts : Counts run value) :
    ∃ first rest, run = first :: rest ∧ isDigit first = true := by
  obtain ⟨first, rest, rfl⟩ := List.exists_cons_of_ne_nil counts.1
  exact ⟨first, rest, rfl, counts.2.1 first (by simp)⟩

theorem takeDigits_append (limit : Nat) (text : List Char) :
    (takeDigits limit text).1 ++ (takeDigits limit text).2 = text := by
  induction limit, text using takeDigits.induct with
  | case1 text => rfl
  | case2 limit => simp [takeDigits]
  | case3 limit first later digit run rest taken ih =>
      simp only [taken] at ih
      simp [takeDigits, digit, taken, ih]
  | case4 limit first later no => simp [takeDigits, no]

theorem readAll_eq_some_iff {run : List Char} {value : Nat} :
    readAll run = some value ↔ Counts run value := by
  constructor
  · intro found
    have whole := takeDigits_append run.length run
    cases taken : takeDigits run.length run with
    | mk digits rest =>
        rw [taken] at whole
        cases digits with
        | nil => simp [readAll, read, taken] at found
        | cons first others =>
            cases rest with
            | nil =>
                obtain ⟨all, -⟩ := takeDigits_sound taken
                have same : first :: others = run := by simpa using whole
                have counted : ofDigits (first :: others) = value := by
                  simpa [readAll, read, taken] using found
                rw [same] at all counted
                exact ⟨by simp [← same], all, counted⟩
            | cons other later => simp [readAll, read, taken] at found
  · intro counts
    obtain ⟨first, rest, rfl, -⟩ := counts.head_digit
    obtain ⟨-, all, rfl⟩ := counts
    have taken : takeDigits (first :: rest).length (first :: rest) = (first :: rest, []) := by
      have whole : takeDigits (first :: rest).length (first :: rest ++ []) = (first :: rest, []) :=
        takeDigits_run all le_rfl (.inl rfl)
      rwa [List.append_nil] at whole
    rw [readAll, read, taken]

theorem readNat_eq_some_iff {bound value : Nat} {text : String} :
    readNat bound text = some value ↔ WritesNatural text value ∧ value ≤ bound := by
  simp only [readNat, Option.filter_eq_some_iff, decide_eq_true_eq]
  refine and_congr_left fun _ => ?_
  constructor
  · intro found
    split at found
    · next rest written => exact ⟨rest, .inr written, readAll_eq_some_iff.mp found⟩
    · exact ⟨text.toList, .inl rfl, readAll_eq_some_iff.mp found⟩
  · rintro ⟨run, plain | signed, counts⟩
    · obtain ⟨first, rest, rfl, digit⟩ := counts.head_digit
      have unsigned : first ≠ '+' := by
        rintro rfl
        exact absurd digit (by decide)
      simp [plain, unsigned, readAll_eq_some_iff.mpr counts]
    · simp [signed, readAll_eq_some_iff.mpr counts]

theorem WritesNatural.unique {text : String} {value other : Nat}
    (writes : WritesNatural text value) (too : WritesNatural text other) : value = other := by
  have read := readNat_eq_some_iff.mpr ⟨writes, Nat.le_max_left value other⟩
  have again := readNat_eq_some_iff.mpr ⟨too, Nat.le_max_right value other⟩
  exact Option.some.inj (read.symm.trans again)

/-- What becomes of a run of digits that stands behind a sign. -/
theorem signed_eq_some_iff {run : List Char} {value : Int} (sign : Int → Int) :
    ((readAll run >>= fun size => pure (size : Int)).map sign) = some value ↔
      ∃ size : Nat, Counts run size ∧ value = sign size := by
  cases found : readAll run with
  | none =>
      have uncounted : ∀ size, ¬ Counts run size := by
        intro size counts
        rw [readAll_eq_some_iff.mpr counts] at found
        contradiction
      simp [uncounted]
  | some size =>
      have counted : ∀ other, Counts run other ↔ size = other := by
        intro other
        rw [← readAll_eq_some_iff, found, Option.some.injEq]
      simp [counted, eq_comm]

theorem readInt_eq_some_iff {low high value : Int} {text : String} :
    readInt low high text = some value ↔ WritesInteger text value ∧ low ≤ value ∧ value ≤ high := by
  simp only [readInt, Option.filter_eq_some_iff, Bool.and_eq_true, decide_eq_true_eq]
  refine and_congr_left fun _ => ?_
  constructor
  · intro found
    split at found
    · next rest written =>
        obtain ⟨size, counts, rfl⟩ := (signed_eq_some_iff _).mp found
        exact .inl ⟨size, ⟨rest, .inr written, counts⟩, rfl⟩
    · next rest written =>
        obtain ⟨size, counts, rfl⟩ := (signed_eq_some_iff _).mp found
        exact .inr ⟨rest, size, written, counts, rfl⟩
    · obtain ⟨size, counts, rfl⟩ := (signed_eq_some_iff _).mp found
      exact .inl ⟨size, ⟨text.toList, .inl rfl, counts⟩, rfl⟩
  · rintro (⟨size, ⟨run, plain | signed, counts⟩, rfl⟩ | ⟨run, size, signed, counts, rfl⟩)
    · obtain ⟨first, rest, rfl, digit⟩ := counts.head_digit
      have unsigned : first ≠ '+' ∧ first ≠ '-' := by
        constructor <;> (rintro rfl; exact absurd digit (by decide))
      simp [plain, unsigned, readAll_eq_some_iff.mpr counts]
    · simp [signed, readAll_eq_some_iff.mpr counts]
    · simp [signed, readAll_eq_some_iff.mpr counts]

end WorkspacePool.Text.Decimal
