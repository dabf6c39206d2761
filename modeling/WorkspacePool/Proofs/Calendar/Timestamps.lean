import Mathlib.Tactic
import WorkspacePool.Calendar.Format
import WorkspacePool.Proofs.Text.Numerals

/-!
Timestamps, written and read back. Whatever text a timestamp was read from, it lies on a day the
calendar has, and only the last second of a minute is ever doubled by a leap second. Of such a
timestamp the written form is read as the timestamp itself.
-/

namespace WorkspacePool.Calendar

open Text (dropBlanks dropBlanks_cons isBlank)
open Text.Decimal (padded isBlank_of_isDigit isDigit Stops)

namespace Timestamp

/-- An instant that reading can come to. -/
structure Sound (timestamp : Timestamp) : Prop where
  day : timestamp.date.isValid = true
  second : timestamp.second < 86400
  nanos : timestamp.nanos < 1000000000 ∨
    (timestamp.second % 60 = 59 ∧ timestamp.nanos < 2000000000)

theorem epoch_sound : epoch.Sound := ⟨by decide, by decide, .inl (by decide)⟩

end Timestamp

/-! ### What is read -/

theorem readFraction_sound {text rest : List Char} {nanos : Nat}
    (found : readFraction text = some (nanos, rest)) : nanos < 1000000000 := by
  unfold readFraction at found
  split at found
  · next digits =>
      split at found
      · cases found
      · next run left _ taken =>
          obtain ⟨all, short⟩ := Text.Decimal.takeDigits_sound taken
          obtain ⟨rfl, -⟩ := Prod.mk.inj (Option.some.inj found)
          rw [Text.Decimal.ofDigits_append_zeros]
          have width : run.length + (9 - run.length) = 9 := by omega
          calc Text.Decimal.ofDigits run * 10 ^ (9 - run.length)
              < 10 ^ run.length * 10 ^ (9 - run.length) :=
                Nat.mul_lt_mul_of_pos_right (Text.Decimal.ofDigits_lt all) (by positivity)
            _ = 1000000000 := by rw [← pow_add, width]; norm_num
  · obtain ⟨rfl, -⟩ := Prod.mk.inj (Option.some.inj found)
    decide

/-- A second of the day, and nanoseconds that go beyond it in the last second of a minute only. -/
theorem readTime_sound {text rest : List Char} {second nanos : Nat}
    (found : readTime text = some (second, nanos, rest)) :
    second < 86400 ∧ (nanos < 1000000000 ∨ (second % 60 = 59 ∧ nanos < 2000000000)) := by
  simp only [readTime, Option.bind_eq_bind, Option.bind_eq_some_iff, Prod.exists] at found
  obtain ⟨hour, _, -, _, -, minute, _, -, _, -, shown, _, -, fraction, _, part, found⟩ := found
  have short := readFraction_sound part
  split at found
  · next bounds =>
      simp only [Bool.and_eq_true, decide_eq_true_eq] at bounds
      split at found <;> simp only [Option.some.injEq, Prod.mk.injEq] at found
      · omega
      · next notLeap =>
          have plain : shown ≠ 60 := by simpa using notLeap
          omega
  · cases found

theorem readOffsetSize_minutes {text rest : List Char} {size : Nat}
    (found : readOffsetSize text = some (size, rest)) : size % 60 = 0 := by
  simp only [readOffsetSize, Option.bind_eq_bind, Option.bind_eq_some_iff, Prod.exists] at found
  obtain ⟨hours, _, -, minutes, _, -, found⟩ := found
  split at found
  · simp only [Option.some.injEq, Prod.mk.injEq] at found
    omega
  · cases found

/-- Offsets are whole minutes, so that a leap second stays the last second of its minute. -/
theorem readOffset_minutes {text rest : List Char} {offset : Int}
    (found : readOffset text = some (offset, rest)) : offset % 60 = 0 := by
  unfold readOffset at found
  split at found
  case h_1 | h_2 =>
    obtain ⟨rfl, -⟩ := Prod.mk.inj (Option.some.inj found)
    rfl
  case h_3 | h_4 | h_5 =>
    simp only [Option.map_eq_some_iff, Prod.exists, Prod.mk.injEq] at found
    obtain ⟨size, _, read, same, -⟩ := found
    have whole := readOffsetSize_minutes read
    omega
  case h_6 =>
    obtain ⟨-, named⟩ := Option.ite_none_right_eq_some.mp found
    obtain ⟨rfl, -⟩ := Prod.mk.inj (Option.some.inj named)
    rfl
  case h_7 => cases found

theorem Timestamp.ofLocal_sound {date : Date} {second nanos : Nat} {offset : Int}
    {timestamp : Timestamp} (found : Timestamp.ofLocal date second nanos offset = some timestamp)
    (day : second < 86400) (near : offset.natAbs < 86400) (minutes : offset % 60 = 0)
    (leap : nanos < 1000000000 ∨ (second % 60 = 59 ∧ nanos < 2000000000)) :
    timestamp.Sound := by
  simp only [Timestamp.ofLocal, Option.ite_none_right_eq_some, Option.some.injEq] at found
  obtain ⟨valid, rfl⟩ := found
  split_ifs at valid ⊢ with before beyond
  · exact ⟨valid, by dsimp only; omega, by dsimp only; omega⟩
  · exact ⟨valid, by dsimp only; omega, by dsimp only; omega⟩
  · exact ⟨valid, by dsimp only; omega, by dsimp only; omega⟩

/-- Whatever is read is an instant of the calendar. -/
theorem Timestamp.read_sound {text : List Char} {timestamp : Timestamp}
    (found : Timestamp.read text = some timestamp) : timestamp.Sound := by
  simp only [Timestamp.read, Option.bind_eq_bind, Option.bind_eq_some_iff, Prod.exists] at found
  obtain ⟨date, _, -, _, -, second, nanos, _, time, offset, _, zone, found⟩ := found
  split at found
  · next ends =>
      simp only [Bool.and_eq_true, decide_eq_true_eq] at ends
      obtain ⟨day, leap⟩ := readTime_sound time
      exact ofLocal_sound found day ends.2 (readOffset_minutes zone) leap
  · cases found

/-! ### What is written -/

theorem dropBlanks_padded (width value : Nat) (rest : List Char) :
    dropBlanks (padded width value ++ rest) = padded width value ++ rest := by
  obtain ⟨first, run, written, digit⟩ := Text.Decimal.padded_eq_cons width value
  rw [written]
  exact dropBlanks_cons _ (isBlank_of_isDigit digit)

theorem readMark_self {mark : Char} (rest : List Char) (plain : isBlank mark = false) :
    readMark mark (mark :: rest) = some rest := by
  simp [readMark, dropBlanks_cons rest plain]

/-- A field of two digits is read as it was written, whatever stands behind it. -/
theorem readField_padded {value : Nat} (small : value < 100) (rest : List Char) :
    readField 2 (padded 2 value ++ rest) = some (value, rest) := by
  have width := Text.Decimal.length_padded 2 (by decide) small
  rw [readField, dropBlanks_padded, Text.Decimal.read_padded width.le (.inl width)]

theorem readYear_of_digit {first : Char} (digit : isDigit first = true) (rest : List Char) :
    readYear (first :: rest) =
      (Text.Decimal.read 4 (first :: rest)).map fun (year, left) => ((year : Int), left) := by
  rw [readYear, dropBlanks_cons rest (isBlank_of_isDigit digit)]
  split
  · next _ same => exact absurd ((List.cons.inj same).1 ▸ digit) (by decide)
  · next _ same => exact absurd ((List.cons.inj same).1 ▸ digit) (by decide)
  · rfl

theorem readYear_padded {value : Nat} (small : value < 10000) (rest : List Char) :
    readYear (padded 4 value ++ rest) = some ((value : Int), rest) := by
  have width := Text.Decimal.length_padded 4 (by decide) small
  have read : Text.Decimal.read 4 (padded 4 value ++ rest) = some (value, rest) :=
    Text.Decimal.read_padded width.le (.inl width)
  obtain ⟨first, run, written, digit⟩ := Text.Decimal.padded_eq_cons 4 value
  rw [written, List.cons_append] at read ⊢
  rw [readYear_of_digit digit, read, Option.map_some]

/-- A year behind a sign ends where the mark behind it stands. -/
theorem readYear_yearText (year : Int) (rest : List Char) :
    readYear (yearText year ++ '-' :: rest) = some (year, '-' :: rest) := by
  have stops : Stops ('-' :: rest) := Text.Decimal.stops_cons (by decide)
  have signed (size : Nat) : Text.Decimal.read (padded 4 size ++ '-' :: rest).length
      (padded 4 size ++ '-' :: rest) = some (size, '-' :: rest) :=
    Text.Decimal.read_padded (by simp) (.inr stops)
  unfold yearText
  split
  · next plain =>
      simp only [Bool.and_eq_true, decide_eq_true_eq] at plain
      rw [readYear_padded (by omega), Int.toNat_of_nonneg plain.1]
  · rw [List.cons_append, readYear]
    split_ifs with negative
    · rw [dropBlanks_cons _ (by decide)]
      simp only [signed, Option.map_some, Option.some.injEq, Prod.mk.injEq, and_true]
      omega
    · rw [dropBlanks_cons _ (by decide)]
      simp only [signed, Option.map_some, Option.some.injEq, Prod.mk.injEq, and_true]
      omega

theorem readDate_text {date : Date} (valid : date.isValid = true) (rest : List Char) :
    readDate (date.text ++ rest) = some (date, rest) := by
  have bounds := valid
  simp only [Date.isValid, Bool.and_eq_true, decide_eq_true_eq] at bounds
  have days : daysIn date.year date.month ≤ 31 := by
    unfold daysIn
    repeat' split
    all_goals decide
  simp only [Date.text, List.append_assoc, List.cons_append, readDate, Option.bind_eq_bind,
    readYear_yearText, readMark_self _ (show isBlank '-' = false by decide),
    readField_padded (show date.month < 100 by omega),
    readField_padded (show date.day < 100 by omega), Option.bind_some, valid, if_true]

/-- A text that neither goes on with a digit nor opens a fraction. -/
def EndsSecond (text : List Char) : Prop :=
  Stops text ∧ text.head? ≠ some '.'

theorem readFraction_absent {rest : List Char} (ends : EndsSecond rest) :
    readFraction rest = some (0, rest) := by
  unfold readFraction
  split
  · next digits => exact absurd rfl ends.2
  · rfl

/-- Some leading digits of the nine that nanoseconds have. -/
theorem readFraction_padded {width part : Nat} {rest : List Char} (positive : 0 < width)
    (narrow : width ≤ 9) (bounded : part < 10 ^ width) (stops : Stops rest) :
    readFraction ('.' :: padded width part ++ rest) = some (part * 10 ^ (9 - width), rest) := by
  have size := Text.Decimal.length_padded width positive bounded
  have taken := Text.Decimal.takeDigits_run (Text.Decimal.padded_all width part)
    (size.le.trans narrow) (.inr stops)
  have nothing : rest.dropWhile isDigit = rest := by
    cases rest with
    | nil => rfl
    | cons first later => simp [stops first (by simp)]
  rw [List.cons_append, readFraction]
  simp only [taken]
  split
  · next none => exact absurd (Prod.mk.inj none).1 (Text.Decimal.padded_ne_nil width part)
  · next run left _ same =>
      obtain ⟨rfl, rfl⟩ := Prod.mk.inj same
      rw [Text.Decimal.ofDigits_append_zeros, Text.Decimal.ofDigits_padded, size, nothing]

theorem readFraction_fractionText {nanos : Nat} {rest : List Char} (bounded : nanos < 1000000000)
    (ends : EndsSecond rest) : readFraction (fractionText nanos ++ rest) = some (nanos, rest) := by
  unfold fractionText
  split_ifs with none millis micros
  · rw [List.nil_append, readFraction_absent ends, eq_of_beq none]
  · have whole : nanos / 1000000 * 10 ^ (9 - 3) = nanos := by
      have := eq_of_beq millis
      omega
    rw [readFraction_padded (by decide) (by decide) (by omega) ends.1, whole]
  · have whole : nanos / 1000 * 10 ^ (9 - 6) = nanos := by
      have := eq_of_beq micros
      omega
    rw [readFraction_padded (by decide) (by decide) (by omega) ends.1, whole]
  · rw [readFraction_padded (by decide) (by decide) (by omega) ends.1, Nat.sub_self, pow_zero,
      Nat.mul_one]

/-- The time of day as it is written. A leap second is shown as the sixtieth of its minute. -/
def timeText (second nanos : Nat) : List Char :=
  padded 2 (second / 3600) ++ ':' :: padded 2 (second / 60 % 60) ++
    ':' :: padded 2 (second % 60 + nanos / 1000000000) ++ fractionText (nanos % 1000000000)

namespace Timestamp

theorem readTime_timeText {timestamp : Timestamp} (sound : timestamp.Sound) {rest : List Char}
    (ends : EndsSecond rest) :
    readTime (timeText timestamp.second timestamp.nanos ++ rest) =
      some (timestamp.second, timestamp.nanos, rest) := by
  obtain ⟨date, second, nanos⟩ := timestamp
  obtain ⟨-, day, leap⟩ := sound
  dsimp only at day leap ⊢
  have hour : second / 3600 < 24 := by omega
  have minute : second / 60 % 60 < 60 := by omega
  have shown : second % 60 + nanos / 1000000000 ≤ 60 := by omega
  simp only [timeText, List.append_assoc, List.cons_append, readTime, Option.bind_eq_bind,
    readMark_self _ (show isBlank ':' = false by decide),
    readField_padded (show second / 3600 < 100 by omega),
    readField_padded (show second / 60 % 60 < 100 by omega),
    readField_padded (show second % 60 + nanos / 1000000000 < 100 by omega),
    readFraction_fractionText (Nat.mod_lt nanos (by decide)) ends, Option.bind_some,
    hour, minute, shown, decide_true, Bool.and_self, if_true]
  -- A leap second is shown as 60 and read as the 59 before it with a second's worth of nanoseconds.
  split_ifs with sixty
  · have sixty := eq_of_beq sixty
    simp only [Option.some.injEq, Prod.mk.injEq, and_true]
    omega
  · have plain : second % 60 + nanos / 1000000000 ≠ 60 := by simpa using sixty
    simp only [Option.some.injEq, Prod.mk.injEq, and_true]
    omega

theorem write_letter (timestamp : Timestamp) :
    timestamp.write .letter =
      timestamp.date.text ++ 'T' :: timeText timestamp.second timestamp.nanos ++ ['Z'] := by
  simp [write, timeText, Zone.text]

/-- Writing an instant in universal time and reading it gives the instant again. -/
theorem read_write {timestamp : Timestamp} (sound : timestamp.Sound) :
    read (timestamp.write .letter) = some timestamp := by
  have ends : EndsSecond ['Z'] := ⟨Text.Decimal.stops_cons (by decide), by decide⟩
  have zone : readOffset (dropBlanks ['Z']) = some (0, []) := by decide
  have instant : ofLocal timestamp.date timestamp.second timestamp.nanos 0 = some timestamp := by
    simp only [ofLocal, Int.sub_zero, Int.toNat_natCast, sound.day, if_true,
      show ¬ ((timestamp.second : Int) < 0) by omega,
      show ¬ ((86400 : Int) ≤ timestamp.second) from by have := sound.second; omega, if_false]
  simp only [write_letter, List.append_assoc, List.cons_append, read, Option.bind_eq_bind,
    readDate_text sound.day, readJoin, readTime_timeText sound ends, zone, Option.bind_some]
  simpa [dropBlanks] using instant

end Timestamp

end WorkspacePool.Calendar
