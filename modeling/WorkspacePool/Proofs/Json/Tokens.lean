import Mathlib.Tactic
import WorkspacePool.Json.Token

/-!
Tokens of a text, one after the other. Every token takes at least one byte, so the count that
bounds them never runs out, and the tokens of a text are its first token and those of what
follows it.
-/

namespace WorkspacePool.Json.Token

/-! ### Every token takes a byte -/

theorem readQuoted_shorter {done quoted : Quoted} {bytes rest : List UInt8}
    (found : readQuoted done bytes = some (quoted, rest)) : rest.length < bytes.length := by
  induction done, bytes using readQuoted.induct with
  | case1 done => simp [readQuoted] at found
  | case2 done left =>
      simp only [readQuoted, Option.some.injEq, Prod.mk.injEq] at found
      simp [← found.2]
  | case3 done a b c d left code named ih =>
      simp only [readQuoted, named] at found
      have := ih found
      simp only [List.length_cons]
      omega
  | case4 done a b c d left unnamed => simp [readQuoted, unnamed] at found
  | case5 done letter left other byte named ih =>
      rw [readQuoted] at found
      · simp only [named] at found
        have := ih found
        simp only [List.length_cons]
        omega
      · exact other
  | case6 done letter left other unnamed =>
      rw [readQuoted] at found
      · simp [unnamed] at found
      · exact other
  | case7 done byte left notQuote notUnit notEscape refused =>
      rw [readQuoted] at found
      · simp [refused] at found
      all_goals assumption
  | case8 done byte left notQuote notUnit notEscape plain ih =>
      rw [readQuoted] at found
      · rw [if_neg plain] at found
        have := ih found
        simp only [List.length_cons]
        omega
      all_goals assumption

theorem readDigits_shorter {bytes run rest : List UInt8}
    (found : readDigits bytes = some (run, rest)) : rest.length < bytes.length := by
  unfold readDigits at found
  split at found
  · cases found
  · next taken left nonempty parted =>
      obtain ⟨rfl, rfl⟩ := Prod.mk.inj (Option.some.inj found)
      rw [List.span_eq_takeWhile_dropWhile] at parted
      obtain ⟨front, back⟩ := Prod.mk.inj parted
      have whole := congrArg List.length
        (List.takeWhile_append_dropWhile (p := isDigit) (l := bytes))
      rw [front, back, List.length_append] at whole
      have := List.length_pos_iff.mpr nonempty
      omega

theorem readWhole_shorter {bytes run rest : List UInt8}
    (found : readWhole bytes = some (run, rest)) : rest.length < bytes.length := by
  unfold readWhole at found
  split at found
  · obtain ⟨-, rfl⟩ := Prod.mk.inj (Option.some.inj found)
    simp
  · exact readDigits_shorter found

theorem readFraction_no_longer {bytes run rest : List UInt8}
    (found : readFraction bytes = some (run, rest)) : rest.length ≤ bytes.length := by
  unfold readFraction at found
  split at found
  · simp only [Option.map_eq_some_iff, Prod.exists, Prod.mk.injEq] at found
    obtain ⟨_, _, digits, -, rfl⟩ := found
    have := readDigits_shorter digits
    simp only [List.length_cons]
    omega
  · obtain ⟨-, rfl⟩ := Prod.mk.inj (Option.some.inj found)
    exact le_rfl

theorem readExponent_no_longer {bytes run rest : List UInt8}
    (found : readExponent bytes = some (run, rest)) : rest.length ≤ bytes.length := by
  unfold readExponent at found
  split at found
  · split at found
    · split at found
      all_goals
        simp only [Option.map_eq_some_iff, Prod.exists, Prod.mk.injEq] at found
        obtain ⟨_, _, digits, -, rfl⟩ := found
        have := readDigits_shorter digits
        simp only [List.length_cons] at this ⊢
        omega
    · obtain ⟨-, rfl⟩ := Prod.mk.inj (Option.some.inj found)
      exact le_rfl
  · obtain ⟨-, rfl⟩ := Prod.mk.inj (Option.some.inj found)
    exact le_rfl

theorem readSign_no_longer (bytes : List UInt8) : (readSign bytes).2.length ≤ bytes.length := by
  unfold readSign
  split <;> simp

theorem readNumeral_shorter {bytes rest : List UInt8} {numeral : Numeral}
    (found : readNumeral bytes = some (numeral, rest)) : rest.length < bytes.length := by
  simp only [readNumeral, Option.bind_eq_bind, Option.bind_eq_some_iff, Prod.exists,
    Option.some.injEq, Prod.mk.injEq] at found
  obtain ⟨_, _, whole, _, _, fraction, _, _, exponent, -, rfl⟩ := found
  have := readSign_no_longer bytes
  have := readWhole_shorter whole
  have := readFraction_no_longer fraction
  have := readExponent_no_longer exponent
  omega

theorem read_shorter {bytes rest : List UInt8} {token : Token}
    (found : read bytes = some (token, rest)) : rest.length < bytes.length := by
  unfold read at found
  split at found
  case h_10 =>
    simp only [Option.map_eq_some_iff, Prod.exists, Prod.mk.injEq] at found
    obtain ⟨_, _, quoted, -, rfl⟩ := found
    have := readQuoted_shorter quoted
    simp only [List.length_cons]
    omega
  case h_11 =>
    simp only [Option.map_eq_some_iff, Prod.exists, Prod.mk.injEq] at found
    obtain ⟨_, _, numeral, -, rfl⟩ := found
    exact readNumeral_shorter numeral
  all_goals
    obtain ⟨-, rfl⟩ := Prod.mk.inj (Option.some.inj found)
    simp only [List.length_cons]
    omega

/-! ### Reading token by token -/

theorem readAll_blank {bytes : List UInt8} (blank : bytes.dropWhile isSpace = []) (bound : Nat)
    (done : List Token) : readAll bound done bytes = some done.reverse := by
  rw [readAll, blank]

theorem readAll_succ {bytes : List UInt8} {first : UInt8} {later : List UInt8}
    (left : bytes.dropWhile isSpace = first :: later) (bound : Nat) (done : List Token) :
    readAll (bound + 1) done bytes =
      (read (first :: later)).bind fun (token, rest) => readAll bound (token :: done) rest := by
  rw [readAll, left]
  dsimp only
  cases read (first :: later) <;> rfl

/-- Any two counts serve alike that are no less than the number of bytes. -/
theorem readAll_enough {first second : Nat} {bytes : List UInt8} (enough : bytes.length ≤ first)
    (sufficient : bytes.length ≤ second) (done : List Token) :
    readAll first done bytes = readAll second done bytes := by
  -- One count goes down with every token, and what is left to read goes down with it.
  induction first generalizing second bytes done with
  | zero =>
      have empty : bytes = [] := List.eq_nil_of_length_eq_zero (by omega)
      subst empty
      rw [readAll_blank rfl, readAll_blank rfl]
  | succ first ih =>
      cases left : bytes.dropWhile isSpace with
      | nil => rw [readAll_blank left, readAll_blank left]
      | cons byte later =>
          have kept : (byte :: later).length ≤ bytes.length :=
            left ▸ (List.dropWhile_suffix isSpace).length_le
          obtain ⟨second, rfl⟩ := Nat.exists_eq_succ_of_ne_zero
            (show second ≠ 0 by simp only [List.length_cons] at kept; omega)
          rw [readAll_succ left, readAll_succ left]
          cases found : read (byte :: later) with
          | none => rfl
          | some head =>
              obtain ⟨token, rest⟩ := head
              have := read_shorter found
              exact ih (by omega) (by omega) _

theorem readAll_done (bound : Nat) (done : List Token) (bytes : List UInt8) :
    readAll bound done bytes = (readAll bound [] bytes).map (done.reverse ++ ·) := by
  induction bound generalizing done bytes with
  | zero =>
      unfold readAll
      split <;> simp
  | succ bound ih =>
      cases left : bytes.dropWhile isSpace with
      | nil => simp [readAll_blank left]
      | cons byte later =>
          rw [readAll_succ left, readAll_succ left]
          cases read (byte :: later) with
          | none => rfl
          | some head =>
              simp only [Option.bind_some]
              rw [ih (head.1 :: done), ih [head.1], Option.map_map]
              congr 1
              funext more
              simp

/-- The tokens of a text are its first one and those of the rest. -/
theorem ofBytes_of_read {first : UInt8} {later rest : List UInt8} {token : Token}
    (visible : isSpace first = false) (found : read (first :: later) = some (token, rest)) :
    ofBytes (first :: later) = (ofBytes rest).map (token :: ·) := by
  have left : (first :: later).dropWhile isSpace = first :: later := by simp [visible]
  have shorter := read_shorter found
  calc ofBytes (first :: later)
      = readAll later.length [token] rest := by
        rw [ofBytes, List.length_cons, readAll_succ left, found]
        rfl
    _ = readAll rest.length [token] rest :=
        readAll_enough (Nat.lt_succ_iff.mp shorter) le_rfl [token]
    _ = (ofBytes rest).map (token :: ·) := readAll_done rest.length [token] rest

end WorkspacePool.Json.Token
