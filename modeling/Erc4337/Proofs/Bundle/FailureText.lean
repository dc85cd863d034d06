import Mathlib.Data.List.TakeWhile
import Mathlib.Data.Nat.Digits.Defs
import Erc4337.Bundle.Failure
/-! A failure named in text, read byte by byte. The pattern is `FailedOp` or
`FailedOpWithRevert`, an opening parenthesis, decimal digits, a comma, blanks, and a reason
between double quotes with no quote inside; the reading takes its leftmost occurrence.
`NamesFailure` says what the pattern matches without the scanner, and `ofBytes` reads the leftmost
occurrence, the digits as a decimal number below 2^63. -/
namespace Erc4337.AttributedFailure

def ArgsText (cs ds s : List UInt8) : Prop :=
  ∃ blanks rest, cs = 40 :: (ds ++ 44 :: (blanks ++ 34 :: (s ++ 34 :: rest))) ∧ ds ≠ [] ∧
    (∀ d ∈ ds, isDigitByte d) ∧ (∀ b ∈ blanks, isPatternBlank b) ∧ 34 ∉ s

def NamesFailure (cs ds s : List UInt8) : Prop :=
  ∃ name args, (name = failedOpName ∨ name = failedOpName ++ withRevertName) ∧ cs = name ++ args ∧
    ArgsText args ds s

def FirstFailure (t ds s : List UInt8) : Prop :=
  ∃ pre cs, t = pre ++ cs ∧ NamesFailure cs ds s ∧ ∀ k < pre.length, ∀ ds' s', ¬ NamesFailure (t.drop k) ds' s'

def decimal (ds : List UInt8) : Nat := Nat.ofDigits 10 (ds.reverse.map fun d => d.toNat - 48)

theorem spanAppend {p : α → Bool} (a : List α) (c : α) (rest : List α) (all : ∀ x ∈ a, p x) (stop : p c = false) :
    (a ++ c :: rest).takeWhile p = a ∧ (a ++ c :: rest).dropWhile p = c :: rest := by
  simp [List.takeWhile_append_of_pos all, List.dropWhile_append_of_pos all, stop]

theorem spanStops {p : α → Bool} {l : List α} {c : α} {rest : List α} (stops : l.dropWhile p = c :: rest) :
    l = l.takeWhile p ++ c :: rest ∧ p c = false := by
  have head := List.head_dropWhile_not p (l := l) (by simp [stops])
  simp only [stops, List.head_cons] at head
  exact ⟨by rw [← stops, List.takeWhile_append_dropWhile], head⟩

theorem argsAtOfArgsText {cs ds s : List UInt8} (args : ArgsText cs ds s) : argsAt cs = some (ds, s) := by
  obtain ⟨blanks, rest, rfl, nonempty, digits, blank, unquoted⟩ := args
  have digitRun := spanAppend ds 44 (blanks ++ 34 :: (s ++ 34 :: rest)) digits (by decide)
  have blankRun := spanAppend blanks 34 (s ++ 34 :: rest) blank (by decide)
  have reasonRun := @spanAppend _ (· != 34) s 34 rest
    (fun x mem => by simpa using ne_of_mem_of_not_mem mem unquoted) (by decide)
  simp [argsAt, digitRun, blankRun, reasonRun, List.isEmpty_iff, nonempty]

theorem argsTextOfArgsAt {cs ds s : List UInt8} (found : argsAt cs = some (ds, s)) : ArgsText cs ds s := by
  unfold argsAt at found
  split at found
  next rest =>
    dsimp only at found
    split at found
    · cases found
    rename_i nonempty
    split at found
    next r' afterDigits =>
      split at found
      next body afterBlanks =>
        split at found
        · rename_i closed
          cases found
          obtain ⟨digitsSplit, -⟩ := spanStops afterDigits
          obtain ⟨blanksSplit, -⟩ := spanStops afterBlanks
          cases afterReason : body.dropWhile (· != 34) with
          | nil =>
            have whole : body.takeWhile (· != 34) ++ body.dropWhile (· != 34) = body :=
              List.takeWhile_append_dropWhile
            rw [afterReason, List.append_nil] at whole
            rw [whole] at closed
            exact absurd closed (Nat.lt_irrefl _)
          | cons c rest' =>
            obtain ⟨reasonSplit, quote⟩ := spanStops afterReason
            have isQuote : c = 34 := by simpa using quote
            subst isQuote
            refine ⟨r'.takeWhile isPatternBlank, rest', ?_, ?_, ?_, ?_, ?_⟩
            · rw [← reasonSplit, ← blanksSplit, ← digitsSplit]
            · simpa [List.isEmpty_iff] using nonempty
            · exact fun d mem => List.mem_takeWhile_imp mem
            · exact fun b mem => List.mem_takeWhile_imp mem
            · intro mem
              simpa using List.mem_takeWhile_imp mem
        · cases found
      · cases found
    · cases found
  · cases found

theorem argsAtSome {cs ds s : List UInt8} : argsAt cs = some (ds, s) ↔ ArgsText cs ds s :=
  ⟨argsTextOfArgsAt, argsAtOfArgsText⟩

theorem failedOpBytes : failedOpName = [70, 97, 105, 108, 101, 100, 79, 112] := by decide +kernel

theorem withRevertBytes : withRevertName = [87, 105, 116, 104, 82, 101, 118, 101, 114, 116] := by decide +kernel

theorem matchAtOfNamesFailure {cs ds s : List UInt8} (names : NamesFailure cs ds s) :
    matchAt cs = some (ds, s) := by
  obtain ⟨name, args, short | long, rfl, text⟩ := names
  · -- after the short name comes the parenthesis, so the long name does not match
    have read := argsAtOfArgsText text
    obtain ⟨blanks, rest, rfl, -⟩ := text
    subst short
    simp [matchAt, read, failedOpBytes, withRevertBytes]
  · subst long
    have read := argsAtOfArgsText text
    simp [matchAt, read, failedOpBytes, withRevertBytes]

theorem namesFailureOfMatchAt {cs ds s : List UInt8} (found : matchAt cs = some (ds, s)) :
    NamesFailure cs ds s := by
  unfold matchAt at found
  dsimp only at found
  split at found
  · rename_i named
    obtain ⟨t, rfl⟩ := List.isPrefixOf_iff_prefix.mp named
    rw [List.drop_left] at found
    have short : argsAt t = some (ds, s) → NamesFailure (failedOpName ++ t) ds s :=
      fun read => ⟨_, t, .inl rfl, rfl, argsTextOfArgsAt read⟩
    split at found
    · rename_i longNamed
      obtain ⟨u, rfl⟩ := List.isPrefixOf_iff_prefix.mp longNamed
      rw [List.drop_left] at found
      split at found
      · rename_i m read
        cases found
        exact ⟨failedOpName ++ withRevertName, u, .inr rfl, (List.append_assoc ..).symm, argsTextOfArgsAt read⟩
      · exact short found
    · exact short found
  · cases found

theorem matchAtSome {cs ds s : List UInt8} : matchAt cs = some (ds, s) ↔ NamesFailure cs ds s :=
  ⟨namesFailureOfMatchAt, matchAtOfNamesFailure⟩

theorem firstMatchOfPrefix {m : List UInt8 × List UInt8} (pre : List UInt8) {cs : List UInt8}
    (found : matchAt cs = some m) (before : ∀ k < pre.length, matchAt ((pre ++ cs).drop k) = none) :
    firstMatch (pre ++ cs) = some m := by
  induction pre with
  | nil =>
    cases cs with
    | nil => simp [matchAt, failedOpBytes] at found
    | cons c rest => simp [firstMatch, found]
  | cons c pre ih =>
    have here : matchAt (c :: (pre ++ cs)) = none := before 0 (Nat.succ_pos _)
    have later : ∀ k < pre.length, matchAt ((pre ++ cs).drop k) = none :=
      fun k lt => before (k + 1) (Nat.succ_lt_succ lt)
    simp [firstMatch, here, ih later]

theorem firstMatchOfFirstFailure {t ds s : List UInt8} (first : FirstFailure t ds s) :
    firstMatch t = some (ds, s) := by
  obtain ⟨pre, cs, rfl, names, earliest⟩ := first
  refine firstMatchOfPrefix pre (matchAtOfNamesFailure names) fun k lt => ?_
  cases read : matchAt ((pre ++ cs).drop k) with
  | none => rfl
  | some m => exact absurd (namesFailureOfMatchAt read) (earliest k lt m.1 m.2)

theorem foldlDecimal (ds : List UInt8) : ds.foldl (fun a c => a * 10 + (c.toNat - 48)) 0 = decimal ds := by
  rw [List.foldl_eq_foldr_reverse, decimal]
  generalize ds.reverse = l
  induction l with
  | nil => rfl
  | cons c l ih =>
    rw [List.foldr_cons, List.map_cons, Nat.ofDigits_cons, ih]
    omega

theorem ofBytesFirstFailure {t ds s : List UInt8} (first : FirstFailure t ds s)
    (small : decimal ds < 2 ^ 63) : ofBytes t = some { opIndex := decimal ds, reason := s } := by
  simp only [ofBytes, firstMatchOfFirstFailure first, foldlDecimal, bind, Option.bind, if_pos small]

theorem ofBytesIndexLt {t : List UInt8} {a : AttributedFailure} (read : ofBytes t = some a) : a.opIndex < 2 ^ 63 := by
  simp only [ofBytes, bind, Option.bind] at read
  split at read
  · cases read
  · dsimp only at read
    split at read
    · cases read
      assumption
    · cases read

end Erc4337.AttributedFailure
