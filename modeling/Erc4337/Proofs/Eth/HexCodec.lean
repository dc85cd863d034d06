import Erc4337.Proofs.Text.Utf8
import Erc4337.Proofs.UserOp.Decode
import Erc4337.Eth.HexCodec
/-! The hex readers read back what the hex writers write. A written digit is an ASCII character,
so the readers, which work on UTF-8 bytes, see one byte per digit. Data is written two digits a
byte, which `pairs` joins back; a quantity is written with no leading zero, and reading it back
succeeds exactly when it is neither negative nor 2^256 or more; an address is written as forty
digits, which read back to its twenty bytes. -/
namespace Erc4337

theorem Address.ofNatToNat (a : Address) : Address.ofNat a.toNat = a := by
  obtain ⟨n, below⟩ := a
  show (⟨n % 2 ^ 160, _⟩ : Address) = ⟨n, below⟩
  congr 1
  exact Nat.mod_eq_of_lt below

namespace HexCodec
open Utf8

def asciiByte (c : Char) : UInt8 := UInt8.ofNat c.toNat

theorem digitAscii : ∀ n < 16, (Hex.digit n).toNat < 128 := by decide

theorem nibbleDigit : ∀ n < 16, nibble? (asciiByte (Hex.digit n)) = some n := by decide

theorem bytesDigitsAscii (b : List UInt8) : ∀ c ∈ Hex.bytesDigits b, c.toNat < 128 := by
  intro c mem
  obtain ⟨x, -, inByte⟩ := List.mem_flatMap.mp mem
  simp only [Hex.byteDigits, List.mem_cons, List.not_mem_nil, or_false] at inByte
  rcases inByte with rfl | rfl
  · exact digitAscii _ (Nat.div_lt_of_lt_mul x.toNat_lt)
  · exact digitAscii _ (Nat.mod_lt _ (by decide))

theorem bytesDigitsLength (b : List UInt8) : (Hex.bytesDigits b).length = 2 * b.length := by
  induction b with
  | nil => rfl
  | cons x b ih => simp [Hex.bytesDigits, Hex.byteDigits, List.flatMap_cons] at ih ⊢; omega

theorem pairsBytesDigits (b : List UInt8) : pairs ((Hex.bytesDigits b).map asciiByte) = .ok b := by
  induction b with
  | nil => rfl
  | cons x b ih =>
    have high := nibbleDigit (x.toNat / 16) (Nat.div_lt_of_lt_mul x.toNat_lt)
    have low := nibbleDigit (x.toNat % 16) (Nat.mod_lt _ (by decide))
    have joined : (x.toNat / 16 * 16 + x.toNat % 16).toUInt8 = x := by
      rw [Nat.div_add_mod' x.toNat 16]
      exact UInt8.ofNat_toNat
    simp only [Hex.bytesDigits, List.flatMap_cons, Hex.byteDigits, List.cons_append, List.nil_append,
      List.map_cons] at ih ⊢
    rw [pairs, high, low, ih]
    show Except.ok ((x.toNat / 16 * 16 + x.toNat % 16).toUInt8 :: b) = _
    rw [joined]

theorem prefixedUTF8 {cs : List Char} (ascii : ∀ c ∈ cs, c.toNat < 128) :
    ("0x" ++ String.ofList cs).toUTF8.toList = 48 :: 120 :: cs.map asciiByte := by
  have chars : ("0x" ++ String.ofList cs).toList = '0' :: 'x' :: cs := by
    simp only [String.toList_append, String.toList_ofList]
    rfl
  have allAscii : ∀ c ∈ ("0x" ++ String.ofList cs).toList, c.toNat < 128 := by
    rw [chars]
    intro c mem
    rcases List.mem_cons.mp mem with rfl | mem
    · decide
    rcases List.mem_cons.mp mem with rfl | mem
    · decide
    exact ascii c mem
  rw [toUTF8Ascii allAscii, chars]
  rfl

theorem ofBytesUTF8 (b : List UInt8) :
    (ofBytes b).toUTF8.toList = 48 :: 120 :: (Hex.bytesDigits b).map asciiByte :=
  prefixedUTF8 (bytesDigitsAscii b)

theorem decodeOfBytes (b : List UInt8) : decode (ofBytes b) = .ok b := by
  simp only [decode, ofBytesUTF8, List.isEmpty_cons, stripPrefix?, pairsBytesDigits]
  rfl

theorem dataOfBytes (b : List UInt8) : data (ofBytes b) = .ok b := by
  have even : ((Hex.bytesDigits b).map asciiByte).length % 2 = 0 := by
    rw [List.length_map, bytesDigitsLength]
    omega
  simp only [data, dataDigits, ofBytesUTF8, List.isEmpty_cons, stripPrefix?, even]
  exact pairsBytesDigits b

theorem decodeEmpty : decode "" = .error .empty := by
  simp [decode]
  rfl

theorem decodeOkFilled {s : String} {b : List UInt8} (ok : decode s = .ok b) : s.isEmpty = false := by
  cases empty : s.isEmpty
  · rfl
  · rw [String.isEmpty_iff.mp empty, decodeEmpty] at ok
    cases ok

theorem digitCharNibble : ∀ d < 16, nibble? (asciiByte (Nat.digitChar d)) = some d := by decide

theorem digitCharAscii : ∀ d < 16, (Nat.digitChar d).toNat < 128 := by decide

theorem digitCharZero : ∀ d < 16, asciiByte (Nat.digitChar d) = 48 → d = 0 := by decide

theorem toDigitsNibbles (n : Nat) : ∀ c ∈ Nat.toDigits 16 n, ∃ d < 16, c = Nat.digitChar d := by
  induction n using Nat.strongRecOn with
  | ind n ih =>
    rw [Nat.toDigits_eq_if (by decide)]
    split
    · rename_i small
      intro c mem
      exact ⟨n, small, List.mem_singleton.mp mem⟩
    · rename_i large
      intro c mem
      rcases List.mem_append.mp mem with high | low
      · exact ih (n / 16) (Nat.div_lt_self (by omega) (by decide)) c high
      · exact ⟨n % 16, Nat.mod_lt _ (by decide), List.mem_singleton.mp low⟩

theorem toDigitsLead (n : Nat) (pos : 0 < n) : ∃ d rest, 0 < d ∧ d < 16 ∧ Nat.toDigits 16 n = Nat.digitChar d :: rest := by
  induction n using Nat.strongRecOn with
  | ind n ih =>
    rw [Nat.toDigits_eq_if (by decide)]
    split
    · rename_i small
      exact ⟨n, [], pos, small, rfl⟩
    · rename_i large
      obtain ⟨d, rest, lead, digit, eq⟩ := ih (n / 16) (Nat.div_lt_self pos (by decide)) (by omega)
      exact ⟨d, rest ++ [Nat.digitChar (n % 16)], lead, digit, by rw [eq, List.cons_append]⟩

def digitStep (acc : Nat) (b : UInt8) : Except HexError Nat :=
  match nibble? b with
  | some v => .ok (acc * 16 + v)
  | none => .error .badDigit

theorem digitsValueSteps (ds : List UInt8) : digitsValue ds = ds.foldlM digitStep 0 := rfl

theorem digitStepsFrom (ds : List UInt8) (acc : Nat) :
    ds.foldlM digitStep acc = (ds.foldlM digitStep 0).map (acc * 16 ^ ds.length + ·) := by
  induction ds generalizing acc with
  | nil => simp [Except.map, pure, Except.pure]
  | cons b ds ih =>
    simp only [List.foldlM_cons, digitStep]
    cases nibble? b with
    | none => rfl
    | some v =>
      simp only [bind, Except.bind, Nat.zero_mul, Nat.zero_add]
      rw [ih (acc * 16 + v), ih v]
      generalize ds.foldlM digitStep 0 = rest
      cases rest with
      | error e => rfl
      | ok x =>
        simp only [Except.map, List.length_cons, Nat.pow_succ, Except.ok.injEq]
        rw [Nat.add_mul, Nat.mul_assoc, Nat.mul_comm 16, Nat.add_assoc]

theorem digitsValueToDigits (n : Nat) : digitsValue ((Nat.toDigits 16 n).map asciiByte) = .ok n := by
  induction n using Nat.strongRecOn with
  | ind n ih =>
    rw [Nat.toDigits_eq_if (by decide)]
    split
    · rename_i small
      simp [digitsValue, digitCharNibble n small]
    · rename_i large
      have high := ih (n / 16) (Nat.div_lt_self (by omega) (by decide))
      unfold digitsValue at high ⊢
      rw [List.map_append, List.foldlM_append, high]
      simp [digitCharNibble (n % 16) (Nat.mod_lt _ (by decide))]
      show Except.ok (n / 16 * 16 + n % 16) = _
      rw [Nat.div_add_mod']

theorem nibbleLt {b : UInt8} {v : Nat} (read : nibble? b = some v) : v < 16 := by
  unfold nibble? at read
  split at read
  · rename_i digit
    cases read
    have top : b.toNat ≤ 57 := UInt8.le_iff_toNat_le.mp digit.2
    omega
  split at read
  · rename_i digit
    cases read
    have top : b.toNat ≤ 102 := UInt8.le_iff_toNat_le.mp digit.2
    omega
  split at read
  · rename_i digit
    cases read
    have top : b.toNat ≤ 70 := UInt8.le_iff_toNat_le.mp digit.2
    omega
  · cases read

theorem pairsValue {ds b : List UInt8} (ok : pairs ds = .ok b) :
    digitsValue ds = .ok (Hex.bytesNat b) ∧ ds.length = 2 * b.length := by
  fun_induction pairs ds generalizing b with
  | case1 a c rest x y second first ih =>
    cases tail : pairs rest with
    | error e => rw [tail] at ok; cases ok
    | ok t =>
      rw [tail] at ok
      cases ok
      obtain ⟨value, length⟩ := ih tail
      have joined : ((x * 16 + y).toUInt8).toNat = x * 16 + y := by
        have high := nibbleLt first
        have low := nibbleLt second
        exact toNatOfNatLt (by omega)
      have shifted := digitStepsFrom rest (x * 16 + y)
      rw [← digitsValueSteps, value] at shifted
      refine ⟨?_, by simp [length]; omega⟩
      rw [digitsValueSteps]
      simp only [List.foldlM_cons, digitStep, first, second, bind, Except.bind, Nat.zero_mul, Nat.zero_add]
      rw [shifted, length, Nat.pow_mul, Hex.bytesNatCons, joined]
      rfl
  | case2 => cases ok
  | case3 => cases ok
  | case4 => cases ok; exact ⟨rfl, rfl⟩

theorem pairsOk {ds : List UInt8} (digits : ∀ b ∈ ds, (nibble? b).isSome) (even : ds.length % 2 = 0) :
    ∃ b, pairs ds = .ok b := by
  fun_induction pairs ds with
  | case1 a c rest x y second first ih =>
    obtain ⟨t, tail⟩ := ih (fun b mem => digits b (by simp [mem])) (by simp at even; omega)
    exact ⟨_, by rw [tail]; rfl⟩
  | case2 a c rest notBoth =>
    obtain ⟨x, first⟩ := Option.isSome_iff_exists.mp (digits a (by simp))
    obtain ⟨y, second⟩ := Option.isSome_iff_exists.mp (digits c (by simp))
    exact absurd second (notBoth x y first)
  | case3 => simp at even
  | case4 => exact ⟨[], rfl⟩

theorem digitsValueZeros (k : Nat) (ds : List UInt8) : digitsValue (List.replicate k 48 ++ ds) = digitsValue ds := by
  rw [digitsValueSteps, digitsValueSteps, List.foldlM_append]
  have zeros : (List.replicate k 48).foldlM digitStep 0 = .ok 0 := by
    induction k with
    | zero => rfl
    | succ k ih => rw [List.replicate_succ, List.foldlM_cons]; exact ih
  rw [zeros]
  rfl

theorem toDigitsAscii (n : Nat) : ∀ c ∈ Nat.toDigits 16 n, c.toNat < 128 := by
  intro c mem
  obtain ⟨d, digit, rfl⟩ := toDigitsNibbles n c mem
  exact digitCharAscii d digit

theorem toDigitsRead (n : Nat) : ∀ b ∈ (Nat.toDigits 16 n).map asciiByte, (nibble? b).isSome := by
  intro b mem
  obtain ⟨c, inDigits, rfl⟩ := List.mem_map.mp mem
  obtain ⟨d, digit, rfl⟩ := toDigitsNibbles n c inDigits
  simp [digitCharNibble d digit]

theorem paddedDigitsPairs (width n : Nat) (fits : (Nat.toDigits 16 n).length ≤ width) (even : width % 2 = 0) :
    (∀ c ∈ Hex.paddedDigits width n, c.toNat < 128) ∧
      ∃ b, pairs ((Hex.paddedDigits width n).map asciiByte) = .ok b ∧ Hex.bytesNat b = n := by
  have written : Hex.paddedDigits width n = List.replicate (width - (Nat.toDigits 16 n).length) '0' ++
      Nat.toDigits 16 n := rfl
  have ascii : ∀ c ∈ Hex.paddedDigits width n, c.toNat < 128 := by
    rw [written]
    intro c mem
    rcases List.mem_append.mp mem with zero | digit
    · rw [List.eq_of_mem_replicate zero]; decide
    · exact toDigitsAscii _ c digit
  have bytes : (Hex.paddedDigits width n).map asciiByte = List.replicate (width - (Nat.toDigits 16 n).length) 48 ++
      (Nat.toDigits 16 n).map asciiByte := by
    rw [written, List.map_append, List.map_replicate]
    rfl
  have length : ((Hex.paddedDigits width n).map asciiByte).length = width := by
    rw [bytes, List.length_append, List.length_replicate, List.length_map]
    omega
  have read : ∀ b ∈ (Hex.paddedDigits width n).map asciiByte, (nibble? b).isSome := by
    rw [bytes]
    intro b mem
    rcases List.mem_append.mp mem with zero | digit
    · rw [List.eq_of_mem_replicate zero]; rfl
    · exact toDigitsRead _ b digit
  obtain ⟨b, joined⟩ := pairsOk read (by omega)
  have value : digitsValue ((Hex.paddedDigits width n).map asciiByte) = .ok n := by
    rw [bytes, digitsValueZeros, digitsValueToDigits]
  have same : Hex.bytesNat b = n := by
    have both := (pairsValue joined).1
    rw [value] at both
    exact (Except.ok.inj both).symm
  exact ⟨ascii, b, joined, same⟩

theorem fixedLowerNamed (typeName : String) (a : Address) :
    ∃ b, fixed typeName 20 a.lower = .ok b ∧ Address.ofBytes b = a := by
  have fits : (Nat.toDigits 16 a.toNat).length ≤ 40 :=
    (Nat.length_toDigits_le_iff (by decide) (by decide)).mpr (by have := a.isLt; omega)
  obtain ⟨ascii, b, joined, same⟩ := paddedDigitsPairs 40 a.toNat fits rfl
  have ascii : ∀ c ∈ a.digits, c.toNat < 128 := ascii
  have length : (a.digits.map asciiByte).length = 40 := by
    simp only [List.length_map, Address.digits, Hex.paddedDigits, Hex.natDigits, List.length_append,
      List.length_replicate]
    omega
  refine ⟨b, ?_, by rw [Address.ofBytes, same, Address.ofNatToNat]⟩
  have digitsRead : dataDigits (48 :: 120 :: a.digits.map asciiByte) = .ok (a.digits.map asciiByte) := by
    simp [dataDigits, stripPrefix?, length]
  simp only [fixed, Address.lower, prefixedUTF8 ascii, digitsRead, bind, Except.bind, length]
  exact joined

theorem fixedLower (a : Address) : ∃ b, fixed "common.Address" 20 a.lower = .ok b ∧ Address.ofBytes b = a :=
  fixedLowerNamed "common.Address" a

theorem numberDigitsOfPos (n : Nat) (pos : 0 < n) :
    numberDigits (48 :: 120 :: (Nat.toDigits 16 n).map asciiByte) = .ok ((Nat.toDigits 16 n).map asciiByte) := by
  obtain ⟨d, rest, lead, digit, eq⟩ := toDigitsLead n pos
  have notZero : asciiByte (Nat.digitChar d) ≠ 48 := fun zero => absurd (digitCharZero d digit zero) (by omega)
  rw [eq, List.map_cons]
  simp only [numberDigits, List.isEmpty_cons, stripPrefix?, Bool.false_eq_true, if_false]
  split
  · rename_i found
    cases found
  · rename_i found
    cases found
  · rename_i found
    simp only [Option.some.injEq, List.cons.injEq] at found
    exact absurd found.1 notZero
  · rename_i found
    rw [Option.some.inj found]

theorem quantityOfInt (n : Int) :
    quantity (ofInt n) = if n < 0 then .error .missingPrefix else if n < 2 ^ 256 then .ok n.toNat else .error .above256Bits := by
  rcases Int.lt_trichotomy n 0 with negative | rfl | positive
  ·
    have written : (ofInt n).toList = '-' :: ("0x" ++ String.ofList (Hex.natDigits n.natAbs)).toList := by
      simp [ofInt, Int.ne_of_lt negative, Int.not_lt.mpr (Int.le_of_lt negative)]
    have bytes : ∃ rest, (ofInt n).toUTF8.toList = 45 :: rest := by
      rw [toUTF8ToList, written, List.flatMap_cons]
      exact ⟨_, rfl⟩
    obtain ⟨rest, bytes⟩ := bytes
    have noPrefix : stripPrefix? (45 :: rest) = none := rfl
    simp only [quantity, bytes, numberDigits, noPrefix, List.isEmpty_cons, Bool.false_eq_true, if_false,
      if_pos negative]
    rfl
  · have written : ofInt 0 = "0x" ++ String.ofList ['0'] := by decide
    rw [written]
    unfold quantity
    rw [prefixedUTF8 (List.forall_mem_singleton.mpr (by decide))]
    rfl
  · obtain ⟨m, rfl⟩ := Int.eq_ofNat_of_zero_le (Int.le_of_lt positive)
    have pos : 0 < m := by omega
    have written : ofInt m = "0x" ++ String.ofList (Nat.toDigits 16 m) := by
      simp [ofInt, Hex.natDigits, Nat.pos_iff_ne_zero.mp pos, pos]
    have fits : (Nat.toDigits 16 m).length ≤ 64 ↔ m < 2 ^ 256 :=
      Nat.length_toDigits_le_iff (by decide) (by decide)
    rw [written]
    simp only [quantity, prefixedUTF8 (toDigitsAscii m), numberDigitsOfPos m pos, bind, Except.bind]
    by_cases small : m < 2 ^ 256
    · have short : ¬ (List.map asciiByte (Nat.toDigits 16 m)).length > 64 := by
        rw [List.length_map]; omega
      have fitsInt : (m : Int) < 2 ^ 256 := by omega
      simp only [short, if_false, digitsValueToDigits]
      rw [if_neg (by omega), if_pos fitsInt, Int.toNat_natCast]
    · have long : (List.map asciiByte (Nat.toDigits 16 m)).length > 64 := by
        rw [List.length_map]; omega
      have above : ¬ (m : Int) < 2 ^ 256 := by omega
      simp only [long, if_true]
      rw [if_neg (by omega), if_neg above]
      rfl

end Erc4337.HexCodec
