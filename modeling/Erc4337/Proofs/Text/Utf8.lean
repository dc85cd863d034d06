import Erc4337.Text.Utf8
/-! Lossy decoding reads back what the encoder of strings writes: `decodeLossy` of the UTF-8
bytes of a string is the string. One lemma per length of an encoded character says which
character `decodeOne` reads from well-formed bytes; the encoder writes only such bytes, with no
overlong form and no surrogate, so every character comes back and no byte is replaced. -/
namespace Erc4337.Utf8

theorem toNatOfNatLt {x : Nat} (small : x < 256) : (UInt8.ofNat x).toNat = x := by
  simp [Nat.mod_eq_of_lt small]

theorem decodeOneAscii {x : Nat} (rest : List UInt8) (hx : x < 128) :
    decodeOne (UInt8.ofNat x :: rest) = some (Char.ofNat x, rest) := by
  simp [decodeOne, UInt8.lt_iff_toNat_lt, toNatOfNatLt (show x < 256 by omega), hx]

theorem decodeOneTwo {x y : Nat} (n : Nat) (rest : List UInt8) (hx : 194 ≤ x ∧ x ≤ 223)
    (hy : 128 ≤ y ∧ y ≤ 191) (value : (x - 192) * 64 + (y - 128) = n) :
    decodeOne (UInt8.ofNat x :: UInt8.ofNat y :: rest) = some (Char.ofNat n, rest) := by
  have lead : ¬ x < 128 := by omega
  simp [decodeOne, isCont, UInt8.lt_iff_toNat_lt, UInt8.le_iff_toNat_le, toNatOfNatLt (show x < 256 by omega),
    toNatOfNatLt (show y < 256 by omega), lead, hx, hy, value]

theorem decodeOneThree {x y z : Nat} (n : Nat) (rest : List UInt8) (hx : 224 ≤ x ∧ x ≤ 239)
    (hy : (x = 224 → 160 ≤ y) ∧ (x = 237 → y ≤ 159) ∧ 128 ≤ y ∧ y ≤ 191) (hz : 128 ≤ z ∧ z ≤ 191)
    (value : (x - 224) * 4096 + (y - 128) * 64 + (z - 128) = n) :
    decodeOne (UInt8.ofNat x :: UInt8.ofNat y :: UInt8.ofNat z :: rest) = some (Char.ofNat n, rest) := by
  have lead : ¬ x < 128 := by omega
  have notTwo : ¬ (194 ≤ x ∧ x ≤ 223) := by omega
  have second : (if x = 224 then (160 : UInt8) else 128).toNat ≤ y ∧
      y ≤ (if x = 237 then (159 : UInt8) else 191).toNat := by
    constructor <;> split <;> simp <;> omega
  simpa [decodeOne, isCont, UInt8.lt_iff_toNat_lt, UInt8.le_iff_toNat_le, ← UInt8.toNat_inj,
    toNatOfNatLt (show x < 256 by omega), toNatOfNatLt (show y < 256 by omega),
    toNatOfNatLt (show z < 256 by omega), lead, notTwo, hx, hz, value] using second

theorem decodeOneFour {x y z w : Nat} (n : Nat) (rest : List UInt8) (hx : 240 ≤ x ∧ x ≤ 244)
    (hy : (x = 240 → 144 ≤ y) ∧ (x = 244 → y ≤ 143) ∧ 128 ≤ y ∧ y ≤ 191) (hz : 128 ≤ z ∧ z ≤ 191)
    (hw : 128 ≤ w ∧ w ≤ 191) (value : (x - 240) * 262144 + (y - 128) * 4096 + (z - 128) * 64 + (w - 128) = n) :
    decodeOne (UInt8.ofNat x :: UInt8.ofNat y :: UInt8.ofNat z :: UInt8.ofNat w :: rest) =
      some (Char.ofNat n, rest) := by
  have lead : ¬ x < 128 := by omega
  have notTwo : ¬ (194 ≤ x ∧ x ≤ 223) := by omega
  have notThree : ¬ (224 ≤ x ∧ x ≤ 239) := by omega
  have second : (if x = 240 then (144 : UInt8) else 128).toNat ≤ y ∧
      y ≤ (if x = 244 then (143 : UInt8) else 191).toNat := by
    constructor <;> split <;> simp <;> omega
  simpa [decodeOne, isCont, UInt8.lt_iff_toNat_lt, UInt8.le_iff_toNat_le, ← UInt8.toNat_inj,
    toNatOfNatLt (show x < 256 by omega), toNatOfNatLt (show y < 256 by omega),
    toNatOfNatLt (show z < 256 by omega), toNatOfNatLt (show w < 256 by omega), lead, notTwo, notThree,
    hx, hz, hw, value] using second

theorem decodeOneEncode (c : Char) (rest : List UInt8) :
    decodeOne (String.utf8EncodeChar c ++ rest) = some (c, rest) := by
  have range : c.val.toNat < 0xd800 ∨ (0xdfff < c.val.toNat ∧ c.val.toNat < 0x110000) := c.valid
  have back : Char.ofNat c.val.toNat = c := Char.ofNat_toNat c
  unfold String.utf8EncodeChar
  dsimp only
  generalize c.val.toNat = v at *
  split
  · rw [List.singleton_append, decodeOneAscii rest (by omega), back]
  split
  · rw [List.cons_append, List.cons_append, List.nil_append, decodeOneTwo v rest (by omega) (by omega) (by omega),
      back]
  split
  · rw [List.cons_append, List.cons_append, List.cons_append, List.nil_append,
      decodeOneThree v rest (by omega) (by omega) (by omega) (by omega), back]
  · rw [List.cons_append, List.cons_append, List.cons_append, List.cons_append, List.nil_append,
      decodeOneFour v rest (by omega) (by omega) (by omega) (by omega) (by omega), back]

theorem decodeCharsEncode (cs : List Char) : decodeChars (cs.flatMap String.utf8EncodeChar) = cs := by
  induction cs with
  | nil => simp [decodeChars]
  | cons c cs ih =>
    have one := decodeOneEncode c (cs.flatMap String.utf8EncodeChar)
    obtain ⟨b, bs, eq⟩ : ∃ b bs, String.utf8EncodeChar c = b :: bs := by
      cases h : String.utf8EncodeChar c with
      | nil =>
        have empty := congrArg List.length h
        rw [String.length_utf8EncodeChar] at empty
        exact absurd empty (Nat.ne_of_gt (Char.utf8Size_pos c))
      | cons b bs => exact ⟨b, bs, rfl⟩
    rw [List.flatMap_cons]
    rw [eq, List.cons_append] at one ⊢
    rw [decodeChars]
    -- the character's bytes are read as one well-formed form, never as a replaced byte
    split
    · rename_i c' r found
      rw [one] at found
      cases found
      rw [ih]
    · rename_i missing
      rw [one] at missing
      cases missing

theorem toListLoop (bs : ByteArray) (i : Nat) (r : List UInt8) :
    ByteArray.toList.loop bs i r = r.reverse ++ bs.data.toList.drop i := by
  fun_induction ByteArray.toList.loop bs i r with
  | case1 i r lt ih =>
    have inside : i < bs.data.toList.length := by simpa [← ByteArray.size_data] using lt
    have get : bs.get! i = bs.data.toList[i] := by
      simp only [ByteArray.get!, Array.getElem_toList]
      exact getElem!_pos bs.data i (by simpa using inside)
    rw [ih, List.drop_eq_getElem_cons inside, get]
    simp
  | case2 i r ge =>
    have past : bs.data.toList.drop i = [] :=
      List.drop_eq_nil_of_le (by simpa [← ByteArray.size_data] using ge)
    rw [past, List.append_nil]

theorem byteArrayToList (bs : ByteArray) : bs.toList = bs.data.toList := by
  simp [ByteArray.toList, toListLoop]

theorem toUTF8ToList (s : String) : s.toUTF8.toList = s.toList.flatMap String.utf8EncodeChar := by
  obtain ⟨cs, rfl⟩ := String.exists_eq_ofList s
  rw [byteArrayToList, String.toUTF8_eq_toByteArray, String.toByteArray_ofList, List.utf8Encode,
    List.toList_data_toByteArray, String.toList_ofList]

theorem toUTF8Length (s : String) : s.toUTF8.toList.length = s.utf8ByteSize := by
  rw [byteArrayToList, Array.length_toList, ByteArray.size_data, String.toUTF8_eq_toByteArray,
    String.size_toByteArray]

theorem utf8EncodeCharAscii {c : Char} (ascii : c.toNat < 128) :
    String.utf8EncodeChar c = [UInt8.ofNat c.toNat] := by
  have small : c.val.toNat ≤ 0x7f := Nat.le_of_lt_succ ascii
  unfold String.utf8EncodeChar
  dsimp only
  rw [if_pos small]
  rfl

theorem toUTF8Ascii {s : String} (ascii : ∀ c ∈ s.toList, c.toNat < 128) :
    s.toUTF8.toList = s.toList.map fun c => UInt8.ofNat c.toNat := by
  rw [toUTF8ToList]
  generalize s.toList = cs at ascii ⊢
  induction cs with
  | nil => rfl
  | cons c cs ih =>
    rw [List.flatMap_cons, List.map_cons, utf8EncodeCharAscii (ascii c List.mem_cons_self),
      ih fun d mem => ascii d (List.mem_cons_of_mem c mem), List.singleton_append]

theorem decodeLossyToUTF8 (s : String) : decodeLossy s.toUTF8.toList = s := by
  rw [decodeLossy, toUTF8ToList, decodeCharsEncode, String.ofList_toList]

end Erc4337.Utf8
