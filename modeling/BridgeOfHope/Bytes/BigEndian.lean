import Mathlib.Data.List.Induction
import Mathlib.Data.Nat.Notation
import Mathlib.Tactic.Ring

-- Numbers as bytes, the most significant byte first.

namespace BigEndian

def toBytes : (length n : ℕ) → List UInt8
  | 0, _ => []
  | length + 1, n => toBytes length (n / 256) ++ [UInt8.ofNat n]

def fromBytes (bytes : List UInt8) : ℕ := bytes.foldl (fun n byte => 256 * n + byte.toNat) 0

-- The bits of a byte, the most significant bit first.
def byteBits (byte : UInt8) : List Bool := (List.range 8).map fun i => byte.toNat.testBit (7 - i)

def bits (bytes : List UInt8) : List Bool := bytes.flatMap byteBits

variable {bytes bytes' : List UInt8} {byte byte' : UInt8} {length m n : ℕ}

@[simp] theorem length_toBytes : (toBytes length n).length = length := by
  induction length generalizing n with
  | zero => rfl
  | succ length ih => simp [toBytes, ih]

@[simp] theorem fromBytes_nil : fromBytes [] = 0 := rfl

@[simp] theorem fromBytes_concat : fromBytes (bytes ++ [byte]) = 256 * fromBytes bytes + byte.toNat := by
  simp [fromBytes]

theorem fromBytes_toBytes (h : n < 256 ^ length) : fromBytes (toBytes length n) = n := by
  induction length generalizing n with
  | zero => simp_all [toBytes]
  | succ length ih =>
      have hhigh : n / 256 < 256 ^ length := Nat.div_lt_of_lt_mul (by rwa [← Nat.pow_succ'])
      have hlow : (UInt8.ofNat n).toNat = n % 256 := UInt8.toNat_ofNat'
      rw [toBytes, fromBytes_concat, ih hhigh, hlow]
      omega

theorem toBytes_fromBytes : toBytes bytes.length (fromBytes bytes) = bytes := by
  induction bytes using List.reverseRecOn with
  | nil => rfl
  | append_singleton bytes byte ih =>
      have hbyte := byte.toNat_lt
      have hhigh : (256 * fromBytes bytes + byte.toNat) / 256 = fromBytes bytes := by omega
      have hlow : UInt8.ofNat (256 * fromBytes bytes + byte.toNat) = byte := by
        apply UInt8.toNat_inj.mp
        rw [UInt8.toNat_ofNat']
        omega
      rw [List.length_append, List.length_singleton, toBytes, fromBytes_concat, hhigh, hlow, ih]

theorem fromBytes_lt : fromBytes bytes < 256 ^ bytes.length := by
  induction bytes using List.reverseRecOn with
  | nil => decide
  | append_singleton bytes byte ih =>
      have hbyte := byte.toNat_lt
      rw [List.length_append, List.length_singleton, Nat.pow_succ, fromBytes_concat]
      omega

theorem fromBytes_cons : fromBytes (byte :: bytes) = byte.toNat * 256 ^ bytes.length + fromBytes bytes := by
  induction bytes using List.reverseRecOn with
  | nil => simp [fromBytes]
  | append_singleton bytes last ih =>
      rw [← List.cons_append, fromBytes_concat, ih, fromBytes_concat, List.length_append, List.length_singleton]
      ring

-- Of two numbers with as many bytes, the smaller one comes first in byte order.
theorem lt_of_fromBytes_lt (hlength : bytes.length = bytes'.length) (h : fromBytes bytes < fromBytes bytes') :
    bytes < bytes' := by
  induction bytes generalizing bytes' with
  | nil =>
      rw [List.eq_nil_of_length_eq_zero hlength.symm] at h
      cases h
  | cons byte bytes ih =>
      cases bytes' with
      | nil => cases hlength
      | cons byte' bytes' =>
          have hrest : bytes.length = bytes'.length := Nat.succ.inj hlength
          have hbound := @fromBytes_lt bytes
          have hbound' := @fromBytes_lt bytes'
          rw [fromBytes_cons, fromBytes_cons, ← hrest] at h
          rw [← hrest] at hbound'
          rw [List.cons_lt_cons_iff]
          rcases Nat.lt_trichotomy byte.toNat byte'.toNat with hlt | heq | hgt
          · exact .inl (UInt8.lt_iff_toNat_lt.mpr hlt)
          · rw [heq] at h
            exact .inr ⟨UInt8.toNat_inj.mp heq, ih hrest (by omega)⟩
          · have hmul := Nat.mul_le_mul_right (256 ^ bytes.length) (Nat.succ_le_of_lt hgt)
            rw [Nat.succ_mul] at hmul
            omega

theorem toBytes_inj (hm : m < 256 ^ length) (hn : n < 256 ^ length) (h : toBytes length m = toBytes length n) :
    m = n := by
  rw [← fromBytes_toBytes hm, h, fromBytes_toBytes hn]

-- An order that the first bytes decide is not changed by what follows.
theorem append_lt_append (hlength : bytes.length = bytes'.length) (h : bytes < bytes')
    (tail tail' : List UInt8) :
    bytes ++ tail < bytes' ++ tail' := by
  induction bytes generalizing bytes' with
  | nil =>
      rw [List.eq_nil_of_length_eq_zero hlength.symm] at h
      cases h
  | cons byte bytes ih =>
      cases bytes' with
      | nil => cases hlength
      | cons byte' bytes' =>
          rw [List.cons_append, List.cons_append, List.cons_lt_cons_iff]
          refine (List.cons_lt_cons_iff.mp h).imp_right fun hrest => ?_
          exact ⟨hrest.1, ih (Nat.succ.inj hlength) hrest.2⟩

-- A fact about every byte is checked byte by byte.
theorem forall_byte {P : UInt8 → Prop} (h : ∀ n : Fin 256, P (UInt8.ofNat n)) (byte : UInt8) : P byte := by
  simpa using h ⟨byte.toNat, byte.toNat_lt⟩

@[simp] theorem length_byteBits : (byteBits byte).length = 8 := rfl

theorem byteBits_inj (h : byteBits byte = byteBits byte') : byte = byte' := by
  apply UInt8.toNat_inj.mp
  refine Nat.eq_of_testBit_eq fun i => ?_
  by_cases hi : i < 8
  · have hbit := congrArg (fun list => list[7 - i]?) h
    have hindex : 7 - (7 - i) = i := by omega
    have hrange : 7 - i < 8 := by omega
    simpa [byteBits, List.getElem?_map, List.getElem?_range hrange, hindex] using hbit
  · have hpow : 2 ^ 8 ≤ 2 ^ i := Nat.pow_le_pow_right Nat.two_pos (by omega)
    rw [Nat.testBit_lt_two_pow (byte.toNat_lt.trans_le hpow),
      Nat.testBit_lt_two_pow (byte'.toNat_lt.trans_le hpow)]

@[simp] theorem bits_cons : bits (byte :: bytes) = byteBits byte ++ bits bytes := List.flatMap_cons

@[simp] theorem bits_append : bits (bytes ++ bytes') = bits bytes ++ bits bytes' := List.flatMap_append

@[simp] theorem length_bits : (bits bytes).length = 8 * bytes.length := by
  induction bytes with
  | nil => rfl
  | cons byte bytes ih =>
      rw [bits_cons, List.length_append, ih, length_byteBits, List.length_cons]
      omega

theorem bits_inj (hlength : bytes.length = bytes'.length) (h : bits bytes = bits bytes') : bytes = bytes' := by
  induction bytes generalizing bytes' with
  | nil => exact (List.eq_nil_of_length_eq_zero hlength.symm).symm
  | cons byte bytes ih =>
      cases bytes' with
      | nil => cases hlength
      | cons byte' bytes' =>
          rw [bits_cons, bits_cons] at h
          obtain ⟨hbyte, hrest⟩ := List.append_inj h rfl
          rw [byteBits_inj hbyte, ih (Nat.succ.inj hlength) hrest]

end BigEndian
