import Mathlib.Data.Nat.Notation

namespace Base64

def alphabet : List Char :=
  "ABCDEFGHIJKLMNOPQRSTUVWXYZabcdefghijklmnopqrstuvwxyz0123456789+/".toList

def digit (n : ℕ) : Char := alphabet.getD (n % 64) '='

def value (c : Char) : Option ℕ := if c ∈ alphabet then some (alphabet.idxOf c) else none

-- The number that some digits spell.
def number (digits : List Char) : Option ℕ :=
  digits.foldlM (fun n c => (value c).map fun k => 64 * n + k) 0

-- Twenty-four bits, as four digits and as three bytes.

def digits (n : ℕ) : List Char := [digit (n / 262144), digit (n / 4096), digit (n / 64), digit n]

def bytes (n : ℕ) : List UInt8 := [.ofNat (n / 65536), .ofNat (n / 256), .ofNat n]

def word (a b c : UInt8) : ℕ := 65536 * a.toNat + 256 * b.toNat + c.toNat

def encode : List UInt8 → List Char
  | [] => []
  | [a] => (digits (word a 0 0)).take 2 ++ ['=', '=']
  | [a, b] => (digits (word a b 0)).take 3 ++ ['=']
  | a :: b :: c :: rest => digits (word a b c) ++ encode rest

-- Only the last four places may hold the padding.
def decode : List Char → Option (List UInt8)
  | [] => some []
  | w :: x :: y :: z :: rest =>
      if z ≠ '=' then do
        let n ← number [w, x, y, z]
        let others ← decode rest
        return bytes n ++ others
      else if rest ≠ [] then none
      else if y ≠ '=' then (number [w, x, y, 'A']).map fun n => (bytes n).take 2
      else (number [w, x, 'A', 'A']).map fun n => (bytes n).take 1
  | _ => none

theorem value_digit (n : ℕ) : value (digit n) = some (n % 64) := by
  have hall : ∀ k < 64, value (alphabet.getD k '=') = some k := by decide +kernel
  exact hall (n % 64) (Nat.mod_lt n (by decide))

theorem digit_ne_pad (n : ℕ) : digit n ≠ '=' := by
  have hall : ∀ k < 64, alphabet.getD k '=' ≠ '=' := by decide +kernel
  exact hall (n % 64) (Nat.mod_lt n (by decide))

theorem number_digits {n : ℕ} (h : n < 16777216) : number (digits n) = some n := by
  simp only [number, digits, List.foldlM_cons, List.foldlM_nil, value_digit, Option.map_some,
    Option.bind_eq_bind, Option.bind_some, Option.pure_def, Option.some.injEq]
  omega

theorem word_lt (a b c : UInt8) : word a b c < 16777216 := by
  have := a.toNat_lt
  have := b.toNat_lt
  have := c.toNat_lt
  unfold word
  omega

theorem bytes_word (a b c : UInt8) : bytes (word a b c) = [a, b, c] := by
  have ha := a.toNat_lt
  have hb := b.toNat_lt
  have hc := c.toNat_lt
  have hhigh : word a b c / 65536 = a.toNat := by unfold word; omega
  have hmiddle : word a b c / 256 = 256 * a.toNat + b.toNat := by unfold word; omega
  have hlow : word a b c = 256 * (256 * a.toNat + b.toNat) + c.toNat := by unfold word; omega
  have hofNat (m : ℕ) (byte : UInt8) : UInt8.ofNat (256 * m + byte.toNat) = byte := by
    apply UInt8.toNat_inj.mp
    rw [UInt8.toNat_ofNat']
    have := byte.toNat_lt
    omega
  rw [bytes, hhigh, hmiddle, hofNat, hlow, hofNat]
  simp

-- The digit that stands for a part without bits.
theorem digit_of_part {n : ℕ} (h : n % 64 = 0) : digit n = 'A' := by
  rw [digit, h]
  rfl

theorem decode_encode (data : List UInt8) : decode (encode data) = some data := by
  induction data using encode.induct with
  | case1 => rfl
  | case2 a =>
      have hn := word_lt a 0 0
      have hpart : digit (word a 0 0 / 64) = 'A' ∧ digit (word a 0 0) = 'A' :=
        ⟨digit_of_part (by unfold word; simp; omega), digit_of_part (by unfold word; simp; omega)⟩
      have hnumber := number_digits hn
      rw [digits, hpart.1, hpart.2] at hnumber
      simp [encode, digits, decode, hnumber, bytes_word]
  | case3 a b =>
      have hn := word_lt a b 0
      have hpart : digit (word a b 0) = 'A' := digit_of_part (by unfold word; simp; omega)
      have hnumber := number_digits hn
      rw [digits, hpart] at hnumber
      simp [encode, digits, decode, digit_ne_pad, hnumber, bytes_word]
  | case4 a b c rest ih =>
      have hnumber := number_digits (word_lt a b c)
      rw [digits] at hnumber
      simp [encode, digits, decode, digit_ne_pad, hnumber, bytes_word, ih]

end Base64
