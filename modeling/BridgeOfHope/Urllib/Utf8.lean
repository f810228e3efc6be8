import Mathlib.Data.List.Basic
import Mathlib.Data.Nat.Notation

namespace Urllib

-- `text.encode("utf-8")`
def encode (text : List Char) : List UInt8 := text.flatMap String.utf8EncodeChar

-- What stands for a byte that is no part of a character.
def replacement : Char := Char.ofNat 0xFFFD

-- A character that is read in part: how many bytes are missing, between which
-- bounds the next one lies, and what the bytes read so far make.
structure Partial where
  missing : ℕ
  low : ℕ
  high : ℕ
  code : ℕ

-- Surrogates and overlong forms are kept out by the bounds of the second byte.
def lead (byte : ℕ) : List Char × Option Partial :=
  if byte < 0x80 then ([Char.ofNat byte], none)
  else if 0xC2 ≤ byte ∧ byte ≤ 0xDF then ([], some ⟨1, 0x80, 0xBF, byte - 0xC0⟩)
  else if byte = 0xE0 then ([], some ⟨2, 0xA0, 0xBF, 0⟩)
  else if byte = 0xED then ([], some ⟨2, 0x80, 0x9F, 0xD⟩)
  else if 0xE1 ≤ byte ∧ byte ≤ 0xEF then ([], some ⟨2, 0x80, 0xBF, byte - 0xE0⟩)
  else if byte = 0xF0 then ([], some ⟨3, 0x90, 0xBF, 0⟩)
  else if byte = 0xF4 then ([], some ⟨3, 0x80, 0x8F, 4⟩)
  else if 0xF1 ≤ byte ∧ byte ≤ 0xF3 then ([], some ⟨3, 0x80, 0xBF, byte - 0xF0⟩)
  else ([replacement], none)

-- A byte out of bounds ends the character before it, and starts the next one.
def feed (state : Option Partial) (byte : ℕ) : List Char × Option Partial :=
  match state with
  | none => lead byte
  | some part =>
      if part.low ≤ byte ∧ byte ≤ part.high then
        let code := 64 * part.code + (byte - 0x80)
        if part.missing = 1 then ([Char.ofNat code], none) else ([], some ⟨part.missing - 1, 0x80, 0xBF, code⟩)
      else (replacement :: (lead byte).1, (lead byte).2)

def decodeFrom : Option Partial → List UInt8 → List Char
  | none, [] => []
  | some _, [] => [replacement]
  | state, byte :: bytes => (feed state byte.toNat).1 ++ decodeFrom (feed state byte.toNat).2 bytes

-- `bytes.decode("utf-8", "replace")`
def decode (bytes : List UInt8) : List Char := decodeFrom none bytes

variable {state : Option Partial} {part : Partial} {byte : ℕ} {bytes : List UInt8}

@[simp] theorem decodeFrom_cons (byte : UInt8) (bytes : List UInt8) : decodeFrom state (byte :: bytes) =
    (feed state byte.toNat).1 ++ decodeFrom (feed state byte.toNat).2 bytes := by
  cases state <;> rfl

theorem feed_last (hlow : part.low ≤ byte) (hhigh : byte ≤ part.high) (hmissing : part.missing = 1) :
    feed (some part) byte = ([Char.ofNat (64 * part.code + (byte - 0x80))], none) := by
  simp [feed, hlow, hhigh, hmissing]

theorem feed_more (hlow : part.low ≤ byte) (hhigh : byte ≤ part.high) (hmissing : part.missing ≠ 1) :
    feed (some part) byte = ([], some ⟨part.missing - 1, 0x80, 0xBF, 64 * part.code + (byte - 0x80)⟩) := by
  simp [feed, hlow, hhigh, hmissing]

section Lead

variable {n : ℕ}

theorem lead_two (hlow : 0x80 ≤ n) (hhigh : n ≤ 0x7FF) :
    lead (n / 64 % 32 + 0xC0) = ([], some ⟨1, 0x80, 0xBF, n / 64⟩) := by
  have hcode : n / 64 % 32 + 0xC0 - 0xC0 = n / 64 := by omega
  unfold lead
  rw [if_neg (by omega), if_pos (by omega), hcode]

-- The bounds that the first byte sets hold of the second byte.
theorem lead_three (hlow : 0x800 ≤ n) (hhigh : n ≤ 0xFFFF) (hscalar : n < 0xD800 ∨ 0xDFFF < n) :
    ∃ low high, lead (n / 4096 % 16 + 0xE0) = ([], some ⟨2, low, high, n / 4096⟩) ∧
      low ≤ n / 64 % 64 + 0x80 ∧ n / 64 % 64 + 0x80 ≤ high := by
  unfold lead
  rw [if_neg (by omega), if_neg (by omega)]
  by_cases hfirst : n / 4096 = 0
  · rw [if_pos (by omega), hfirst]
    exact ⟨_, _, rfl, by omega, by omega⟩
  rw [if_neg (by omega)]
  by_cases hsurrogate : n / 4096 = 0xD
  · rw [if_pos (by omega), hsurrogate]
    exact ⟨_, _, rfl, by omega, by omega⟩
  have hcode : n / 4096 % 16 + 0xE0 - 0xE0 = n / 4096 := by omega
  rw [if_neg (by omega), if_pos (by omega), hcode]
  exact ⟨_, _, rfl, by omega, by omega⟩

theorem lead_four (hlow : 0x10000 ≤ n) (hhigh : n < 0x110000) :
    ∃ low high, lead (n / 262144 % 8 + 0xF0) = ([], some ⟨3, low, high, n / 262144⟩) ∧
      low ≤ n / 4096 % 64 + 0x80 ∧ n / 4096 % 64 + 0x80 ≤ high := by
  unfold lead
  rw [if_neg (by omega), if_neg (by omega), if_neg (by omega), if_neg (by omega), if_neg (by omega)]
  by_cases hfirst : n / 262144 = 0
  · rw [if_pos (by omega), hfirst]
    exact ⟨_, _, rfl, by omega, by omega⟩
  rw [if_neg (by omega)]
  by_cases hlast : n / 262144 = 4
  · rw [if_pos (by omega), hlast]
    exact ⟨_, _, rfl, by omega, by omega⟩
  have hcode : n / 262144 % 8 + 0xF0 - 0xF0 = n / 262144 := by omega
  rw [if_neg (by omega), if_pos (by omega), hcode]
  exact ⟨_, _, rfl, by omega, by omega⟩

end Lead

theorem toNat_byte {n : ℕ} (h : n < 256) : (UInt8.ofNat n).toNat = n := by
  rw [UInt8.toNat_ofNat', Nat.mod_eq_of_lt h]

-- The bytes of a character are read as that character.
theorem decodeFrom_char (c : Char) (bytes : List UInt8) :
    decodeFrom none (String.utf8EncodeChar c ++ bytes) = c :: decodeFrom none bytes := by
  have hvalid : c.val.toNat < 0xD800 ∨ 0xDFFF < c.val.toNat ∧ c.val.toNat < 0x110000 := c.valid
  have hchar : Char.ofNat c.val.toNat = c := Char.ofNat_toNat c
  unfold String.utf8EncodeChar
  simp only
  generalize c.val.toNat = n at hvalid hchar
  split
  · next hone =>
      have hlead : lead n = ([c], none) := by rw [lead, if_pos (by omega), hchar]
      rw [List.cons_append, decodeFrom_cons, toNat_byte (by omega), feed, hlead]
      rfl
  split
  · next hone htwo =>
      have hcode : 64 * (n / 64) + (n % 64 + 0x80 - 0x80) = n := by omega
      simp only [List.cons_append, decodeFrom_cons, List.nil_append]
      rw [toNat_byte (by omega), toNat_byte (by omega), feed, lead_two (by omega) htwo,
        feed_last (by simp) (by simp; omega) rfl, hcode, hchar]
      rfl
  split
  · next hone htwo hthree =>
      have hcode : 64 * (64 * (n / 4096) + (n / 64 % 64 + 0x80 - 0x80)) + (n % 64 + 0x80 - 0x80) = n := by omega
      obtain ⟨low, high, hlead, hlow, hhigh⟩ := @lead_three n (by omega) hthree (by omega)
      simp only [List.cons_append, decodeFrom_cons, List.nil_append]
      rw [toNat_byte (by omega), toNat_byte (by omega), toNat_byte (by omega), feed, hlead,
        feed_more hlow hhigh (by simp),
        feed_last (by simp) (by simp; omega) rfl, hcode, hchar]
      rfl
  · next hone htwo hthree =>
      have hcode :
          64 * (64 * (64 * (n / 262144) + (n / 4096 % 64 + 0x80 - 0x80)) + (n / 64 % 64 + 0x80 - 0x80)) +
          (n % 64 + 0x80 - 0x80) = n := by omega
      obtain ⟨low, high, hlead, hlow, hhigh⟩ := @lead_four n (by omega) (by omega)
      simp only [List.cons_append, decodeFrom_cons, List.nil_append]
      rw [toNat_byte (by omega), toNat_byte (by omega), toNat_byte (by omega),
        toNat_byte (by omega), feed, hlead,
        feed_more hlow hhigh (by simp), feed_more (by simp) (by simp; omega) (by simp),
        feed_last (by simp) (by simp; omega) rfl, hcode, hchar]
      rfl

theorem decode_encode (text : List Char) : decode (encode text) = text := by
  induction text with
  | nil => rfl
  | cons c text ih =>
      unfold decode encode
      rw [List.flatMap_cons, decodeFrom_char]
      exact congrArg (c :: ·) ih

-- No text is lost as a whole, whatever the bytes are.

theorem decodeFrom_ne_nil : decodeFrom (some part) bytes ≠ [] := by
  induction bytes generalizing part with
  | nil => exact List.cons_ne_nil _ _
  | cons byte bytes ih =>
      rw [decodeFrom_cons, feed]
      split
      · split
        · exact List.cons_ne_nil _ _
        · exact ih
      · exact List.cons_ne_nil _ _

theorem lead_cases : (lead byte).1 ≠ [] ∨ ∃ part, (lead byte).2 = some part := by
  unfold lead
  repeat' split
  all_goals first | exact .inl (List.cons_ne_nil _ _) | exact .inr ⟨_, rfl⟩

theorem decode_ne_nil (h : bytes ≠ []) : decode bytes ≠ [] := by
  cases bytes with
  | nil => exact absurd rfl h
  | cons byte bytes =>
      unfold decode
      rw [decodeFrom_cons, feed]
      rcases @lead_cases byte.toNat with hout | ⟨part, hpart⟩
      · exact List.append_ne_nil_of_left_ne_nil hout _
      · rw [hpart]
        exact List.append_ne_nil_of_right_ne_nil _ decodeFrom_ne_nil

end Urllib
