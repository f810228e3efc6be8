import BridgeOfHope.Donations.Answered
import Mathlib.Algebra.Order.Field.Rat
import Mathlib.Data.Rat.Cast.Order
import Mathlib.Tactic.FieldSimp
import Mathlib.Tactic.Linarith
import Mathlib.Tactic.NormNum
import Mathlib.Tactic.Positivity
import Mathlib.Tactic.Ring

namespace BridgeOfHope

open Process

-- An amount in cents is printed by way of a floating-point quotient. The print
-- is exact all the same.

-- How a decimal is read: the digits before the point, and those after it.
def decimalParts (text : String) : Option (List Char × List Char) :=
  let whole := text.toList.takeWhile Char.isDigit
  match text.toList.dropWhile Char.isDigit with
  | '.' :: places => if whole ≠ [] ∧ places.all Char.isDigit then some (whole, places) else none
  | _ => none

def readDecimal (text : String) : Option ℚ :=
  (decimalParts text).map fun parts =>
    Nat.ofDigitChars 10 parts.1 0 + Nat.ofDigitChars 10 parts.2 0 / 10 ^ parts.2.length

def readHundredths (text : String) : Option ℕ :=
  (decimalParts text).bind fun parts =>
    if parts.2.length = 2 then
      some (100 * Nat.ofDigitChars 10 parts.1 0 + Nat.ofDigitChars 10 parts.2 0)
    else none

-- The text prints `n` hundredths.
structure Prints (text : String) (n : ℕ) : Prop where
  shape : ∃ places, text.toList = Nat.toDigits 10 (n / 100) ++ '.' :: places ∧ places.length = 2 ∧
    ∀ c ∈ places, c.isDigit = true
  digits : ∀ c ∈ Nat.toDigits 10 (n / 100), c.isDigit = true
  leading : ∀ rest, Nat.toDigits 10 (n / 100) = '0' :: rest → rest = []
  value : readDecimal text = some (n / 100 : ℚ)
  hundredths : readHundredths text = some n

section Digits

variable {width n : ℕ}

theorem toList_pad : (pad width n).toList =
    List.replicate (width - (Nat.toDigits 10 n).length) '0' ++ Nat.toDigits 10 n := by
  simp [pad]

theorem length_pad (hwidth : 0 < width) (h : n < 10 ^ width) : (pad width n).toList.length = width := by
  have hlength : (Nat.toDigits 10 n).length ≤ width := (Nat.length_toDigits_le_iff (by decide) hwidth).mpr h
  rw [toList_pad, List.length_append, List.length_replicate]
  omega

theorem isDigit_pad : ∀ c ∈ (pad width n).toList, c.isDigit = true := by
  intro c hc
  rw [toList_pad] at hc
  rcases List.mem_append.mp hc with hzero | hdigit
  · rw [List.eq_of_mem_replicate hzero]
    rfl
  · exact Nat.isDigit_of_mem_toDigits (by decide) (by decide) hdigit

theorem ofDigitChars_pad : Nat.ofDigitChars 10 (pad width n).toList 0 = n := by
  rw [toList_pad, Nat.ofDigitChars_append, Nat.ofDigitChars_replicate_zero, Nat.mul_zero]
  exact Nat.ofDigitChars_ten_toDigits

-- Only zero starts with the digit zero.
theorem zero_of_toDigits {rest : List Char} (h : Nat.toDigits 10 n = '0' :: rest) : n = 0 := by
  induction n using Nat.strongRecOn generalizing rest with
  | ind n ih =>
      by_cases hn : n < 10
      · rw [Nat.toDigits_of_lt_base hn] at h
        have hvalue := congrArg (fun list => Nat.ofDigitChars 10 list 0) h
        have hrest : rest = [] := (List.cons.inj h).2.symm
        simpa [hrest, Nat.ofDigitChars_cons_digitChar_of_lt_ten hn, Nat.ofDigitChars_cons] using hvalue
      · rw [Nat.toDigits_of_base_le (by decide) (by omega)] at h
        cases hhigh : Nat.toDigits 10 (n / 10) with
        | nil => exact absurd hhigh Nat.toDigits_ne_nil
        | cons first others =>
            rw [hhigh] at h
            have hfirst : first = '0' := (List.cons.inj h).1
            rw [hfirst] at hhigh
            have := ih (n / 10) (by omega) hhigh
            omega

end Digits

theorem decimalParts_of_shape {text : String} {whole places : List Char}
    (h : text.toList = whole ++ '.' :: places)
    (hwhole : ∀ c ∈ whole, c.isDigit = true) (hne : whole ≠ []) (hplaces : ∀ c ∈ places, c.isDigit = true) :
    decimalParts text = some (whole, places) := by
  have hpoint : ¬ Char.isDigit '.' = true := by decide
  have htake : text.toList.takeWhile Char.isDigit = whole := by
    rw [h, List.takeWhile_append_of_pos hwhole, List.takeWhile_cons_of_neg hpoint, List.append_nil]
  have hdrop : text.toList.dropWhile Char.isDigit = '.' :: places := by
    rw [h, List.dropWhile_append_of_pos hwhole, List.dropWhile_cons_of_neg hpoint]
  unfold decimalParts
  simp only [htake, hdrop]
  exact if_pos ⟨hne, List.all_eq_true.mpr hplaces⟩

theorem prints_hundredths (n : ℕ) : Prints (toString (n / 100) ++ "." ++ pad 2 (n % 100)) n := by
  have hwhole : ∀ c ∈ Nat.toDigits 10 (n / 100), c.isDigit = true :=
    fun c hc => Nat.isDigit_of_mem_toDigits (by decide) (by decide) hc
  have hshape : (toString (n / 100) ++ "." ++ pad 2 (n % 100)).toList =
      Nat.toDigits 10 (n / 100) ++ '.' :: (pad 2 (n % 100)).toList := by
    simp
  have hlength : (pad 2 (n % 100)).toList.length = 2 := length_pad (by decide) (Nat.mod_lt _ (by decide))
  have hparts := decimalParts_of_shape hshape hwhole Nat.toDigits_ne_nil isDigit_pad
  have hsum : 100 * (n / 100) + n % 100 = n := Nat.div_add_mod n 100
  refine ⟨⟨_, hshape, hlength, isDigit_pad⟩, hwhole, fun rest hrest => ?_, ?_, ?_⟩
  · rw [zero_of_toDigits hrest, Nat.toDigits_zero] at hrest
    exact (List.cons.inj hrest).2.symm
  · rw [readDecimal, hparts, Option.map_some, Nat.ofDigitChars_ten_toDigits, ofDigitChars_pad, hlength]
    have hcast : (n : ℚ) = 100 * (n / 100 : ℕ) + (n % 100 : ℕ) := by exact_mod_cast hsum.symm
    rw [hcast]
    congr 1
    ring
  · rw [readHundredths, hparts, Option.bind_some, if_pos hlength, Nat.ofDigitChars_ten_toDigits,
      ofDigitChars_pad, hsum]

section Rounding

variable {num den n : ℕ}

-- A fraction that is closer to `n` than one half is rounded to it.
theorem roundHalfEven_of_close (hlow : 2 * (n * den) < 2 * num + den) (hhigh : 2 * num < 2 * (n * den) + den) :
    roundHalfEven num den = n := by
  have hsum : den * (num / den) + num % den = num := Nat.div_add_mod num den
  have hrest : num % den < den := Nat.mod_lt _ (by omega)
  unfold roundHalfEven
  simp only
  generalize num / den = q at hsum
  generalize num % den = r at hsum hrest
  have hbelow : q ≤ n := by
    by_contra hgt
    have := Nat.mul_le_mul_left den (show n + 1 ≤ q by omega)
    rw [Nat.mul_add, Nat.mul_comm den n] at this
    omega
  have habove : n ≤ q + 1 := by
    by_contra hgt
    have := Nat.mul_le_mul_left den (show q + 2 ≤ n by omega)
    rw [Nat.mul_add, Nat.mul_comm den n] at this
    omega
  rcases Nat.eq_or_lt_of_le hbelow with rfl | hlt
  · rw [Nat.mul_comm q den] at hhigh
    rw [if_pos (by omega)]
  · have hn : n = q + 1 := by omega
    rw [hn, Nat.add_mul, Nat.mul_comm q den] at hlow
    rw [if_neg (by omega), if_pos (by omega), hn]

-- Rounding is off by one half at most.
theorem roundHalfEven_error (hden : 0 < den) : 2 * num ≤ 2 * (roundHalfEven num den * den) + den ∧
    2 * (roundHalfEven num den * den) ≤ 2 * num + den := by
  have hsum : den * (num / den) + num % den = num := Nat.div_add_mod num den
  have hrest : num % den < den := Nat.mod_lt _ hden
  unfold roundHalfEven
  simp only
  generalize num / den = q at hsum
  generalize num % den = r at hsum hrest
  have hmul : (q + 1) * den = den * q + den := by rw [Nat.add_mul, Nat.mul_comm, Nat.one_mul]
  have hmul' : q * den = den * q := Nat.mul_comm q den
  split
  · omega
  split
  · omega
  split <;> omega

theorem fixed2_of_close (hden : 0 < den) (hbound : n < 2 ^ 31)
    (hclose : |(num / den : ℚ) - n / 100| ≤ n / 100 * 2⁻¹ ^ 53) :
    fixed2 (num, den) = toString (n / 100) ++ "." ++ pad 2 (n % 100) := by
  have hden' : (0 : ℚ) < den := by exact_mod_cast hden
  have hbound' : (n : ℚ) < 2147483648 := by exact_mod_cast hbound
  have hsmall : (n / 100 : ℚ) * 2⁻¹ ^ 53 < 1 / 200 := by
    rw [show (2⁻¹ : ℚ) ^ 53 = 1 / 9007199254740992 by norm_num]
    linarith
  have hnum : (num / den : ℚ) * den = num := div_mul_cancel₀ _ hden'.ne'
  obtain ⟨hlow, hhigh⟩ := abs_le.mp hclose
  generalize (num / den : ℚ) = quotient at hlow hhigh hnum
  have hlow' : 2 * ((n : ℚ) * den) < 2 * (100 * num) + den := by
    have := mul_pos hden' (show 0 < 200 * quotient - 2 * n + 1 by linarith)
    linarith
  have hhigh' : 2 * (100 * (num : ℚ)) < 2 * (n * den) + den := by
    have := mul_pos hden' (show 0 < 2 * n + 1 - 200 * quotient by linarith)
    linarith
  have hround : roundHalfEven (100 * num) den = n :=
    roundHalfEven_of_close (by exact_mod_cast hlow') (by exact_mod_cast hhigh')
  unfold fixed2
  rw [hround]

-- The double is closer to the quotient than one part in 2 ^ 53.
theorem trueDiv_close (hnum : 0 < num) (hden : 0 < den) (hsmall : num.log2 < den.log2 + 52) {double : ℕ × ℕ}
    (hdiv : trueDiv num den = .ok double) :
    0 < double.2 ∧ |(double.1 / double.2 : ℚ) - num / den| ≤ num / den * 2⁻¹ ^ 53 := by
  obtain ⟨scale, hnormal, heq⟩ := trueDiv_of_small num den hnum hsmall
  rw [heq] at hdiv
  split at hdiv
  · cases hdiv
  cases hdiv
  refine ⟨Nat.two_pow_pos scale, ?_⟩
  obtain ⟨hbelow, habove⟩ := @roundHalfEven_error (num * 2 ^ scale) den hden
  generalize roundHalfEven (num * 2 ^ scale) den = significand at hbelow habove
  have hbelow' : 2 * ((num : ℚ) * 2 ^ scale) ≤ 2 * (significand * den) + den := by exact_mod_cast hbelow
  have habove' : 2 * ((significand : ℚ) * den) ≤ 2 * (num * 2 ^ scale) + den := by exact_mod_cast habove
  have hnormal' : (den : ℚ) * 2 ^ 52 ≤ num * 2 ^ scale := by exact_mod_cast hnormal
  have hden' : (0 : ℚ) < den := by exact_mod_cast hden
  have hscale : (0 : ℚ) < 2 ^ scale := by positivity
  have hdistance : (significand / (2 ^ scale : ℕ) : ℚ) - num / den =
      (significand * den - num * 2 ^ scale) / (2 ^ scale * den) := by
    push_cast
    field_simp
  have hulp : (num / den : ℚ) * 2⁻¹ ^ 53 = num * 2 ^ scale * 2⁻¹ ^ 53 / (2 ^ scale * den) := by field_simp
  rw [hdistance, abs_div, abs_of_pos (mul_pos hscale hden'), hulp]
  refine div_le_div_of_nonneg_right ?_ (mul_pos hscale hden').le
  have hhalf : (den : ℚ) / 2 ≤ num * 2 ^ scale * 2⁻¹ ^ 53 := by
    rw [show (2 : ℚ) ^ 52 = 4503599627370496 by norm_num] at hnormal'
    rw [show (2⁻¹ : ℚ) ^ 53 = 1 / 9007199254740992 by norm_num]
    linarith
  rw [abs_le]
  constructor <;> linarith

theorem decimalAmount_eq (hpos : 0 < n) (hbound : n < 2 ^ 31) :
    decimalAmount n = .ok (toString (n / 100) ++ "." ++ pad 2 (n % 100)) := by
  have hlog : n.log2 < 31 := log2_lt_of_lt (by decide) hbound
  have hden : Nat.log2 100 = 6 := by decide
  obtain ⟨double, hdiv⟩ := trueDiv_of_int32 n hpos hbound
  obtain ⟨hscale, hclose⟩ := trueDiv_close hpos (by decide) (by omega) hdiv
  have hfixed := fixed2_of_close hscale hbound (by exact_mod_cast hclose)
  have hsign : ¬ (n : Int) < 0 := by omega
  unfold decimalAmount
  rw [Int.natAbs_natCast, hdiv, if_neg hsign]
  show Except.ok ("" ++ fixed2 double) = _
  rw [String.empty_append, hfixed]

end Rounding

-- `f"{x:.2f}"` of a number that is not negative.
def fixed2Of (x : ℚ) : String := fixed2 (x.num.toNat, x.den)

theorem fixed2Of_close {n : ℕ} {x : ℚ} (hpos : 0 < n) (hbound : n < 2 ^ 31)
    (hclose : |x - n / 100| ≤ n / 100 * 2⁻¹ ^ 53) :
    fixed2Of x = toString (n / 100) ++ "." ++ pad 2 (n % 100) := by
  have hn : (0 : ℚ) < n := by exact_mod_cast hpos
  have hpositive : 0 < x := by
    obtain ⟨hlow, -⟩ := abs_le.mp hclose
    rw [show (2⁻¹ : ℚ) ^ 53 = 1 / 9007199254740992 by norm_num] at hlow
    linarith
  have hnum : (x.num.toNat : ℚ) = x.num := by exact_mod_cast Int.toNat_of_nonneg (Rat.num_pos.mpr hpositive).le
  have hx : (x.num.toNat : ℚ) / x.den = x := by
    rw [hnum]
    exact Rat.num_div_den x
  exact fixed2_of_close x.den_pos hbound (by rw [hx]; exact hclose)

-- The order that PayPal is asked to open is about this amount.
def OrdersAmount (value : String) : Op → Prop
  | .http request => request.path = "/v2/checkout/orders" → ∃ currency, request.body =
      .obj [("intent", .str "CAPTURE"), ("purchase_units", .arr [.obj [("amount",
        .obj [("currency_code", .str currency), ("value", .str value)])]])]
  | _ => True

theorem only_ordersAmount {s : Settings} {base value : String} {gift : Payments.Gift}
    (h : decimalAmount gift.amountMinor = .ok value) :
    (Payments.PayPalProvider.createOneOff s base gift).Only (OrdersAmount value) := by
  have htoken : (Payments.PayPalProvider.token s base).Only (OrdersAmount value) := by
    refine .bind (.perform fun hpath => ?_) fun reply => .bind .ofExcept fun data => .ofExcept
    have hne : ¬ ("/v1/oauth2/token" = "/v2/checkout/orders") := by decide
    exact absurd hpath hne
  have hquoted {rest : String → Act Payments.OneOffResult} (hrest : (rest value).Only (OrdersAmount value)) :
      (Prog.ofExcept (.ok value) >>= rest).Only (OrdersAmount value) := hrest
  refine htoken.bind fun token => ?_
  rw [h]
  refine hquoted (.bind (.perform fun _ => ⟨gift.currency, rfl⟩) fun reply => .bind .ofExcept fun order => ?_)
  exact .bind .ofExcept fun _ => .bind .ofExcept fun _ => trivial

theorem decimal_amount {n : ℕ} (hpos : 1 ≤ n) (hbound : n ≤ 2 ^ 31 - 1) :
    (∀ x : ℚ, |x - n / 100| ≤ n / 100 * 2⁻¹ ^ 53 → Prints (fixed2Of x) n) ∧
      ∃ text, Prints text n ∧ decimalAmount n = .ok text ∧
        (∀ currency, Donations.statedAmount currency n = .ok (currency ++ " " ++ text)) ∧
          ∀ s base (gift : Payments.Gift), gift.amountMinor = n →
            (Payments.PayPalProvider.createOneOff s base gift).Only (OrdersAmount text) := by
  have hbound' : n < 2 ^ 31 := by omega
  have htext := decimalAmount_eq hpos hbound'
  refine ⟨fun x hx => ?_, _, prints_hundredths n, htext, fun currency => ?_, fun s base gift hgift => ?_⟩
  · rw [fixed2Of_close hpos hbound' hx]
    exact prints_hundredths n
  · rw [Donations.statedAmount, htext]
    rfl
  · apply only_ordersAmount
    rw [hgift, htext]

theorem decimal_amount_2905 : (∀ x : ℚ, |x - (2905 : ℕ) / 100| ≤ (2905 : ℕ) / 100 * 2⁻¹ ^ 53 →
    Prints (fixed2Of x) 2905) ∧
    ∃ text, Prints text 2905 ∧ decimalAmount (2905 : ℕ) = .ok text ∧
      (∀ currency, Donations.statedAmount currency (2905 : ℕ) = .ok (currency ++ " " ++ text)) ∧
        ∀ s base (gift : Payments.Gift), gift.amountMinor = (2905 : ℕ) →
          (Payments.PayPalProvider.createOneOff s base gift).Only (OrdersAmount text) :=
  decimal_amount (by decide) (by decide)

example : decimalAmount 2905 = .ok "29.05" ∧ decimalAmount 7 = .ok "0.07" := by decide +kernel

end BridgeOfHope
