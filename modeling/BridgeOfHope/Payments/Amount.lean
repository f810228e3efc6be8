import BridgeOfHope.Payments.Lemmas
import BridgeOfHope.Payments.Phone
import BridgeOfHope.Service

namespace BridgeOfHope

open Process

-- What the rounding of an amount to whole shillings does to it.

theorem roundHalfEven_mul {n den : ℕ} (hden : 0 < den) : roundHalfEven (n * den) den = n := by
  have hquotient : n * den / den = n := Nat.mul_div_cancel n hden
  have hrest : n * den % den = 0 := Nat.mul_mod_left n den
  simp [roundHalfEven, hquotient, hrest, hden]

theorem roundHalfEven_le (n den : ℕ) : roundHalfEven n den ≤ n + 1 := by
  have hquotient : n / den ≤ n := Nat.div_le_self n den
  unfold roundHalfEven
  simp only
  split
  · omega
  split
  · omega
  split <;> omega

-- A quotient below 2 ^ 52 is scaled up to its significand and never down.
theorem trueDiv_of_small (num den : ℕ) (hnum : 0 < num) (hsmall : num.log2 < den.log2 + 52) :
    ∃ scale, den * 2 ^ 52 ≤ num * 2 ^ scale ∧
      trueDiv num den = if 1024 ≤ (roundHalfEven (num * 2 ^ scale) den / 2 ^ scale).log2 then
        .error ⟨.overflowError, "integer division result too large for a float"⟩
        else .ok (roundHalfEven (num * 2 ^ scale) den, 2 ^ scale) := by
  have hguess : (num.log2 : Int) - den.log2 - 52 < 0 := by omega
  have hwide : (den.log2 + 52) - num.log2 = (-((num.log2 : Int) - den.log2 - 52)).toNat := by omega
  have hnormal (scale : ℕ) (hscale : den.log2 + 53 ≤ num.log2 + scale) : den * 2 ^ 52 ≤ num * 2 ^ scale := by
    have hden : den < 2 ^ (den.log2 + 1) := Nat.lt_log2_self
    have hnum' : 2 ^ num.log2 ≤ num := Nat.log2_self_le (by omega)
    calc den * 2 ^ 52 ≤ 2 ^ (den.log2 + 1) * 2 ^ 52 := Nat.mul_le_mul_right _ (Nat.le_of_lt hden)
      _ = 2 ^ (den.log2 + 53) := by rw [← Nat.pow_add]
      _ ≤ 2 ^ (num.log2 + scale) := Nat.pow_le_pow_right Nat.two_pos hscale
      _ = 2 ^ num.log2 * 2 ^ scale := Nat.pow_add _ _ _
      _ ≤ num * 2 ^ scale := Nat.mul_le_mul_right _ hnum'
  unfold trueDiv
  generalize (num.log2 : Int) - den.log2 - 52 = guess at hguess hwide
  have hzero : guess.toNat = 0 := by omega
  simp only [hzero, pow_zero, mul_one]
  split
  · next hlow =>
      have hzero' : (guess - 1).toNat = 0 := by omega
      rw [hzero', pow_zero, mul_one, mul_one]
      exact ⟨_, hnormal _ (by omega), rfl⟩
  · next hhigh =>
      rw [hzero, pow_zero, mul_one, mul_one]
      exact ⟨_, Nat.le_of_not_lt hhigh, rfl⟩

theorem trueDiv_mul (n den : ℕ) (hpos : 0 < n) (hden : 0 < den) (hsmall : (n * den).log2 < den.log2 + 52)
    (hn : n.log2 < 1024) :
    ∃ double, trueDiv (n * den) den = .ok double ∧ roundHalfEven double.1 double.2 = n := by
  obtain ⟨scale, -, hdiv⟩ := trueDiv_of_small (n * den) den (Nat.mul_pos hpos hden) hsmall
  have hround : roundHalfEven (n * den * 2 ^ scale) den = n * 2 ^ scale := by
    rw [Nat.mul_right_comm]
    exact roundHalfEven_mul hden
  have hquotient : n * 2 ^ scale / 2 ^ scale = n := Nat.mul_div_cancel n (Nat.two_pow_pos scale)
  rw [hround, hquotient, if_neg (by omega)] at hdiv
  exact ⟨_, hdiv, roundHalfEven_mul (Nat.two_pow_pos scale)⟩

theorem log2_lt_of_lt {n k : ℕ} (hk : 0 < k) (h : n < 2 ^ k) : n.log2 < k := by
  by_cases hzero : n = 0
  · rw [hzero]
    exact hk
  · exact (Nat.log2_lt hzero).mpr h

-- No amount that fits 32 bits is too large for a double.
theorem trueDiv_of_int32 (num : ℕ) (hpos : 0 < num) (hnum : num < 2 ^ 31) :
    ∃ double, trueDiv num 100 = .ok double := by
  have hlog : num.log2 < 31 := log2_lt_of_lt (by decide) hnum
  have hden : Nat.log2 100 = 6 := by decide
  obtain ⟨scale, -, hdiv⟩ := trueDiv_of_small num 100 hpos (by omega)
  have hround : roundHalfEven (num * 2 ^ scale) 100 / 2 ^ scale ≤ num + 1 := by
    apply Nat.div_le_of_le_mul
    have := roundHalfEven_le (num * 2 ^ scale) 100
    have := Nat.two_pow_pos scale
    rw [Nat.mul_add, Nat.mul_comm num, Nat.mul_one] at *
    omega
  have hsmall : (roundHalfEven (num * 2 ^ scale) 100 / 2 ^ scale).log2 < 32 :=
    log2_lt_of_lt (by decide) (by omega)
  rw [if_neg (by omega)] at hdiv
  exact ⟨_, hdiv⟩

namespace Payments.MpesaProvider

theorem wholeShillings_mul {shillings : ℕ} (hpos : 0 < shillings) (hbound : shillings * 100 < 2 ^ 31) :
    wholeShillings (shillings * 100 : ℕ) = .ok shillings := by
  have hlog : (shillings * 100).log2 < 31 := log2_lt_of_lt (by decide) hbound
  have hlog' : shillings.log2 < 31 := log2_lt_of_lt (by decide) (by omega)
  have hden : Nat.log2 100 = 6 := by decide
  obtain ⟨double, hdiv, hround⟩ := trueDiv_mul shillings 100 hpos (by decide) (by omega) (by omega)
  have hsign : ((shillings * 100 : ℕ) : Int).sign = 1 := Int.sign_eq_one_of_pos (by omega)
  unfold wholeShillings
  rw [Int.natAbs_natCast, hdiv, hsign]
  show Except.ok (1 * (roundHalfEven double.1 double.2 : Int)) = _
  rw [hround, one_mul]

theorem wholeShillings_of_int32 {amountMinor : Int} (hpos : 0 < amountMinor) (hbound : amountMinor < 2 ^ 31) :
    ∃ shillings, wholeShillings amountMinor = .ok shillings := by
  obtain ⟨double, hdiv⟩ := trueDiv_of_int32 amountMinor.natAbs (by omega) (by omega)
  unfold wholeShillings
  rw [hdiv]
  exact ⟨_, rfl⟩

end Payments.MpesaProvider

-- The requests that ask a phone for money.
def Event.push : Event → Option HttpRequest
  | ⟨.http request, _⟩ => if request.path = "/mpesa/stkpush/v1/processrequest" then some request else none
  | _ => none

def Session.pushes (s : Session) : List HttpRequest := s.past.filterMap Event.push

-- Either nobody is asked, and the call raises, or one phone is asked for all of the amount.
def Charged (amountMinor : Int) (s : Session) (result : Except Exn Payments.OneOffResult) : Prop :=
  (s.pushes = [] ∧ ∃ error, result = .error error) ∨
    ∃ request shillings, s.pushes = [request] ∧ request.body.item "Amount" = .ok (.int shillings) ∧
      0 < shillings ∧ 100 * shillings = amountMinor

namespace Payments.MpesaProvider

variable {s : Settings} {host raw phone : String} {gift : Gift} {session : Session}

theorem only_getToken_quiet : (getToken s host).Only fun op => ∀ answer, Event.push ⟨op, answer⟩ = none := by
  have hquiet : ∀ answer, Event.push
      ⟨.http ⟨host, "/oauth/v1/generate", .basic s.mpesaConsumerKey s.mpesaConsumerSecret,
      .obj [("grant_type", .str "client_credentials")]⟩, answer⟩ = none := by simp [Event.push]
  refine .bind (.perform hquiet) fun reply => .bind .ofExcept fun data => ?_
  exact .bind .ofExcept fun token => .bind .ofExcept fun _ => trivial

-- What is left of the call once the phone is accepted.

def pushRequest (s : Settings) (host phone : String) (time : Time) (token : Json)
    (shillings : Int) : HttpRequest :=
  ⟨host, "/mpesa/stkpush/v1/processrequest", .bearer token,
    .obj [("BusinessShortCode", .str s.mpesaShortcode),
      ("Password", .str (stkPassword s (Time.compact (time + eatOffset)))),
      ("Timestamp", .str (Time.compact (time + eatOffset))), ("TransactionType", .str "CustomerPayBillOnline"),
      ("Amount", .int shillings), ("PartyA", .str phone), ("PartyB", .str s.mpesaShortcode),
      ("PhoneNumber", .str phone), ("CallBackURL", .str s.mpesaCallbackUrl),
      ("AccountReference", .str "BridgeOfHope"), ("TransactionDesc", .str "Donation")]⟩

def acknowledge (reply : Except Exn Json) : Act OneOffResult := do
  let data ← Prog.ofExcept reply
  let requestId ← Prog.ofExcept (data.item "CheckoutRequestID")
  return { providerPaymentId := requestId, mpesaRequestId := requestId }

theorem createOneOff_eq (hkes : gift.currency = "KES") (hraw : gift.donor.phone = some raw)
    (hphone : normalizePhone raw = .ok phone) : createOneOff s host gift = (do
      let time ← now
      let token ← getToken s host
      let shillings ← Prog.ofExcept (wholeShillings gift.amountMinor)
      let reply ← perform (.http (pushRequest s host phone time token shillings))
      acknowledge reply : Act OneOffResult) := by
  have hgiven : raw ≠ "" := by
    rintro rfl
    obtain ⟨kept, hrecognised, -⟩ := recognised_of_ok hphone
    have hkept : kept = [] := List.subset_nil.mp hrecognised.subset
    exact absurd hrecognised.length (by simp [hkept])
  unfold createOneOff
  simp only [hkes, hraw, Option.getD_some, ne_eq, not_true_eq_false, if_false, hgiven, hphone]
  rfl

def readToken (reply : Except Exn Json) : Act Json := do
  let data ← Prog.ofExcept reply
  let token ← Prog.ofExcept (data.item "access_token")
  Prog.ofExcept (expiresIn data)
  return token

theorem getToken_eq : getToken s host = perform (.http ⟨host, "/oauth/v1/generate",
    .basic s.mpesaConsumerKey s.mpesaConsumerSecret,
      .obj [("grant_type", .str "client_credentials")]⟩) >>= readToken :=
  rfl

theorem readToken_granted : readToken (.ok (.obj [("access_token", .null)])) = .ret .null := by
  have hitem : (Json.obj [("access_token", .null)]).item "access_token" =
      .ok .null := by simp [Json.item, Json.lookup]
  have hexpires : expiresIn (.obj [("access_token", .null)]) =
      .ok () := by simp [expiresIn, Json.get, Json.lookup, bind, Except.bind]
  simp [readToken, hitem, hexpires, Prog.ofExcept, Prog.bind]

theorem only_acknowledge_quiet {reply : Except Exn Json} :
    (acknowledge reply).Only fun op => ∀ answer, Event.push ⟨op, answer⟩ = none :=
  .bind .ofExcept fun _ => .bind .ofExcept fun _ => trivial

theorem pushes_update {op : Op} (h : ∀ answer, Event.push ⟨op, answer⟩ = none) (answer : Ans op) :
    (session.update op answer).pushes = session.pushes := by
  simp [Session.pushes, Session.update, h answer]

theorem pushes_pushRequest {time : Time} {token : Json} {shillings : Int} {answer : Except Exn Json} :
    (session.update (.http (pushRequest s host phone time token shillings)) answer).pushes =
      pushRequest s host phone time token shillings :: session.pushes := by
  simp [Session.pushes, Session.update, Event.push, pushRequest]

theorem amount_pushRequest {time : Time} {token : Json} {shillings : Int} :
    (pushRequest s host phone time token shillings).body.item "Amount" = .ok (.int shillings) := by
  simp [pushRequest, Json.item, Json.lookup]

variable [Platform]

theorem obeys_quiet {α : Type} {program : Act α} {after : Session → Except Exn α → Prop}
    (hquiet : program.Only fun op => ∀ answer, Event.push ⟨op, answer⟩ = none)
    (hafter : ∀ session' result, session'.pushes = session.pushes → after session' result) :
    program.Obeys client (fun _ _ => True) after session :=
  hquiet.obeys (fun session' => session'.pushes = session.pushes)
    (fun _ _ answer hsame hop => (pushes_update hop answer).trans hsame) (fun _ _ _ _ => trivial)
    hafter rfl

theorem charged_of_shillings (hkes : gift.currency = "KES") (hraw : gift.donor.phone = some raw)
    (hphone : normalizePhone raw = .ok phone) {shillings : ℕ} (hpos : 0 < shillings)
    (hbound : shillings * 100 < 2 ^ 31) (hamount : gift.amountMinor = (shillings * 100 : ℕ)) :
    (createOneOff s host gift).Obeys client (fun _ _ => True) (Charged gift.amountMinor) {} := by
  rw [createOneOff_eq hkes hraw hphone, hamount]
  refine obeys_seq ⟨trivial, fun time _ => obeys_seq (obeys_quiet only_getToken_quiet ?_)⟩
  intro session₁ result hsession₁
  have hnone : session₁.pushes = [] := hsession₁
  cases result with
  | error error => exact .inl ⟨hnone, error, rfl⟩
  | ok token =>
      refine obeys_seq (obeys_ofExcept ?_)
      rw [wholeShillings_mul hpos hbound]
      refine obeys_seq ⟨trivial, fun reply _ => ?_⟩
      show (acknowledge reply).Obeys _ _ _ _
      refine obeys_quiet only_acknowledge_quiet fun session₂ result hsession₂ => ?_
      rw [pushes_pushRequest, hnone] at hsession₂
      exact .inr ⟨_, shillings, hsession₂, amount_pushRequest, by omega, by omega⟩

-- A path on which everything is answered well, up to the request for the money.
theorem shillings_of_obeys (hkes : gift.currency = "KES") (hraw : gift.donor.phone = some raw)
    (hphone : normalizePhone raw = .ok phone) {shillings : Int}
    (hshillings : wholeShillings gift.amountMinor = .ok shillings)
    (h : (createOneOff s host gift).Obeys client (fun _ _ => True) (Charged gift.amountMinor) {}) :
    0 < shillings ∧ 100 * shillings = gift.amountMinor := by
  rw [createOneOff_eq hkes hraw hphone, getToken_eq] at h
  have htoken := (Prog.obeys_bind.mp h).2 (0 : Time) trivial
  have hpushed := (Prog.obeys_bind.mp (Prog.obeys_bind.mp htoken)).2
    (.ok (.obj [("access_token", .null)])) trivial
  simp only [Prog.obeys_ret, Prog.Then, readToken_granted, hshillings] at hpushed
  have hrefused := hpushed.2 (.ok .null) trivial
  have hcharged : Charged gift.amountMinor _ _ := hrefused
  rcases hcharged with ⟨hnone, -⟩ | ⟨request, charged, hpushes, hamount, hpos, hexact⟩
  · rw [pushes_pushRequest] at hnone
    cases hnone
  · rw [pushes_pushRequest] at hpushes
    rw [← (List.cons.inj hpushes).1, amount_pushRequest] at hamount
    cases hamount
    exact ⟨hpos, hexact⟩

theorem charges_pledged (hkes : gift.currency = "KES") (hraw : gift.donor.phone = some raw)
    (hphone : normalizePhone raw = .ok phone) (hpos : 0 < gift.amountMinor)
    (hbound : gift.amountMinor < 2 ^ 31) :
    (∀ session result, (createOneOff s host gift).Exec client {} session result →
      Charged gift.amountMinor session result) ↔ 100 ∣ gift.amountMinor := by
  constructor
  · intro hall
    obtain ⟨shillings, hshillings⟩ := wholeShillings_of_int32 hpos hbound
    obtain ⟨-, hexact⟩ := shillings_of_obeys hkes hraw hphone hshillings (Prog.obeys_of_exec hall)
    exact ⟨shillings, hexact.symm⟩
  · rintro ⟨shillings, hamount⟩ session result hexec
    have hshillings : shillings = (shillings.toNat : Int) := by omega
    have hobeys := @charged_of_shillings s host raw phone gift _ hkes hraw hphone shillings.toNat
      (by omega) (by omega) (by omega)
    exact hobeys.exec hexec

end Payments.MpesaProvider

open Payments MpesaProvider Trial

def shillingGift (amountMinor : Int) : Gift where
  amountMinor := amountMinor
  currency := "KES"
  coverFees := false
  donor := {
    email := "amina@example.org", firstName := "Amina", lastName := "Otieno", countryCode := "KE",
    phone := some "0712 345 678" }
  consent := false

theorem shillingGift_phone : normalizePhone "0712 345 678" = .ok "254712345678" := by decide +kernel

theorem charges_pledged_whole :
    (∀ session result, (createOneOff settings.settings "https://sandbox.safaricom.co.ke"
    (shillingGift 2500)).Exec client {} session result → Charged 2500 session result) ↔ 100 ∣ (2500 : Int) :=
  @charges_pledged _ _ _ _ (shillingGift 2500) _ rfl rfl shillingGift_phone (by decide) (by decide)

-- Two and a half shillings become two, and less than half a shilling becomes none.
theorem cents_lost : wholeShillings 250 = .ok 2 ∧ wholeShillings 49 = .ok 0 ∧
    ∀ amountMinor ∈ [250, 49], ¬ ∀ session result,
      (createOneOff settings.settings "https://sandbox.safaricom.co.ke"
        (shillingGift amountMinor)).Exec client {}
        session result → Charged amountMinor session result := by
  have htwo : wholeShillings 250 = .ok 2 := by decide +kernel
  have hzero : wholeShillings 49 = .ok 0 := by decide +kernel
  have hinexact {amountMinor shillings : Int} (hshillings : wholeShillings amountMinor = .ok shillings)
      (hne : 100 * shillings ≠ amountMinor) : ¬ ∀ session result, (createOneOff settings.settings
        "https://sandbox.safaricom.co.ke" (shillingGift amountMinor)).Exec client {} session result →
        Charged amountMinor session result := by
    intro hall
    have hcharged := @shillings_of_obeys _ _ _ _ (shillingGift amountMinor) _ rfl rfl shillingGift_phone _
      hshillings (Prog.obeys_of_exec hall)
    exact hne hcharged.2
  refine ⟨htwo, hzero, fun amountMinor hmem => ?_⟩
  rcases List.mem_cons.mp hmem with rfl | hmem
  · exact hinexact htwo (by decide)
  · rw [List.mem_singleton.mp hmem]
    exact hinexact hzero (by decide)

end BridgeOfHope
