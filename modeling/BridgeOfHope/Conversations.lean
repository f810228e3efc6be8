import BridgeOfHope.Base64
import BridgeOfHope.Consistency
import BridgeOfHope.Donations.Giver
import BridgeOfHope.Payments.Decimal
import BridgeOfHope.Subscriptions.Lemmas

namespace BridgeOfHope

open Process Payments Donations
open Prog (Only)

-- What a request says to the rails, message by message.

def Op.asks : Op → Bool
  | .stripeCheckout _ | .stripeDelete _ | .http _ | .record _ => true
  | _ => false

-- The messages that ask a giver for money.
def Op.charges : Op → Bool
  | .stripeCheckout _ | .record (.testSubscribed ..) => true
  | .http request =>
      request.path = "/v2/checkout/orders" || request.path = "/mpesa/stkpush/v1/processrequest"
  | _ => false

-- The earliest message comes first.
def Session.talk (s : Session) : List Event := (s.past.filter fun event => event.op.asks).reverse

-- The login that came first has given the token that this message bears.
structure Admitted (user password : String) (earlier : List Event) (request : HttpRequest) : Prop where
  login : ∃ path body reply token, earlier =
    [⟨.http ⟨request.base, path, .basic user password, body⟩, .ok reply⟩] ∧
    reply.item "access_token" = .ok token ∧ request.authorization = .bearer token

-- An order of PayPal is about the amount of the gift, to the cent.
structure Orders (settings : Settings) (body : GiveBody) (earlier : List Event)
    (request : HttpRequest) : Prop where
  path : request.path = "/v2/checkout/orders"
  admitted : Admitted settings.paypalClientId settings.paypalClientSecret earlier request
  amount : ∃ value, request.body.item "purchase_units" = .ok (.arr [.obj [("amount",
      .obj [("currency_code", .str body.currency), ("value", .str value)])]]) ∧
    (body.amountMinor < 2 ^ 31 → Prints value body.amountMinor.toNat)

-- A push of M-Pesa is about the amount to half a shilling. Its password spells
-- the short code, the passkey and the very timestamp that the message shows.
structure Pushes (settings : Settings) (body : GiveBody) (earlier : List Event)
    (request : HttpRequest) : Prop where
  path : request.path = "/mpesa/stkpush/v1/processrequest"
  admitted : Admitted settings.mpesaConsumerKey settings.mpesaConsumerSecret earlier request
  currency : body.currency = "KES"
  amount : ∃ shillings, request.body.item "Amount" = .ok (.int shillings) ∧
    (body.amountMinor < 2 ^ 31 → |100 * shillings - body.amountMinor| ≤ 50)
  phone : ∃ raw phone, body.donor.phone = some raw ∧ normalizePhone raw = .ok phone ∧
    request.body.item "PhoneNumber" = .ok (.str phone)
  password : ∃ password timestamp, request.body.item "Password" = .ok (.str password) ∧
    request.body.item "Timestamp" = .ok (.str timestamp) ∧ Base64.decode password.toList =
      some (settings.mpesaShortcode ++ settings.mpesaPasskey ++ timestamp).toUTF8.toList

theorem b64encode_eq (data : Bytes) : b64encode data = Base64.encode data := by
  have hdigit (n : ℕ) : base64Digit n = Base64.digit n := rfl
  have hlow {m n : ℕ} (h : m % 64 = n % 64) :
      Base64.digit m = Base64.digit n := by rw [Base64.digit, Base64.digit, h]
  induction data using b64encode.induct with
  | case1 => rfl
  | case2 a =>
      simp only [b64encode, Base64.encode, Base64.digits, Base64.word, hdigit, List.take, List.cons_append,
        List.nil_append, UInt8.toNat_zero]
      exact congrArg₂ _ (hlow (by omega)) (congrArg₂ _ (hlow (by omega)) rfl)
  | case3 a b =>
      simp only [b64encode, Base64.encode, Base64.digits, Base64.word, hdigit, List.take, List.cons_append,
        List.nil_append, UInt8.toNat_zero]
      have := b.toNat_lt
      exact congrArg₂ _ (hlow (by omega)) (congrArg₂ _ (hlow (by omega)) (congrArg₂ _ (hlow (by omega)) rfl))
  | case4 a b c rest ih =>
      simp only [b64encode, Base64.encode, Base64.digits, Base64.word, hdigit, List.cons_append,
        List.nil_append, ih]
      have := b.toNat_lt
      have := c.toNat_lt
      exact congrArg₂ _ (hlow (by omega)) (congrArg₂ _ (hlow (by omega))
        (congrArg₂ _ (hlow (by omega)) (congrArg₂ _ (hlow (by omega)) rfl)))

theorem decode_stkPassword (settings : Settings) (timestamp : String) :
    Base64.decode (MpesaProvider.stkPassword settings timestamp).toList =
      some (settings.mpesaShortcode ++ settings.mpesaPasskey ++ timestamp).toUTF8.toList := by
  rw [MpesaProvider.stkPassword, String.toList_ofList, b64encode_eq, Base64.decode_encode]

theorem readToken_then {α : Type} {reply : Json} {rest : Json → Act α} :
    MpesaProvider.readToken (.ok reply) >>= rest = (do
      let token ← Prog.ofExcept (reply.item "access_token")
      Prog.ofExcept (MpesaProvider.expiresIn reply)
      rest token) := by
  show (do
      let token ← Prog.ofExcept (reply.item "access_token")
      Prog.ofExcept (MpesaProvider.expiresIn reply)
      return token : Act Json) >>= rest = _
  simp only [Prog.bind_assoc]
  rfl

theorem cancelPath_charges (base id : String) (authorization : Authorization) (form : Json) :
    Op.charges (.http ⟨base, PayPalProvider.cancelPath id, authorization, form⟩) = false := by
  have hstart : (PayPalProvider.cancelPath id).toList.take 3 = ['/', 'v', '1'] := by
    unfold PayPalProvider.cancelPath
    rw [String.toList_append, String.toList_append, List.append_assoc,
      List.take_append_of_le_length (by decide)]
    decide
  have horder : PayPalProvider.cancelPath id ≠ "/v2/checkout/orders" := by
    intro h
    rw [h] at hstart
    exact absurd hstart (by decide)
  have hpush : PayPalProvider.cancelPath id ≠ "/mpesa/stkpush/v1/processrequest" := by
    intro h
    rw [h] at hstart
    exact absurd hstart (by decide)
  simp [Op.charges, horder, hpush]

-- The double is nearer to the quotient than one cent, so rounding it is off by half a shilling at most.
theorem wholeShillings_near {amountMinor shillings : Int} (hpos : 0 < amountMinor)
    (hbound : amountMinor < 2 ^ 31)
    (h : MpesaProvider.wholeShillings amountMinor = .ok shillings) : |100 * shillings - amountMinor| ≤ 50 := by
  obtain ⟨n, rfl⟩ := Int.eq_ofNat_of_zero_le hpos.le
  have hn : 0 < n := by omega
  have hn' : n < 2 ^ 31 := by omega
  have hlog : n.log2 < 31 := log2_lt_of_lt (by decide) hn'
  have hden : Nat.log2 100 = 6 := by decide
  obtain ⟨double, hdiv⟩ := trueDiv_of_int32 n hn hn'
  obtain ⟨hscale, hclose⟩ := trueDiv_close hn (by decide) (by omega) hdiv
  obtain ⟨hbelow, habove⟩ := @roundHalfEven_error double.1 double.2 hscale
  have hshillings : shillings = roundHalfEven double.1 double.2 := by
    unfold MpesaProvider.wholeShillings at h
    rw [Int.natAbs_natCast, hdiv, Int.sign_eq_one_of_pos hpos] at h
    exact (Except.ok.inj h).symm.trans (one_mul _)
  rw [hshillings]
  generalize roundHalfEven double.1 double.2 = q at hbelow habove
  have hd : (0 : ℚ) < double.2 := by exact_mod_cast hscale
  have hbelow' : 2 * (double.1 : ℚ) ≤ 2 * (q * double.2) + double.2 := by exact_mod_cast hbelow
  have habove' : 2 * ((q : ℚ) * double.2) ≤ 2 * double.1 + double.2 := by exact_mod_cast habove
  have hn'' : (n : ℚ) < 2147483648 := by exact_mod_cast hn'
  have hsmall : (n / (100 : ℕ) : ℚ) * 2⁻¹ ^ 53 < 1 / 400 := by
    rw [show (2⁻¹ : ℚ) ^ 53 = 1 / 9007199254740992 by norm_num]
    push_cast
    linarith
  have hx : (double.1 / double.2 : ℚ) * double.2 = double.1 := div_mul_cancel₀ _ hd.ne'
  generalize (double.1 / double.2 : ℚ) = x at hclose hx
  obtain ⟨hlow, hhigh⟩ := abs_le.mp hclose
  have hlow' : (x : ℚ) - 1 / 2 ≤ q := by
    refine le_of_mul_le_mul_right ?_ hd
    linarith
  have hhigh' : (q : ℚ) ≤ x + 1 / 2 := by
    refine le_of_mul_le_mul_right ?_ hd
    linarith
  push_cast at hlow hhigh hsmall
  have hless : (100 * q - n : ℚ) < 51 := by linarith
  have hmore : (-51 : ℚ) < 100 * q - n := by linarith
  have hless' : (100 * q - n : Int) < 51 := by exact_mod_cast hless
  have hmore' : (-51 : Int) < 100 * q - n := by exact_mod_cast hmore
  rw [abs_le]
  constructor <;> omega

-- The handlers seen through what they and the rails have said.
def talks : Client Op Ans (List Event) where
  update talk op answer := if op.asks then talk ++ [⟨op, answer⟩] else talk
  sound _ _ _ := True

theorem talk_update (s : Session) (op : Op) (answer : Ans op) :
    (s.update op answer).talk = talks.update s.talk op answer := by
  have hpast : (s.update op answer).past = ⟨op, answer⟩ :: s.past := rfl
  unfold Session.talk talks
  rw [hpast]
  cases hasks : op.asks with
  | true => simp [hasks]
  | false => simp [hasks]

section Silent

-- The parts of the handlers that say nothing to the rails.

theorem silent_now : now.Only fun op => op.asks = false := .perform rfl

theorem silent_add (stmt : Stmt) : (add stmt).Only fun op => op.asks = false := .perform rfl

theorem silent_flush : flush.Only fun op => op.asks = false := only_flush rfl

theorem silent_scalar (query : Query) : (scalar query).Only fun op => op.asks = false := only_scalar rfl rfl

theorem silent_commit : commit.Only fun op => op.asks = false := only_commit rfl rfl

theorem silent_sendEmail (settings : Settings) (to_ subject : String) (template : Template) :
    (sendEmail settings to_ subject template).Only fun op => op.asks = false := by
  unfold sendEmail
  split
  · exact .bind (.perform rfl) fun _ => .ofExcept
  · exact .perform rfl

theorem silent_assign (subscription : Subscription) (columns : List SubscriptionSet) :
    (subscription.assign columns).Only fun op => op.asks = false := .bind (silent_add _) fun _ => trivial

theorem silent_recordWebhookEvent (args : EventArgs) :
    (Ledger.recordWebhookEvent args).Only fun op => op.asks = false := by
  refine .bind .ofExcept fun providerEventId => (silent_scalar _).bind fun found => ?_
  cases found with
  | some row => trivial
  | none =>
      refine silent_now.bind fun receivedAt => .bind (.perform rfl) fun id =>
        .bind .ofExcept fun eventType => ?_
      exact (silent_add _).bind fun _ => silent_flush.bind fun _ => trivial

theorem silent_markEventProcessed (event : WebhookEvent) (error : Option String) :
    (Ledger.markEventProcessed event error).Only fun op => op.asks = false :=
  silent_now.bind fun _ => .bind (.bind (silent_add _) fun _ => trivial) fun _ => silent_flush

theorem silent_recordDonation (args : DonationArgs) :
    (Ledger.recordDonation args).Only fun op => op.asks = false := by
  refine (silent_scalar _).bind fun found => ?_
  cases found with
  | some row => trivial
  | none =>
      refine silent_now.bind fun completedAt => .bind (.perform rfl) fun id => ?_
      exact (silent_add _).bind fun _ => silent_flush.bind fun _ => trivial

theorem silent_settlement {eventType subject : String} {args : Json → DonationArgs} {tail : Act Unit}
    (htail : tail.Only fun op => op.asks = false) :
    (settlement eventType subject args tail).Only fun op => op.asks = false := by
  refine .bind (.bind (.perform rfl) fun _ => .bind silent_now fun _ => trivial) fun payload => ?_
  refine .bind .ofExcept fun _ => .bind .ofExcept fun _ => (silent_recordWebhookEvent _).bind fun found => ?_
  obtain ⟨event, isNew⟩ := found
  cases isNew with
  | false => trivial
  | true => exact (silent_recordDonation _).bind fun _ =>
    (silent_markEventProcessed event none).bind fun _ => htail

theorem silent_settleOneOff (settings : Settings) (body : OneOffCreate) (donor : Donor)
    (result : OneOffResult) :
    (settleOneOff settings body donor result).Only fun op => op.asks = false := by
  refine .bind .ofExcept fun paymentId => ?_
  refine @silent_settlement "payment.succeeded" paymentId
    (fun payload => oneOffArgs body donor.id paymentId payload) _ ?_
  exact .bind .ofExcept fun amount => silent_now.bind fun time => silent_sendEmail _ _ _ _

theorem silent_finishOneOff (settings : Settings) (body : OneOffCreate) (provider : Provider) (donor : Donor)
    (result : OneOffResult) : (finishOneOff settings body provider donor result).Only fun op =>
      op.asks = false := by
  have hlast : (do
      commit
      let response ← Prog.ofExcept (oneOffResponse result)
      return ⟨200, .oneOff response⟩ : Act Response).Only fun op => op.asks = false :=
    silent_commit.bind fun _ => .bind .ofExcept fun _ => trivial
  cases provider with
  | test => exact (silent_settleOneOff _ _ _ _).bind fun _ => hlast
  | stripe _ | paypal _ _ | mpesa _ _ | btc _ => exact hlast

theorem silent_subscribe (body : NewsletterSubscribe) :
    (Content.subscribe body).Only fun op => op.asks = false := by
  refine (silent_scalar _).bind fun found => silent_now.bind fun time => ?_
  have hlast : (do
      commit
      return ⟨200, .status "subscribed"⟩ : Act Response).Only fun op => op.asks = false :=
    silent_commit.bind fun _ => trivial
  cases found with
  | some donor => exact .bind (.bind (silent_add _) fun _ => trivial) fun _ => hlast
  | none => exact .bind (.perform rfl) fun id => (silent_add _).bind fun _ => hlast

theorem silent_process (event : WebhookEvent) : (Webhooks.process event).Only fun op => op.asks = false :=
  .handle ((silent_markEventProcessed _ _).bind fun _ => silent_commit) fun _ =>
    (silent_markEventProcessed _ _).bind fun _ => silent_commit

theorem silent_finishCancel (settings : Settings) (sub : Subscription) :
    (Subscriptions.finishCancel settings sub).Only fun op => op.asks = false := by
  refine .bind (silent_now.bind fun time => .bind (silent_assign _ _) fun _ => silent_flush) fun _ => ?_
  refine (silent_scalar _).bind fun found => ?_
  cases found with
  | some donor => exact (silent_sendEmail _ _ _ _).bind fun _ => silent_commit.bind fun _ => trivial
  | none => exact silent_commit.bind fun _ => trivial

variable [Platform]

theorem silent_unsubscribe (donorId : String) :
    (Content.unsubscribe donorId).Only fun op => op.asks = false := by
  refine .bind .ofExcept fun id => (silent_scalar _).bind fun found => ?_
  cases found with
  | some donor =>
      exact .bind (.bind (silent_add _) fun _ => trivial) fun _ => silent_commit.bind fun _ => trivial
  | none => trivial

theorem silent_createDataRequest (body : DataRequestCreate) :
    (Content.createDataRequest body).Only fun op => op.asks = false := by
  refine (silent_scalar _).bind fun found => ?_
  cases found with
  | none => trivial
  | some donor =>
      refine .bind .ofExcept fun type => silent_now.bind fun requestedAt => .bind (.perform rfl) fun id => ?_
      exact (silent_add _).bind fun _ => silent_commit.bind fun _ => trivial

theorem silent_settleSubscription (settings : Settings) (body : SubscriptionCreate) (donor : Donor)
    (subscription : Subscription) :
    (settleSubscription settings body donor subscription).Only fun op => op.asks = false := by
  refine .bind (silent_now.bind fun time => .bind (silent_assign _ _) fun _ => silent_flush) fun _ => ?_
  refine @silent_settlement "subscription.activated" subscription.providerSubscriptionId
    (fun payload => initialArgs body donor.id subscription payload) _ ?_
  exact silent_now.bind fun time => .bind .ofExcept fun amount => silent_sendEmail _ _ _ _

theorem silent_finishSubscription (settings : Settings) (body : SubscriptionCreate) (provider : Provider)
    (donor : Donor) (result : SubscriptionResult) :
    (finishSubscription settings body provider donor result).Only fun op => op.asks = false := by
  refine .bind .ofExcept fun rail => .bind (.perform rfl) fun id => (silent_add _).bind fun _ => ?_
  refine silent_flush.bind fun _ => ?_
  cases provider with
  | test => exact (silent_settleSubscription _ _ _ _).bind fun _ => silent_commit.bind fun _ => trivial
  | stripe _ | paypal _ _ | mpesa _ _ | btc _ => exact silent_commit.bind fun _ => trivial

theorem silent_giver (payload : DonorPayload) (consent : Bool) (source : String) :
    (giver payload consent source).Only fun op => op.asks = false := by
  have hdonor : (getOrCreateDonor payload).Only fun op => op.asks = false := by
    refine (silent_scalar _).bind fun found => ?_
    cases found with
    | some donor => trivial
    | none => exact .bind (.perform rfl) fun id => (silent_add _).bind fun _ =>
      silent_flush.bind fun _ => trivial
  refine hdonor.bind fun donor => ?_
  cases consent with
  | true => exact silent_now.bind fun time => (silent_add _).bind fun _ => trivial
  | false => trivial

theorem silent_donorSubscriptions (secretKey token : String) :
    (Subscriptions.donorSubscriptions secretKey token).Only fun op => op.asks = false := by
  refine silent_now.bind fun time => .bind .ofExcept fun found => ?_
  cases found with
  | none => trivial
  | some donorId => exact only_scalars rfl rfl

theorem silent_changeAmount (settings : Settings) (token : String) (body : ManageSubscriptionPatch) :
    (Subscriptions.changeAmount settings token body).Only fun op => op.asks = false := by
  refine (silent_donorSubscriptions _ _).bind fun subs => ?_
  cases subs with
  | nil => trivial
  | cons sub _ => exact (silent_assign _ _).bind fun _ => silent_commit.bind fun _ => trivial

theorem silent_handle (settings : Settings) (providerName : String) (headers : List (String × String))
    (rawBody : Bytes) : (Webhooks.handle settings providerName headers rawBody).Only fun op =>
      op.asks = false := by
  unfold Webhooks.handle
  split
  · trivial
  · split
    · refine .bind .ofExcept fun event => (silent_recordWebhookEvent _).bind fun found => ?_
      obtain ⟨row, isNew⟩ := found
      refine silent_commit.bind fun _ => ?_
      cases isNew with
      | false => trivial
      | true => exact (silent_process row).bind fun _ => trivial
    · trivial

end Silent

section Charges

variable [Platform]

structure Checkout.For (checkout : Checkout) (request : Request) (body : GiveBody) : Prop where
  amount : checkout.unitAmount = body.amountMinor
  currency : checkout.currency = Platform.lower body.currency
  email : checkout.customerEmail = body.donor.email
  mode : checkout.mode = .subscription ↔ request.endpoint = .subscription body

inductive Charge (request : Request) (body : GiveBody) : List Event → Op → Prop
  | checkout {checkout : Checkout} (h : checkout.For request body) :
    Charge request body [] (.stripeCheckout checkout)
  | pledge (id : String) (h : request.endpoint = .subscription body) :
      Charge request body [] (.record (.testSubscribed id body.amountMinor body.currency))
  | order {earlier : List Event} {message : HttpRequest}
      (h : Orders request.settings.settings body earlier message) : Charge request body earlier (.http message)
  | push {earlier : List Event} {message : HttpRequest}
      (h : Pushes request.settings.settings body earlier message) : Charge request body earlier (.http message)

-- What may be said after these messages.
structure MaySay (request : Request) (earlier : List Event) (op : Op) : Prop where
  short : earlier.length ≤ 1
  uncharged : ∀ event ∈ earlier, event.op.charges = false
  charge : op.charges = true → ∃ body, request.given = some body ∧ Charge request body earlier op

section Messages

variable {request : Request} {body : GiveBody}

theorem MaySay.first {op : Op}
    (h : op.charges = true → ∃ body, request.given = some body ∧ Charge request body [] op) :
    MaySay request [] op := ⟨Nat.zero_le 1, by simp, h⟩

theorem MaySay.second {earlier : Event} {op : Op} (hearlier : earlier.op.charges = false)
    (h : op.charges = true → ∃ body, request.given = some body ∧ Charge request body [earlier] op) :
    MaySay request [earlier] op := ⟨Nat.le_refl 1, by simpa using hearlier, h⟩


def Speaks {α : Type} (request : Request) (talk : List Event) (program : Act α) : Prop :=
  program.Obeys talks (fun talk op => op.asks = true → MaySay request talk op) (fun _ _ => True) talk

variable {α β : Type} {talk : List Event}

theorem speaks_of_silent {program : Act α} (h : program.Only fun op => op.asks = false) :
    Speaks request talk program :=
  h.obeys (fun _ => True) (fun _ _ _ _ _ => trivial)
    (fun _ op _ hsilent hasks => absurd (hsilent.symm.trans hasks) (by simp)) (fun _ _ _ => trivial) trivial

-- Before the first message, and after the last one.

theorem speaks_later {first : Act α} {rest : α → Act β} (h : first.Only fun op => op.asks = false)
    (hrest : ∀ value, Speaks request talk (rest value)) : Speaks request talk (first >>= rest) := by
  unfold Speaks
  rw [Prog.bind_eq, Prog.obeys_bind]
  refine h.obeys (fun talk' => talk' = talk) (fun talk' op answer htalk hop => ?_)
    (fun _ op _ hsilent hasks => absurd (hsilent.symm.trans hasks) (by simp)) (fun talk' result htalk => ?_) rfl
  · rw [← htalk]
    exact if_neg (by simp [hop])
  · rw [htalk]
    cases result with
    | ok value => exact hrest value
    | error error => trivial

theorem Speaks.finish {first : Act α} {rest : α → Act β} (h : Speaks request talk first)
    (hrest : ∀ value, (rest value).Only fun op => op.asks = false) : Speaks request talk (first >>= rest) := by
  unfold Speaks
  rw [Prog.bind_eq, Prog.obeys_bind]
  refine Prog.Obeys.mono h (fun _ _ hop => hop) fun talk' result _ => ?_
  cases result with
  | ok value => exact speaks_of_silent (hrest value)
  | error error => trivial

theorem speaks_ofExcept {result : Except Exn α} {rest : α → Act β}
    (h : ∀ value, result = .ok value → Speaks request talk (rest value)) :
    Speaks request talk (Prog.ofExcept result >>= rest) := by
  cases result with
  | ok value => exact h value rfl
  | error error => trivial

theorem speaks_say {op : Op} {rest : Ans op → Act β} (hasks : op.asks = true) (h : MaySay request talk op)
    (hrest : ∀ answer, Speaks request (talk ++ [⟨op, answer⟩]) (rest answer)) :
    Speaks request talk (perform op >>= rest) := by
  refine ⟨fun _ => h, fun answer _ => ?_⟩
  have htalk : talks.update talk op answer = talk ++ [⟨op, answer⟩] := if_pos hasks
  rw [htalk]
  exact hrest answer

end Messages

section Rails

variable {request : Request} {body : GiveBody}

theorem speaks_checkout {checkout : Checkout} {rest : Except Exn CheckoutSession → Act α}
    (hgiven : request.given = some body)
    (hfor : checkout.For request body) (hrest : ∀ answer, (rest answer).Only fun op => op.asks = false) :
    Speaks request [] (perform (.stripeCheckout checkout) >>= rest) :=
  speaks_say rfl (.first fun _ => ⟨body, hgiven, .checkout hfor⟩) fun answer => speaks_of_silent (hrest answer)

-- A login gives the token, or the conversation is over.
theorem speaks_login {base path user password : String} {form : Json} {rest : Except Exn Json → Act α}
    (hpath : Op.charges (.http ⟨base, path, .basic user password, form⟩) = false)
    (hrest : ∀ reply, Speaks request [⟨.http ⟨base, path, .basic user password, form⟩, .ok reply⟩]
      (rest (.ok reply)))
    (herror : ∀ error, (rest (.error error)).Only fun op => op.asks = false) :
    Speaks request [] (perform (.http ⟨base, path, .basic user password, form⟩) >>= rest) := by
  refine speaks_say rfl (.first fun hcharges => absurd (hpath.symm.trans hcharges) (by simp)) fun answer => ?_
  cases answer with
  | ok reply => exact hrest reply
  | error error => exact speaks_of_silent (herror error)

theorem charge_order {settings : Settings} {base path value : String} {form reply token : Json}
    (hsettings : request.settings.settings = settings) (hvalue : decimalAmount body.amountMinor = .ok value)
    (htoken : reply.item "access_token" = .ok token) :
    Charge request body
      [⟨.http ⟨base, path, .basic settings.paypalClientId settings.paypalClientSecret, form⟩, .ok reply⟩]
      (.http ⟨base, "/v2/checkout/orders", .bearer token, .obj [("intent", .str "CAPTURE"),
        ("purchase_units", .arr [.obj [("amount", .obj [("currency_code", .str body.currency),
          ("value", .str value)])]])]⟩) := by
  subst hsettings
  refine .order ⟨rfl, ⟨path, form, reply, token, rfl, htoken, rfl⟩, value, ?_, fun hbound => ?_⟩
  · simp [Json.item, Json.lookup]
  · obtain ⟨n, hn⟩ := Int.eq_ofNat_of_zero_le body.amountMinor_pos.le
    have hpos : 0 < n := by
      have := body.amountMinor_pos
      omega
    rw [hn] at hvalue hbound ⊢
    have hdecimal := decimalAmount_eq hpos (by omega)
    rw [hvalue] at hdecimal
    rw [Except.ok.inj hdecimal]
    exact prints_hundredths n

theorem speaks_paypal {base : String} (hgiven : request.given = some body) :
    Speaks request [] (PayPalProvider.createOneOff request.settings.settings base (gift body)) := by
  unfold PayPalProvider.createOneOff PayPalProvider.token
  simp only [Prog.bind_assoc]
  refine speaks_login (by simp [Op.charges]) (fun reply => ?_) fun error => trivial
  refine speaks_ofExcept fun reply' hreply => speaks_ofExcept fun token htoken =>
    speaks_ofExcept fun value hvalue => ?_
  cases hreply
  refine speaks_say rfl (.second (by simp [Op.charges]) fun _ =>
    ⟨body, hgiven, charge_order rfl hvalue htoken⟩) ?_
  intro answer
  exact speaks_of_silent (.bind .ofExcept fun order => .bind .ofExcept fun approve =>
    .bind .ofExcept fun _ => trivial)

theorem speaks_push {host phone raw : String} {form reply token : Json} {time : Time} {amountMinor : Int}
    (hamount : amountMinor = body.amountMinor) (hgiven : request.given = some body)
    (hkes : body.currency = "KES") (hraw : body.donor.phone = some raw)
    (hphone : normalizePhone raw = .ok phone) (htoken : reply.item "access_token" = .ok token) :
    Speaks request [⟨.http ⟨host, "/oauth/v1/generate", .basic request.settings.settings.mpesaConsumerKey
        request.settings.settings.mpesaConsumerSecret, form⟩, .ok reply⟩] (do
      let shillings ← Prog.ofExcept (MpesaProvider.wholeShillings amountMinor)
      let reply ← perform (.http (MpesaProvider.pushRequest request.settings.settings host phone
        time token shillings))
      MpesaProvider.acknowledge reply : Act OneOffResult) := by
  subst hamount
  refine speaks_ofExcept fun shillings hshillings => ?_
  refine speaks_say rfl (.second ?_ fun _ => ⟨body, hgiven, .push ?_⟩) fun answer => ?_
  · simp [Op.charges]
  · refine ⟨rfl, ⟨_, form, reply, token, rfl, htoken, rfl⟩, hkes, ⟨shillings, ?_, ?_⟩,
      ⟨raw, phone, hraw, hphone, ?_⟩,
      _, Time.compact (time + MpesaProvider.eatOffset), ?_, ?_, decode_stkPassword _ _⟩
    · exact MpesaProvider.amount_pushRequest
    · exact fun hbound => wholeShillings_near body.amountMinor_pos hbound hshillings
    · simp [MpesaProvider.pushRequest, Json.item, Json.lookup]
    · simp [MpesaProvider.pushRequest, Json.item, Json.lookup]
    · simp [MpesaProvider.pushRequest, Json.item, Json.lookup]
  · exact speaks_of_silent (.bind .ofExcept fun _ => .bind .ofExcept fun _ => trivial)

theorem speaks_unless {condition : Prop} {_ : Decidable condition} {message : String} {rest : Unit → Act α}
    {talk : List Event} (h : ¬ condition → Speaks request talk (rest ())) : Speaks request talk
      (if condition then Prog.ofExcept (valueError message) >>= fun value => rest value else rest ()) := by
  split
  · trivial
  · next hcondition => exact h hcondition

theorem speaks_mpesa {host : String} (hgiven : request.given = some body) :
    Speaks request [] (MpesaProvider.createOneOff request.settings.settings host (gift body)) := by
  by_cases haccepted : ∃ phone raw, body.currency = "KES" ∧ body.donor.phone = some raw ∧
      normalizePhone raw = .ok phone
  · obtain ⟨phone, raw, hkes, hraw, hphone⟩ := haccepted
    rw [MpesaProvider.createOneOff_eq hkes hraw hphone, MpesaProvider.getToken_eq]
    refine speaks_later silent_now fun time => ?_
    rw [Prog.bind_assoc]
    refine speaks_login (by simp [Op.charges]) (fun reply => ?_) fun error => trivial
    rw [readToken_then]
    refine speaks_ofExcept fun token htoken => speaks_ofExcept fun _ _ => ?_
    exact speaks_push rfl hgiven hkes hraw hphone htoken
  · unfold MpesaProvider.createOneOff
    refine speaks_unless fun hkes => speaks_unless fun hgivenPhone => speaks_ofExcept fun phone hphone => ?_
    refine absurd ⟨phone, ?_⟩ haccepted
    cases hraw : body.donor.phone with
    | none => exact absurd (congrArg (fun phone => phone.getD "") hraw) hgivenPhone
    | some raw =>
        have hsame : (gift body).donor.phone.getD "" = raw := congrArg (fun phone => phone.getD "") hraw
        exact ⟨raw, not_not.mp hkes, rfl, hsame ▸ hphone⟩

theorem speaks_createOneOff_rail {name : String} {provider : Provider}
    (hendpoint : request.endpoint = .oneOff body)
    (hprovider : getProvider name request.settings.settings = .ok provider) :
    Speaks request [] (provider.createOneOff (gift body)) := by
  have hgiven : request.given = some body := by rw [Request.given, hendpoint]
  rcases getProvider_cases hprovider with ⟨-, rfl⟩ | ⟨-, rfl⟩ | ⟨-, base, rfl⟩ | ⟨-, host, rfl⟩ | ⟨-, rfl⟩
  · exact speaks_of_silent (.bind (.perform rfl) fun _ => trivial)
  · refine speaks_checkout hgiven ⟨rfl, rfl, rfl, ?_⟩ fun answer => .bind .ofExcept fun _ => trivial
    simp [StripeProvider.checkout, hendpoint]
  · exact speaks_paypal hgiven
  · exact speaks_mpesa hgiven
  · trivial

theorem speaks_createSubscription_rail {name : String} {provider : Provider}
    (hendpoint : request.endpoint = .subscription body)
    (hprovider : getProvider name request.settings.settings = .ok provider) :
    Speaks request [] (provider.createSubscription (gift body)) := by
  have hgiven : request.given = some body := by rw [Request.given, hendpoint]
  rcases getProvider_cases hprovider with ⟨-, rfl⟩ | ⟨-, rfl⟩ | ⟨-, base, rfl⟩ | ⟨-, host, rfl⟩ | ⟨-, rfl⟩
  · refine speaks_later (.perform rfl) fun token => ?_
    exact speaks_say rfl (.first fun _ => ⟨body, hgiven, .pledge _ hendpoint⟩) fun _ => trivial
  · refine speaks_checkout hgiven ⟨rfl, rfl, rfl, ?_⟩ fun answer => .bind .ofExcept fun _ => trivial
    simp [StripeProvider.checkout, hendpoint]
  · trivial
  · trivial
  · trivial

theorem speaks_cancelSubscription (provider : Provider) (id : String) :
    Speaks request [] (provider.cancelSubscription id) := by
  have hfree {op : Op} (h : op.charges = false) : MaySay request [] op :=
    .first fun hcharges => absurd (h.symm.trans hcharges) (by simp)
  cases provider with
  | test => exact ⟨fun _ => hfree rfl, fun _ _ => trivial⟩
  | stripe s => exact speaks_say rfl (hfree rfl) fun answer => speaks_of_silent .ofExcept
  | paypal s base =>
      show Speaks request [] (PayPalProvider.cancelSubscription s base id)
      unfold PayPalProvider.cancelSubscription PayPalProvider.token
      simp only [Prog.bind_assoc]
      refine speaks_login (by simp [Op.charges]) (fun reply => ?_) fun error => trivial
      refine speaks_ofExcept fun reply' _ => speaks_ofExcept fun token _ => ?_
      have hcancel := cancelPath_charges base id (.bearer token)
        (.obj [("reason", .str "Donor requested cancellation")])
      refine speaks_say rfl (.second (by simp [Op.charges]) fun hcharges =>
        absurd (hcancel.symm.trans hcharges) (by simp)) fun answer => ?_
      exact speaks_of_silent (.bind .ofExcept fun _ => trivial)
  | mpesa s host => trivial
  | btc s => trivial

theorem speaks_selected {name : String} {settings : Settings} {talk : List Event} {rest : Provider → Act β}
    (h : ∀ provider, getProvider name settings = .ok provider → Speaks request talk (rest provider)) :
    Speaks request talk (selectProvider name settings >>= rest) := by
  rcases selectProvider_cases name settings with ⟨provider, hprovider, hselect⟩ | ⟨error, hselect⟩
  · rw [hselect]
    exact h provider hprovider
  · rw [hselect]
    trivial

theorem speaks_createOneOff (hendpoint : request.endpoint = .oneOff body) :
    Speaks request [] (createOneOff request.settings.settings body) := by
  rw [createOneOff_eq]
  refine speaks_selected fun provider hprovider => speaks_later (silent_giver _ _ _) fun donor => ?_
  exact (speaks_createOneOff_rail hendpoint hprovider).finish fun result => silent_finishOneOff _ _ _ _ _

theorem speaks_createSubscription (hendpoint : request.endpoint = .subscription body) :
    Speaks request [] (createSubscription request.settings.settings body) := by
  rw [createSubscription_eq]
  refine speaks_selected fun provider hprovider => speaks_later (silent_giver _ _ _) fun donor => ?_
  exact (speaks_createSubscription_rail hendpoint hprovider).finish fun result =>
    silent_finishSubscription _ _ _ _ _

theorem speaks_tellRail (settings : Settings) (sub : Subscription) :
    Speaks request [] (Subscriptions.tellRail settings sub) := by
  have htell : Speaks request [] (do
      let provider ← Prog.ofExcept (getProvider sub.provider.value settings)
      provider.cancelSubscription sub.providerSubscriptionId : Act Unit) :=
    speaks_ofExcept fun provider _ => speaks_cancelSubscription provider _
  refine Prog.obeys_handle.mpr (Prog.Obeys.mono htell (fun _ _ hop => hop) fun talk result _ => ?_)
  cases result with
  | ok _ => trivial
  | error _ => trivial

theorem speaks_cancel (settings : Settings) (token : String) :
    Speaks request [] (Subscriptions.cancel settings token) := by
  rw [Subscriptions.cancel_eq]
  refine speaks_later (silent_donorSubscriptions _ _) fun subs => ?_
  cases subs with
  | nil => trivial
  | cons sub _ => exact (speaks_tellRail settings sub).finish fun _ => silent_finishCancel settings sub

theorem handler_speaks (request : Request) : Speaks request [] request.handler := by
  cases hendpoint : request.endpoint with
  | oneOff body =>
      rw [Request.handler_oneOff hendpoint]
      exact speaks_createOneOff hendpoint
  | subscription body =>
      rw [Request.handler_subscription hendpoint]
      exact speaks_createSubscription hendpoint
  | manageGet token =>
      unfold Request.handler
      rw [hendpoint]
      exact speaks_of_silent ((silent_donorSubscriptions _ token).bind fun _ => trivial)
  | managePatch token body =>
      unfold Request.handler
      rw [hendpoint]
      exact speaks_of_silent (silent_changeAmount _ token body)
  | manageDelete token =>
      unfold Request.handler
      rw [hendpoint]
      exact speaks_cancel _ token
  | newsletterSubscribe body =>
      unfold Request.handler
      rw [hendpoint]
      exact speaks_of_silent (silent_subscribe body)
  | newsletterUnsubscribe donorId =>
      unfold Request.handler
      rw [hendpoint]
      exact speaks_of_silent (silent_unsubscribe donorId)
  | dataRequest body =>
      unfold Request.handler
      rw [hendpoint]
      exact speaks_of_silent (silent_createDataRequest body)
  | webhook endpoint headers rawBody =>
      unfold Request.handler
      rw [hendpoint]
      exact speaks_of_silent (silent_handle _ _ headers rawBody)

end Rails

section Runs

-- Every message of the request was one that it might send after the earlier ones.
def Said (request : Request) (s : Session) : Prop :=
  ∀ earlier event later, s.talk = earlier ++ event :: later → MaySay request earlier event.op

theorem Said.update {request : Request} {s : Session} {op : Op} {answer : Ans op} (h : Said request s)
    (hop : op.asks = true → MaySay request s.talk op) : Said request (s.update op answer) := by
  intro earlier event later htalk
  rw [talk_update] at htalk
  cases hasks : op.asks with
  | false => exact h earlier event later ((if_neg (by simp [hasks])).symm.trans htalk)
  | true =>
      have hlast : s.talk ++ [⟨op, answer⟩] = earlier ++ event :: later := (if_pos hasks).symm.trans htalk
      rcases List.eq_nil_or_concat later with rfl | ⟨before, last, rfl⟩
      · obtain ⟨rfl, hevent⟩ := List.append_inj' hlast rfl
        rw [← (List.cons.inj hevent).1]
        exact hop hasks
      · rw [List.concat_eq_append, ← List.cons_append, ← List.append_assoc] at hlast
        exact h earlier event before (List.append_inj' hlast rfl).1

theorem handler_says (request : Request) :
    (service.start request).Obeys service.toClient (fun s op => op.asks = true → MaySay request s.talk op)
      (fun _ _ => True) service.fresh := by
  refine Prog.Obeys.simulate (fun talk s => talk = s.talk) ?_ ?_ (fun _ _ _ _ _ => trivial) rfl
    (handler_speaks request)
  · rintro _ s op answer rfl - -
    exact ⟨trivial, (talk_update s op answer).symm⟩
  · rintro _ s op rfl hop
    exact hop

variable {allow : ServicePool → ServiceMove → Prop} {world : World} {pool : ServicePool}

theorem said_run (hrun : service.Run allow ⟨world, []⟩ pool) : ∀ t ∈ pool.threads, Said t.req t.loc := by
  have hfresh (request : Request) : Said request {} := by
    intro earlier event later htalk
    cases earlier <;> cases htalk
  refine (hrun.invariant_of_obeys handler_says (I := fun pool => ∀ t ∈ pool.threads, Said t.req t.loc)
    (by simp) (by simp) ?_).1
  intro pool move pool' h hobedient _ hmove
  refine hmove.forall_threads hobedient (P := fun _ request s => Said request s)
    (fun request _ => hfresh request)
    (fun _ _ hs => hs) ?_ (fun _ _ _ _ _ _ _ _ _ hs => hs) h
  rintro i t op answer - - hop - hs
  exact hs.update hop

-- A request asks for money once at most, and then says no more to any rail.
theorem charged_once (hrun : service.Run allow ⟨world, []⟩ pool) {t : ServiceThread} (ht : t ∈ pool.threads) :
    t.loc.talk.length ≤ 2 ∧ ∀ earlier event later, t.loc.talk = earlier ++ event :: later →
      event.op.charges = true → later = [] ∧
        ∃ body, t.req.given = some body ∧ Charge t.req body earlier event.op := by
  have hsaid := said_run hrun t ht
  refine ⟨?_, fun earlier event later htalk hcharges => ⟨?_, (hsaid earlier event later htalk).charge hcharges⟩⟩
  · rcases List.eq_nil_or_concat t.loc.talk with hnone | ⟨earlier, last, htalk⟩
    · simp [hnone]
    · rw [List.concat_eq_append] at htalk
      have hshort := (hsaid earlier last [] htalk).short
      rw [htalk, List.length_append]
      exact Nat.succ_le_succ hshort
  · rcases List.eq_nil_or_concat later with rfl | ⟨between, last, rfl⟩
    · rfl
    · rw [List.concat_eq_append, ← List.cons_append, ← List.append_assoc] at htalk
      have hlast := hsaid (earlier ++ event :: between) last [] htalk
      have huncharged := hlast.uncharged event (by simp)
      rw [hcharges] at huncharged
      cases huncharged

end Runs

end Charges

open Trial

def paypalSettings : AcceptedSettings where
  settings := {
    secretKey := secretKey, paypalEnabled := true, paypalClientId := "client", paypalClientSecret := "secret" }
  accepted := rfl

def paypalGift : Request := ⟨paypalSettings, .oneOff (giveBody "paypal" "amina@example.org")⟩

-- PayPal lets the request in and takes the order.
def takesOrders (world : World) (s : Session) : (op : Op) → Ans op
  | .http request => if request.path = "/v1/oauth2/token" then .ok (.obj [("access_token", .str "A21AAF")])
      else .ok (.obj [("id", .str "5O190127TN364715T"), ("links", .arr [])])
  | op => reply 0 world s op

theorem charged_once_paypal : ∃ pool, service.Run (fun _ _ => True) ⟨{}, []⟩ pool ∧ ∃ t ∈ pool.threads,
    (∃ event ∈ t.loc.talk, event.op.charges = true) ∧
      t.loc.talk.length ≤ 2 ∧ ∀ earlier event later, t.loc.talk = earlier ++ event :: later →
        event.op.charges = true → later = [] ∧
          ∃ body, t.req.given = some body ∧ Charge t.req body earlier event.op := by
  obtain ⟨pool, hrun, t, ht, hcharged⟩ := exists_run (fun _ _ => True)
    (fun pool => ∃ t ∈ pool.threads, ∃ event ∈ t.loc.talk, event.op.charges = true)
    (.arrive paypalGift :: turns 0 7 takesOrders) (by decide +kernel)
  exact ⟨pool, hrun, t, ht, hcharged, charged_once hrun ht⟩

end BridgeOfHope
