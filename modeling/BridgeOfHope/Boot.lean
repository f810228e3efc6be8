import BridgeOfHope.Service

namespace BridgeOfHope

open Payments

-- What the check at boot is worth, once the rails are built and webhooks come in.

section Accepted

variable {s : Settings}

theorem accepted_iff : s.validateFeatureFlags = .ok s ↔ s.missing = [] := by
  unfold Settings.validateFeatureFlags
  by_cases h : s.missing = [] <;> simp [h]

-- Every enabled rail has the credentials that its constructor asks for.
theorem credentials_given (h : s.validateFeatureFlags = .ok s) :
    (s.stripeEnabled = true → Settings.given s.stripeSecretKey = true) ∧
    (s.paypalEnabled = true → (Settings.given s.paypalClientId && Settings.given s.paypalClientSecret) = true) ∧
    (s.mpesaEnabled = true → (Settings.given s.mpesaConsumerKey && Settings.given s.mpesaConsumerSecret &&
      Settings.given s.mpesaShortcode && Settings.given s.mpesaPasskey) = true) ∧
    (s.btcEnabled = true → Settings.given s.btcApiKey = true) := by
  have hmissing := accepted_iff.mp h
  simp only [Settings.missing, List.append_eq_nil_iff] at hmissing
  obtain ⟨⟨⟨⟨hstripe, hpaypal⟩, hmpesa⟩, hbtc⟩, -⟩ := hmissing
  refine ⟨fun henabled => ?_, fun henabled => ?_, fun henabled => ?_, fun henabled => ?_⟩
  · simpa [henabled] using hstripe
  · simpa [henabled] using hpaypal
  · simpa [henabled] using hmpesa
  · simpa [henabled] using hbtc

theorem mem_availableProviders {name : String} : name ∈ availableProviders s ↔
    (name = "test" ∧ s.testProviderEnabled = true) ∨ (name = "stripe" ∧ s.stripeEnabled = true) ∨
      (name = "paypal" ∧ s.paypalEnabled = true) ∨ (name = "mpesa" ∧ s.mpesaEnabled = true) ∨
      (name = "btc" ∧ s.btcEnabled = true) := by
  simp only [availableProviders, List.mem_append, List.mem_ite_nil_right, List.mem_singleton, or_assoc]
  tauto

end Accepted

section

variable [Platform]

-- What a sender who knows some secrets can put under a body. Nobody can do without
-- a secret that is not empty.
structure Signing where
  makes : Set String → Bytes → String → Prop
  needs_secret : ∀ {known body signature secret event}, makes known body signature →
    Platform.constructEvent body signature secret = .ok event → secret ≠ "" → secret ∈ known

-- The empty secret is known to all.
def Signing.EmptyKnown (signing : Signing) : Prop := ∀ known, ∃ body signature event,
  signing.makes known body signature ∧ Platform.constructEvent body signature "" = .ok event

-- The secret that `verify_webhook` compares with, for the rails that accept anything.
def Payments.Provider.webhookSecret : Provider → Option String
  | .test => some "test-signature"
  | .stripe settings => some settings.stripeWebhookSecret
  | .paypal _ _ | .mpesa _ _ | .btc _ => none

-- The secrets of a configuration.
def Settings.secrets (s : Settings) : List String :=
  [s.secretKey, s.stripeSecretKey, s.stripeWebhookSecret, s.paypalClientSecret, s.mpesaConsumerSecret,
    s.mpesaPasskey, s.btcApiKey, s.smtpPassword]

-- A configuration is good enough for a rail: it can be built, it never compares
-- with an empty secret, and its webhooks take nothing from those who know no secret.
structure Sufficient (signing : Signing) (s : Settings) (name : String) : Prop where
  builds : ∃ provider, getProvider name s = .ok provider
  secret : ∀ provider, getProvider name s = .ok provider →
    (∃ headers rawBody, provider.verifyWebhook headers rawBody = true) →
      ∃ secret ∈ provider.webhookSecret, secret ≠ ""
  unforged : ∀ provider, getProvider name s = .ok provider →
    ∀ endpoint : Webhooks.Endpoint, endpoint.providerName = name →
      ∀ known : Set String, (∀ secret ∈ s.secrets, secret ∉ known) → ∀ headers rawBody,
        signing.makes known rawBody (((Webhooks.lowerHeaders headers).lookup "stripe-signature").getD "") →
          provider.verifyWebhook (Webhooks.lowerHeaders headers) rawBody = false

-- What the check at boot leaves out.
def Complete (s : Settings) (name : String) : Prop :=
  (name = "stripe" → s.stripeWebhookSecret ≠ "") ∧
  (name = "paypal" → s.paypalMode = "sandbox" ∨ s.paypalMode = "live") ∧
  (name = "mpesa" → s.mpesaEnvironment = "sandbox" ∨ s.mpesaEnvironment = "production")

variable {signing : Signing} {s : Settings}

-- A rail that refuses every webhook only has to be built.
theorem sufficient_of_refusing {name : String} {provider : Provider} (h : getProvider name s = .ok provider)
    (hrefuses : ∀ headers rawBody, provider.verifyWebhook headers rawBody = false) :
    Sufficient signing s name := by
  refine ⟨⟨provider, h⟩, fun provider' h' => ?_, fun provider' h' => ?_⟩
  · obtain rfl := Except.ok.inj (h.symm.trans h')
    rintro ⟨headers, rawBody, hverify⟩
    rw [hrefuses headers rawBody] at hverify
    cases hverify
  · obtain rfl := Except.ok.inj (h.symm.trans h')
    intro _ _ _ _ headers rawBody _
    exact hrefuses _ rawBody

theorem sufficient_test : Sufficient signing s "test" := by
  refine ⟨⟨.test, rfl⟩, fun provider h _ => ?_, fun provider h endpoint hname => ?_⟩
  · cases h
    exact ⟨"test-signature", rfl, by decide⟩
  · -- no route leads to this rail
    cases endpoint <;> exact absurd hname (by decide)

theorem stripe_build (himport : Platform.stripeImportable = true) (henabled : s.stripeEnabled = true)
    (hgiven : Settings.given s.stripeSecretKey = true) : getProvider "stripe" s = .ok (.stripe s) := by
  simp [getProvider, StripeProvider.build, henabled, hgiven, himport, Except.map]

theorem sufficient_stripe (hknown : signing.EmptyKnown) (hbuild : getProvider "stripe" s = .ok (.stripe s)) :
    Sufficient signing s "stripe" ↔ s.stripeWebhookSecret ≠ "" := by
  constructor
  · intro h hempty
    obtain ⟨rawBody, signature, event, -, hevent⟩ := hknown ∅
    have hverify : StripeProvider.verifyWebhook s [("stripe-signature", signature)] rawBody = true := by
      simp [StripeProvider.verifyWebhook, hempty, hevent]
    obtain ⟨secret, hsecret, hne⟩ := h.secret _ hbuild ⟨_, _, hverify⟩
    cases hsecret
    exact hne hempty
  · intro hsecret
    refine ⟨⟨_, hbuild⟩, fun provider h _ => ?_, fun provider h _ _ known hknown headers rawBody hmakes => ?_⟩
    · obtain rfl := Except.ok.inj (hbuild.symm.trans h)
      exact ⟨_, rfl, hsecret⟩
    · obtain rfl := Except.ok.inj (hbuild.symm.trans h)
      show StripeProvider.verifyWebhook s _ _ = false
      unfold StripeProvider.verifyWebhook
      split
      · next event hevent =>
          have hmem : s.stripeWebhookSecret ∈ s.secrets := by simp [Settings.secrets]
          exact absurd (signing.needs_secret hmakes hevent hsecret) (hknown _ hmem)
      · rfl

-- A rail that refuses every webhook and looks up its address when it is built.
theorem sufficient_address {name : String} {address : Except Exn String} {make : String → Provider}
    (hbuild : getProvider name s = address.map make)
    (hrefuses : ∀ base headers rawBody, (make base).verifyWebhook headers rawBody = false) :
    Sufficient signing s name ↔ ∃ base, address = .ok base := by
  constructor
  · intro h
    obtain ⟨provider, hprovider⟩ := h.builds
    rw [hbuild] at hprovider
    cases address with
    | ok base => exact ⟨base, rfl⟩
    | error error => cases hprovider
  · rintro ⟨base, rfl⟩
    exact sufficient_of_refusing hbuild (hrefuses base)

theorem sufficient_paypal (henabled : s.paypalEnabled = true)
    (hgiven : (Settings.given s.paypalClientId && Settings.given s.paypalClientSecret) = true) :
    Sufficient signing s "paypal" ↔ s.paypalMode = "sandbox" ∨ s.paypalMode = "live" := by
  have hbuild : getProvider "paypal" s = (PayPalProvider.paypalApi s.paypalMode).map (.paypal s) := by
    show (PayPalProvider.build s).map _ = _
    rw [PayPalProvider.build, henabled, hgiven]
    rfl
  rw [sufficient_address hbuild fun _ _ _ => rfl]
  unfold PayPalProvider.paypalApi
  by_cases hsandbox : s.paypalMode = "sandbox"
  · simp [hsandbox]
  · by_cases hlive : s.paypalMode = "live" <;> simp [hsandbox, hlive]

theorem sufficient_mpesa (henabled : s.mpesaEnabled = true)
    (hgiven : (Settings.given s.mpesaConsumerKey && Settings.given s.mpesaConsumerSecret &&
      Settings.given s.mpesaShortcode && Settings.given s.mpesaPasskey) = true) :
    Sufficient signing s "mpesa" ↔ s.mpesaEnvironment = "sandbox" ∨ s.mpesaEnvironment = "production" := by
  have hbuild : getProvider "mpesa" s = (MpesaProvider.darajaHost s.mpesaEnvironment).map (.mpesa s) := by
    show (MpesaProvider.build s).map _ = _
    rw [MpesaProvider.build, henabled, hgiven]
    rfl
  rw [sufficient_address hbuild fun _ _ _ => rfl]
  unfold MpesaProvider.darajaHost
  by_cases hsandbox : s.mpesaEnvironment = "sandbox"
  · simp [hsandbox]
  · by_cases hproduction : s.mpesaEnvironment = "production" <;> simp [hsandbox, hproduction]

theorem sufficient_btc (henabled : s.btcEnabled = true) (hgiven : Settings.given s.btcApiKey = true) :
    Sufficient signing s "btc" := by
  have hbuild : getProvider "btc" s = .ok (.btc s) := by
    show (BtcProvider.build s).map _ = _
    rw [BtcProvider.build, henabled, hgiven]
    rfl
  exact sufficient_of_refusing hbuild fun _ _ => rfl

-- A configuration that boots is good enough for an available rail exactly when what
-- the check leaves out happens to be in order.
theorem boot_validation (signing : Signing) (settings : AcceptedSettings)
    (himport : Platform.stripeImportable = true) {name : String}
    (hempty : name = "stripe" → signing.EmptyKnown) (hname : name ∈ availableProviders settings.settings) :
    Sufficient signing settings.settings name ↔ Complete settings.settings name := by
  obtain ⟨hstripe, hpaypal, hmpesa, hbtc⟩ := credentials_given settings.accepted
  unfold Complete
  rcases mem_availableProviders.mp hname with ⟨rfl, -⟩ | ⟨rfl, henabled⟩ | ⟨rfl, henabled⟩ | ⟨rfl, henabled⟩ |
    ⟨rfl, henabled⟩
  · simpa using sufficient_test
  · simpa using sufficient_stripe (hempty rfl) (stripe_build himport henabled (hstripe henabled))
  · simpa using sufficient_paypal henabled (hpaypal henabled)
  · simpa using sufficient_mpesa henabled (hmpesa henabled)
  · simpa using sufficient_btc henabled (hbtc henabled)

end

namespace Trial.Signed

-- The signature of the same event under the empty secret.
def emptySignature : String :=
  "t=1750000000,v1=ea8bac7cce5ecd1fe766b59f4a24c09786c677edc179c7b88f24fb9dc08459d4"

scoped instance : Platform := { Trial.instPlatform with
  constructEvent := fun body signature secret =>
    if (signature = eventSignature ∧ secret = webhookSecret) ∨ (signature = emptySignature ∧ secret = "") then
      Trial.loads body
    else .error ⟨.other, "No signatures found matching the expected signature for payload"⟩ }

def signing : Signing where
  makes known body signature :=
    (body = eventBody ∧ signature = emptySignature) ∨ (signature = eventSignature ∧ webhookSecret ∈ known)
  needs_secret {known body signature secret event} hmakes hevent hne := by
    have hopens : (signature = eventSignature ∧ secret = webhookSecret) ∨
        (signature = emptySignature ∧ secret = "") := by
      by_contra hopens
      simp only [Platform.constructEvent, if_neg hopens] at hevent
      cases hevent
    rcases hopens with ⟨rfl, rfl⟩ | ⟨-, hempty⟩
    · rcases hmakes with ⟨-, hsame⟩ | ⟨-, hmem⟩
      · exact absurd hsame (by decide)
      · exact hmem
    · exact absurd hempty hne

theorem signing_emptyKnown : signing.EmptyKnown :=
  fun _ => ⟨eventBody, emptySignature, eventJson, .inl ⟨rfl, rfl⟩, by decide +kernel⟩

-- Stripe is switched on, and nobody has set the secret of its webhooks.
def unsetSettings : AcceptedSettings where
  settings := { secretKey := secretKey, stripeEnabled := true, stripeSecretKey := "sk_test" }
  accepted := rfl

-- A PayPal mode that nobody knows.
def misspelledSettings : AcceptedSettings where
  settings := {
    secretKey := secretKey, paypalEnabled := true, paypalClientId := "client",
    paypalClientSecret := "client-secret", paypalMode := "production" }
  accepted := rfl

end Trial.Signed

open Trial.Signed

theorem boot_validation_stripe : "stripe" ∈ availableProviders Trial.settings.settings ∧
    Sufficient signing Trial.settings.settings "stripe" := by
  have hname : "stripe" ∈ availableProviders Trial.settings.settings := by decide
  refine ⟨hname, (boot_validation signing Trial.settings rfl (fun _ => signing_emptyKnown) hname).mpr
    ⟨fun _ => ?_, ?_, ?_⟩⟩
  · decide
  · decide
  · decide

-- Both boot. Under the first whoever signs with the empty secret is believed, and
-- under the second the rail cannot be built.
theorem accepted_settings_insufficient : "stripe" ∈ availableProviders unsetSettings.settings ∧
    getProvider "stripe" unsetSettings.settings = .ok (.stripe unsetSettings.settings) ∧
    Provider.verifyWebhook (.stripe unsetSettings.settings)
      (Webhooks.lowerHeaders [("Stripe-Signature", emptySignature)]) Trial.eventBody = true ∧
    signing.makes ∅ Trial.eventBody emptySignature ∧
    ¬ Sufficient signing unsetSettings.settings "stripe" ∧
    "paypal" ∈ availableProviders misspelledSettings.settings ∧
    (∃ error, getProvider "paypal" misspelledSettings.settings = .error error) ∧
    ¬ Sufficient signing misspelledSettings.settings "paypal" := by
  have hstripe := @stripe_build _ unsetSettings.settings rfl rfl (by decide)
  have hpaypal : ∃ error, getProvider "paypal" misspelledSettings.settings = .error error := ⟨_, rfl⟩
  refine ⟨by decide, hstripe, by decide +kernel, .inl ⟨rfl, rfl⟩, fun h => ?_, by decide, hpaypal, fun h => ?_⟩
  · exact (sufficient_stripe signing_emptyKnown hstripe).mp h rfl
  · obtain ⟨error, herror⟩ := hpaypal
    obtain ⟨provider, hprovider⟩ := h.builds
    cases herror.symm.trans hprovider

end BridgeOfHope
