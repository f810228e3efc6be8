import BridgeOfHope.Limits

namespace BridgeOfHope

open Process Payments Donations

-- What becomes of a give request that its rail declines.

def Exn.Declines (error : Exn) : Prop :=
  error.cls = .providerNotConfigured ∨ error.cls = .notImplementedError ∨ error.cls = .valueError

instance : DecidablePred Exn.Declines := fun _ => inferInstanceAs (Decidable (_ ∨ _ ∨ _))

-- A number is refused with a `ValueError`.
theorem normalizePhone_error {raw : String} {error : Exn} (h : normalizePhone raw = .error error) :
    error.cls = .valueError := by
  unfold normalizePhone valueError at h
  grind

-- What a rail raises when it is asked, no handler catches.
theorem respond_of_declines {error : Exn} (h : error.Declines) : (respond (.error error)).status = 500 := by
  unfold Exn.Declines at h
  unfold respond
  grind

section Served

variable [Platform] {world : World} {request : Request} {body : GiveBody} {stripeRaises : Exn → Prop}

def Request.IsGift (request : Request) (body : GiveBody) : Prop :=
  request.endpoint = .oneOff body ∨ request.endpoint = .subscription body

-- A request that is served alone and declined: its rail is not there, or it is asked, once
-- the donor is found or stored, and raises. `stripeRaises` are the errors of
-- `checkout.Session.create`, which the rail lets through.
inductive Declined (stripeRaises : Exn → Prop) (world : World) (request : Request) :
    World × Session → Except Exn Response → Prop
  | unbuilt {body : GiveBody} (hrequest : request.IsGift body) {error : Exn}
      (hbuild : getProvider body.provider request.settings.settings = .error error) (hdeclines : error.Declines)
      {state : World × Session} {result : Except Exn Response}
        (hserves : service.Serves world request state result) :
      Declined stripeRaises world request state result
  | oneOff {body : OneOffCreate} (hrequest : request.endpoint = .oneOff body) {provider : Provider}
      (hbuilt : getProvider body.provider request.settings.settings = .ok provider)
        {mid state : World × Session} {donor : Donor}
      (hgiver : (giver body.donor body.consent "give_form_oneoff").Exec service.alone (world, {})
        mid (.ok donor))
      {error : Exn} (hasked : (provider.createOneOff (gift body)).Exec service.alone mid state (.error error))
      (hlibrary : ∀ settings, provider = .stripe settings → stripeRaises error)
      (hdeclines : error.Declines) : Declined stripeRaises world request state (.error error)
  | subscription {body : SubscriptionCreate} (hrequest : request.endpoint = .subscription body)
    {provider : Provider}
      (hbuilt : getProvider body.provider request.settings.settings = .ok provider)
        {mid state : World × Session} {donor : Donor}
      (hgiver : (giver body.donor body.consent "give_form_monthly").Exec service.alone (world, {})
        mid (.ok donor))
      {error : Exn} (hasked : (provider.createSubscription (gift body)).Exec service.alone mid state
        (.error error))
      (hlibrary : ∀ settings, provider = .stripe settings → stripeRaises error)
      (hdeclines : error.Declines) : Declined stripeRaises world request state (.error error)

-- Such a request is one that is served.
theorem Declined.serves {state : World × Session} {result : Except Exn Response}
    (h : Declined stripeRaises world request state result) :
    service.Serves world request state result := by
  cases h with
  | unbuilt _ _ _ hserves => exact hserves
  | oneOff hrequest hbuilt hgiver hasked _ _ =>
      show request.handler.Exec service.alone (world, {}) state _
      rw [Request.handler_oneOff hrequest, createOneOff_eq, selectProvider_eq hbuilt]
      refine Prog.exec_bind.mpr (.inl ⟨_, _, .ret _ _, ?_⟩)
      refine Prog.exec_bind.mpr (.inl ⟨_, _, hgiver, ?_⟩)
      exact Prog.exec_bind.mpr (.inr ⟨_, hasked, rfl⟩)
  | subscription hrequest hbuilt hgiver hasked _ _ =>
      show request.handler.Exec service.alone (world, {}) state _
      rw [Request.handler_subscription hrequest, createSubscription_eq, selectProvider_eq hbuilt]
      refine Prog.exec_bind.mpr (.inl ⟨_, _, .ret _ _, ?_⟩)
      refine Prog.exec_bind.mpr (.inl ⟨_, _, hgiver, ?_⟩)
      exact Prog.exec_bind.mpr (.inr ⟨_, hasked, rfl⟩)

-- Of what `get_provider` raises, only one class says that the rail declines.
theorem getProvider_error {name : String} {settings : Settings} {error : Exn}
    (h : getProvider name settings = .error error) :
    error.cls = .providerNotConfigured ∨ error.cls = .moduleNotFoundError ∨ error.cls = .keyError := by
  have hbuild {α : Type} {build : Except Exn α} {provider : α → Provider}
      (h : build.map provider = .error error) :
      build = .error error := by
    cases build with
    | ok value => simp [Except.map] at h
    | error raised => simpa [Except.map] using h
  unfold getProvider at h
  split at h
  · cases h
  · have hstripe := hbuild h
    unfold StripeProvider.build notConfigured at hstripe
    grind
  · have hpaypal := hbuild h
    unfold PayPalProvider.build PayPalProvider.paypalApi notConfigured at hpaypal
    grind
  · have hmpesa := hbuild h
    unfold MpesaProvider.build MpesaProvider.darajaHost notConfigured at hmpesa
    grind
  · have hbtc := hbuild h
    unfold BtcProvider.build notConfigured at hbtc
    grind
  · unfold notConfigured at h
    grind

theorem notConfigured_of_declines {name : String} {settings : Settings} {error : Exn}
    (h : getProvider name settings = .error error) (hdeclines : error.Declines) :
    error.cls = .providerNotConfigured := by
  unfold Exn.Declines at hdeclines
  have hraised := getProvider_error h
  grind

-- Asked to take a gift, every rail but the test rail can decline.
theorem exists_declined_oneOff (hstripe : ∃ message, stripeRaises ⟨.valueError, message⟩) {provider : Provider}
    (h : provider ≠ .test) (gift : Gift) (state : World × Session) :
    ∃ state' error, (provider.createOneOff gift).Exec service.alone state state' (.error error) ∧
      (∀ settings, provider = .stripe settings → stripeRaises error) ∧ error.Declines := by
  obtain ⟨message, hmessage⟩ := hstripe
  have hunread (request : HttpRequest) (state : World × Session) :
      service.alone.sound state (.http request)
        (.error ⟨.valueError, "Expecting value: line 1 column 1 (char 0)"⟩) := trivial
  cases provider with
  | test => exact absurd rfl h
  | stripe s =>
      have hcall : service.alone.sound state (.stripeCheckout (StripeProvider.checkout s .payment
        "One-off gift — Bridge of Hope" gift)) (.error ⟨.valueError, message⟩) := trivial
      exact ⟨_, _, .call hcall (.raise _ _), fun _ _ => hmessage, .inr (.inr rfl)⟩
  | paypal s base => exact ⟨_, _, .call (hunread _ _) (.raise _ _), by simp, .inr (.inr rfl)⟩
  | mpesa s host =>
      show ∃ state' error, (MpesaProvider.createOneOff s host gift).Exec _ _ _ _ ∧ _ ∧ _
      unfold MpesaProvider.createOneOff
      by_cases hcurrency : gift.currency ≠ "KES"
      · rw [if_pos hcurrency]
        exact ⟨_, _, .raise _ _, by simp, .inr (.inr rfl)⟩
      · rw [if_neg hcurrency]
        by_cases hphone : gift.donor.phone.getD "" = ""
        · simp only [hphone, if_true]
          exact ⟨_, _, .raise _ _, by simp, .inr (.inr rfl)⟩
        · simp only [hphone, if_false]
          cases hnormal : normalizePhone (gift.donor.phone.getD "") with
          | error error => exact ⟨_, _, .raise _ _, by simp, .inr (.inr (normalizePhone_error hnormal))⟩
          | ok phone =>
              have hclock (state : World × Session) : service.alone.sound state .now (0 : Time) := trivial
              exact ⟨_, _, .call (hclock _) (.call (hunread _ _) (.raise _ _)), by simp, .inr (.inr rfl)⟩
  | btc s => exact ⟨_, _, .raise _ _, by simp, .inl rfl⟩

theorem exists_declined_subscription (hstripe : ∃ message, stripeRaises ⟨.valueError, message⟩)
    {provider : Provider} (h : provider ≠ .test) (gift : Gift) (state : World × Session) :
    ∃ state' error, (provider.createSubscription gift).Exec service.alone state state' (.error error) ∧
      (∀ settings, provider = .stripe settings → stripeRaises error) ∧ error.Declines := by
  obtain ⟨message, hmessage⟩ := hstripe
  cases provider with
  | test => exact absurd rfl h
  | stripe s =>
      have hcall : service.alone.sound state (.stripeCheckout (StripeProvider.checkout s .subscription
        "Monthly gift — Bridge of Hope" gift)) (.error ⟨.valueError, message⟩) := trivial
      exact ⟨_, _, .call hcall (.raise _ _), fun _ _ => hmessage, .inr (.inr rfl)⟩
  | paypal s base => exact ⟨_, _, .raise _ _, by simp, .inl rfl⟩
  | mpesa s host => exact ⟨_, _, .raise _ _, by simp, .inl rfl⟩
  | btc s => exact ⟨_, _, .raise _ _, by simp, .inr (.inl rfl)⟩

-- A donor who has subscribed to the newsletter has a row.
def subscriber (email : String) : Donor :=
  (Content.newSubscriber ⟨email⟩ 0).setAll (Content.newsletterConsent 0)

theorem exists_subscriber (settings : AcceptedSettings) (email : String) :
    ∃ pool, service.Run (fun _ _ => True) ⟨{}, []⟩ pool ∧
      pool.shared.db = { donors := [subscriber email] } := by
  have hflushable : Point.Flushable ⟨{}, [], [.insertDonor (subscriber email)]⟩ :=
    ⟨by simp [Stmt.keys, Donor.keys], by simp [Db.keys], rfl⟩
  have hlookup : Goes (scalar (.donorByEmail email)) ⟨{}, [], []⟩ none ⟨{}, [], []⟩ := goes_select _
  have hsubscribe : Goes (Content.subscribe ⟨email⟩) ⟨{}, [], []⟩ ⟨200, .status "subscribed"⟩
      ⟨{ donors := [subscriber email] }, [], []⟩ :=
    hlookup.bind ((goes_now 0).bind ((goes_uuid7 0).bind ((goes_add _).bind
      ((goes_commit hflushable).bind (goes_ret _)))))
  obtain ⟨state, hexec, hat⟩ := hsubscribe ({}, {}) ⟨rfl, rfl, rfl, rfl⟩
  have hserves : service.Serves {}
      ⟨settings, .newsletterSubscribe ⟨email⟩⟩ state (.ok ⟨200, .status "subscribed"⟩) := hexec
  exact ⟨_, hserves.run, hat.db⟩

-- So the donor is found, and nothing keeps the request from asking its rail.
theorem exists_giver {pool : ServicePool} {payload : DonorPayload}
    (hrun : service.Run (fun _ _ => True) ⟨{}, []⟩ pool)
    (hdb : pool.shared.db = { donors := [subscriber payload.email] }) (consent : Bool) {source : String}
    (hsource : source.length ≤ 120) :
    ∃ state donor, (giver payload consent source).Exec service.alone (pool.shared, {}) state (.ok donor) := by
  have hroom : pool.shared.db.Roomy := by
    rw [hdb]
    exact show 2 < 16 ^ 20 by norm_num
  have hknown : pool.shared.db.KnowsEmail payload.email :=
    ⟨subscriber payload.email, by simp [hdb], rfl⟩
  obtain ⟨donor, point, -, hgiver⟩ := @goes_giver _ _ _ consent _ (reached_healthy hrun hroom)
    (.inl hknown) hsource
  obtain ⟨state, hexec, -⟩ := hgiver (pool.shared, {}) ⟨rfl, rfl, rfl, rfl⟩
  exact ⟨state, donor, hexec⟩

theorem exists_declined (hstripe : ∃ message, stripeRaises ⟨.valueError, message⟩)
    (hrequest : request.IsGift body) {provider : Provider} (htest : provider ≠ .test)
    (hbuilt : getProvider body.provider request.settings.settings = .ok provider) :
    ∃ pool, service.Run (fun _ _ => True) ⟨{}, []⟩ pool ∧
      ∃ state error, Declined stripeRaises pool.shared request state (.error error) ∧ error.Declines := by
  obtain ⟨pool, hrun, hdb⟩ := exists_subscriber request.settings body.donor.email
  refine ⟨pool, hrun, ?_⟩
  rcases hrequest with hrequest | hrequest
  · obtain ⟨mid, donor, hgiver⟩ := exists_giver hrun hdb body.consent
      (show "give_form_oneoff".length ≤ 120 by decide)
    obtain ⟨state, error, hasked, hlibrary, hdeclines⟩ := exists_declined_oneOff hstripe htest (gift body) mid
    exact ⟨state, error, .oneOff hrequest hbuilt hgiver hasked hlibrary hdeclines, hdeclines⟩
  · obtain ⟨mid, donor, hgiver⟩ := exists_giver hrun hdb body.consent
      (show "give_form_monthly".length ≤ 120 by decide)
    obtain ⟨state, error, hasked, hlibrary, hdeclines⟩ := exists_declined_subscription hstripe htest
      (gift body) mid
    exact ⟨state, error, .subscription hrequest hbuilt hgiver hasked hlibrary hdeclines, hdeclines⟩

theorem test_takes_oneOff {gift : Gift} {state state' : World × Session} {error : Exn} :
    ¬ (Provider.test.createOneOff gift).Exec service.alone state state' (.error error) := by
  intro h
  obtain ⟨token, -, hrest⟩ := Prog.exec_call.mp h
  cases hrest

theorem test_takes_subscription {gift : Gift} {state state' : World × Session} {error : Exn} :
    ¬ (Provider.test.createSubscription gift).Exec service.alone state state' (.error error) := by
  intro h
  obtain ⟨token, -, hrecord⟩ := Prog.exec_call.mp h
  obtain ⟨answer, -, hrest⟩ := Prog.exec_call.mp hrecord
  cases hrest

theorem test_of_getProvider {name : String} {settings : Settings} (h : getProvider name settings = .ok .test) :
    name = "test" := by
  have hother {α : Type} {build : Except Exn α} {provider : α → Provider}
      (hne : ∀ value, provider value ≠ .test)
      (h : build.map provider = .ok .test) : name = "test" := by
    cases build with
    | ok value => exact absurd (Except.ok.inj h) (hne value)
    | error error => cases h
  unfold getProvider at h
  split at h
  · rfl
  · exact hother (by simp) h
  · exact hother (by simp) h
  · exact hother (by simp) h
  · exact hother (by simp) h
  · cases h

-- The selection of the rail is the only place from which a gift is declined with 422.
theorem Declined.unbuilt_refused (hrequest : request.IsGift body) {error : Exn}
    (hbuild : getProvider body.provider request.settings.settings = .error error) (hdeclines : error.Declines)
    {state : World × Session} {result : Except Exn Response}
    (hserves : service.Serves world request state result) :
    (respond result).status = 422 ∧ state.1.db = world.db := by
  have hselect : selectProvider body.provider request.settings.settings =
      .raise ⟨.httpException 422, error.message⟩ := by
    unfold selectProvider
    rw [hbuild]
    exact if_pos (notConfigured_of_declines hbuild hdeclines)
  have hraised : state = (world, {}) ∧ result = .error ⟨.httpException 422, error.message⟩ := by
    have hexec : request.handler.Exec service.alone (world, {}) state result := hserves
    rcases hrequest with hrequest | hrequest
    · rw [Request.handler_oneOff hrequest, createOneOff_eq, hselect] at hexec
      exact Prog.exec_raise.mp hexec
    · rw [Request.handler_subscription hrequest, createSubscription_eq, hselect] at hexec
      exact Prog.exec_raise.mp hexec
  rw [hraised.1, hraised.2]
  exact ⟨rfl, rfl⟩

-- A declined gift is a client error without a trace where the rail is not asked at all, or is
-- the test rail, which takes every gift. That Stripe can decline, with a `ValueError`, is
-- what its library is relied on for.
theorem declined_gift (stripeRaises : Exn → Prop) (hstripe : ∃ message, stripeRaises ⟨.valueError, message⟩)
    (request : Request) (body : GiveBody) (hrequest : request.IsGift body) :
    (∀ pool, service.Run (fun _ _ => True) ⟨{}, []⟩ pool → ∀ state result,
      Declined stripeRaises pool.shared request state result →
      (respond result).status = 422 ∧ state.1.db = pool.shared.db) ↔
        body.provider = "test" ∨
          ∃ error, getProvider body.provider request.settings.settings = .error error := by
  constructor
  · intro hall
    cases hbuilt : getProvider body.provider request.settings.settings with
    | error error => exact .inr ⟨error, rfl⟩
    | ok provider =>
        by_cases htest : provider = .test
        · rw [htest] at hbuilt
          exact .inl (test_of_getProvider hbuilt)
        · obtain ⟨pool, hrun, state, error, hdeclined, hdeclines⟩ :=
            exists_declined hstripe hrequest htest hbuilt
          have hrefused := (hall pool hrun state _ hdeclined).1
          rw [respond_of_declines hdeclines] at hrefused
          cases hrefused
  · intro hcondition pool _ state result hdeclined
    have hsame {body' : GiveBody} (h : request.IsGift body') : body' = body := by
      unfold Request.IsGift at h hrequest
      grind
    have hrail {provider : Provider}
        (hbuilt : getProvider body.provider request.settings.settings = .ok provider) :
        provider = .test := by
      rcases hcondition with htest | ⟨error, herror⟩
      · rw [htest] at hbuilt
        exact (Except.ok.inj hbuilt).symm
      · rw [herror] at hbuilt
        cases hbuilt
    cases hdeclined with
    | unbuilt hgift hbuild hdeclines hserves =>
        rw [hsame hgift] at hbuild
        exact Declined.unbuilt_refused hrequest hbuild hdeclines hserves
    | oneOff hgift hbuilt _ hasked _ _ =>
        rw [hsame (.inl hgift)] at hbuilt hasked
        rw [hrail hbuilt] at hasked
        exact absurd hasked test_takes_oneOff
    | subscription hgift hbuilt _ hasked _ _ =>
        rw [hsame (.inr hgift)] at hbuilt hasked
        rw [hrail hbuilt] at hasked
        exact absurd hasked test_takes_subscription

end Served

open Trial

-- PayPal is not enabled there, and says so when it is selected.
theorem declined_gift_disabled :
    (oneOff "paypal" "amina@example.org").IsGift (giveBody "paypal" "amina@example.org") ∧
    ∀ pool, service.Run (fun _ _ => True) ⟨{}, []⟩ pool → ∀ state result,
      Declined (fun error => error.cls = .valueError) pool.shared (oneOff "paypal" "amina@example.org") state
        result → (respond result).status = 422 ∧ state.1.db = pool.shared.db :=
  ⟨.inl rfl, (declined_gift (fun error => error.cls = .valueError) ⟨"", rfl⟩ _
    (giveBody "paypal" "amina@example.org") (.inl rfl)).mpr (.inr ⟨_, rfl⟩)⟩

def mpesaSettings : AcceptedSettings where
  settings := { settings.settings with
    mpesaEnabled := true, mpesaConsumerKey := "key",
    mpesaConsumerSecret := "secret", mpesaShortcode := "174379",
    mpesaPasskey := "passkey" }
  accepted := rfl

-- A gift in dollars is declined by M-Pesa after the donor is written, and nobody
-- turns its `ValueError` into a client error.
theorem dollars_by_mpesa :
    (∃ state, Declined (fun _ => False) {} ⟨mpesaSettings, .oneOff (giveBody "mpesa" "amina@example.org")⟩ state
      (.error ⟨.valueError, "M-Pesa only accepts KES"⟩)) ∧
    ¬ ∀ pool, service.Run (fun _ _ => True) ⟨{}, []⟩ pool → ∀ state result,
      Declined (fun _ => False) pool.shared ⟨mpesaSettings, .oneOff (giveBody "mpesa" "amina@example.org")⟩
        state result →
        (respond result).status = 422 ∧ state.1.db = pool.shared.db := by
  have hdeclined : ∃ state,
      Declined (fun _ => False) {} ⟨mpesaSettings, .oneOff (giveBody "mpesa" "amina@example.org")⟩ state
      (.error ⟨.valueError, "M-Pesa only accepts KES"⟩) := by
    have hempty : Db.Healthy {} := reached_healthy .refl (show (Db.keys {}).length < 16 ^ 20 by decide)
    obtain ⟨donor, point, -, hgoes⟩ := @goes_giver _ _ (donor "amina@example.org") false "give_form_oneoff"
      hempty (.inr (by decide +kernel)) (by decide)
    obtain ⟨state, hgiver, -⟩ := hgoes ({}, {}) ⟨rfl, rfl, rfl, rfl⟩
    exact ⟨state, .oneOff rfl rfl hgiver (.raise _ _) (by simp) (.inr (.inr rfl))⟩
  refine ⟨hdeclined, fun hall => ?_⟩
  obtain ⟨state, hdeclined⟩ := hdeclined
  have hstatus := (hall ⟨{}, []⟩ .refl state _ hdeclined).1
  cases hstatus

end BridgeOfHope
