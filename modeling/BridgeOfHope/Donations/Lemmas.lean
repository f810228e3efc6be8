import BridgeOfHope.Conduct.Lemmas

namespace BridgeOfHope

open Process Payments

namespace Payments.TestProvider

@[simp] theorem item_event_id (token eventType subject : String) (time : Time) :
    (syntheticPayload token eventType subject time).item "event_id" = .ok (.str ("test_evt_" ++ token)) :=
  rfl

@[simp] theorem item_event_type (token eventType subject : String) (time : Time) :
    (syntheticPayload token eventType subject time).item "event_type" = .ok (.str eventType) := rfl

end Payments.TestProvider

-- Only the columns that differ are written, which comes to the same.
theorem Donor.setAll_consent (donor : Donor) (source : String) (time : Time) :
    donor.setAll (donor.changes (Donations.consentColumns source time)) =
      donor.setAll (Donations.consentColumns source time) := by
  cases donor
  simp only [Donor.changes, Donations.consentColumns, Donor.set, List.filter_cons, List.filter_nil]
  split <;> split <;> split <;> simp_all [Donor.setAll, Donor.set]

variable [Platform] {request : Request} {s : Session}

namespace Donations

variable {before : Session → Op → Prop}

-- The event of a payment on the test rail and its donation, and what follows them.
def settlement (eventType subject : String) (args : Json → DonationArgs) (tail : Act Unit) : Act Unit := do
  let payload ← TestProvider.syntheticEvent eventType subject
  let (event, isNew) ← Ledger.recordWebhookEvent {
    provider := "test"
    providerEventId := ← Prog.ofExcept (payload.item "event_id")
    eventType := ← Prog.ofExcept (payload.item "event_type")
    payload := payload
    signatureValid := true }
  if isNew then
    let _ ← Ledger.recordDonation (args payload)
    Ledger.markEventProcessed event none
    tail

-- The event of a payment on the test rail and its donation, up to the point
-- where both are recorded. Nothing happens when the event id is taken.
theorem obeys_settlement (hwrites : FreeToWrite before) {eventType subject : String}
    {args : Json → DonationArgs} {tail : Act Unit} {after : Session → Except Exn Unit → Prop}
    (hevent : ∀ s', ∀ token ∈ s'.drawn, s.Writes s' [] → s'.unflushed = [] →
      before s' (.query (.eventByProviderEventId ("test_evt_" ++ token))))
    (hdonation : ∀ s' event payload, s.Writes s' [.insertWebhookEvent event] → s'.unflushed = [] →
      before s' (.query (.donationByProviderPaymentId (args payload).providerPaymentId)))
    (hseen : ∀ s' providerEventId row, s.Writes s' [] → s'.Read (.eventByProviderEventId providerEventId) row →
      after s' (.ok ()))
    (hnew : ∀ s' (x : Settlement), x.Synthetic eventType subject s' → x.args = args x.event.payload →
      s.Writes s' x.stmts → tail.Obeys client before after s')
    (herr : ∀ s' error, s.Extends s' → s'.broken = true → after s' (.error error)) :
    (settlement eventType subject args tail).Obeys client before after s := by
  have hfree := hwrites.toFree
  refine obeys_seq (obeys_seq (obeys_tokenHex hfree fun s₁ token h₁ htoken _ => obeys_seq
    (obeys_now hfree fun s₂ time h₂ => ?_)))
  refine obeys_seq (obeys_ofExcept ?_)
  rw [TestProvider.item_event_id]
  refine obeys_seq (obeys_ofExcept ?_)
  rw [TestProvider.item_event_type]
  have h := h₁.trans_nil h₂
  refine obeys_seq (Ledger.obeys_recordWebhookEvent hfree rfl
    (fun s' h' hu _ => hevent s' token (Session.drawn_mono (h₂.past.trans h'.past) htoken) (h.trans_nil h') hu)
    (fun s' _ _ _ _ _ _ => hwrites.push s' _) ?_ ?_ fun s' error h' hcause => ?_)
  · intro s₃ row h₃ hread
    exact hseen s₃ _ row (h.trans_nil h₃) hread
  · intro s₃ eventType id receivedAt htype h₃ _
    cases htype
    have hs₃ := h.nil_trans h₃
    refine obeys_seq (Ledger.obeys_recordDonation hwrites
      (fun s' h' hu => hdonation s' _ _ (hs₃.trans_nil h') hu) ?_
      fun s' error h' hb => herr s' error (hs₃.toExtends.trans h') hb)
    intro s₄ donation inserted h₄ hfound
    have hs₄ := hs₃.trans h₄
    refine obeys_seq (Ledger.obeys_markEventProcessed hfree (fun s' _ _ => hwrites.push s' _) ?_
      fun s' error h' hb => herr s' error (hs₄.toExtends.trans h') hb)
    intro s₅ time₅ h₅
    refine hnew s₅ ⟨_, _, inserted, time₅⟩ ⟨?_, fun hnone => ?_⟩ rfl (hs₄.trans h₅)
    · have hpast : s₁.past <:+ s₅.past := (h₂.past.trans h₃.past).trans (h₄.past.trans h₅.past)
      exact ⟨token, Session.drawn_mono hpast htoken, time, id, receivedAt, rfl⟩
    · obtain ⟨row, hrow⟩ := hfound hnone
      exact ⟨row, hrow.mono h₅.past⟩
  · refine herr s' error (h.toExtends.trans h') (hcause.resolve_right fun hfailed => ?_)
    simp [Json.text] at hfailed

-- The donor of a give request, before and after the consent is recorded.
theorem obeys_giver {β : Type} (hfree : Free before) {payload : DonorPayload} {consent : Bool}
    {source : String} {rest : Donor → Act β} {after : Session → Except Exn β → Prop}
    (hinsert : ∀ s' id, s.Writes s' [] → ⟨.query (.donorByEmail payload.email), .ok []⟩ ∈ s'.past →
      before s' (.push (.insertDonor (newDonor payload id))))
    (hupdate : ∀ s' id columns, before s' (.push (.updateDonor id columns)))
    (hquery : ∀ s', s.Writes s' [] → s'.unflushed = [] → before s' (.query (.donorByEmail payload.email)))
    (hok : ∀ s' (step : DonorStep) (donor : Donor), step.From payload s' → donor.id = step.row.id →
      donor.email = step.row.email → s.Writes s' step.stmts → (rest donor).Obeys client before after s')
    (herr : ∀ s' error, s.Extends s' → s'.broken = true → after s' (.error error)) :
    (do let donor ← getOrCreateDonor payload
        if consent then
          let donor ← recordConsent donor source
          rest donor
        else
          let donor ← pure donor
          rest donor : Act β).Obeys client before after s := by
  have hconsent (s₁ : Session) (row : Donor) (isNew : Bool)
      (hfrom : ∀ columns, DonorStep.From ⟨row, isNew, columns⟩ payload s₁)
      (h : s.Writes s₁ (if isNew then [.insertDonor row] else [])) :
      (if consent then do let donor ← recordConsent row source; rest donor
        else do let donor ← pure row; rest donor : Act β).Obeys client before after s₁ := by
    split
    · refine obeys_seq (obeys_seq (obeys_now hfree fun s₂ time h₂ => obeys_seq
        (obeys_add (hupdate _ _ _) fun s₃ h₃ => ?_)))
      have hs : s₁.Writes s₃ _ := h₂.nil_trans h₃
      exact hok s₃ ⟨row, isNew, some _⟩ _ ((hfrom _).mono hs.past) (by simp) (by simp) (h.trans hs)
    · exact hok s₁ ⟨row, isNew, none⟩ _ (hfrom none) rfl rfl (by simpa [DonorStep.stmts] using h)
  refine obeys_seq (obeys_seq (obeys_scalar hfree (fun s' h hu _ => hquery s' h hu) ?_ ?_
    herr))
  · intro s₁ h₁ hmissing
    refine obeys_seq (obeys_uuid7 hfree fun s₂ id h₂ => obeys_seq
      (obeys_add (hinsert s₂ id (h₁.trans_nil h₂) (h₂.past.subset hmissing)) fun s₃ h₃ => ?_))
    have h := h₁.nil_trans (h₂.nil_trans h₃)
    refine obeys_seq (obeys_flush hfree (fun s₄ h₄ _ _ => ?_)
      fun s' error h' hb => herr s' error (h.toExtends.trans h') hb)
    exact hconsent s₄ _ true (fun _ => .inr ⟨rfl, id, rfl⟩) (h.trans_nil h₄)
  · intro s₁ row rows h₁ hrow _
    exact hconsent s₁ row false (fun _ => .inl ⟨rfl, _, hrow, List.mem_cons_self⟩) h₁

theorem selectProvider_eq {name : String} {settings : Settings} {provider : Provider}
    (h : getProvider name settings = .ok provider) : selectProvider name settings = Prog.ret provider := by
  unfold selectProvider
  rw [h]
  rfl

-- A rail that was not built is told to the client, and nothing has happened by then.
theorem selectProvider_cases (name : String) (settings : Settings) :
    (∃ provider, getProvider name settings = .ok provider ∧ selectProvider name settings = Prog.ret provider) ∨
      ∃ error, selectProvider name settings = Prog.raise error := by
  cases hprovider : getProvider name settings with
  | ok provider => exact .inl ⟨provider, rfl, selectProvider_eq hprovider⟩
  | error error =>
      unfold selectProvider
      rw [hprovider]
      by_cases hclass : error.cls = .providerNotConfigured
      · exact .inr ⟨_, if_pos hclass⟩
      · exact .inr ⟨_, if_neg hclass⟩

theorem obeys_selectProvider {name : String} {settings : Settings}
    {after : Session → Except Exn Provider → Prop}
    (hok : ∀ provider, getProvider name settings = .ok provider → after s (.ok provider))
    (herr : ∀ error, after s (.error error)) :
    (selectProvider name settings).Obeys client before after s := by
  rcases selectProvider_cases name settings with ⟨provider, hprovider, hselect⟩ | ⟨error, hselect⟩
  · rw [hselect]
    exact hok provider hprovider
  · rw [hselect]
    exact herr error

-- The unwritten rows of a donor and a subscription hide no event and no donation.

theorem permits_eventLookup (hwebhook : request.isWebhook = false) {stmts : List Stmt}
    (htargets : ∀ stmt ∈ stmts, stmt.target = .donors ∨ stmt.target = .subscriptions)
    (hs : Session.Writes {} s stmts) {s' : Session} (h : s.Writes s' []) (hu : s'.unflushed = [])
    (providerEventId : String) : Permits request s' (.query (.eventByProviderEventId providerEventId)) := by
  refine ⟨fun stmt hstmt => ?_, by simp [Asks, hwebhook]⟩
  rw [h.flushed hu, hs.pending, List.append_nil] at hstmt
  rcases htargets stmt hstmt with htarget | htarget
  · rw [htarget]
    exact Table.noConfusion
  · rw [htarget]
    exact Table.noConfusion

theorem permits_donationLookup {stmts : List Stmt}
    (htargets : ∀ stmt ∈ stmts, stmt.target = .donors ∨ stmt.target = .subscriptions)
    (hs : Session.Writes {} s stmts) {s' : Session} {event : WebhookEvent}
    (h : s.Writes s' [.insertWebhookEvent event]) (hu : s'.unflushed = []) {token providerPaymentId : String}
    (htoken : token ∈ s.drawn)
    (hid : providerPaymentId = "test_pay_" ++ token ∨ providerPaymentId = "test_sub_" ++ token ++ "_initial") :
    Permits request s' (.query (.donationByProviderPaymentId providerPaymentId)) := by
  refine ⟨fun stmt hstmt => ?_, (hs.trans h).committed, token, Session.drawn_mono h.past htoken, hid⟩
  rw [h.flushed hu, hs.pending] at hstmt
  rcases List.mem_append.mp hstmt with hstmt | hstmt
  · rcases htargets stmt hstmt with htarget | htarget
    · rw [htarget]
      exact Table.noConfusion
    · rw [htarget]
      exact Table.noConfusion
  · rw [List.mem_singleton.mp hstmt]
    exact Table.noConfusion

theorem settleOneOff_obeys {settings : Settings} {body : OneOffCreate} {donor : Donor}
    {result : OneOffResult} {step : DonorStep} {token : String}
    (hrequest : request.endpoint = .oneOff body) (hfrom : step.From body.donor s)
    (hid : donor.id = step.row.id) (hemail : donor.email = step.row.email)
    (hs : Session.Writes {} s step.stmts) (htoken : token ∈ s.drawn)
    (hresult : result.providerPaymentId = .str ("test_pay_" ++ token))
    {after : Session → Except Exn Unit → Prop}
    (hok : ∀ s' settlement, Ready request s' (.oneOff step settlement) → after s' (.ok ()))
    (herr : ∀ s' error, Session.Extends {} s' → after s' (.error error)) :
    (settleOneOff settings body donor result).Obeys client (Permits request) after s := by
  have hwebhook : request.isWebhook = false := by simp [Request.isWebhook, hrequest]
  have hfree := free_permits request
  have hready {s' : Session} {settlement : Option Settlement}
      (h : s.Writes s' (settlement.toList.flatMap Settlement.stmts))
      (hsettled : ∀ x ∈ settlement, ∃ token ∈ s'.drawn,
        x.args = oneOffArgs body step.row.id ("test_pay_" ++ token) x.event.payload ∧
          x.Synthetic "payment.succeeded" ("test_pay_" ++ token) s') :
      Ready request s' (.oneOff step settlement) := by
    have h' := hs.trans h
    refine ⟨?_, h'.committed, h'.broken, .oneOff hrequest (hfrom.mono h.past) hsettled, ?_⟩
    · rw [h'.pending]; rfl
    · simp [show s'.sent = [] from h'.sent]
  have htargets (stmt : Stmt) (hstmt : stmt ∈ step.stmts) :
      stmt.target = .donors ∨ stmt.target = .subscriptions :=
    .inl (DonorStep.target_stmts hstmt)
  unfold settleOneOff
  rw [hresult]
  refine obeys_seq (obeys_ofExcept (obeys_settlement (permits_writes hwebhook) ?_ ?_
    (fun s' _ _ h _ => ?_) ?_ fun s' error h _ => herr s' error (hs.toExtends.trans h)))
  · intro s' token' _ h hu
    exact permits_eventLookup hwebhook htargets hs h hu _
  · intro s' event payload h hu
    exact permits_donationLookup htargets hs h hu htoken (.inl rfl)
  · exact hok s' none (hready h (by simp))
  · intro s' x hx hargs h
    have hr : Ready request s' (.oneOff step (some x)) := by
      refine hready (by simpa using h) fun y hy => ?_
      cases hy
      exact ⟨token, Session.drawn_mono h.past htoken, by rw [hargs, hid]; rfl, hx⟩
    have hs' := hs.trans h
    refine obeys_seq (obeys_ofExcept ?_)
    cases hamount : statedAmount body.currency body.amountMinor with
    | error error => exact herr s' error hs'.toExtends
    | ok amount =>
        refine obeys_seq (obeys_now hfree fun s₂ time h₂ => ?_)
        refine obeys_sendEmail (hr.mono h₂) (hs'.trans h₂).sent (fun mail hto hmail => ?_)
          (fun s₃ h₃ _ _ => hok s₃ _ h₃) fun s₃ error h₃ => herr s₃ error ?_
        · have hid : x.args.providerPaymentId = "test_pay_" ++ token := by rw [hargs]
          exact .receipt hrequest (hto.trans hemail) hamount (hid ▸ hmail)
        · exact (hs'.toExtends.trans h₂.toExtends).trans h₃

theorem createOneOff_obeys {body : OneOffCreate} (hrequest : request.endpoint = .oneOff body) :
    (createOneOff request.settings.settings body).Obeys client (Permits request) (Concludes request)
      {} := by
  have hfree := free_permits request
  have hwebhook : request.isWebhook = false := by simp [Request.isWebhook, hrequest]
  have hwrites := permits_writes hwebhook
  have herr (s' : Session) (error : Exn) (h : Session.Extends {} s') :
      Concludes request s' (.error error) := concludes_error hwebhook error h.sent
  refine obeys_seq (obeys_selectProvider (fun provider _ => ?_) fun error => herr _ error (.refl _))
  refine obeys_giver hfree (fun s' id _ _ => hwrites.push s' _) (fun s' _ _ => hwrites.push s' _)
    (fun s' h hu => ?_) (fun s₁ step donor hfrom hid hemail h₁ => ?_) fun s' error h _ => herr s' error h
  · exact ⟨by simp [h.flushed hu, Session.pending], trivial⟩
  have hfinish (s₂ : Session) (settlement : Option Settlement) (result : OneOffResult)
      (hready : Ready request s₂ (.oneOff step settlement))
      (hresponse : s₂.sent = [] ∨ ∃ response, oneOffResponse result = .ok response) :
      (do commit
          let response ← Prog.ofExcept (oneOffResponse result)
          return ⟨200, .oneOff response⟩ : Act Response).Obeys client (Permits request)
        (Concludes request) s₂ := by
    refine obeys_seq (obeys_commit_ready _ hready (fun s₃ hc hp hsent _ _ => ?_)
      fun s' error hb => concludes_broken error hb)
    refine obeys_seq (obeys_ofExcept ?_)
    cases hr : oneOffResponse result with
    | ok response =>
        refine ⟨fun hne => ?_, hp, by rw [hrequest]; trivial⟩
        obtain ⟨mail, hmail⟩ := List.exists_mem_of_ne_nil _ (hsent ▸ hne)
        rw [hc]
        exact List.append_ne_nil_of_right_ne_nil _ (hready.announced mail hmail).stmts_ne_nil
    | error error =>
        refine concludes_error hwebhook error (hsent.trans (hresponse.resolve_right ?_))
        rw [hr]
        simp
  have hplain (s₂ : Session) (result : OneOffResult) (h : s₁.Writes s₂ []) :
      (do commit
          let response ← Prog.ofExcept (oneOffResponse result)
          return ⟨200, .oneOff response⟩ : Act Response).Obeys client (Permits request)
        (Concludes request) s₂ := by
    have hs := h₁.trans_nil h
    refine hfinish s₂ none result ⟨?_, hs.committed, hs.broken, ?_, ?_⟩ (.inl hs.sent)
    · rw [hs.pending]; simp [Session.pending, Transaction.stmts]
    · exact .oneOff hrequest (hfrom.mono h.past) (by simp)
    · simp [show s₂.sent = [] from hs.sent]
  cases provider with
  | test =>
      refine obeys_seq (obeys_seq (obeys_tokenHex hfree fun s₂ token h₂ htoken _ => ?_))
      refine obeys_seq (settleOneOff_obeys hrequest (hfrom.mono h₂.past) hid hemail (h₁.trans_nil h₂)
        htoken rfl (fun s₃ settlement hready => ?_) herr)
      exact hfinish s₃ settlement _ hready (.inr ⟨_, rfl⟩)
  | stripe _ | paypal _ _ | mpesa _ _ | btc _ =>
      refine obeys_seq (obeys_outer (only_createOneOff _ _) permits_outer fun s₂ result h₂ => ?_)
      cases result with
      | ok result => exact hplain s₂ result h₂
      | error error => exact herr s₂ error (h₁.trans_nil h₂).toExtends

theorem settleSubscription_obeys {settings : Settings} {body : SubscriptionCreate} {donor : Donor}
    {step : DonorStep} {providerSubscriptionId : String} {id : Uuid} {subscription : Subscription}
    (hrequest : request.endpoint = .subscription body) (hfrom : step.From body.donor s)
    (hid : donor.id = step.row.id) (hemail : donor.email = step.row.email)
    (hsubscription : subscription =
      newSubscription body step.row.id .test providerSubscriptionId id)
    (hopened : Opened s subscription)
    (hs : Session.Writes {} s (step.stmts ++ [.insertSubscription subscription]))
    {after : Session → Except Exn Unit → Prop}
    (hok : ∀ s' activation, Ready request s' (.subscribe step subscription activation) →
      after s' (.ok ()))
    (herr : ∀ s' error, Session.Extends {} s' → after s' (.error error)) :
    (settleSubscription settings body donor subscription).Obeys client (Permits request) after s := by
  have hwebhook : request.isWebhook = false := by simp [Request.isWebhook, hrequest]
  have hfree := free_permits request
  have hpayment : subscription.providerSubscriptionId = providerSubscriptionId := by rw [hsubscription]; rfl
  obtain ⟨token, htoken, hpsid⟩ : ∃ token ∈ s.drawn,
      subscription.providerSubscriptionId = "test_sub_" ++ token := by
    unfold Opened at hopened
    rw [hsubscription] at hopened ⊢
    exact hopened.1
  unfold settleSubscription
  refine obeys_seq (Ledger.obeys_activateSubscription (permits_writes hwebhook) (fun s₁ time h₁ => ?_)
    fun s' error h _ => herr s' error (hs.toExtends.trans h))
  have hs₁ := hs.trans h₁
  have htargets (stmt : Stmt) (h : stmt ∈ step.stmts ++ [.insertSubscription subscription] ++
      [.updateSubscription subscription.id
        (subscription.changes (Ledger.activatedColumns subscription time))]) :
      stmt.target = .donors ∨ stmt.target = .subscriptions := by
    simp only [List.append_assoc, List.cons_append, List.nil_append, List.mem_append, List.mem_cons,
      List.not_mem_nil, or_false] at h
    rcases h with h | rfl | rfl
    · exact .inl (DonorStep.target_stmts h)
    · exact .inr rfl
    · exact .inr rfl
  have hready (settlement : Option Settlement) {s' : Session}
      (h : s₁.Writes s' (settlement.toList.flatMap Settlement.stmts))
      (hsettled : ∀ x ∈ settlement,
        x.args = initialArgs body step.row.id subscription x.event.payload ∧
          x.Synthetic "subscription.activated" providerSubscriptionId s') :
      Ready request s' (.subscribe step subscription (some ⟨time, settlement⟩)) := by
    have h' := hs₁.trans h
    have hpast := h₁.past.trans h.past
    refine ⟨?_, h'.committed, h'.broken, ?_, ?_⟩
    · rw [h'.pending]
      simp [Session.pending, Transaction.stmts, Activation.stmts]
    · refine .subscribe hrequest (hfrom.mono hpast) hsubscription (hopened.mono hpast) (by simp) ?_
      rintro a ⟨⟩ x hx
      exact hsettled x hx
    · simp [show s'.sent = [] from h'.sent]
  refine obeys_settlement (permits_writes hwebhook) (fun s' token' _ h hu => ?_)
    (fun s' event payload h hu => ?_)
    (fun s' _ _ h _ => hok s' _ (hready none h (by simp))) (fun s' x hx hargs h => ?_)
    fun s' error h _ => herr s' error (hs₁.toExtends.trans h)
  · exact permits_eventLookup hwebhook htargets hs₁ h hu _
  · exact permits_donationLookup htargets hs₁ h hu (Session.drawn_mono h₁.past htoken) (.inr (hpsid ▸ rfl))
  · have hr := hready (some x) (by simpa using h) (by
      rintro y ⟨⟩
      exact ⟨by rw [hargs, hid]; rfl, hpayment ▸ hx⟩)
    have hs' := hs₁.trans h
    refine obeys_seq (obeys_now hfree fun s₂ now₂ h₂ => obeys_seq (obeys_ofExcept ?_))
    cases statedAmount body.currency body.amountMinor with
    | error error => exact herr s₂ error (hs'.trans h₂).toExtends
    | ok amount =>
        refine obeys_sendEmail (hr.mono h₂) (hs'.trans h₂).sent (fun mail hto hmail => ?_)
          (fun s₃ h₃ _ _ => hok s₃ _ h₃) fun s₃ error h₃ => herr s₃ error ?_
        · exact .signup hrequest (hto.trans hemail) hmail
        · exact (hs'.toExtends.trans h₂.toExtends).trans h₃

-- Only the test rail and Stripe open a subscription, and both were told its amount.
theorem obeys_createSubscription {settings : Settings} {body : SubscriptionCreate} {provider : Provider}
    (hrequest : request.endpoint = .subscription body)
    (hprovider : getProvider body.provider settings = .ok provider)
    {after : Session → Except Exn SubscriptionResult → Prop}
    (hok : ∀ s' result rail, SubscriptionProvider.ofString body.provider = .ok rail →
      (rail = .test ↔ provider = .test) → s.Writes s' [] →
      (∀ donorId id, Opened s' (newSubscription body donorId rail result.providerSubscriptionId id)) →
      after s' (.ok result))
    (herr : ∀ s' error, s.Extends s' → after s' (.error error)) :
    (provider.createSubscription (gift body)).Obeys client (Permits request) after s := by
  rcases getProvider_cases hprovider with ⟨hname, rfl⟩ | ⟨hname, rfl⟩ | ⟨-, -, rfl⟩ | ⟨-, -, rfl⟩ |
    ⟨-, rfl⟩
  · refine obeys_seq (obeys_tokenHex (free_permits request) fun s₁ token h₁ htoken _ => obeys_seq
      ⟨⟨body, hrequest, rfl, rfl, token, htoken, rfl⟩, fun answer _ => ?_⟩)
    have h₂ : s₁.Writes (s₁.update (.record (.testSubscribed ("test_sub_" ++ token)
      (gift body).amountMinor (gift body).currency)) answer) [] := Session.writes_update rfl rfl
    refine hok _ _ .test (by rw [hname]; rfl) (by simp) (h₁.trans_nil h₂) fun donorId id => ?_
    exact ⟨⟨token, Session.drawn_mono h₂.past htoken, rfl⟩, List.mem_cons_self⟩
  · refine obeys_seq ⟨trivial, fun answer _ => obeys_seq (obeys_ofExcept ?_)⟩
    cases answer with
    | ok checkout =>
        refine hok _ _ .stripe (by rw [hname]; rfl) (by simp) (Session.writes_update rfl rfl)
          fun donorId id => ?_
        exact ⟨_, _, List.mem_cons_self, rfl, rfl, rfl⟩
    | error error => exact herr _ error (Session.extends_update rfl rfl)
  · exact herr s _ (.refl s)
  · exact herr s _ (.refl s)
  · exact herr s _ (.refl s)

theorem createSubscription_obeys {body : SubscriptionCreate}
    (hrequest : request.endpoint = .subscription body) :
    (createSubscription request.settings.settings body).Obeys client (Permits request)
      (Concludes request) {} := by
  have hfree := free_permits request
  have hwebhook : request.isWebhook = false := by simp [Request.isWebhook, hrequest]
  have hwrites := permits_writes hwebhook
  have herr (s' : Session) (error : Exn) (h : Session.Extends {} s') :
      Concludes request s' (.error error) := concludes_error hwebhook error h.sent
  refine obeys_seq (obeys_selectProvider (fun provider hprovider => ?_) fun error =>
    herr _ error (.refl _))
  refine obeys_giver hfree (fun s' id _ _ => hwrites.push s' _) (fun s' _ _ => hwrites.push s' _)
    (fun s' h hu => ?_) (fun s₁ step donor hfrom hid hemail h₁ => ?_) fun s' error h _ => herr s' error h
  · exact ⟨by simp [h.flushed hu, Session.pending], trivial⟩
  refine obeys_seq (obeys_createSubscription hrequest hprovider
    (fun s₂ result rail hrail htest h₂ hopened => ?_) fun s' error h => herr s' error
      (h₁.toExtends.trans h))
  refine obeys_seq (obeys_ofExcept ?_)
  rw [hrail]
  refine obeys_seq (obeys_uuid7 hfree fun s₃ id h₃ =>
    obeys_seq (obeys_add (hwrites.push _ _) fun s₄ h₄ => ?_))
  rw [hid] at h₄ ⊢
  have hs₄ := h₁.trans (h₂.nil_trans (h₃.nil_trans h₄))
  refine obeys_seq (obeys_flush hfree (fun s₅ h₅ _ _ => ?_)
    fun s' error h _ => herr s' error (hs₄.toExtends.trans h))
  have hs := hs₄.trans_nil h₅
  have hpast : s₂.past <:+ s₅.past := (h₃.trans h₄).past.trans h₅.past
  have hfrom₅ := hfrom.mono (h₂.past.trans hpast)
  have hopened₅ := (hopened step.row.id id).mono hpast
  have hfinish (s₆ : Session) (activation : Option Activation) (response : Response)
      (hready : Ready request s₆ (.subscribe step (newSubscription body step.row.id rail
        result.providerSubscriptionId id) activation)) :
      (do commit
          return response : Act Response).Obeys client (Permits request) (Concludes request) s₆ := by
    refine obeys_seq (obeys_commit_ready _ hready (fun s₇ hc hp hsent _ _ => ?_)
      fun s' error hb => concludes_broken error hb)
    refine ⟨fun hne => ?_, hp, by rw [hrequest]; trivial⟩
    rw [hc]
    simp [Transaction.stmts]
  cases provider with
  | test =>
      have hrail : rail = .test := htest.mpr rfl
      rw [hrail] at hs hopened₅ hfinish ⊢
      exact obeys_seq (settleSubscription_obeys hrequest hfrom₅ hid hemail rfl hopened₅ hs
        (fun s₆ activation hready => hfinish s₆ activation _ hready) herr)
  | stripe _ | paypal _ _ | mpesa _ _ | btc _ =>
      refine hfinish s₅ none _ ⟨?_, hs.committed, hs.broken, ?_, by
        simp [show s₅.sent = [] from hs.sent]⟩
      · rw [hs.pending]
        simp [Session.pending, Transaction.stmts]
      · exact .subscribe hrequest hfrom₅ rfl hopened₅ (by simp [htest]) (by simp)

end Donations

end BridgeOfHope
