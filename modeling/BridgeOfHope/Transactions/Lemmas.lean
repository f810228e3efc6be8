import BridgeOfHope.Transactions

namespace BridgeOfHope

open Process Payments Donations

variable {request : Request} {s s' : Session}

theorem DonorStep.target_stmts {step : DonorStep} {stmt : Stmt} (h : stmt ∈ step.stmts) :
    stmt.target = .donors := by
  rcases List.mem_append.mp h with h | h
  · split at h
    · rw [List.mem_singleton.mp h]; rfl
    · cases h
  · obtain ⟨columns, -, rfl⟩ := List.mem_map.mp h
    rfl

-- The event that the test rail makes up for a gift.
theorem Settlement.Synthetic.rows {x : Settlement} {eventType subject : String}
    (h : x.Synthetic eventType subject s) : x.event.Fresh ∧ x.event.provider = "test" ∧
      x.event.eventType = eventType ∧
      x.event.payload.item "event_id" = .ok (.str x.event.providerEventId) ∧
      x.event.payload.item "provider_payment_id" = .ok (.str subject) := by
  obtain ⟨token, -, occurredAt, id, receivedAt, hevent⟩ := h.event
  rw [hevent]
  exact ⟨⟨rfl, rfl, rfl, rfl⟩, rfl, rfl, rfl, rfl⟩

-- Which transactions contain a statement of each kind.

theorem Settlement.mem_stmts {x : Settlement} {stmt : Stmt} : stmt ∈ x.stmts ↔
    stmt = .insertWebhookEvent x.event ∨ (∃ d, x.donation = some d ∧ stmt = .insertDonation d) ∨
      stmt = .updateWebhookEvent x.event.id
        (x.event.changes (Ledger.processedColumns x.event none x.time)) := by
  simp [Settlement.stmts, eq_comm]

theorem Activation.mem_stmts {subscription : Subscription} {a : Activation} {stmt : Stmt} :
    stmt ∈ Activation.stmts subscription a ↔
      stmt = .updateSubscription subscription.id
        (subscription.changes (Ledger.activatedColumns subscription a.time)) ∨
      ∃ x, a.settlement = some x ∧ stmt ∈ x.stmts := by
  simp [Activation.stmts]

namespace Transaction

theorem mem_stmts_oneOff {step : DonorStep} {settlement : Option Settlement} {stmt : Stmt} :
    stmt ∈ (oneOff step settlement).stmts ↔
      stmt ∈ step.stmts ∨ ∃ x, settlement = some x ∧ stmt ∈ x.stmts := by
  simp [stmts]

theorem mem_stmts_subscribe {step : DonorStep} {subscription : Subscription}
    {activation : Option Activation} {stmt : Stmt} :
    stmt ∈ (subscribe step subscription activation).stmts ↔ stmt ∈ step.stmts ∨
      stmt = .insertSubscription subscription ∨
        ∃ a, activation = some a ∧ stmt ∈ Activation.stmts subscription a := by
  simp [stmts]

-- A statement on donations or events belongs to a payment or to a delivery.
theorem ledger_cases {transaction : Transaction} {stmt : Stmt} (h : stmt ∈ transaction.stmts)
    (htarget : stmt.target = .donations ∨ stmt.target = .webhookEvents) :
    (∃ x, transaction.settlement = some x ∧ stmt ∈ x.stmts) ∨
      (∃ event, transaction = .receive (some event) ∧ stmt = .insertWebhookEvent event) ∨
        ∃ event time, transaction = .process event time ∧ stmt = .updateWebhookEvent event.id
          (event.changes (Ledger.processedColumns event none time)) := by
  have hstep {step : DonorStep} (h : stmt ∈ step.stmts) : False := by
    rw [DonorStep.target_stmts h] at htarget
    simp at htarget
  cases transaction with
  | oneOff step settlement =>
      rcases mem_stmts_oneOff.mp h with h | ⟨x, hsettlement, hx⟩
      · exact (hstep h).elim
      · exact .inl ⟨x, hsettlement, hx⟩
  | subscribe step subscription activation =>
      rcases mem_stmts_subscribe.mp h with h | rfl | ⟨a, hactivation, ha⟩
      · exact (hstep h).elim
      · simp [Stmt.target] at htarget
      · rcases Activation.mem_stmts.mp ha with rfl | ⟨x, hsettlement, hx⟩
        · simp [Stmt.target] at htarget
        · exact .inl ⟨x, by simp [settlement, hactivation, hsettlement], hx⟩
  | donor step => exact (hstep h).elim
  | receive event =>
      cases event with
      | none => cases h
      | some event => exact .inr (.inl ⟨event, rfl, List.mem_singleton.mp h⟩)
  | process event time => exact .inr (.inr ⟨event, time, rfl, List.mem_singleton.mp h⟩)
  | changeAmount subscription amountMinor =>
      rw [List.mem_singleton.mp h] at htarget
      simp [Stmt.target] at htarget
  | cancel subscription time =>
      rw [List.mem_singleton.mp h] at htarget
      simp [Stmt.target] at htarget
  | dataRequest row =>
      rw [List.mem_singleton.mp h] at htarget
      simp [Stmt.target] at htarget

theorem donation_cases {transaction : Transaction} {d : Donation}
    (h : .insertDonation d ∈ transaction.stmts) :
    ∃ x, transaction.settlement = some x ∧ x.donation = some d := by
  rcases ledger_cases h (.inl rfl) with ⟨x, hx, hmem⟩ | ⟨event, -, hstmt⟩ | ⟨event, time, -, hstmt⟩
  · rcases Settlement.mem_stmts.mp hmem with hmem | ⟨d', hd, hmem⟩ | hmem
    · cases hmem
    · cases hmem
      exact ⟨x, hx, hd⟩
    · cases hmem
  · cases hstmt
  · cases hstmt

theorem event_cases {transaction : Transaction} {event : WebhookEvent}
    (h : .insertWebhookEvent event ∈ transaction.stmts) :
    (∃ x, transaction.settlement = some x ∧ x.event = event) ∨
      transaction = .receive (some event) := by
  rcases ledger_cases h (.inr rfl) with ⟨x, hx, hmem⟩ | ⟨event', rfl, hstmt⟩ | ⟨event', time, -, hstmt⟩
  · rcases Settlement.mem_stmts.mp hmem with hmem | ⟨d, -, hmem⟩ | hmem
    · cases hmem
      exact .inl ⟨x, hx, rfl⟩
    · cases hmem
    · cases hmem
  · cases hstmt
    exact .inr rfl
  · cases hstmt

theorem subscription_cases {transaction : Transaction} {subscription : Subscription}
    (h : .insertSubscription subscription ∈ transaction.stmts) :
    ∃ step activation, transaction = .subscribe step subscription activation := by
  cases transaction with
  | oneOff step settlement =>
      rcases mem_stmts_oneOff.mp h with h | ⟨x, rfl, hx⟩
      · cases DonorStep.target_stmts h
      · simp [Settlement.mem_stmts] at hx
  | subscribe step subscription' activation =>
      rcases mem_stmts_subscribe.mp h with h | h | ⟨a, rfl, ha⟩
      · cases DonorStep.target_stmts h
      · cases h
        exact ⟨step, activation, rfl⟩
      · simp [Activation.mem_stmts, Settlement.mem_stmts] at ha
  | donor step => cases DonorStep.target_stmts h
  | receive event => cases event <;> simp [stmts] at h
  | _ => simp [stmts] at h

theorem updateSubscription_cases {transaction : Transaction} {id : Uuid}
    {columns : List SubscriptionSet} (h : .updateSubscription id columns ∈ transaction.stmts) :
    (∃ step subscription a, transaction = .subscribe step subscription (some a) ∧
      id = subscription.id ∧
        columns = subscription.changes (Ledger.activatedColumns subscription a.time)) ∨
    (∃ subscription amountMinor, transaction = .changeAmount subscription amountMinor ∧
      id = subscription.id ∧ columns = subscription.changes [.amountMinor amountMinor]) ∨
    ∃ subscription time, transaction = .cancel subscription time ∧ id = subscription.id ∧
      columns = subscription.changes
        (Ledger.cancelledColumns (some Subscriptions.cancelReason) time) := by
  cases transaction with
  | oneOff step settlement =>
      rcases mem_stmts_oneOff.mp h with h | ⟨x, rfl, hx⟩
      · cases DonorStep.target_stmts h
      · simp [Settlement.mem_stmts] at hx
  | subscribe step subscription activation =>
      rcases mem_stmts_subscribe.mp h with h | h | ⟨a, rfl, ha⟩
      · cases DonorStep.target_stmts h
      · cases h
      · rcases Activation.mem_stmts.mp ha with ha | ⟨x, -, hx⟩
        · cases ha
          exact .inl ⟨step, subscription, a, rfl, rfl, rfl⟩
        · simp [Settlement.mem_stmts] at hx
  | changeAmount subscription amountMinor =>
      obtain ⟨rfl, rfl⟩ : id = _ ∧ columns = _ := by simpa [stmts] using h
      exact .inr (.inl ⟨subscription, amountMinor, rfl, rfl, rfl⟩)
  | cancel subscription time =>
      obtain ⟨rfl, rfl⟩ : id = _ ∧ columns = _ := by simpa [stmts] using h
      exact .inr (.inr ⟨subscription, time, rfl, rfl, rfl⟩)
  | donor step => cases DonorStep.target_stmts h
  | receive event => cases event <;> simp [stmts] at h
  | _ => simp [stmts] at h

-- The records of a payment come last, and what is before them is on other tables.
theorem stmts_of_settlement {transaction : Transaction} {x : Settlement}
    (h : transaction.settlement = some x) : ∃ stmts, transaction.stmts = stmts ++ x.stmts ∧
      ∀ stmt ∈ stmts, stmt.target = .donors ∨ stmt.target = .subscriptions := by
  cases transaction with
  | oneOff step settlement =>
      obtain rfl : settlement = some x := h
      refine ⟨step.stmts, by simp [stmts], fun stmt hstmt => .inl (DonorStep.target_stmts hstmt)⟩
  | subscribe step subscription activation =>
      obtain ⟨⟨time, settlement⟩, rfl, rfl⟩ := Option.bind_eq_some_iff.mp h
      refine ⟨step.stmts ++ [.insertSubscription subscription, .updateSubscription subscription.id
        (subscription.changes (Ledger.activatedColumns subscription time))],
        by simp [stmts, Activation.stmts], fun stmt hstmt => ?_⟩
      rcases List.mem_append.mp hstmt with hstmt | hstmt
      · exact .inl (DonorStep.target_stmts hstmt)
      · simp only [List.mem_cons, List.not_mem_nil, or_false] at hstmt
        rcases hstmt with rfl | rfl <;> exact .inr rfl
  | _ => cases h

theorem mem_stmts_of_settlement {transaction : Transaction} {x : Settlement} {stmt : Stmt}
    (h : transaction.settlement = some x) (hstmt : stmt ∈ x.stmts) : stmt ∈ transaction.stmts := by
  obtain ⟨stmts, hstmts, -⟩ := stmts_of_settlement h
  exact hstmts ▸ List.mem_append_right _ hstmt

end Transaction

-- What a session has seen stays seen, so a licence is never lost.

theorem Settlement.Synthetic.mono {x : Settlement} {eventType subject : String}
    (h : x.Synthetic eventType subject s) (hpast : s.past <:+ s'.past) :
    x.Synthetic eventType subject s' := by
  obtain ⟨⟨token, htoken, hevent⟩, hfound⟩ := h
  refine ⟨⟨token, Session.drawn_mono hpast htoken, hevent⟩, fun hnone => ?_⟩
  obtain ⟨row, hrow⟩ := hfound hnone
  exact ⟨row, hrow.mono hpast⟩

theorem Announces.mono {mail : Mail} {transaction : Transaction}
    (h : Announces request s mail transaction) (hpast : s.past <:+ s'.past) :
    Announces request s' mail transaction := by
  cases h with
  | receipt hrequest hto hamount hmail => exact .receipt hrequest hto hamount hmail
  | signup hrequest hto hmail => exact .signup hrequest hto hmail
  | cancellation hrequest hdonor hto hmail =>
      exact .cancellation hrequest (hdonor.mono hpast) hto hmail

variable [Platform]

theorem DonorStep.From.mono {step : DonorStep} {payload : DonorPayload} (h : step.From payload s)
    (hpast : s.past <:+ s'.past) : step.From payload s' :=
  h.imp_left fun hold => ⟨hold.1, hold.2.mono hpast⟩

theorem Opened.mono {subscription : Subscription} (h : Opened s subscription)
    (hpast : s.past <:+ s'.past) : Opened s' subscription := by
  unfold Opened at *
  split at h
  · obtain ⟨⟨token, htoken, hid⟩, hrecord⟩ := h
    exact ⟨⟨token, Session.drawn_mono hpast htoken, hid⟩, hpast.subset hrecord⟩
  · obtain ⟨checkout, url, hmem, hcheckout⟩ := h
    exact ⟨checkout, url, hpast.subset hmem, hcheckout⟩
  · exact h

theorem Licensed.mono {transaction : Transaction} (h : Licensed request s transaction)
    (hpast : s.past <:+ s'.past) : Licensed request s' transaction := by
  cases h with
  | oneOff hrequest hdonor hsettled =>
      refine .oneOff hrequest (hdonor.mono hpast) fun x hx => ?_
      obtain ⟨token, htoken, hargs, hx⟩ := hsettled x hx
      exact ⟨token, Session.drawn_mono hpast htoken, hargs, hx.mono hpast⟩
  | subscribe hrequest hdonor hsubscription hopened hactive hsettled =>
      refine .subscribe hrequest (hdonor.mono hpast) hsubscription (hopened.mono hpast) hactive
        fun a ha x hx => ?_
      obtain ⟨hargs, hx⟩ := hsettled a ha x hx
      exact ⟨hargs, hx.mono hpast⟩
  | changeAmount hrequest htoken hread => exact .changeAmount hrequest htoken (hread.mono hpast)
  | cancel hrequest htoken hread hopen => exact .cancel hrequest htoken (hread.mono hpast) hopen
  | subscriber hrequest => exact .subscriber hrequest
  | unsubscriber hrequest hold => exact .unsubscriber hrequest hold
  | dataRequest hrequest => exact .dataRequest hrequest
  | seen hrequest hid hread => exact .seen hrequest hid (hread.mono hpast)
  | receive hrequest hid htype hmissing =>
      exact .receive hrequest hid htype (hpast.subset hmissing)
  | process hrequest hid htype hmissing =>
      exact .process hrequest hid htype (hpast.subset hmissing)

-- A payment is recorded for a gift on the test rail, under a token of the request.
theorem Licensed.settled {transaction : Transaction} {x : Settlement}
    (h : Licensed request s transaction) (hx : transaction.settlement = some x) :
    (∃ body step token, request.endpoint = .oneOff body ∧ transaction = .oneOff step (some x) ∧
      step.From body.donor s ∧ token ∈ s.drawn ∧
      x.args = oneOffArgs body step.row.id ("test_pay_" ++ token) x.event.payload ∧
      x.Synthetic "payment.succeeded" ("test_pay_" ++ token) s) ∨
    ∃ body step subscription time token id, request.endpoint = .subscription body ∧
      transaction = .subscribe step subscription (some ⟨time, some x⟩) ∧ step.From body.donor s ∧
      token ∈ s.drawn ∧
      subscription = newSubscription body step.row.id .test ("test_sub_" ++ token) id ∧
      x.args = initialArgs body step.row.id subscription x.event.payload ∧
      x.Synthetic "subscription.activated" subscription.providerSubscriptionId s := by
  cases h with
  | @oneOff body step settlement hrequest hdonor hsettled =>
      obtain ⟨token, htoken, hargs, hsynthetic⟩ := hsettled x hx
      exact .inl ⟨body, step, token, hrequest, congrArg _ hx, hdonor, htoken, hargs, hsynthetic⟩
  | @subscribe body step rail psid id subscription activation hrequest hdonor hsubscription hopened
      hactive hsettled =>
      obtain ⟨⟨time, settlement⟩, rfl, rfl⟩ := Option.bind_eq_some_iff.mp hx
      have hrail : rail = .test := hactive.mp rfl
      subst hrail hsubscription
      obtain ⟨hargs, hsynthetic⟩ := hsettled _ rfl x rfl
      obtain ⟨⟨token, htoken, hid⟩, -⟩ := hopened
      have hpsid : psid = "test_sub_" ++ token := hid
      subst hpsid
      exact .inr ⟨body, step, _, time, token, id, hrequest, rfl, hdonor, htoken, rfl, hargs, hsynthetic⟩
  | _ => cases hx

-- What has to go well for an event to be delivered.
theorem delivery_cases {args : EventArgs} (h : request.delivery = some args) :
    ∃ endpoint headers rawBody provider event, request.endpoint = .webhook endpoint headers rawBody ∧
      getProvider endpoint.providerName request.settings.settings = .ok provider ∧
      provider.verifyWebhook (Webhooks.lowerHeaders headers) rawBody = true ∧
      provider.parseEvent rawBody = .ok event ∧ args = ⟨endpoint.providerName, event.providerEventId,
        event.eventType, event.payload, event.signatureValid⟩ := by
  unfold Request.delivery at h
  split at h
  case h_2 => cases h
  next endpoint headers rawBody hendpoint =>
    cases hprovider : getProvider endpoint.providerName request.settings.settings with
    | error error => simp [hprovider] at h
    | ok provider =>
        cases hverify : provider.verifyWebhook (Webhooks.lowerHeaders headers) rawBody with
        | false => simp [hprovider, hverify] at h
        | true =>
            cases hparse : provider.parseEvent rawBody with
            | error error => simp [hprovider, hverify, hparse] at h
            | ok event =>
                simp only [hprovider, hverify, hparse, if_true, Option.some.injEq] at h
                exact ⟨endpoint, headers, rawBody, provider, event, hendpoint, hprovider, hverify,
                  hparse, h.symm⟩

-- There is no route for deliveries of the test rail.
theorem delivery_provider {args : EventArgs} (h : request.delivery = some args) :
    args.provider ≠ "test" := by
  obtain ⟨endpoint, _, _, _, _, -, -, -, -, rfl⟩ := delivery_cases h
  have hname : endpoint.providerName ≠ "test" := by cases endpoint <;> decide
  exact hname

theorem delivery_endpoint {args : EventArgs} (h : request.delivery = some args) :
    ∃ endpoint headers rawBody, request.endpoint = .webhook endpoint headers rawBody := by
  obtain ⟨endpoint, headers, rawBody, _, _, hendpoint, -⟩ := delivery_cases h
  exact ⟨endpoint, headers, rawBody, hendpoint⟩

theorem delivery_eq_none (h : request.isWebhook = false) : request.delivery = none := by
  unfold Request.isWebhook at h
  unfold Request.delivery
  split at h
  · cases h
  · rfl

end BridgeOfHope
