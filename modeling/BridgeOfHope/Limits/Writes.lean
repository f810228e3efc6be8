import BridgeOfHope.Donations.Tracks

namespace BridgeOfHope

open Process Payments Donations

-- What the handlers write, against the limits of the columns.

def DonorSet.fits : DonorSet → Bool
  | .consentSource value => value.all (varchar 120)
  | _ => true

def SubscriptionSet.fits : SubscriptionSet → Bool
  | .amountMinor value => int32 value
  | .cancellationReason value => value.all (varchar 500)
  | _ => true

def WebhookEventSet.fits : WebhookEventSet → Bool
  | .attempts value => int32 value
  | _ => true

def Stmt.fits : Stmt → Bool
  | .insertDonor row => row.fits
  | .insertSubscription row => row.fits
  | .insertDonation row => row.fits
  | .insertWebhookEvent row => row.fits
  | .insertDataRequest _ => true
  | .updateDonor _ columns => columns.all DonorSet.fits
  | .updateSubscription _ columns => columns.all SubscriptionSet.fits
  | .updateWebhookEvent _ columns => columns.all WebhookEventSet.fits

-- A row that fits goes on to do so under assignments that do.

theorem Donor.fits_assign {row : Donor} {columns : List DonorSet} (hrow : row.fits = true)
    (hcolumns : columns.all DonorSet.fits = true) : (row.setAll columns).fits = true := by
  induction columns generalizing row with
  | nil => exact hrow
  | cons column columns ih =>
      obtain ⟨hcolumn, hcolumns⟩ : column.fits = true ∧
        columns.all DonorSet.fits = true := by simpa using hcolumns
      have hset : (row.set column).fits = true := by
        cases column <;> simp_all [Donor.set, Donor.fits, DonorSet.fits]
      exact ih hset hcolumns

theorem Subscription.fits_assign {row : Subscription} {columns : List SubscriptionSet} (hrow : row.fits = true)
    (hcolumns : columns.all SubscriptionSet.fits = true) : (row.setAll columns).fits = true := by
  induction columns generalizing row with
  | nil => exact hrow
  | cons column columns ih =>
      obtain ⟨hcolumn, hcolumns⟩ : column.fits = true ∧
        columns.all SubscriptionSet.fits = true := by simpa using hcolumns
      have hset : (row.set column).fits = true := by
        cases column <;> simp_all [Subscription.set, Subscription.fits, SubscriptionSet.fits]
      exact ih hset hcolumns

theorem WebhookEvent.fits_assign {row : WebhookEvent} {columns : List WebhookEventSet} (hrow : row.fits = true)
    (hcolumns : columns.all WebhookEventSet.fits = true) : (row.setAll columns).fits = true := by
  induction columns generalizing row with
  | nil => exact hrow
  | cons column columns ih =>
      obtain ⟨hcolumn, hcolumns⟩ : column.fits = true ∧
        columns.all WebhookEventSet.fits = true := by simpa using hcolumns
      have hset : (row.set column).fits = true := by
        cases column <;> simp_all [WebhookEvent.set, WebhookEvent.fits, WebhookEventSet.fits]
      exact ih hset hcolumns

structure Db.RowsFit (db : Db) : Prop where
  donors : ∀ row ∈ db.donors, row.fits = true
  subscriptions : ∀ row ∈ db.subscriptions, row.fits = true
  webhookEvents : ∀ row ∈ db.webhookEvents, row.fits = true

theorem Db.RowsFit.apply {db : Db} (h : db.RowsFit) {stmt : Stmt} (hstmt : stmt.fits = true) :
    (db.apply stmt).RowsFit := by
  have hinsert {α : Type} {rows : List α} {row : α} {P : α → Prop} (hrows : ∀ row ∈ rows, P row)
      (hrow : P row) :
      ∀ row' ∈ rows ++ [row], P row' := by
    intro row' hmem
    rcases List.mem_append.mp hmem with hold | hnew
    · exact hrows row' hold
    · exact List.mem_singleton.mp hnew ▸ hrow
  have hupdate {α : Type} {rows : List α} {p : α → Bool} {f : α → α} {P : α → Prop}
      (hrows : ∀ row ∈ rows, P row)
      (hf : ∀ row, P row → P (f row)) : ∀ row' ∈ rows.map fun row => if p row then f row else row, P row' := by
    intro row' hmem
    obtain ⟨row, hrow, rfl⟩ := List.mem_map.mp hmem
    split
    · exact hf row (hrows row hrow)
    · exact hrows row hrow
  cases stmt with
  | insertDonor row => exact { h with donors := hinsert h.donors hstmt }
  | insertSubscription row => exact { h with subscriptions := hinsert h.subscriptions hstmt }
  | insertWebhookEvent row => exact { h with webhookEvents := hinsert h.webhookEvents hstmt }
  | insertDonation | insertDataRequest => exact ⟨h.donors, h.subscriptions, h.webhookEvents⟩
  | updateDonor id columns =>
      refine { h with donors := fun row hrow => ?_ }
      refine hupdate (p := fun row => row.id = id) h.donors
        (fun row hrow => Donor.fits_assign hrow hstmt) row ?_
      simpa [Db.apply] using hrow
  | updateSubscription id columns =>
      refine { h with subscriptions := fun row hrow => ?_ }
      refine hupdate (p := fun row => row.id = id) h.subscriptions
        (fun row hrow => Subscription.fits_assign hrow hstmt) row ?_
      simpa [Db.apply] using hrow
  | updateWebhookEvent id columns =>
      refine { h with webhookEvents := fun row hrow => ?_ }
      refine hupdate (p := fun row => row.id = id) h.webhookEvents
        (fun row hrow => WebhookEvent.fits_assign hrow hstmt) row ?_
      simpa [Db.apply] using hrow

theorem Db.RowsFit.applyAll {db : Db} (h : db.RowsFit) {stmts : List Stmt}
    (hstmts : ∀ stmt ∈ stmts, stmt.fits = true) : (db.applyAll stmts).RowsFit := by
  induction stmts generalizing db with
  | nil => exact h
  | cons stmt stmts ih =>
      exact ih (h.apply (hstmts stmt List.mem_cons_self)) fun stmt' hstmt' =>
        hstmts stmt' (List.mem_cons_of_mem _ hstmt')

-- No statement that fits is refused where the rows stand that it refers to.
theorem Db.admits_of_fits [Platform] {db : Db} (hrows : db.RowsFit) {stmt : Stmt} (h : stmt.fits = true)
    (hreferences : ∀ key ∈ stmt.references, key ∈ db.keys) : db.admits stmt = true := by
  cases stmt with
  | insertDonor row => exact h
  | insertWebhookEvent row => exact h
  | insertDataRequest row => exact Db.hasDonor_of_key (hreferences _ List.mem_cons_self)
  | insertSubscription row =>
      have hrow : row.fits = true := h
      simp [Db.admits, hrow, Db.hasDonor_of_key (hreferences _ List.mem_cons_self)]
  | insertDonation row =>
      have hrow : row.fits = true := h
      have hsubscription : row.subscriptionId.all db.hasSubscription = true := by
        cases hid : row.subscriptionId with
        | none => rfl
        | some id => exact Db.hasSubscription_of_key (hreferences _ (by simp [Stmt.references, hid]))
      simp [Db.admits, hrow, Db.hasDonor_of_key (hreferences _ List.mem_cons_self), hsubscription]
  | updateDonor id columns =>
      show List.all _ _ = true
      rw [List.all_eq_true]
      exact fun row hrow => Donor.fits_assign (hrows.donors row (List.mem_of_mem_filter hrow)) h
  | updateSubscription id columns =>
      show List.all _ _ = true
      rw [List.all_eq_true]
      exact fun row hrow => Subscription.fits_assign (hrows.subscriptions row (List.mem_of_mem_filter hrow)) h
  | updateWebhookEvent id columns =>
      show List.all _ _ = true
      rw [List.all_eq_true]
      exact fun row hrow => WebhookEvent.fits_assign (hrows.webhookEvents row (List.mem_of_mem_filter hrow)) h

theorem Db.admitsAll_of_fits [Platform] {db : Db} {stmts : List Stmt} (hrows : db.RowsFit)
    (hfits : ∀ stmt ∈ stmts, stmt.fits = true)
    (hreferences : ∀ earlier stmt later, stmts = earlier ++ stmt :: later →
      ∀ key ∈ stmt.references, key ∈ (db.applyAll earlier).keys) : db.admitsAll stmts = true := by
  induction stmts generalizing db with
  | nil => rfl
  | cons stmt stmts ih =>
      have hstmt := hfits stmt List.mem_cons_self
      rw [Db.admitsAll, Bool.and_eq_true]
      refine ⟨Db.admits_of_fits hrows hstmt (hreferences [] stmt stmts rfl), ih (hrows.apply hstmt)
        (fun stmt' hstmt' => hfits stmt' (List.mem_cons_of_mem _ hstmt')) fun earlier stmt' later hsplit => ?_⟩
      exact hreferences (stmt :: earlier) stmt' later (congrArg (stmt :: ·) hsplit)

def Op.fits : Op → Bool
  | .push stmt => stmt.fits
  | _ => true

-- The only answer whose size matters: a token is twenty characters long.
def TokenSized : (op : Op) → Ans op → Prop
  | .tokenHex, token => token.length = 20
  | _, _ => True

-- Whatever is answered, the program writes only what fits.
def Fits {α : Type} (Q : α → Prop) (program : Act α) : Prop :=
  program.Within TokenSized (fun op => op.fits = true) Q

variable {α β : Type} {Q : α → Prop} {R : β → Prop}

theorem Fits.bind {program : Act α} {rest : α → Act β} (h : Fits Q program)
    (hrest : ∀ value, Q value → Fits R (rest value)) :
    Fits R (program >>= rest) :=
  Prog.Within.bind h hrest

theorem Fits.perform {op : Op} {Q : Ans op → Prop} (h : op.fits = true)
    (hQ : ∀ answer, TokenSized op answer → Q answer) :
    Fits Q (perform op) :=
  Prog.Within.perform h hQ

theorem Fits.ofExcept {result : Except Exn α} (h : ∀ value, result = .ok value → Q value) :
    Fits Q (Prog.ofExcept result) :=
  Prog.Within.ofExcept h

theorem fits_now : Fits (fun _ => True) now := Fits.perform rfl fun _ _ => trivial

theorem fits_uuid7 : Fits (fun _ => True) uuid7 := Fits.perform rfl fun _ _ => trivial

theorem fits_tokenHex : Fits (fun token => token.length = 20) tokenHex := Fits.perform rfl fun _ h => h

theorem fits_add {stmt : Stmt} (h : stmt.fits = true) : Fits (fun _ => True) (add stmt) :=
  Fits.perform h fun _ _ => trivial

theorem fits_flush : Fits (fun _ => True) flush :=
  .bind (Q := fun _ => True) (.perform rfl fun _ _ => trivial) fun _ _ => .ofExcept fun _ _ => trivial

theorem fits_commit : Fits (fun _ => True) commit :=
  fits_flush.bind fun _ _ => .bind (Q := fun _ => True) (.perform rfl fun _ _ => trivial) fun _ _ =>
    .ofExcept fun _ _ => trivial

theorem fits_scalars {query : Query} : Fits (fun _ => True) (scalars query) :=
  fits_flush.bind fun _ _ => .bind (Q := fun _ => True) (.perform rfl fun _ _ => trivial) fun _ _ =>
    .ofExcept fun _ _ => trivial

theorem fits_scalar {query : Query} : Fits (fun _ => True) (scalar query) :=
  fits_scalars.bind fun _ _ => trivial

-- The columns that a flush leaves out were no smaller.
theorem all_filter {γ : Type} {p q : γ → Bool} {columns : List γ} (h : columns.all q = true) :
    (columns.filter p).all q = true := by
  rw [List.all_eq_true] at h ⊢
  exact fun column hcolumn => h column (List.mem_of_mem_filter hcolumn)

theorem fits_sendEmail {settings : Settings} {to_ subject : String} {template : Template} :
    Fits (fun _ => True) (sendEmail settings to_ subject template) := by
  unfold sendEmail
  split
  · exact Fits.bind (Q := fun _ => True) (.perform rfl fun _ _ => trivial) fun _ _ =>
      .ofExcept fun _ _ => trivial
  · exact .perform rfl fun _ _ => trivial

theorem fits_recordWebhookEvent {args : EventArgs} (hprovider : args.provider.length ≤ 32)
    (hid : ∀ id, args.providerEventId.text = .ok id → id.length ≤ 255)
    (htype : ∀ eventType, args.eventType.text = .ok eventType → eventType.length ≤ 120) :
    Fits (fun found => found.2 = true → found.1.attempts = 0) (Ledger.recordWebhookEvent args) := by
  refine Fits.bind (Fits.ofExcept hid) fun id hid => fits_scalar.bind fun existing _ => ?_
  cases existing with
  | some row =>
      show false = true → row.attempts = 0
      intro hnew
      cases hnew
  | none =>
      refine fits_now.bind fun time _ => fits_uuid7.bind fun rowId _ =>
        (Fits.ofExcept htype).bind fun eventType htype => ?_
      have hrow : (Stmt.insertWebhookEvent (args.row id eventType rowId time)).fits = true := by
        simp [Stmt.fits, WebhookEvent.fits, EventArgs.row, varchar, int32, hprovider, hid, htype]
      exact (fits_add hrow).bind fun _ _ => fits_flush.bind fun _ _ _ => rfl

theorem fits_markEventProcessed {event : WebhookEvent} (error : Option String) (h : event.attempts = 0) :
    Fits (fun _ => True) (Ledger.markEventProcessed event error) := by
  refine fits_now.bind fun time _ => ?_
  have hcolumns : (Stmt.updateWebhookEvent event.id
      (event.changes (Ledger.processedColumns event error time))).fits = true :=
    all_filter (by simp [Ledger.processedColumns, WebhookEventSet.fits, int32, h])
  exact Fits.bind (Q := fun _ => True) ((fits_add hcolumns).bind fun _ _ => trivial) fun _ _ => fits_flush

theorem fits_recordDonation {args : DonationArgs} (hid : args.providerPaymentId.length ≤ 255)
    (hamount : int32 args.amountMinor = true) (hcurrency : args.currency.length ≤ 3) :
    Fits (fun _ => True) (Ledger.recordDonation args) := by
  refine fits_scalar.bind fun existing _ => ?_
  cases existing with
  | some donation => trivial
  | none =>
      refine fits_now.bind fun time _ => fits_uuid7.bind fun id _ => ?_
      have hrow : (Stmt.insertDonation (args.row id time)).fits = true := by
        simp [Stmt.fits, Donation.fits, DonationArgs.row, varchar, hid, hamount, hcurrency]
      exact (fits_add hrow).bind fun _ _ => fits_flush.bind fun _ _ => trivial

-- The records of a payment on the test rail.
theorem fits_settlement {eventType subject : String} {args : Json → DonationArgs} {tail : Act Unit}
    (htype : eventType.length ≤ 120) (hid : ∀ payload, (args payload).providerPaymentId.length ≤ 255)
    (hamount : ∀ payload, int32 (args payload).amountMinor = true)
    (hcurrency : ∀ payload, (args payload).currency.length ≤ 3)
    (htail : Fits (fun _ => True) tail) :
    Fits (fun _ => True) (settlement eventType subject args tail) := by
  refine Fits.bind (Q := fun payload => ∃ token time, token.length = 20 ∧
    payload = TestProvider.syntheticPayload token eventType subject time) ?_ fun payload hpayload => ?_
  · exact fits_tokenHex.bind fun token htoken => fits_now.bind fun time _ => ⟨token, time, htoken, rfl⟩
  obtain ⟨token, time, htoken, rfl⟩ := hpayload
  refine Fits.bind (Q := fun value => value = .str ("test_evt_" ++ token)) (.ofExcept ?_) fun id hid' => ?_
  · intro value hvalue
    exact (Except.ok.inj hvalue).symm
  refine Fits.bind (Q := fun value => value = .str eventType) (.ofExcept ?_) fun type htype' => ?_
  · intro value hvalue
    exact (Except.ok.inj hvalue).symm
  subst hid' htype'
  have hid' : ∀ id, (Json.str ("test_evt_" ++ token)).text = .ok id → id.length ≤ 255 := by
    intro id h
    rw [← Except.ok.inj h, String.length_append, htoken]
    decide
  have htype' : ∀ type, (Json.str eventType).text = .ok type → type.length ≤ 120 := by
    intro type h
    rw [← Except.ok.inj h]
    exact htype
  refine (fits_recordWebhookEvent (show "test".length ≤ 32 by decide) hid' htype').bind fun found hfresh => ?_
  obtain ⟨event, isNew⟩ := found
  cases isNew with
  | false => trivial
  | true =>
      refine (fits_recordDonation (hid _) (hamount _) (hcurrency _)).bind fun _ _ => ?_
      exact (fits_markEventProcessed none (hfresh rfl)).bind fun _ _ => htail

theorem fits_recordConsent {donor : Donor} {source : String} (hsource : source.length ≤ 120) :
    Fits (fun _ => True) (recordConsent donor source) := by
  refine fits_now.bind fun time _ => ?_
  have hcolumns : (Stmt.updateDonor donor.id (donor.changes (consentColumns source time))).fits = true :=
    all_filter (by simpa [consentColumns, DonorSet.fits, varchar] using hsource)
  exact (fits_add hcolumns).bind fun _ _ => trivial

theorem int32_of_lt {amountMinor : Int} (hpos : 0 < amountMinor) (hbound : amountMinor < 2 ^ 31) :
    int32 amountMinor = true := by
  simp only [int32, Bool.and_eq_true, decide_eq_true_eq]
  omega


section Handlers

variable [Platform] {world : World} {state state' : World × Session} {settings : Settings} {body : GiveBody}
  {payload : DonorPayload}

theorem newDonor_fits (hcountry : (Platform.upper payload.countryCode).length ≤ 2) (id : Uuid) :
    (Stmt.insertDonor (newDonor payload id)).fits = true := by
  simp [Stmt.fits, Donor.fits, newDonor, varchar, hcountry, payload.firstName_length.2,
    payload.lastName_length.2]

theorem fits_newDonor (hcountry : (Platform.upper payload.countryCode).length ≤ 2) :
    Fits (fun _ => True) (uuid7 >>= fun id => add (.insertDonor (newDonor payload id)) >>= fun _ =>
      flush >>= fun _ => (pure (newDonor payload id) : Act Donor)) :=
  fits_uuid7.bind fun id _ =>
    (fits_add (newDonor_fits hcountry id)).bind fun _ _ => fits_flush.bind fun _ _ => trivial

theorem fits_giver {consent : Bool} {source : String}
    (hcountry : (Platform.upper payload.countryCode).length ≤ 2) (hsource : source.length ≤ 120) :
    Fits (fun _ => True) (giver payload consent source) := by
  refine Fits.bind (Q := fun _ => True) (fits_scalar.bind fun found _ => ?_) fun donor _ => ?_
  · cases found with
    | some donor => trivial
    | none => exact fits_newDonor hcountry
  · cases consent with
    | true => exact fits_recordConsent hsource
    | false => trivial

-- The rails write nothing, and only the test rail has the gift recorded at once.
theorem fits_oneOff {provider : Provider} {donor : Donor}
    (hamount : provider = .test → body.amountMinor < 2 ^ 31) :
    Fits (fun _ => True) (provider.createOneOff (gift body) >>= finishOneOff settings body provider donor) := by
  have hlast (result : OneOffResult) : Fits (fun _ => True) (commit >>= fun _ =>
      Prog.ofExcept (oneOffResponse result) >>= fun response =>
        (pure ⟨200, .oneOff response⟩ : Act Response)) :=
    fits_commit.bind fun _ _ => Fits.bind (Q := fun _ => True) (.ofExcept fun _ _ => trivial) fun _ _ => trivial
  have hasked : Fits (fun _ => True) (provider.createOneOff (gift body)) := by
    refine ((only_createOneOff provider (gift body)).mono fun op houter => ?_).within
    cases op with
    | push stmt => cases houter
    | _ => rfl
  cases provider with
  | test =>
      refine Fits.bind (Q := fun result => ∃ token, token.length = 20 ∧
        result.providerPaymentId = .str ("test_pay_" ++ token))
        (fits_tokenHex.bind fun token htoken => ⟨token, htoken, rfl⟩) fun result hresult => ?_
      obtain ⟨token, htoken, hid⟩ := hresult
      have hpayment : ("test_pay_" ++ token).length ≤ 255 := by
        rw [String.length_append, htoken]
        decide
      refine Fits.bind (Q := fun _ => True) ?_ fun _ _ => hlast result
      unfold settleOneOff
      rw [hid]
      refine Fits.bind (Q := fun value => value = "test_pay_" ++ token)
        (.ofExcept fun value hvalue => ?_) fun value hvalue => ?_
      · exact (Except.ok.inj hvalue).symm
      subst hvalue
      refine fits_settlement (by decide) (fun _ => hpayment)
        (fun _ => int32_of_lt body.amountMinor_pos (hamount rfl))
        (fun _ => Nat.le_of_eq body.currency_length) ?_
      exact Fits.bind (Q := fun _ => True) (.ofExcept fun _ _ => trivial) fun _ _ =>
        fits_now.bind fun _ _ => fits_sendEmail
  | stripe _ | paypal _ _ | mpesa _ _ | btc _ => exact hasked.bind fun result _ => hlast result

theorem fits_subscription {donor : Donor} (hamount : body.amountMinor < 2 ^ 31) : Fits (fun _ => True)
    (Provider.test.createSubscription (gift body) >>= finishSubscription settings body .test donor) := by
  refine Fits.bind (Q := fun result => result.providerSubscriptionId.length = 29)
    (fits_tokenHex.bind fun token htoken =>
      Fits.bind (Q := fun _ => True) (.perform rfl fun _ _ => trivial) fun _ _ => ?_)
    fun result hresult => ?_
  · show ("test_sub_" ++ token).length = 29
    rw [String.length_append, htoken]
    rfl
  refine Fits.bind (Q := fun _ => True) (.ofExcept fun _ _ => trivial) fun rail _ =>
    fits_uuid7.bind fun id _ => ?_
  have hint := int32_of_lt body.amountMinor_pos hamount
  have hrow : (Stmt.insertSubscription
      (newSubscription body donor.id rail result.providerSubscriptionId id)).fits = true := by
    simp [Stmt.fits, Subscription.fits, newSubscription, varchar, hresult, hint, body.currency_length]
  refine (fits_add hrow).bind fun _ _ => fits_flush.bind fun _ _ => ?_
  refine Fits.bind (Q := fun _ => True) ?_ fun _ _ => fits_commit.bind fun _ _ => trivial
  refine Fits.bind (Q := fun _ => True) ?_ fun _ _ => ?_
  · refine fits_now.bind fun time _ => Fits.bind (Q := fun _ => True)
      (Fits.bind (fits_add ?_) fun _ _ => trivial) fun _ _ => fits_flush
    exact all_filter (by simp [Ledger.activatedColumns, SubscriptionSet.fits])
  refine fits_settlement (by decide) (fun _ => ?_) (fun _ => hint)
    (fun _ => Nat.le_of_eq body.currency_length) ?_
  · show (result.providerSubscriptionId ++ "_initial").length ≤ 255
    rw [String.length_append, hresult]
    decide
  · exact fits_now.bind fun _ _ =>
      Fits.bind (Q := fun _ => True) (.ofExcept fun _ _ => trivial) fun _ _ => fits_sendEmail

theorem handler_fits {request : Request} (hgiven : request.given = some body) (hrail : body.provider = "test")
    (hbound : body.amountMinor < 2 ^ 31) (hcountry : (Platform.upper body.donor.countryCode).length ≤ 2) :
    Fits (fun _ => True) request.handler := by
  have hprovider (settings : Settings) : getProvider body.provider settings = .ok .test := by rw [hrail]; rfl
  unfold Request.given at hgiven
  split at hgiven
  · next body' hrequest =>
      cases hgiven
      rw [Request.handler_oneOff hrequest, createOneOff_eq, selectProvider_eq (hprovider _)]
      exact (fits_giver hcountry (by decide)).bind fun _ _ => fits_oneOff fun _ => hbound
  · next body' hrequest =>
      cases hgiven
      rw [Request.handler_subscription hrequest, createSubscription_eq, selectProvider_eq (hprovider _)]
      exact (fits_giver hcountry (by decide)).bind fun _ _ => fits_subscription hbound
  · cases hgiven

-- All that was written so far fits.
def Fitting (state : World × Session) : Prop := ∀ stmt, ⟨.push stmt, ()⟩ ∈ state.2.past → stmt.fits = true

theorem Fits.exec {program : Act α} {result : Except Exn α} (h : Fits Q program)
    (hexec : program.Exec service.alone state state' result) (hstate : Fitting state) : Fitting state' := by
  have hsound : ∀ (state : World × Session) op answer, service.alone.sound state op answer →
      TokenSized op answer := by
    intro state op answer hsound
    cases op with
    | tokenHex =>
        have htoken : isTokenHex answer = true := hsound
        simp only [isTokenHex, Bool.and_eq_true, decide_eq_true_eq] at htoken
        exact htoken.1
    | _ => trivial
  refine Prog.Exec.invariant Fitting (fun state op answer hfits hop _ stmt hmem => ?_)
    (h.obeys hsound) hexec hstate
  rcases List.mem_cons.mp hmem with hnew | hold
  · cases hnew
    exact hop
  · exact hfits stmt hold

-- The row of a stored donor is taken as it is, so that only a new donor is written.
theorem fitting_getOrCreateDonor {result : Except Exn Donor}
    (hdonor : (Query.donorByEmail payload.email).select world.db ≠ [] ∨
      (Platform.upper payload.countryCode).length ≤ 2)
    (hexec : (getOrCreateDonor payload).Exec service.alone (world, {}) state result) : Fitting state := by
  have hstart : Fitting (world, ({} : Session)) := fun stmt hmem => by cases hmem
  rcases Prog.exec_bind.mp hexec with ⟨mid, found, hlookup, hrest⟩ | ⟨error, hlookup, -⟩
  · obtain ⟨-, -, -, hnobody⟩ := exec_lookup hlookup
    have hmid := fits_scalar.exec hlookup hstart
    cases found with
    | some donor =>
        obtain ⟨rfl, -⟩ := Prog.exec_ret.mp hrest
        exact hmid
    | none =>
        have hcountry := hdonor.resolve_left (absurd (hnobody rfl))
        exact (fits_newDonor hcountry).exec hrest hmid
  · exact fits_scalar.exec hlookup hstart

theorem fitting_giver {consent : Bool} {source : String} {result : Except Exn Donor}
    (hdonor : (Query.donorByEmail payload.email).select world.db ≠ [] ∨
      (Platform.upper payload.countryCode).length ≤ 2) (hsource : source.length ≤ 120)
    (hexec : (giver payload consent source).Exec service.alone (world, {}) state result) : Fitting state := by
  rcases Prog.exec_bind.mp hexec with ⟨mid, donor, hfirst, hrest⟩ | ⟨error, hfirst, -⟩
  · have hmid := fitting_getOrCreateDonor hdonor hfirst
    cases consent with
    | true => exact (fits_recordConsent hsource).exec hrest hmid
    | false =>
        obtain ⟨rfl, -⟩ := Prog.exec_ret.mp hrest
        exact hmid
  · exact fitting_getOrCreateDonor hdonor hfirst

-- A give request on a rail that there is: what it writes about its donor, and the rest.
theorem fitting_give {rest : Provider → Donor → Act Response} {provider : Provider} {name source : String}
    {consent : Bool} {result : Except Exn Response}
    (hselect : selectProvider name settings = Prog.ret provider)
    (hdonor : (Query.donorByEmail payload.email).select world.db ≠ [] ∨
      (Platform.upper payload.countryCode).length ≤ 2) (hsource : source.length ≤ 120)
    (hrest : ∀ donor, Fits (fun _ => True) (rest provider donor))
    (hexec : (selectProvider name settings >>= fun provider =>
      giver payload consent source >>= rest provider).Exec service.alone (world, {}) state result) :
    Fitting state := by
  rw [hselect] at hexec
  have hserved : (giver payload consent source >>= rest provider).Exec service.alone (world, {})
      state result := hexec
  rcases Prog.exec_bind.mp hserved with ⟨mid, donor, hgiver, hlast⟩ | ⟨error, hgiver, -⟩
  · exact (hrest donor).exec hlast (fitting_giver hdonor hsource hgiver)
  · exact fitting_giver hdonor hsource hgiver

end Handlers

end BridgeOfHope
