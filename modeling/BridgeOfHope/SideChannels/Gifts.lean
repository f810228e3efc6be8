import BridgeOfHope.Donations.Answered
import BridgeOfHope.Donations.Rails
import BridgeOfHope.SideChannels

namespace BridgeOfHope

open Process Payments Donations

-- A gift on the test rail sends its mail exactly when it stores its event.

-- Nothing is committed or sent, and no event is going to be stored.
structure Blank (s : Session) : Prop where
  committed : s.committed = []
  sent : s.sent = []
  eventless : Eventless s

-- Nothing is committed, and the mail is sent if an event is going to be stored.
structure Tallied (s : Session) : Prop where
  committed : s.committed = []
  sent : s.sent ≠ [] ↔ ∃ row, .insertWebhookEvent row ∈ s.pending

def Receipted (s : Session) : Prop :=
  s.broken = false → (s.sent ≠ [] ↔ ∃ row, .insertWebhookEvent row ∈ s.committed)

theorem Blank.tallied {s : Session} (h : Blank s) : Tallied s := by
  refine ⟨h.committed, ?_⟩
  constructor
  · exact fun hsent => absurd h.sent hsent
  · rintro ⟨row, hrow⟩
    exact absurd hrow (h.eventless row)

theorem Blank.writes {s s' : Session} {stmts : List Stmt} (h : Blank s) (hwrites : s.Writes s' stmts)
    (hstmts : ∀ row, .insertWebhookEvent row ∉ stmts) : Blank s' := by
  refine ⟨hwrites.committed.trans h.committed, hwrites.sent.trans h.sent, fun row hrow => ?_⟩
  rw [hwrites.pending] at hrow
  rcases List.mem_append.mp hrow with hold | hnew
  · exact h.eventless row hold
  · exact hstmts row hnew

theorem blank_start : Blank {} := ⟨rfl, rfl, fun _ hrow => by cases hrow⟩

theorem receipted_broken {s : Session} (hbroken : s.broken = true) : Receipted s := by
  intro hsound
  rw [hbroken] at hsound
  cases hsound

theorem receipted_nothing {s : Session} (hcommitted : s.committed = []) (hsent : s.sent = []) :
    Receipted s := by
  intro _
  simp [hcommitted, hsent]

section Gifts

variable [Platform] {s : Session} {settings : Settings} {body : GiveBody} {request : Request}

theorem commit_receipted {rest : Unit → Act Response} {response : Response} (hrest : rest () = .ret response)
    (h : Tallied s) : (commit >>= rest).Obeys client (fun _ => Inward settings) (fun s _ => Receipted s) s := by
  refine obeys_seq (obeys_commit (writes_inward settings).toFree (fun _ _ _ => trivial)
    (fun s' hcommitted _ hsent _ _ => ?_) fun _ _ _ hbroken => receipted_broken hbroken)
  show (rest ()).Obeys client (fun _ => Inward settings) (fun s _ => Receipted s) s'
  rw [hrest]
  intro _
  rw [hcommitted, hsent, h.committed, List.nil_append]
  exact h.sent

-- The payment is recorded, and `tail` sends the mail.
theorem settlement_receipted {eventType subject : String} {args : Json → DonationArgs} {tail : Act Unit}
    {after : Session → Except Exn Unit → Prop} (h : Blank s)
    (htail : ∀ s' event, s'.committed = [] → s'.sent = [] → .insertWebhookEvent event ∈ s'.pending →
      tail.Obeys client (fun _ => Inward settings) after s')
    (hok : ∀ s', Tallied s' → after s' (.ok ()))
    (herr : ∀ s' error, s'.broken = true → after s' (.error error)) :
    (settlement eventType subject args tail).Obeys client (fun _ => Inward settings) after s := by
  refine obeys_settlement (writes_inward settings) (fun _ _ _ _ _ => trivial) (fun _ _ _ _ _ => trivial)
    (fun s' id row hwrites _ => hok s' (h.writes hwrites (by simp)).tallied) (fun s' x _ _ hwrites => ?_)
    fun s' error _ hbroken => herr s' error hbroken
  refine htail s' x.event (hwrites.committed.trans h.committed) (hwrites.sent.trans h.sent) ?_
  rw [hwrites.pending]
  exact List.mem_append_right _ (Settlement.mem_stmts.mpr (.inl rfl))

-- The mail goes out, or the request ends here.
theorem sendEmail_receipted {to_ subject : String} {template : Template}
    {after : Session → Except Exn Unit → Prop} (hcommitted : s.committed = []) (hsent : s.sent = [])
    (hevent : ∃ event, .insertWebhookEvent event ∈ s.pending) (hok : ∀ s', Tallied s' → after s' (.ok ()))
    (herr : ∀ s' error, s'.committed = [] → s'.sent = [] → after s' (.error error)) :
    (sendEmail settings to_ subject template).Obeys client (fun _ => Inward settings) after s := by
  refine obeys_sendEmail_any (fun _ _ hsmtp => hsmtp) (fun _ _ hlog => hlog)
    (fun s' _ hpending hcommitted' hsent' => hok s' ⟨hcommitted'.trans hcommitted, ?_⟩)
    fun s' error _ h _ => herr s' error (h.committed.trans hcommitted) (h.sent.trans hsent)
  rw [hpending]
  exact ⟨fun _ => hevent, fun _ => hsent'⟩

theorem settleOneOff_receipted {donor : Donor} {result : OneOffResult} {paymentId : String} (h : Blank s)
    (hresult : result.providerPaymentId = .str paymentId) {after : Session → Except Exn Unit → Prop}
    (hok : ∀ s', Tallied s' → after s' (.ok ()))
    (herr : ∀ s' error, Receipted s' → after s' (.error error)) :
    (settleOneOff settings body donor result).Obeys client (fun _ => Inward settings) after s := by
  unfold settleOneOff
  rw [hresult]
  refine obeys_seq (obeys_ofExcept (settlement_receipted h (fun s₁ event hcommitted hsent hevent => ?_) hok
    fun s' error hbroken => herr s' error (receipted_broken hbroken)))
  refine obeys_seq (obeys_ofExcept ?_)
  cases statedAmount body.currency body.amountMinor with
  | error error => exact herr s₁ error (receipted_nothing hcommitted hsent)
  | ok amount =>
      refine obeys_seq (obeys_now (writes_inward settings).toFree fun s₂ time h₂ => ?_)
      refine sendEmail_receipted (h₂.committed.trans hcommitted) (h₂.sent.trans hsent) ?_ hok
        fun s' error hcommitted hsent => herr s' error (receipted_nothing hcommitted hsent)
      rw [h₂.pending]
      exact ⟨event, List.mem_append_left _ hevent⟩

theorem settleSubscription_receipted {donor : Donor} {subscription : Subscription} (h : Blank s)
    {after : Session → Except Exn Unit → Prop} (hok : ∀ s', Tallied s' → after s' (.ok ()))
    (herr : ∀ s' error, Receipted s' → after s' (.error error)) :
    (settleSubscription settings body donor subscription).Obeys client (fun _ => Inward settings) after s := by
  have hbroken (s' : Session) (error : Exn) (hbroken : s'.broken = true) : after s' (.error error) :=
    herr s' error (receipted_broken hbroken)
  unfold settleSubscription
  refine obeys_seq (Ledger.obeys_activateSubscription (writes_inward settings) (fun s₁ time h₁ => ?_)
    fun s' error _ => hbroken s' error)
  refine settlement_receipted (h.writes h₁ (by simp)) (fun s₂ event hcommitted hsent hevent => ?_) hok hbroken
  refine obeys_seq (obeys_now (writes_inward settings).toFree fun s₃ time h₃ => ?_)
  refine obeys_seq (obeys_ofExcept ?_)
  cases statedAmount body.currency body.amountMinor with
  | error error =>
      exact herr s₃ error (receipted_nothing (h₃.committed.trans hcommitted) (h₃.sent.trans hsent))
  | ok amount =>
      refine sendEmail_receipted (h₃.committed.trans hcommitted) (h₃.sent.trans hsent) ?_ hok
        fun s' error hcommitted hsent => herr s' error (receipted_nothing hcommitted hsent)
      rw [h₃.pending]
      exact ⟨event, List.mem_append_left _ hevent⟩

theorem createOneOff_receipted (hrail : body.provider = "test") :
    (createOneOff settings body).Obeys client (fun _ => Inward settings) (fun s _ => Receipted s) {} := by
  have hprovider : getProvider body.provider settings = .ok .test := by rw [hrail]; rfl
  unfold createOneOff
  rw [selectProvider_eq hprovider]
  refine obeys_giver (writes_inward settings).toFree (fun _ _ _ _ => trivial) (fun _ _ _ => trivial)
    (fun _ _ _ => trivial) (fun s₁ step donor _ _ _ h₁ => ?_) fun s' error _ hbroken => receipted_broken hbroken
  have hblank : Blank s₁ := blank_start.writes h₁ fun row hrow => by cases DonorStep.target_stmts hrow
  refine obeys_seq (obeys_seq (obeys_tokenHex (writes_inward settings).toFree fun s₂ token h₂ _ _ => ?_))
  refine obeys_seq (settleOneOff_receipted (hblank.writes h₂ (by simp)) rfl (fun s₃ htallied => ?_)
    fun s' error h => h)
  exact commit_receipted rfl htallied

theorem createSubscription_receipted (hrail : body.provider = "test") :
    (createSubscription settings body).Obeys client (fun _ => Inward settings) (fun s _ => Receipted s) {} := by
  have hprovider : getProvider body.provider settings = .ok .test := by rw [hrail]; rfl
  unfold createSubscription
  rw [selectProvider_eq hprovider]
  refine obeys_giver (writes_inward settings).toFree (fun _ _ _ _ => trivial) (fun _ _ _ => trivial)
    (fun _ _ _ => trivial) (fun s₁ step donor _ _ _ h₁ => ?_) fun s' error _ hbroken => receipted_broken hbroken
  have hblank : Blank s₁ := blank_start.writes h₁ fun row hrow => by cases DonorStep.target_stmts hrow
  refine obeys_seq (obeys_seq (obeys_tokenHex (writes_inward settings).toFree fun s₂ token h₂ _ _ =>
    obeys_seq ⟨trivial, fun ans _ => ?_⟩))
  have h₃ : s₂.Writes (s₂.update
      (.record (.testSubscribed ("test_sub_" ++ token) body.amountMinor body.currency)) ans) [] :=
    Session.writes_update rfl rfl
  refine obeys_seq (obeys_ofExcept ?_)
  rw [hrail]
  refine obeys_seq (obeys_uuid7 (writes_inward settings).toFree fun s₄ id h₄ =>
    obeys_seq (obeys_add trivial fun s₅ h₅ => ?_))
  refine obeys_seq (obeys_flush (writes_inward settings).toFree (fun s₆ h₆ _ _ => ?_)
    fun s' error _ hbroken => receipted_broken hbroken)
  have hblank₆ : Blank s₆ := by
    have h₂₄ := (h₂.trans_nil h₃).trans_nil h₄
    exact ((hblank.writes h₂₄ (by simp)).writes h₅ (by simp)).writes h₆ (by simp)
  refine obeys_seq (settleSubscription_receipted hblank₆ (fun s₇ htallied => ?_) fun s' error h => h)
  exact commit_receipted rfl htallied

theorem gift_receipted (hgiven : request.given = some body) (hrail : body.provider = "test") :
    request.handler.Obeys client (fun _ => Inward request.settings.settings) (fun s _ => Receipted s) {} := by
  unfold Request.given at hgiven
  split at hgiven
  · next body' hrequest =>
      cases hgiven
      rw [Request.handler_oneOff hrequest]
      exact createOneOff_receipted hrail
  · next body' hrequest =>
      cases hgiven
      rw [Request.handler_subscription hrequest]
      exact createSubscription_receipted hrail
  · cases hgiven

end Gifts

-- How many events a list of statements stores.

def Stmt.storesEvent : Stmt → Bool
  | .insertWebhookEvent _ => true
  | _ => false

theorem webhookEvents_length (db : Db) (stmts : List Stmt) :
    (db.applyAll stmts).webhookEvents.length = db.webhookEvents.length + stmts.countP Stmt.storesEvent := by
  induction stmts generalizing db with
  | nil => rfl
  | cons stmt stmts ih =>
      rw [Db.applyAll_cons, ih, List.countP_cons]
      have hstep : (db.apply stmt).webhookEvents.length =
          db.webhookEvents.length + if stmt.storesEvent then 1 else 0 := by
        cases stmt <;> simp [Db.apply, Stmt.storesEvent]
      omega

section Served

variable [Platform] {body : GiveBody} {channels channels' : SideChannels} {world : World} {request : Request}
  {state : World × Session} {result : Except Exn Response}

theorem gift_inward (hgiven : request.given = some body) (hrail : body.provider = "test")
    (h : service.Serves world request state result) :
    Receipted state.2 ∧ ∀ event ∈ state.2.past, Inward request.settings.settings event.op := by
  have hobeys : request.handler.Obeys service.alone (fun _ op => Inward request.settings.settings op)
      (fun state _ => Receipted state.2) (world, {}) :=
    System.obeys_alone (S := service) (gift_receipted hgiven hrail)
  refine ⟨hobeys.exec h, ?_⟩
  refine Prog.Exec.invariant (fun state => ∀ event ∈ state.2.past, Inward request.settings.settings event.op)
    (fun state op ans hpast hop _ event hevent => ?_) hobeys h (by simp)
  rcases List.mem_cons.mp hevent with rfl | hold
  · exact hop
  · exact hpast event hold

-- With mails in the log, nothing is asked of a side channel.
theorem gift_leads (hgiven : request.given = some body) (hrail : body.provider = "test")
    (hmail : request.settings.settings.mailsBySmtp = false)
    (hcourse : Course channels world request state result) :
    Leads channels' world request state.1.db := by
  obtain ⟨-, hinward⟩ := gift_inward hgiven hrail hcourse.serves
  refine ⟨state, result, ⟨hcourse.serves, hcourse.database, fun event hevent => ?_⟩, rfl⟩
  exact (hinward event hevent).gives hmail channels' event.ans

-- A gift whose mail goes out stores its event, and one whose mail is refused does not.

theorem gift_events (hgiven : request.given = some body) (hrail : body.provider = "test")
    (hcourse : Course channels world request state result) :
    state.2.sent ≠ [] ↔ world.db.webhookEvents.length < state.1.db.webhookEvents.length := by
  obtain ⟨hreceipted, -⟩ := gift_inward hgiven hrail hcourse.serves
  rw [hreceipted hcourse.database, serves_db hcourse.serves, webhookEvents_length]
  have hcount : 0 < state.2.committed.countP Stmt.storesEvent ↔ ∃ row,
      .insertWebhookEvent row ∈ state.2.committed := by
    rw [List.countP_pos_iff]
    constructor
    · rintro ⟨stmt, hstmt, hevent⟩
      cases stmt with
      | insertWebhookEvent row => exact ⟨row, hstmt⟩
      | _ => cases hevent
    · rintro ⟨row, hrow⟩
      exact ⟨_, hrow, rfl⟩
  rw [← hcount]
  omega

theorem gift_unsent (hgiven : request.given = some body) (hrail : body.provider = "test")
    (hmail : request.settings.settings.mailsBySmtp = true)
    (hdown : ∀ mail, ∃ error, channels.smtp mail = .error error)
    (hcourse : Course channels world request state result) : state.2.sent = [] := by
  obtain ⟨-, hinward⟩ := gift_inward hgiven hrail hcourse.serves
  exact unsent_of_inward hmail hdown hcourse.given fun event hevent _ => hinward event hevent

end Served

end BridgeOfHope
