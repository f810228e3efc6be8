import BridgeOfHope.Process.Termination
import BridgeOfHope.Subscriptions.History

namespace BridgeOfHope

open Process Donations

-- A mail cannot be taken back. What it says has to be in the tables once the
-- request that sent it has ended.

-- A mail that was handed over. The server may have taken it although the call
-- raised, so every attempt counts.
def Event.posted : Event → Option Mail
  | ⟨.smtp mail, _⟩ => some mail
  | ⟨.log mail, _⟩ => some mail
  | _ => none

def Session.posted (s : Session) : List Mail := s.past.filterMap Event.posted

-- The mail may be out, and the transaction that it speaks of is not committed yet.
def Ahead (s : Session) : Prop := s.posted ≠ [] ∧ s.committed = []

instance (s : Session) : Decidable (Ahead s) := inferInstanceAs (Decidable (_ ∧ _))

-- What a mail of the session `s` says, as the tables have to say it.
def Mail.Holds (db : Db) (s : Session) (mail : Mail) : Prop :=
  match mail.template with
  | .oneoffReceipt amount _ reference => ∃ donation ∈ db.donations,
      donation.providerPaymentId = reference ∧
        statedAmount donation.currency donation.amountMinor = .ok amount
  | .monthlySignup _ _ => ∃ donor ∈ db.donors, ∃ subscription ∈ db.subscriptions,
      ∃ donation ∈ db.donations, donor.email = mail.to_ ∧ subscription.donorId = donor.id ∧
        donation.subscriptionId = some subscription.id ∧
          donation.providerPaymentId = subscription.providerSubscriptionId ++ "_initial"
  | .subscriptionCancelled => ∃ donor ∈ db.donors, ∃ subscription ∈ db.subscriptions,
      donor.email = mail.to_ ∧ subscription.donorId = donor.id ∧ subscription.status = .cancelled ∧
        ∃ stmt ∈ s.committed, stmt.Cancels subscription.id
  | _ => True

theorem Event.mail_of_posted {event : Event} (h : event.posted = none) : event.mail = none := by
  obtain ⟨op, ans⟩ := event
  cases op <;> first | rfl | cases h

section Runs

variable [Platform]

-- A donation that is found under the payment id of a new gift: it has to be
-- one of the same amount.
def Agrees (request : Request) (row : Donation) : Prop :=
  match request.endpoint with
  | .oneOff body => statedAmount row.currency row.amountMinor = statedAmount body.currency body.amountMinor
  | _ => False

-- No call that sends a mail raises, no request fails or dies between its mail and
-- its commit, and no payment id belongs to another gift already.
def Unfailing (pool : ServicePool) : ServiceMove → Prop
  | .act i .flush (.error _) | .act i (.query _) (.error _) | .act i .commit (.error _) | .crash i =>
      ∀ t ∈ pool.threads[i]?, ¬ Ahead t.loc
  | .act _ (.smtp _) (.error _) => False
  | .act i (.query (.donationByProviderPaymentId _)) (.ok rows) =>
      ∀ t ∈ pool.threads[i]?, ∀ row ∈ rows, Agrees t.req row
  | _ => True

-- What the session of a request shows that never failed between mail and commit.
structure Candid (request : Request) (s : Session) : Prop where
  posted : s.posted = s.sent
  spoken : s.sent ≠ [] → s.committed = [] ∨ ∃ transaction : Transaction,
    s.committed = transaction.stmts ∧ Licensed request s transaction ∧
      ∀ mail ∈ s.sent, Announces request s mail transaction
  intact : s.broken = true → ¬ Ahead s
  agrees : ∀ providerPaymentId (row : Donation),
    s.Read (.donationByProviderPaymentId providerPaymentId) row → Agrees request row

variable {request : Request} {s : Session} {transaction : Transaction} {mail : Mail}

theorem Candid.close (h : Candid request s) : Candid request s.close := by
  refine ⟨h.posted, fun hne => (h.spoken hne).imp_right fun ⟨transaction, hstmts, hlicensed, hannounced⟩ => ?_,
    h.intact, h.agrees⟩
  exact ⟨transaction, hstmts, hlicensed.mono List.suffix_rfl, fun mail hmail =>
    (hannounced mail hmail).mono List.suffix_rfl⟩

-- What neither commits nor sends.
theorem Candid.later {op : Op} {ans : Ans op} (h : Candid request s)
    (hcommitted : (s.update op ans).committed = s.committed) (hmail : Event.posted ⟨op, ans⟩ = none)
    (hintact : (s.update op ans).broken = true → ¬ Ahead s)
    (hagrees : ∀ providerPaymentId rows, (⟨op, ans⟩ : Event) =
      ⟨.query (.donationByProviderPaymentId providerPaymentId), .ok rows⟩ → ∀ row ∈ rows, Agrees request row) :
    Candid request (s.update op ans) := by
  have hpast : s.past <:+ (s.update op ans).past := List.suffix_cons _ _
  have hposted : (s.update op ans).posted = s.posted := by
    simp only [Session.posted, Session.update, List.filterMap_cons, hmail]
  have hsent : (s.update op ans).sent = s.sent := by
    simp only [Session.sent, Session.update, List.filterMap_cons, Event.mail_of_posted hmail]
  refine ⟨by rw [hposted, hsent, h.posted], fun hne => ?_, fun hbroken => ?_,
    fun providerPaymentId row hread => ?_⟩
  · rw [hsent] at hne ⊢
    rw [hcommitted]
    refine (h.spoken hne).imp_right ?_
    rintro ⟨transaction, hstmts, hlicensed, hannounced⟩
    exact ⟨transaction, hstmts, hlicensed.mono hpast, fun mail hm => (hannounced mail hm).mono hpast⟩
  · unfold Ahead
    rw [hposted, hcommitted]
    exact hintact hbroken
  · obtain ⟨rows, hmem, hrow⟩ := hread
    rcases List.mem_cons.mp hmem with hnew | hold
    · exact hagrees providerPaymentId rows hnew.symm row hrow
    · exact h.agrees providerPaymentId row ⟨rows, hold, hrow⟩

-- A mail goes out of a session that is sound and has committed nothing.
theorem Candid.send {op : Op} {ans : Ans op} (h : Candid request s) (hadvance : s.advance op ans = s)
    (hready : Ready request s transaction) (hannounces : Announces request s mail transaction)
    (hposted : Event.posted ⟨op, ans⟩ = Event.mail ⟨op, ans⟩)
    (hop : ∀ query rows, (⟨op, ans⟩ : Event) ≠ ⟨.query query, .ok rows⟩) :
    Candid request (s.update op ans) := by
  have hcommitted : (s.update op ans).committed = [] := by
    simp only [Session.update, hadvance]
    rw [hready.committed, hannounces.earlier]
  have hsound : (s.update op ans).broken = false := by
    simp only [Session.update, hadvance]
    exact hready.broken
  refine ⟨?_, fun _ => .inl hcommitted, fun hbroken => ?_, fun providerPaymentId row hread => ?_⟩
  · have hold : s.past.filterMap Event.posted = s.past.filterMap Event.mail := h.posted
    simp only [Session.posted, Session.sent, Session.update, List.filterMap_cons, hposted, hold]
  · cases hsound.symm.trans hbroken
  · obtain ⟨rows, hmem, hrow⟩ := hread
    rcases List.mem_cons.mp hmem with hnew | hold
    · exact absurd hnew.symm (hop _ rows)
    · exact h.agrees providerPaymentId row ⟨rows, hold, hrow⟩

theorem Candid.commit (h : Candid request s) (hpermits : Permits request s .commit) :
    Candid request (s.update .commit (.ok ())) := by
  obtain ⟨hunflushed, transaction, hready⟩ := hpermits
  have hpast : s.past <:+ (s.update .commit (.ok ())).past := List.suffix_cons _ _
  have hflushed : s.flushed = transaction.stmts := by
    simpa [Session.pending, hunflushed] using hready.pending
  refine ⟨h.posted, fun hne => .inr ⟨transaction, ?_, hready.licensed.mono hpast, fun mail hmail =>
    (hready.announced mail hmail).mono hpast⟩, fun hbroken => ?_, fun providerPaymentId row hread => ?_⟩
  · obtain ⟨mail, hmail⟩ := List.exists_mem_of_ne_nil _ hne
    show s.committed ++ s.flushed = _
    rw [hready.committed, (hready.announced mail hmail).earlier, hflushed]
    rfl
  · cases hready.broken.symm.trans hbroken
  · obtain ⟨rows, hmem, hrow⟩ := hread
    rcases List.mem_cons.mp hmem with hnew | hold
    · cases hnew
    · exact h.agrees providerPaymentId row ⟨rows, hold, hrow⟩

theorem Candid.update {pool : ServicePool} {i : ℕ} {t : ServiceThread} {op : Op} {ans : Ans op}
    (h : Candid t.req t.loc) (hi : pool.threads[i]? = some t) (hpermits : Permits t.req t.loc op)
    (hallow : Unfailing pool (.act i op ans)) : Candid t.req (t.loc.update op ans) := by
  have hquiet (hcommitted : (t.loc.update op ans).committed = t.loc.committed)
      (hmail : Event.posted ⟨op, ans⟩ = none) (hbroken : (t.loc.update op ans).broken = t.loc.broken)
      (hop : ∀ query rows, (⟨op, ans⟩ : Event) ≠ ⟨.query query, .ok rows⟩) :
      Candid t.req (t.loc.update op ans) :=
    h.later hcommitted hmail (fun hb => h.intact (hbroken ▸ hb)) fun _ rows heq => absurd heq (hop _ rows)
  cases op with
  | flush => cases ans with
    | ok _ => exact hquiet rfl rfl rfl (by simp)
    | error _ => exact h.later rfl rfl (fun _ => hallow t hi) (by simp)
  | query query => cases ans with
    | ok rows =>
        refine h.later rfl (by cases query <;> rfl) h.intact fun providerPaymentId rows' heq row hrow => ?_
        cases heq
        exact hallow t hi row hrow
    | error _ => exact h.later rfl rfl (fun _ => hallow t hi) fun _ _ heq => by cases heq
  | commit => cases ans with
    | ok _ => exact h.commit hpermits
    | error _ => exact h.later rfl rfl (fun _ => hallow t hi) (by simp)
  | smtp mail => cases ans with
    | ok _ =>
        obtain ⟨-, transaction, hready, hannounces⟩ := hpermits
        exact h.send rfl hready hannounces rfl (by simp)
    | error _ => exact hallow.elim
  | log mail =>
      obtain ⟨-, transaction, hready, hannounces⟩ := hpermits
      exact h.send rfl hready hannounces rfl (by simp)
  | _ => exact hquiet rfl rfl rfl (by simp)

variable {pool pool' : ServicePool} {move : ServiceMove} {t : ServiceThread}

-- Nobody who is ahead has died.
structure Reliable (pool : ServicePool) : Prop where
  candid : ∀ t ∈ pool.threads, Candid t.req t.loc
  alive : ∀ t ∈ pool.threads, t.phase = .died → ¬ Ahead t.loc

theorem Reliable.step (h : Reliable pool) (hproper : ∀ t ∈ pool.threads, Proper t)
    (hallow : Unfailing pool move) (hmove : service.Step pool move pool') : Reliable pool' := by
  constructor
  · refine hmove.forall_threads hproper (P := fun _ request s => Candid request s) ?_
      (fun _ _ hs => hs.close) ?_ (fun _ _ _ _ _ _ _ _ _ hs => hs) h.candid
    · rintro request -
      exact ⟨rfl, fun hne => absurd rfl hne, fun hbroken => (nomatch hbroken), fun _ _ ⟨_, hmem, _⟩ =>
        (nomatch hmem)⟩
    · rintro i t op ans rfl hissues hpermits - hs
      exact hs.update hissues.1 hpermits hallow
  · cases hmove with
    | arrive shared threads request =>
        intro t ht hdied
        rcases List.mem_append.mp ht with ht | ht
        · exact h.alive t ht hdied
        · rw [List.mem_singleton.mp ht] at hdied
          cases hdied
    | crash hthread =>
        have hbehind := hallow _ hthread
        exact System.forall_mem_set h.alive fun _ => hbehind
    | act => exact System.forall_mem_set h.alive (by simp)
    | finish => exact System.forall_mem_set h.alive (by simp)
    | fail => exact System.forall_mem_set h.alive (by simp)

-- A request that has ended is not ahead of its commit.
theorem Reliable.not_ahead (h : Reliable pool) (ht : t ∈ pool.threads) (hproper : Proper t)
    (hended : ¬ t.IsRunning) : ¬ Ahead t.loc := by
  cases hphase : t.phase with
  | running rest => exact absurd ⟨rest, hphase⟩ hended
  | died => exact h.alive t ht hphase
  | ended out =>
      unfold Proper System.Obedient at hproper
      rw [hphase] at hproper
      obtain ⟨s, hloc, hconcludes⟩ := hproper
      have hintact := (h.candid t ht).intact
      have hposted : s.posted = s.sent := by
        have h := (h.candid t ht).posted
        rwa [hloc] at h
      rw [hloc] at hintact ⊢
      intro hahead
      have hsent : s.sent ≠ [] := hposted ▸ hahead.1
      cases out with
      | ok response => exact hconcludes.1 hsent hahead.2
      | error error => exact hintact (hconcludes.1 hsent) hahead

section Committed

variable (hconsistent : Consistent pool) (ht : t ∈ pool.threads)
    (hcommitted : t.loc.committed = transaction.stmts)

include hconsistent ht hcommitted

-- The donation of a settlement is new, or it was there and agrees.
theorem Candid.settled (h : Candid t.req t.loc) {x : Settlement} {eventType subject : String}
    (hx : x.Synthetic eventType subject t.loc) (hstmts : ∀ stmt ∈ x.stmts, stmt ∈ transaction.stmts) :
    (∃ id completedAt, x.args.row id completedAt ∈ pool.shared.db.donations) ∨
      ∃ row ∈ pool.shared.db.donations, row.providerPaymentId = x.args.providerPaymentId ∧
        Agrees t.req row := by
  cases hinserted : x.inserted with
  | some inserted =>
      have hmem : .insertDonation (x.args.row inserted.1 inserted.2) ∈ transaction.stmts :=
        hstmts _ (by simp [Settlement.mem_stmts, Settlement.donation, hinserted])
      rw [← hcommitted] at hmem
      exact .inl ⟨_, _, (hconsistent.grounded t ht).kept _ hmem⟩
  | none =>
      obtain ⟨row, hread⟩ := hx.found hinserted
      obtain ⟨hdonation, haccepts⟩ := (hconsistent.grounded t ht).reads _ _ hread
      exact .inr ⟨row, hdonation, by simpa [Query.accepts] using haccepts, h.agrees _ row hread⟩

theorem Candid.holds_receipt (h : Candid t.req t.loc) {body : OneOffCreate} {x : Settlement}
    {token amount date : String} {donorId : Uuid} (hrequest : t.req.endpoint = .oneOff body)
    (hargs : x.args = oneOffArgs body donorId ("test_pay_" ++ token) x.event.payload)
    (hx : x.Synthetic "payment.succeeded" ("test_pay_" ++ token) t.loc)
    (hstmts : ∀ stmt ∈ x.stmts, stmt ∈ transaction.stmts)
    (hamount : statedAmount body.currency body.amountMinor = .ok amount)
    (hmail : mail.template = .oneoffReceipt amount date x.args.providerPaymentId) :
    mail.Holds pool.shared.db t.loc := by
  simp only [Mail.Holds, hmail]
  rcases h.settled hconsistent ht hcommitted hx hstmts with ⟨id, completedAt, hdonation⟩ |
    ⟨row, hdonation, hid, hagrees⟩
  · refine ⟨_, hdonation, rfl, ?_⟩
    rw [hargs]
    exact hamount
  · rw [Agrees, hrequest] at hagrees
    exact ⟨row, hdonation, hid, hagrees.trans hamount⟩

theorem Candid.holds_signup (h : Candid t.req t.loc) {body : SubscriptionCreate} {step : DonorStep}
    {x : Settlement}
    {providerSubscriptionId amount manageUrl : String} {rail : SubscriptionProvider} {id : Uuid} {time : Time}
    {subscription : Subscription}
    (htransaction : transaction = .subscribe step subscription (some ⟨time, some x⟩))
    (hrequest : t.req.endpoint = .subscription body) (hdonor : step.From body.donor t.loc)
    (hsubscription : subscription = newSubscription body step.row.id rail providerSubscriptionId id)
    (hargs : x.args = initialArgs body step.row.id subscription x.event.payload)
    (hx : x.Synthetic "subscription.activated" providerSubscriptionId t.loc) (hto : mail.to_ = step.row.email)
    (hmail : mail.template = .monthlySignup amount manageUrl) : mail.Holds pool.shared.db t.loc := by
  subst htransaction
  obtain ⟨donor, hstored, hid, hemail⟩ := giver_stored hconsistent ht hdonor fun stmt hstmt => by
    rw [hcommitted]
    exact Transaction.mem_stmts_subscribe.mpr (.inl hstmt)
  have hinserted : .insertSubscription subscription ∈ t.loc.committed := by
    rw [hcommitted]
    exact Transaction.mem_stmts_subscribe.mpr (.inr (.inl rfl))
  obtain ⟨columns, hrow⟩ : ∃ columns, subscription.setAll columns ∈ pool.shared.db.subscriptions :=
    (hconsistent.grounded t ht).kept _ hinserted
  have hstmts (stmt : Stmt) (hstmt : stmt ∈ x.stmts) :
      stmt ∈ (Transaction.subscribe step subscription (some ⟨time, some x⟩)).stmts := by
    simp [Transaction.mem_stmts_subscribe, Activation.stmts, hstmt]
  simp only [Mail.Holds, hmail]
  rcases h.settled hconsistent ht hcommitted hx hstmts with ⟨donationId, completedAt, hdonation⟩ |
    ⟨row, -, -, hagrees⟩
  · refine ⟨donor, hstored, _, hrow, _, hdonation, hemail.trans hto.symm, ?_, ?_, ?_⟩
    · rw [Subscription.setAll_donorId, hsubscription, hid]
      rfl
    · rw [Subscription.setAll_id, hargs]
      rfl
    · rw [Subscription.setAll_providerSubscriptionId, hargs]
      rfl
  · rw [Agrees, hrequest] at hagrees
    exact hagrees.elim

theorem holds_cancellation {subscription : Subscription} {donor : Donor} {time : Time}
    (htransaction : transaction = .cancel subscription time)
    (hcancelled : ∀ stmt ∈ t.loc.committed, ∀ id, stmt.Cancels id → pool.shared.db.Cancelled id)
    (hread : t.loc.Read (.openSubscriptions subscription.donorId) subscription)
    (hopen : subscription.status ≠ .cancelled)
    (hdonor : t.loc.Read (.donorById subscription.donorId) donor) (hto : mail.to_ = donor.email)
    (hmail : mail.template = .subscriptionCancelled) : mail.Holds pool.shared.db t.loc := by
  subst htransaction
  obtain ⟨⟨columns, hstored⟩, haccepts⟩ := (hconsistent.grounded t ht).reads _ _ hdonor
  obtain ⟨columns', hopened⟩ : ∃ columns, subscription.setAll columns ∈ pool.shared.db.subscriptions :=
    ((hconsistent.grounded t ht).reads _ _ hread).1
  have hmem : .updateSubscription subscription.id (subscription.changes (Ledger.cancelledColumns
      (some Subscriptions.cancelReason) time)) ∈ t.loc.committed := by
    rw [hcommitted]
    exact List.mem_cons_self
  have hcancels : Stmt.Cancels subscription.id (.updateSubscription subscription.id
      (subscription.changes (Ledger.cancelledColumns (some Subscriptions.cancelReason) time))) :=
    Subscription.cancels hopen
  obtain ⟨row, hrow, hid, hstatus⟩ := hcancelled _ hmem _ hcancels
  have hsame := Db.subscription_unique hconsistent.keys_nodup hrow hopened
    (hid.trans (Subscription.setAll_id subscription columns').symm)
  simp only [Mail.Holds, hmail]
  refine ⟨_, hstored, row, hrow, ?_, ?_, hstatus, _, hmem, hid ▸ hcancels⟩
  · exact (Donor.setAll_email donor columns).trans hto.symm
  · have hdonorId : donor.id = subscription.donorId := by simpa [Query.accepts] using haccepts
    rw [hsame, Subscription.setAll_donorId, ← hdonorId]
    exact (Donor.setAll_id donor columns).symm

-- What was announced and committed is in the tables.
theorem Candid.holds (h : Candid t.req t.loc)
    (hcancelled : ∀ stmt ∈ t.loc.committed, ∀ id, stmt.Cancels id → pool.shared.db.Cancelled id)
    (hlicensed : Licensed t.req t.loc transaction) (hannounces : Announces t.req t.loc mail transaction) :
    mail.Holds pool.shared.db t.loc := by
  cases hannounces with
  | receipt hrequest hto hamount hmail =>
      cases hlicensed with
      | oneOff hrequest' hdonor hsettled =>
          cases hrequest.symm.trans hrequest'
          obtain ⟨token, -, hargs, hx⟩ := hsettled _ rfl
          exact h.holds_receipt hconsistent ht hcommitted hrequest hargs hx
            (fun stmt hstmt => by simp [Transaction.mem_stmts_oneOff, hstmt]) hamount hmail
  | signup hrequest hto hmail =>
      cases hlicensed with
      | subscribe hrequest' hdonor hsubscription hopened hactive hsettled =>
          obtain ⟨hargs, hx⟩ := hsettled _ rfl _ rfl
          exact h.holds_signup hconsistent ht hcommitted rfl hrequest' hdonor hsubscription hargs hx hto hmail
  | cancellation hrequest hdonor hto hmail =>
      cases hlicensed with
      | cancel hrequest' htoken hread hopen =>
          exact holds_cancellation hconsistent ht hcommitted rfl hcancelled hread hopen hdonor hto hmail

end Committed

-- A mail of a request that is at work no more says what is in the tables.
theorem sent_mail_holds (hrun : service.Run Unfailing ⟨{}, []⟩ pool) (ht : t ∈ pool.threads)
    (hmail : mail ∈ t.loc.posted) : t.IsRunning ∨
      (∃ transaction : Transaction, t.loc.committed = transaction.stmts ∧
        Announces t.req t.loc mail transaction) ∧ mail.Holds pool.shared.db t.loc := by
  obtain ⟨⟨hconsistent, hreliable⟩, hproper⟩ := hrun.invariant_of_obeys handler_obeys
    (I := fun pool => Consistent pool ∧ Reliable pool) ⟨.initial, by simp, by simp⟩ (by simp)
    fun _ _ _ h hproper hallow hmove =>
      ⟨h.1.step hproper hmove, h.2.step hproper hallow hmove⟩
  refine (Classical.em t.IsRunning).imp_right fun hended => ?_
  have hcandid := hreliable.candid t ht
  have hcommitted : t.loc.committed ≠ [] := fun hnone =>
    hreliable.not_ahead ht (hproper t ht) hended ⟨List.ne_nil_of_mem hmail, hnone⟩
  rw [hcandid.posted] at hmail
  have hsent := List.ne_nil_of_mem hmail
  obtain ⟨transaction, hstmts, hlicensed, hannounced⟩ := (hcandid.spoken hsent).resolve_left hcommitted
  refine ⟨⟨transaction, hstmts, hannounced mail hmail⟩, hcandid.holds hconsistent ht hstmts ?_ hlicensed
    (hannounced mail hmail)⟩
  exact fun stmt hstmt id hcancels => cancelled_run hrun ht hstmt hcancels

instance (request : Request) (row : Donation) : Decidable (Agrees request row) :=
  match h : request.endpoint with
  | .oneOff body => decidable_of_iff
      (statedAmount row.currency row.amountMinor = statedAmount body.currency body.amountMinor)
      (by simp [Agrees, h])
  | .subscription _ | .manageGet _ | .managePatch _ _ | .manageDelete _ | .newsletterSubscribe _
  | .newsletterUnsubscribe _ | .dataRequest _ | .webhook _ _ _ => isFalse (by simp [Agrees, h])

instance (pool : ServicePool) : (move : ServiceMove) → Decidable (Unfailing pool move)
  | .act i op answer => match op, answer with
    | .flush, .error _ | .query _, .error _ | .commit, .error _ =>
        inferInstanceAs (Decidable (∀ t ∈ pool.threads[i]?, ¬ Ahead t.loc))
    | .smtp _, .error _ => isFalse id
    | .query (.donationByProviderPaymentId _), .ok rows =>
        inferInstanceAs (Decidable (∀ t ∈ pool.threads[i]?, ∀ row ∈ rows, Agrees t.req row))
    | .query (.donorByEmail _), .ok _ | .query (.donorById _), .ok _
    | .query (.eventByProviderEventId _), .ok _ | .query (.openSubscriptions _), .ok _ | .flush, .ok _
    | .commit, .ok _ | .now, _ | .uuid7, _ | .tokenHex, _ | .push _, _ | .stripeCheckout _, _
    | .stripeDelete _, _ | .http _, _ | .record _, _ | .smtp _, .ok _ | .log _, _ => isTrue trivial
  | .crash i => inferInstanceAs (Decidable (∀ t ∈ pool.threads[i]?, ¬ Ahead t.loc))
  | .arrive _ | .finish _ => isTrue trivial

end Runs

open Trial

-- A monthly gift, and its cancellation through the link of its donor.
def cancelledGift : List ServiceCue :=
  [.arrive (subscription "test" "amina@example.org")] ++ turns 0 34 (reply 0) ++
    [.finish 0, .arrive manageDelete] ++ turns 1 12 (reply 1) ++ [.finish 1]

theorem sent_mail_holds_cancelled : ∃ pool t mail, service.Run Unfailing ⟨{}, []⟩ pool ∧
    t ∈ pool.threads ∧ mail ∈ t.loc.posted ∧ mail.template = .subscriptionCancelled ∧
      mail.Holds pool.shared.db t.loc := by
  obtain ⟨pool, hrun, t, ht, hanswer, mail, hmail, htemplate⟩ := exists_run Unfailing
    (fun pool => ∃ t ∈ pool.threads, t.answer = some ⟨200, .status "cancelled"⟩ ∧
      ∃ mail ∈ t.loc.posted, mail.template = .subscriptionCancelled) cancelledGift (by decide +kernel)
  refine ⟨pool, t, mail, hrun, ht, hmail, htemplate, ?_⟩
  refine ((sent_mail_holds hrun ht hmail).resolve_left ?_).2
  rintro ⟨rest, hrunning⟩
  simp [Thread.answer, hrunning] at hanswer

-- The receipt is out when the commit fails, and nothing is left in the tables.
def uncommittedGift : List ServiceCue :=
  [.arrive (oneOff "test" "amina@example.org")] ++ turns 0 26 (reply 0) ++ turns 0 1 (refuse 0) ++
    [.finish 0]

theorem receipt_without_donation : ∃ pool, service.Run (fun _ _ => True) ⟨{}, []⟩ pool ∧
    ∃ t ∈ pool.threads, ¬ t.IsRunning ∧ ∃ mail ∈ t.loc.sent, ¬ mail.Holds pool.shared.db t.loc := by
  obtain ⟨pool, hrun, hnone, t, ht, hresponse, mail, hmail, htemplate⟩ := exists_run (fun _ _ => True)
    (fun pool => pool.shared.db.donations = [] ∧ ∃ t ∈ pool.threads,
      response t = some ⟨500, .problem "Internal server error" none⟩ ∧ ∃ mail ∈ t.loc.sent,
        mail.template = .oneoffReceipt "USD 25.00" "2025-06-15" "test_pay_00000000000000000005")
    uncommittedGift (by decide +kernel)
  refine ⟨pool, hrun, t, ht, ?_, mail, hmail, fun hholds => ?_⟩
  · rintro ⟨rest, hrunning⟩
    simp [response, hrunning] at hresponse
  · simp [Mail.Holds, htemplate, hnone] at hholds

end BridgeOfHope
