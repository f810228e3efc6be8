import BridgeOfHope.Ledger
import BridgeOfHope.Runtime.Lemmas

namespace BridgeOfHope

open Process

theorem Json.text_eq_ok {value : Json} {text : String} : value.text = .ok text ↔ value = .str text := by
  cases value <;> simp [Json.text]

namespace Ledger

-- What the two updates make of a row that was just inserted.

theorem processed_row {event : WebhookEvent} (time : Time) (h : event.Fresh) :
    event.setAll (event.changes (processedColumns event none time)) =
      { event with processedAt := some time, status := .processed, attempts := 1 } := by
  obtain ⟨hstatus, hattempts, herror, hat⟩ := h
  cases event
  simp only at hstatus hattempts herror hat
  subst hstatus hattempts herror hat
  simp [WebhookEvent.changes, processedColumns, WebhookEvent.set, WebhookEvent.setAll]

theorem activated_row {subscription : Subscription} (time : Time)
    (hstatus : subscription.status = .pending) (hat : subscription.startedAt = none) :
    subscription.setAll (subscription.changes (activatedColumns subscription time)) =
      { subscription with status := .active, startedAt := some time } := by
  cases subscription
  simp only at hstatus hat
  subst hstatus hat
  simp [Subscription.changes, activatedColumns, Subscription.set, Subscription.setAll]

variable [Platform] {before : Session → Op → Prop} {s : Session}

-- The answer is a row that was read, or a row that is inserted now. Besides
-- the database only an id or a type that is no text makes the call fail.
theorem obeys_recordWebhookEvent (hfree : Free before) {args : EventArgs} {providerEventId : String}
    (hid : args.providerEventId = .str providerEventId)
    {after : Session → Except Exn (WebhookEvent × Bool) → Prop}
    (hquery : ∀ s', s.Writes s' [] → s'.unflushed = [] → s'.lookups = s.lookups →
      before s' (.query (.eventByProviderEventId providerEventId)))
    (hpush : ∀ s' eventType id time, args.eventType = .str eventType → s.Writes s' [] →
      ⟨.query (.eventByProviderEventId providerEventId), .ok []⟩ ∈ s'.past →
      before s' (.push (.insertWebhookEvent (args.row providerEventId eventType id time))))
    (hseen : ∀ s' row, s.Writes s' [] → s'.Read (.eventByProviderEventId providerEventId) row →
      after s' (.ok (row, false)))
    (hnew : ∀ s' eventType id time, args.eventType = .str eventType →
      s.Writes s' [.insertWebhookEvent (args.row providerEventId eventType id time)] →
      ⟨.query (.eventByProviderEventId providerEventId), .ok []⟩ ∈ s'.past →
      after s' (.ok (args.row providerEventId eventType id time, true)))
    (herr : ∀ s' error, s.Extends s' → s'.broken = true ∨
      ⟨.query (.eventByProviderEventId providerEventId), .ok []⟩ ∈ s'.past ∧
        args.eventType.text = .error error →
      after s' (.error error)) :
    (recordWebhookEvent args).Obeys client before after s := by
  unfold recordWebhookEvent
  rw [hid]
  refine obeys_seq (obeys_ofExcept ?_)
  refine obeys_seq (obeys_scalar hfree hquery ?_ ?_ fun s' e h hb => herr s' e h (.inl hb))
  · intro s₁ h₁ hmissing
    refine obeys_seq (obeys_now hfree fun s₂ time h₂ => ?_)
    refine obeys_seq (obeys_uuid7 hfree fun s₃ id h₃ => obeys_seq (obeys_ofExcept ?_))
    have h := (h₁.trans_nil h₂).trans_nil h₃
    cases htype : args.eventType with
    | str eventType =>
        have hpast := (h₂.trans_nil h₃).past.subset hmissing
        refine obeys_seq (obeys_add (hpush s₃ eventType id time htype h hpast) fun s₄ h₄ =>
          obeys_seq (obeys_flush hfree ?_ ?_))
        · intro s₅ h₅ _ _
          have hw := (h.nil_trans h₄).trans_nil h₅
          exact hnew s₅ eventType id time htype hw
            ((h₄.trans h₅).past.subset hpast)
        · intro s₅ error h₅ hb
          exact herr s₅ error ((h.toExtends.trans h₄.toExtends).trans h₅) (.inl hb)
    | _ => exact herr s₃ _ h.toExtends (.inr ⟨(h₂.trans_nil h₃).past.subset hmissing, by rw [htype]; rfl⟩)
  · intro s₁ row rows h₁ hrow _
    exact hseen s₁ row h₁ ⟨_, hrow, List.mem_cons_self⟩

-- An assignment on a loaded row, and the flush after it.
theorem obeys_assign_flush (hfree : Free before) {α : Type} {stmt : Time → Stmt} {value : Time → α}
    (hpush : ∀ s' time, s.Writes s' [] → before s' (.push (stmt time)))
    {after : Session → Except Exn Unit → Prop}
    (hok : ∀ s' time, s.Writes s' [stmt time] → after s' (.ok ()))
    (herr : ∀ s' error, s.Extends s' → s'.broken = true → after s' (.error error)) :
    (do let time ← now
        let _ ← (do add (stmt time); return value time : Act α)
        flush : Act Unit).Obeys client before after s := by
  refine obeys_seq (obeys_now hfree fun s₁ time h₁ => obeys_seq (obeys_seq
    (obeys_add (hpush s₁ time h₁) fun s₂ h₂ => obeys_flush hfree ?_ ?_)))
  · intro s₃ h₃ _ _
    exact hok s₃ time ((h₁.nil_trans h₂).trans_nil h₃)
  · intro s₃ error h₃ hb
    exact herr s₃ error ((h₁.toExtends.trans h₂.toExtends).trans h₃) hb

theorem obeys_markEventProcessed (hfree : Free before) {event : WebhookEvent} {error : Option String}
    {after : Session → Except Exn Unit → Prop}
    (hpush : ∀ s' time, s.Writes s' [] → before s' (.push
      (.updateWebhookEvent event.id (event.changes (processedColumns event error time)))))
    (hok : ∀ s' time, s.Writes s'
      [.updateWebhookEvent event.id (event.changes (processedColumns event error time))] →
      after s' (.ok ()))
    (herr : ∀ s' error, s.Extends s' → s'.broken = true → after s' (.error error)) :
    (markEventProcessed event error).Obeys client before after s :=
  obeys_assign_flush hfree hpush hok herr

theorem obeys_activateSubscription (hwrites : FreeToWrite before) {subscription : Subscription}
    {after : Session → Except Exn Unit → Prop}
    (hok : ∀ s' time, s.Writes s' [.updateSubscription subscription.id
      (subscription.changes (activatedColumns subscription time))] → after s' (.ok ()))
    (herr : ∀ s' error, s.Extends s' → s'.broken = true → after s' (.error error)) :
    (activateSubscription subscription).Obeys client before after s :=
  obeys_assign_flush hwrites.toFree (fun s' _ _ => hwrites.push s' _) hok herr

theorem obeys_cancelSubscriptionRow (hfree : Free before) {subscription : Subscription}
    {reason : Option String} {after : Session → Except Exn Unit → Prop}
    (hpush : ∀ s' time, s.Writes s' [] → before s' (.push
      (.updateSubscription subscription.id (subscription.changes (cancelledColumns reason time)))))
    (hok : ∀ s' time, s.Writes s' [.updateSubscription subscription.id
      (subscription.changes (cancelledColumns reason time))] → after s' (.ok ()))
    (herr : ∀ s' error, s.Extends s' → s'.broken = true → after s' (.error error)) :
    (cancelSubscriptionRow subscription reason).Obeys client before after s :=
  obeys_assign_flush hfree hpush hok herr

-- Nothing is inserted only when the payment id has its donation already.
theorem obeys_recordDonation (hwrites : FreeToWrite before) {args : DonationArgs}
    {after : Session → Except Exn Donation → Prop}
    (hquery : ∀ s', s.Writes s' [] → s'.unflushed = [] →
      before s' (.query (.donationByProviderPaymentId args.providerPaymentId)))
    (hok : ∀ s' donation inserted,
      s.Writes s' ((inserted.map fun (id, time) => args.row id time).toList.map .insertDonation) →
      (inserted = none → ∃ row, s'.Read (.donationByProviderPaymentId args.providerPaymentId) row) →
      after s' (.ok donation))
    (herr : ∀ s' error, s.Extends s' → s'.broken = true → after s' (.error error)) :
    (recordDonation args).Obeys client before after s := by
  have hfree := hwrites.toFree
  refine obeys_seq (obeys_scalar hfree (fun s' h hu _ => hquery s' h hu) ?_ ?_ herr)
  · intro s₁ h₁ _
    refine obeys_seq (obeys_now hfree fun s₂ time h₂ => ?_)
    refine obeys_seq (obeys_uuid7 hfree fun s₃ id h₃ => ?_)
    have h := (h₁.trans_nil h₂).trans_nil h₃
    refine obeys_seq (obeys_add (hwrites.push _ _) fun s₄ h₄ => obeys_seq (obeys_flush hfree ?_ ?_))
    · intro s₅ h₅ _ _
      exact hok s₅ _ (some (id, time)) ((h.nil_trans h₄).trans_nil h₅) nofun
    · intro s₅ error h₅ hb
      exact herr s₅ error ((h.toExtends.trans h₄.toExtends).trans h₅) hb
  · intro s₁ row rows h₁ hrow _
    exact hok s₁ row none h₁ fun _ => ⟨row, _, hrow, List.mem_cons_self⟩

end Ledger

end BridgeOfHope
