import BridgeOfHope.Conduct.Lemmas

namespace BridgeOfHope

open Process Payments

variable [Platform] {request : Request} {s : Session}

namespace Webhooks

theorem concludes_text {args : EventArgs} (hdelivery : request.delivery = some args)
    (error : Exn) (hsent : s.sent = [])
    (h : ∀ providerEventId eventType, args.providerEventId = .str providerEventId →
      args.eventType = .str eventType → s.broken = true) : Concludes request s (.error error) := by
  refine ⟨fun hne => absurd hsent hne, fun args' providerEventId eventType hargs hid htype => ?_⟩
  rw [hdelivery] at hargs
  cases hargs
  exact h providerEventId eventType hid htype

-- The second step of a delivery. When it fails the session is broken, so the
-- attempt to record the failure fails as well.
theorem process_obeys {event : BridgeOfHope.WebhookEvent} {after : Session → Except Exn Unit → Prop}
    (hcommitted : s.committed = [.insertWebhookEvent event]) (hpending : s.pending = [])
    (hbroken : s.broken = false) (hsent : s.sent = []) (hattempts : event.attempts = 0)
    (hlicensed : ∀ s' time, s.past <:+ s'.past → Licensed request s' (.process event time))
    (hok : ∀ s' time, s'.committed = [.insertWebhookEvent event] ++
      (Transaction.process event time).stmts → s'.pending = [] → s'.sent = [] → s'.broken = false →
        after s' (.ok ()))
    (herr : ∀ s' error, s'.broken = true → s'.committed = [.insertWebhookEvent event] →
      after s' (.error error)) :
    (process event).Obeys client (Permits request) after s := by
  have hfree := free_permits request
  have hhandler (s₁ : Session) (error : Exn) (h : s₁.broken = true)
      (hc : s₁.committed = [.insertWebhookEvent event]) :
      (do Ledger.markEventProcessed event (some error.message)
          commit : Act Unit).Obeys client (Permits request) after s₁ := by
    refine obeys_seq (obeys_seq (obeys_now hfree fun s₂ time h₂ => obeys_seq (obeys_seq
      (obeys_add (fun _ hb => ?_) fun s₃ h₃ => ?_))))
    · rw [h₂.broken, h] at hb
      cases hb
    refine obeys_flush_broken hfree ?_ fun s' error h₄ hb => herr s' error hb ?_
    · rw [h₃.broken, h₂.broken, h]
    · rw [h₄.committed, h₃.committed, h₂.committed, hc]
  refine Prog.obeys_handle.mpr ?_
  refine obeys_seq (Ledger.obeys_markEventProcessed hfree (fun s₁ time h₁ _ _ =>
    ⟨h₁.pending.trans (by rw [hpending]; rfl), ⟨event, by simp [h₁.committed, hcommitted], rfl⟩,
      fun attempts h => ?_⟩) (fun s₁ time h₁ => ?_)
    fun s' error h hb => hhandler s' error hb (h.committed.trans hcommitted))
  · obtain ⟨h, -⟩ := List.mem_filter.mp h
    simpa [Ledger.processedColumns, hattempts] using h
  have hready : Ready request s₁ (.process event time) := by
    refine ⟨?_, h₁.committed.trans hcommitted, h₁.broken.trans hbroken, hlicensed s₁ time h₁.past, ?_⟩
    · rw [h₁.pending, hpending]
      rfl
    · simp [h₁.sent, hsent]
  refine obeys_commit hfree (fun s₂ h₂ hu => ⟨hu, _, hready.mono h₂⟩) (fun s₂ hc hp hs _ hb => ?_)
    fun s' error h hb => hhandler s' error hb (h.committed.trans hready.committed)
  refine hok s₂ time ?_ hp (hs.trans (h₁.sent.trans hsent)) (hb.trans hready.broken)
  rw [hc, hready.committed, hready.pending]
  rfl

-- The ways in which a delivery can end. It found its event, or stored and processed
-- it; or it failed, with nothing or only the event itself stored.
theorem obeys_accept {event : Payments.WebhookEvent} {providerName : String} {args : EventArgs}
    (hargs : args = ⟨providerName, event.providerEventId,
      event.eventType, event.payload, event.signatureValid⟩) (hdelivery : request.delivery = some args)
    {after : Session → Except Exn Response → Prop}
    (hok : ∀ s, s.sent = [] → s.pending = [] → s.broken = false → Acknowledged request s →
      after s (.ok ⟨200, .empty⟩))
    (herr : ∀ s error, (s.committed = [] ∨ ∃ row, s.committed = [.insertWebhookEvent row]) →
      s.broken = true ∨ s.sent = [] ∧
      (∀ providerEventId, args.providerEventId = .str providerEventId →
        ⟨.query (.eventByProviderEventId providerEventId), .ok []⟩ ∈ s.past ∧
          ∀ eventType, args.eventType ≠ .str eventType) → after s (.error error)) :
    (accept providerName event).Obeys client (Permits request) after {} := by
  have hfree := free_permits request
  cases hid : event.providerEventId with
  | str providerEventId =>
      have hid' : args.providerEventId = .str providerEventId := by rw [hargs, hid]
      have hdelivery' := hargs ▸ hdelivery
      refine obeys_seq (Ledger.obeys_recordWebhookEvent hfree hid (fun s' h hu hl => ?_)
        (fun s' eventType id time htype h hmissing _ _ => ⟨h.pending, h.committed, hmissing,
          _, hdelivery', _, _, _, _, hid, htype, rfl⟩) (fun s₁ row h₁ hread => ?_)
        (fun s₁ eventType id receivedAt htype h₁ hmissing => ?_) fun s' error h hb => ?_)
      · have hflushed : s'.flushed = [] := by simp [h.flushed hu, Session.pending]
        exact ⟨by simp [hflushed], fun _ => ⟨hl, h.committed, _, hdelivery', hid⟩⟩
      · have hready : Ready request s₁ (.receive none) := ⟨h₁.pending, h₁.committed, h₁.broken,
          .seen hdelivery' hid hread, by simp [show s₁.sent = [] from h₁.sent]⟩
        refine obeys_seq (obeys_commit hfree (fun s₂ h₂ hu => ⟨hu, _, hready.mono h₂⟩)
          (fun s₂ hc hp hs hpast hb => ?_)
          fun s' error h hb => herr s' error (.inl (h.committed.trans h₁.committed)) (.inl hb))
        refine hok s₂ (hs.trans h₁.sent) hp (hb.trans h₁.broken)
          ⟨_, _, hdelivery, hid', .inl ⟨?_, row, hread.mono hpast⟩⟩
        rw [hc, h₁.committed, h₁.pending]
        rfl
      · have hready : Ready request s₁ (.receive (some _)) := ⟨h₁.pending, h₁.committed, h₁.broken,
          .receive hdelivery' hid htype hmissing, by simp [show s₁.sent = [] from h₁.sent]⟩
        refine obeys_seq (obeys_commit hfree (fun s₂ h₂ hu => ⟨hu, _, hready.mono h₂⟩)
          (fun s₂ hc hp hs hpast hb => ?_)
          fun s' error h hb => herr s' error (.inl (h.committed.trans h₁.committed)) (.inl hb))
        have hstored : s₂.committed = [.insertWebhookEvent (EventArgs.row ⟨providerName, event.providerEventId,
            event.eventType, event.payload, event.signatureValid⟩
              providerEventId eventType id receivedAt)] := by
          rw [hc, h₁.committed, h₁.pending]
          rfl
        refine obeys_seq (process_obeys hstored hp (hb.trans h₁.broken) (hs.trans h₁.sent) rfl
          (fun s' _ h => .process hdelivery' hid htype ((hpast.trans h).subset hmissing))
          (fun s₃ time hc₃ hp₃ hs₃ hb₃ => ?_) fun s' error hb hc => herr s' error (.inr ⟨_, hc⟩) (.inl hb))
        refine hok s₃ hs₃ hp₃ hb₃ ⟨_, _, hdelivery, hid', .inr ⟨eventType, id, receivedAt, time, ?_⟩⟩
        rw [hargs]
        exact hc₃
      · refine herr s' error (.inl h.committed)
          (hb.imp_right fun hfailed => ⟨h.sent, fun id hid'' => ⟨?_, fun eventType htype => ?_⟩⟩)
        · cases hid'.symm.trans hid''
          exact hfailed.1
        · have htype' : event.eventType = .str eventType := by rw [hargs] at htype; exact htype
          simp [htype', Json.text] at hfailed
  | _ =>
      refine obeys_seq (obeys_seq (obeys_ofExcept ?_))
      rw [hid]
      refine herr {} ⟨.other, "expected str"⟩ (.inl rfl) (.inr ⟨rfl, fun providerEventId hid' => ?_⟩)
      rw [hargs, hid] at hid'
      cases hid'

theorem accept_obeys {endpoint : Endpoint} {headers : List (String × String)} {rawBody : Bytes}
    (hrequest : request.endpoint = .webhook endpoint headers rawBody) {event : Payments.WebhookEvent}
    {providerName : String} (hdelivery : request.delivery = some ⟨providerName, event.providerEventId,
      event.eventType, event.payload, event.signatureValid⟩) :
    (accept providerName event).Obeys client (Permits request) (Concludes request) {} := by
  refine obeys_accept rfl hdelivery (fun s hsent hp _ h => ?_) fun s error _ hcase => ?_
  · refine ⟨fun hne => absurd hsent hne, hp, ?_⟩
    rw [hrequest]
    exact .inl ⟨rfl, h⟩
  · rcases hcase with hb | ⟨hsent, htext⟩
    · exact concludes_broken error hb
    · exact concludes_text hdelivery error hsent fun providerEventId eventType hid htype =>
        absurd htype ((htext providerEventId hid).2 eventType)

theorem handle_obeys {endpoint : Endpoint} {headers : List (String × String)} {rawBody : Bytes}
    (hrequest : request.endpoint = .webhook endpoint headers rawBody) :
    (handle request.settings.settings endpoint.providerName headers rawBody).Obeys client
      (Permits request) (Concludes request) {} := by
  have hrejected (h : request.delivery = none) :
      Concludes request ({} : Session) (.ok ⟨401, .empty⟩) := by
    refine ⟨fun hne => absurd rfl hne, rfl, ?_⟩
    rw [hrequest]
    exact .inr ⟨rfl, h, rfl⟩
  unfold handle
  cases hprovider : getProvider endpoint.providerName request.settings.settings with
  | error error => exact hrejected (by simp [Request.delivery, hrequest, hprovider])
  | ok provider =>
      dsimp only
      split
      case isFalse hverify => exact hrejected (by simp [Request.delivery, hrequest, hprovider, hverify])
      case isTrue hverify =>
        refine obeys_seq (obeys_ofExcept ?_)
        cases hparse : provider.parseEvent rawBody with
        | error error =>
            refine ⟨fun hne => absurd rfl hne, fun args _ _ hdelivery => ?_⟩
            simp [Request.delivery, hrequest, hprovider, hverify, hparse] at hdelivery
        | ok event =>
            exact accept_obeys hrequest
              (by simp [Request.delivery, hrequest, hprovider, hverify, hparse])

end Webhooks

end BridgeOfHope
