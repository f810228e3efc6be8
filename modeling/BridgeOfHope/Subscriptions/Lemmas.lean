import BridgeOfHope.Conduct.Lemmas

namespace BridgeOfHope

open Process Payments Donations

-- The request read the clock first, and this is what it said.
def Session.Began (s : Session) (time : Time) : Prop := [(⟨.now, time⟩ : Event)] <:+ s.past

theorem Session.Began.unique {s : Session} {time time' : Time} (h : s.Began time)
    (h' : s.Began time') : time = time' := by
  have hevents : [(⟨.now, time⟩ : Event)] = [⟨.now, time'⟩] :=
    List.IsSuffix.eq_of_length (List.suffix_of_suffix_length_le h h' (Nat.le_refl _)) rfl
  cases hevents
  rfl

-- A cancellation after the rail has been told.
def Subscriptions.finishCancel (settings : Settings) (sub : Subscription) : Act Response := do
  Ledger.cancelSubscriptionRow sub (some cancelReason)
  match ← scalar (.donorById sub.donorId) with
  | some donor =>
      sendEmail settings donor.email "Your monthly gift has been cancelled" .subscriptionCancelled
  | none => pure ()
  commit
  return ⟨200, .status "cancelled"⟩

variable [Platform] {request : Request} {s : Session}

namespace Subscriptions

theorem cancel_eq {settings : Settings} {token : String} : cancel settings token = (do
    match ← donorSubscriptions settings.secretKey token with
    | [] => httpException 404 "No active monthly gift found."
    | sub :: _ =>
        tellRail settings sub
        finishCancel settings sub) := rfl

-- The token is checked first. The rows are those of its donor, and the query
-- is the first statement of the request.
theorem obeys_donorSubscriptions {before : Session → Op → Prop} (hfree : Free before) {token secretKey : String}
    (hquery : ∀ s donorId time, s.flushed = [] → s.committed = [] → s.Began time →
      verifyManageToken secretKey token time = .ok (some donorId) →
        before s (.query (.openSubscriptions donorId)))
    {after : Session → Except Exn (List Subscription) → Prop}
    (hok : ∀ s' rows donorId time, Session.Writes {} s' [] → s'.Began time →
      verifyManageToken secretKey token time = .ok (some donorId) →
      ⟨.query (.openSubscriptions donorId), .ok rows⟩ ∈ s'.past →
      (∀ row ∈ rows, row.donorId = donorId ∧ row.status ≠ .cancelled) → after s' (.ok rows))
    (herr : ∀ s' error, Session.Extends {} s' → (∀ time donorId, s'.Began time →
      verifyManageToken secretKey token time = .ok (some donorId) → s'.broken = true) →
        after s' (.error error)) :
    (donorSubscriptions secretKey token).Obeys client before after {} := by
  refine obeys_seq ⟨hfree.now {}, fun time _ => obeys_seq (obeys_ofExcept ?_)⟩
  have h₁ : Session.Writes {} (client.update {} .now time) [] := Session.writes_update rfl rfl
  have hbegan : (client.update {} .now time).Began time := List.suffix_rfl
  cases hverify : verifyManageToken secretKey token time with
  | error error =>
      refine herr _ error h₁.toExtends fun time' donorId hstart htoken => ?_
      rw [← hbegan.unique hstart, hverify] at htoken
      cases htoken
  | ok verified =>
      cases verified with
      | none =>
          refine herr _ _ h₁.toExtends fun time' donorId hstart htoken => ?_
          rw [← hbegan.unique hstart, hverify] at htoken
          cases htoken
      | some donorId =>
          refine @obeys_scalars _ _ _ hfree (.openSubscriptions donorId) after ?_ ?_ ?_
          · intro s' h hu _
            have hflushed : s'.flushed = [] := by simp [(h₁.trans h).flushed hu, Session.pending]
            exact hquery s' donorId time hflushed (h₁.trans h).committed h.past hverify
          · intro s₂ rows h₂ hmem hrows
            refine hok s₂ rows donorId time (h₁.trans h₂) h₂.past hverify hmem fun row hrow => ?_
            simpa [Query.accepts] using hrows row hrow
          · intro s' error h hbroken
            exact herr s' error (h₁.toExtends.trans h) fun _ _ _ _ => hbroken

theorem permits_openSubscriptions {secretKey token : String} (s : Session) (donorId : Uuid) (time : Time)
    (hflushed : s.flushed = []) (hcommitted : s.committed = []) (_ : s.Began time)
    (_ : verifyManageToken secretKey token time = .ok (some donorId)) :
    Permits request s (.query (.openSubscriptions donorId)) :=
  ⟨by simp [hflushed], hflushed, hcommitted⟩

theorem getSubscriptions_obeys {token : String} (hrequest : request.endpoint = .manageGet token) :
    (getSubscriptions request.settings.settings token).Obeys client (Permits request)
      (Concludes request) {} := by
  have hwebhook : request.isWebhook = false := by simp [Request.isWebhook, hrequest]
  refine obeys_seq (obeys_donorSubscriptions (free_permits request) permits_openSubscriptions
    (fun s₁ rows donorId time h _ _ _ _ => ?_)
    fun s' error h _ => concludes_error hwebhook error h.sent)
  exact ⟨fun hne => absurd h.sent hne, h.pending, by rw [hrequest]; trivial⟩

theorem changeAmount_obeys {token : String} {body : ManageSubscriptionPatch}
    (hrequest : request.endpoint = .managePatch token body) :
    (changeAmount request.settings.settings token body).Obeys client (Permits request)
      (Concludes request) {} := by
  have hwebhook : request.isWebhook = false := by simp [Request.isWebhook, hrequest]
  refine obeys_seq (obeys_donorSubscriptions (free_permits request) permits_openSubscriptions
    (fun s₁ rows donorId time h₁ _ hverify hmem hrows => ?_)
    fun s' error h _ => concludes_error hwebhook error h.sent)
  have htoken : ∃ time, verifyManageToken request.settings.settings.secretKey token time = .ok (some donorId) :=
    ⟨time, hverify⟩
  cases rows with
  | nil =>
      exact concludes_error hwebhook ⟨.httpException 404, "No active monthly gift found."⟩ h₁.sent
  | cons sub rows =>
      refine obeys_seq (obeys_seq (obeys_add ((permits_writes hwebhook).push _ _) fun s₂ h₂ => ?_))
      have hs := h₁.trans h₂
      obtain ⟨hdonor, -⟩ := hrows sub List.mem_cons_self
      have hread : s₁.Read (.openSubscriptions donorId) sub := ⟨_, hmem, List.mem_cons_self⟩
      rw [← hdonor] at htoken hread
      refine obeys_seq (obeys_commit_ready (.changeAmount sub body.amountMinor)
        ⟨hs.pending, hs.committed, hs.broken, .changeAmount hrequest htoken (hread.mono h₂.past), ?_⟩
        (fun s₃ hc hp hsent _ _ => ?_) fun s' error hb => concludes_broken error hb)
      · simp [show s₂.sent = [] from hs.sent]
      · exact ⟨fun hne => absurd (hsent.trans hs.sent) hne, hp, by rw [hrequest]; trivial⟩

-- Whatever the rail answers, the handler goes on.
theorem obeys_tellRail {settings : Settings} {sub : Subscription}
    {after : Session → Except Exn Unit → Prop}
    (hok : ∀ s', s.Writes s' [] → Told settings sub s' → after s' (.ok ())) :
    (tellRail settings sub).Obeys client (Permits request) after s := by
  refine Prog.obeys_handle.mpr ?_
  have hend (s₁ : Session) (result : Except Exn Unit) (h : s.Writes s₁ []) (htold : Told settings sub s₁) :
      Prog.Catch client (Permits request) after (fun _ => pure ()) s₁ result := by
    cases result with
    | ok _ => exact hok s₁ h htold
    | error error => exact hok s₁ h htold
  refine obeys_seq (obeys_ofExcept ?_)
  cases hprovider : sub.provider with
  | test =>
      refine ⟨trivial, fun answer _ => hend _ (.ok ()) (Session.writes_update rfl rfl) ?_⟩
      simp [Told, hprovider, Session.update]
  | stripe =>
      show Prog.Then _ _ _ _ _ ((StripeProvider.build settings).map _)
      cases hbuild : StripeProvider.build settings with
      | error error => exact hend s (.error error) (.refl s) (by simp [Told, hprovider, hbuild])
      | ok _ =>
          refine obeys_seq ⟨trivial, fun answer _ => obeys_ofExcept ?_⟩
          refine hend _ answer (Session.writes_update rfl rfl) ?_
          simp only [Told, hprovider, hbuild]
          exact ⟨answer, List.mem_cons_self⟩
  | paypal =>
      have htold (s₁ : Session) : Told settings sub s₁ := by simp [Told, hprovider]
      show Prog.Then _ _ _ _ _ (getProvider "paypal" settings)
      cases getProvider "paypal" settings with
      | error error => exact hend s (.error error) (.refl s) (htold s)
      | ok provider =>
          exact obeys_outer (only_cancelSubscription provider _) permits_outer
            fun s₁ result h => hend s₁ result h (htold s₁)
  | mpesaRatiba =>
      exact hend s (.error ⟨.providerNotConfigured, "Unknown payment provider 'mpesa_ratiba'"⟩)
        (.refl s) (by simp [Told, hprovider])

theorem finishCancel_obeys {token : String} {sub : Subscription}
    (hrequest : request.endpoint = .manageDelete token)
    (hs : Session.Writes {} s []) (htold : Told request.settings.settings sub s)
    (htoken : ∃ time, verifyManageToken request.settings.settings.secretKey token time = .ok (some sub.donorId))
    (hread : s.Read (.openSubscriptions sub.donorId) sub) (hopen : sub.status ≠ .cancelled) :
    (finishCancel request.settings.settings sub).Obeys client (Permits request) (Concludes request) s := by
  have hfree := free_permits request
  have hwebhook : request.isWebhook = false := by simp [Request.isWebhook, hrequest]
  have herr (s' : Session) (error : Exn) (h : Session.Extends {} s') :
      Concludes request s' (.error error) := concludes_error hwebhook error h.sent
  refine obeys_seq (Ledger.obeys_cancelSubscriptionRow hfree
    (fun s' _ _ => (permits_writes hwebhook).push s' _) (fun s₁ time h₁ => ?_)
    fun s' error h _ => herr s' error (hs.toExtends.trans h))
  have hs₁ := hs.trans h₁
  have hready {s' : Session} (h : s₁.Writes s' []) : Ready request s' (.cancel sub time) := by
    have h' := hs₁.trans_nil h
    have hpast := h₁.past.trans h.past
    refine ⟨h'.pending, h'.committed, h'.broken, .cancel hrequest htoken (hread.mono hpast) hopen, ?_⟩
    simp [show s'.sent = [] from h'.sent]
  have hfinish (s₂ : Session) (h : s₁.past <:+ s₂.past) (hr : Ready request s₂ (.cancel sub time))
      (hsent : s₂.sent ≠ [] ∨ ⟨.query (.donorById sub.donorId), .ok []⟩ ∈ s₂.past) :
      (do commit
          return ⟨200, .status "cancelled"⟩ : Act Response).Obeys client (Permits request)
        (Concludes request) s₂ := by
    refine obeys_seq (obeys_commit_ready _ hr (fun s₃ hc hp hs₃ hpast _ => ?_)
      fun s' error hb => concludes_broken error hb)
    refine ⟨fun _ => by rw [hc]; simp [Transaction.stmts], hp, ?_⟩
    rw [hrequest]
    refine ⟨rfl, sub, time, hr.licensed.mono hpast, hc, ?_, ?_⟩
    · exact htold.mono (h₁.past.trans (h.trans hpast))
    · exact hsent.imp (hs₃ ▸ ·) fun hmem => hpast.subset hmem
  refine obeys_seq (obeys_scalar hfree (fun s' h hu _ => ⟨?_, trivial⟩) ?_ ?_
    fun s' error h _ => herr s' error (hs₁.toExtends.trans h))
  · rw [h.flushed hu, hs₁.pending]
    simp [Session.pending, Stmt.target, Query.source]
  · intro s₂ h₂ hnone
    exact hfinish s₂ h₂.past (hready h₂) (.inr hnone)
  · intro s₂ donor donors h₂ hdonors _
    have hdonor : s₂.Read (.donorById sub.donorId) donor := ⟨_, hdonors, List.mem_cons_self⟩
    refine obeys_seq (obeys_sendEmail (hready h₂) (hs₁.trans h₂).sent (fun mail hto hmail => ?_)
      (fun s₃ hr hsent hpast => hfinish s₃ (h₂.past.trans hpast) hr (.inl hsent))
      fun s' error h => herr s' error ((hs₁.trans h₂).toExtends.trans h))
    exact .cancellation hrequest hdonor hto hmail

theorem cancel_obeys {token : String} (hrequest : request.endpoint = .manageDelete token) :
    (cancel request.settings.settings token).Obeys client (Permits request) (Concludes request)
      {} := by
  have hwebhook : request.isWebhook = false := by simp [Request.isWebhook, hrequest]
  have herr (s' : Session) (error : Exn) (h : Session.Extends {} s') :
      Concludes request s' (.error error) := concludes_error hwebhook error h.sent
  rw [cancel_eq]
  refine obeys_seq (obeys_donorSubscriptions (free_permits request) permits_openSubscriptions
    (fun s₁ rows donorId time h₁ _ htoken hmem hrows => ?_) fun s' error h _ => herr s' error h)
  cases rows with
  | nil => exact herr s₁ ⟨.httpException 404, "No active monthly gift found."⟩ h₁.toExtends
  | cons sub rows =>
      obtain ⟨hdonor, hopen⟩ := hrows sub List.mem_cons_self
      have hread : s₁.Read (.openSubscriptions donorId) sub := ⟨_, hmem, List.mem_cons_self⟩
      rw [← hdonor] at htoken hread
      exact obeys_seq (obeys_tellRail fun s₂ h₂ htold =>
        finishCancel_obeys hrequest (h₁.trans h₂) htold ⟨time, htoken⟩ (hread.mono h₂.past) hopen)

end Subscriptions

end BridgeOfHope
