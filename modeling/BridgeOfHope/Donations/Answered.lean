import BridgeOfHope.Correspondence
import BridgeOfHope.Donations.Tracks
import BridgeOfHope.Payments.Amount
import BridgeOfHope.Subscriptions.Repeated

namespace BridgeOfHope

open Process Payments Donations

-- A gift on the test rail that nothing disturbs is answered 200, and its
-- donation is committed by then.

-- No lookup by an id that the test rail made up has found a row.
structure Unmet (s : Session) : Prop where
  events : ∀ (providerEventId : String) (row : WebhookEvent),
    ¬ s.Read (.eventByProviderEventId providerEventId) row
  donations : Unread s

theorem Unmet.mono {s s' : Session} (h : Unmet s') (hpast : s.past <:+ s'.past) : Unmet s := by
  refine ⟨fun id row hread => h.events id row (hread.mono hpast), fun id row hread => ?_⟩
  exact h.donations id row (hread.mono hpast)

-- A donor is only inserted by a request that has looked for it in vain.
def Seeks (payload : DonorPayload) (s : Session) : Op → Prop
  | .push (.insertDonor row) => row.email = payload.email ∧ s.committed = [] ∧
      ⟨.query (.donorByEmail payload.email), .ok []⟩ ∈ s.past
  | _ => True

-- The test rail looks for its own event before anything is committed.
def AsksOwn (s : Session) : Op → Prop
  | .query (.eventByProviderEventId providerEventId) =>
      s.committed = [] ∧ ∃ token ∈ s.drawn, providerEventId = "test_evt_" ++ token
  | _ => True

theorem writes_asksOwn : FreeToWrite AsksOwn :=
  ⟨⟨fun _ => trivial, fun _ => trivial, fun _ => trivial, fun _ => trivial⟩, fun _ _ => trivial⟩

theorem statedAmount_of_int32 {currency : String} {amountMinor : Int} (hpos : 0 < amountMinor)
    (hbound : amountMinor < 2 ^ 31) : ∃ amount, statedAmount currency amountMinor = .ok amount := by
  have hnat : amountMinor.natAbs < 2 ^ 31 := by omega
  obtain ⟨double, hdiv⟩ := trueDiv_of_int32 _ (by omega) hnat
  have hdecimal : decimalAmount amountMinor =
      .ok ((if amountMinor < 0 then "-" else "") ++ fixed2 double) := by
    unfold decimalAmount
    rw [hdiv]
    rfl
  rw [statedAmount, hdecimal]
  exact ⟨_, rfl⟩

def GiftAnswered (s : Session) (result : Except Exn Response) : Prop :=
  s.Smooth → Unmet s → ∃ response, result = .ok response ∧ response.status = 200 ∧
    ∃ donation, .insertDonation donation ∈ s.committed

theorem giftAnswered_error {s : Session} {result : Except Exn Response} (h : ¬ s.Smooth) :
    GiftAnswered s result :=
  fun hsmooth => absurd hsmooth h

-- The donation is among the statements that the next commit makes permanent.
def Books (s : Session) : Prop := Unmet s → ∃ donation, .insertDonation donation ∈ s.pending

theorem Books.mono {s s' : Session} (h : Books s) (hpast : s.past <:+ s'.past)
    (hpending : s'.pending = s.pending) :
    Books s' := by
  intro hunmet
  rw [hpending]
  exact h (hunmet.mono hpast)

-- No donor is inserted after the one that the request gives for.

def Op.addsDonor : Op → Bool
  | .push (.insertDonor _) => true
  | _ => false

theorem Op.addsDonor_of_spares {op : Op} (h : op.sparesDonors = true) : op.addsDonor = false := by
  cases op with
  | push stmt => cases stmt with
    | insertDonor _ => cases h
    | _ => rfl
  | _ => rfl

theorem only_commit_then {α : Type} {rest : Unit → Act α} (h : (rest ()).Only fun op => op.addsDonor = false) :
    (commit >>= rest).Only fun op => op.addsDonor = false := by
  have hcommit : commit.Only fun op => op.addsDonor = false := only_commit rfl rfl
  exact hcommit.bind fun _ => h

section Answers

variable [Platform] {s : Session} {settings : Settings} {body : GiveBody} {request : Request}

theorem commit_answers {rest : Unit → Act Response} {response : Response} (hrest : rest () = .ret response)
    (hstatus : response.status = 200) (h : Books s) :
    (commit >>= rest).Obeys client AsksOwn GiftAnswered s := by
  refine obeys_seq (obeys_commit writes_asksOwn.toFree (fun _ _ _ => trivial)
    (fun s' hcommitted _ _ hpast _ => ?_)
    fun s' error _ hbroken => giftAnswered_error (Session.not_smooth hbroken))
  show (rest ()).Obeys client AsksOwn GiftAnswered s'
  rw [hrest]
  intro _ hunmet
  obtain ⟨donation, hdonation⟩ := h (hunmet.mono hpast)
  refine ⟨response, rfl, hstatus, donation, ?_⟩
  rw [hcommitted]
  exact List.mem_append_right _ hdonation

-- A payment on the test rail books its donation.
theorem settlement_books {eventType subject : String} {args : Json → DonationArgs} {tail : Act Unit}
    {after : Session → Except Exn Unit → Prop}
    (hcommitted : s.committed = [])
    (htail : ∀ s', s.past <:+ s'.past → Books s' → tail.Obeys client AsksOwn after s')
    (hok : ∀ s', s.past <:+ s'.past → Books s' → after s' (.ok ()))
    (herr : ∀ s' error, ¬ s'.Smooth → after s' (.error error)) :
    (settlement eventType subject args tail).Obeys client AsksOwn after s := by
  refine obeys_settlement writes_asksOwn (fun s' token htoken h _ => ?_) (fun _ _ _ _ _ => trivial)
    (fun s' id row h hread => hok s' h.past fun hunmet => absurd hread (hunmet.events id row))
      (fun s' x hx _ h => ?_)
    fun s' error _ hbroken => herr s' error (Session.not_smooth hbroken)
  · exact ⟨h.committed.trans hcommitted, token, htoken, rfl⟩
  · refine htail s' h.past fun hunmet => ?_
    cases hinserted : x.inserted with
    | none =>
        obtain ⟨row, hread⟩ := hx.found hinserted
        exact absurd hread (hunmet.donations _ row)
    | some inserted =>
        refine ⟨x.args.row inserted.1 inserted.2, ?_⟩
        rw [h.pending]
        refine List.mem_append_right _ (Settlement.mem_stmts.mpr (.inr (.inl ⟨_, ?_, rfl⟩)))
        rw [Settlement.donation, hinserted]
        rfl

theorem settleOneOff_books {donor : Donor} {result : OneOffResult} {paymentId : String}
    (hcommitted : s.committed = [])
    (hbound : body.amountMinor < 2 ^ 31) (hresult : result.providerPaymentId = .str paymentId)
    {after : Session → Except Exn Unit → Prop} (hok : ∀ s', s.past <:+ s'.past → Books s' → after s' (.ok ()))
    (herr : ∀ s' error, ¬ s'.Smooth → after s' (.error error)) :
    (settleOneOff settings body donor result).Obeys client AsksOwn after s := by
  obtain ⟨amount, hamount⟩ := @statedAmount_of_int32 body.currency _ body.amountMinor_pos hbound
  unfold settleOneOff
  rw [hresult]
  refine obeys_seq (obeys_ofExcept (settlement_books hcommitted (fun s₁ h₁ hbooks => ?_) hok herr))
  rw [hamount]
  refine obeys_seq (obeys_ofExcept (obeys_seq (obeys_now writes_asksOwn.toFree fun s₂ time h₂ => ?_)))
  refine obeys_sendEmail_any (fun _ _ _ => trivial) (fun _ _ _ => trivial) (fun s₃ h₃ hpending _ _ => ?_)
    fun s' error _ _ hfailed => herr s' error hfailed
  have hpast := h₂.past.trans h₃
  exact hok s₃ (h₁.trans hpast) (hbooks.mono hpast (by rw [hpending, h₂.pending, List.append_nil]))

theorem settleSubscription_books {donor : Donor} {subscription : Subscription} (hcommitted : s.committed = [])
    (hbound : body.amountMinor < 2 ^ 31) {after : Session → Except Exn Unit → Prop}
    (hok : ∀ s', s.past <:+ s'.past → Books s' → after s' (.ok ()))
    (herr : ∀ s' error, ¬ s'.Smooth → after s' (.error error)) :
    (settleSubscription settings body donor subscription).Obeys client AsksOwn after s := by
  obtain ⟨amount, hamount⟩ := @statedAmount_of_int32 body.currency _ body.amountMinor_pos hbound
  unfold settleSubscription
  refine obeys_seq (Ledger.obeys_activateSubscription writes_asksOwn (fun s₁ time h₁ => ?_)
    fun s' error _ hbroken => herr s' error (Session.not_smooth hbroken))
  refine settlement_books (h₁.committed.trans hcommitted) (fun s₂ h₂ hbooks => ?_)
    (fun s' h => hok s' (h₁.past.trans h)) herr
  refine obeys_seq (obeys_now writes_asksOwn.toFree fun s₃ time h₃ => ?_)
  rw [hamount]
  refine obeys_seq (obeys_ofExcept ?_)
  refine obeys_sendEmail_any (fun _ _ _ => trivial) (fun _ _ _ => trivial) (fun s₄ h₄ hpending _ _ => ?_)
    fun s' error _ _ hfailed => herr s' error hfailed
  have hpast := h₃.past.trans h₄
  exact hok s₄ ((h₁.past.trans h₂).trans hpast)
    (hbooks.mono hpast (by rw [hpending, h₃.pending, List.append_nil]))

theorem createOneOff_answers (hrail : body.provider = "test") (hbound : body.amountMinor < 2 ^ 31) :
    (createOneOff settings body).Obeys client AsksOwn GiftAnswered {} := by
  have hprovider : getProvider body.provider settings = .ok .test := by rw [hrail]; rfl
  unfold createOneOff
  rw [selectProvider_eq hprovider]
  refine obeys_giver writes_asksOwn.toFree (fun _ _ _ _ => trivial) (fun _ _ _ => trivial)
    (fun _ _ _ => trivial)
    (fun s₁ step donor _ _ _ h₁ => ?_) fun s' error _ hbroken => giftAnswered_error (Session.not_smooth hbroken)
  refine obeys_seq (obeys_seq (obeys_tokenHex writes_asksOwn.toFree fun s₂ token h₂ _ _ => ?_))
  refine obeys_seq (settleOneOff_books (h₂.committed.trans h₁.committed) hbound rfl (fun s₃ h₃ hbooks => ?_)
    fun s' error hfailed => giftAnswered_error hfailed)
  exact commit_answers rfl rfl hbooks

theorem createSubscription_answers (hrail : body.provider = "test") (hbound : body.amountMinor < 2 ^ 31) :
    (createSubscription settings body).Obeys client AsksOwn GiftAnswered {} := by
  have hprovider : getProvider body.provider settings = .ok .test := by rw [hrail]; rfl
  have herr (s' : Session) (error : Exn) (hbroken : s'.broken = true) : GiftAnswered s' (.error error) :=
    giftAnswered_error (Session.not_smooth hbroken)
  unfold createSubscription
  rw [selectProvider_eq hprovider]
  refine obeys_giver writes_asksOwn.toFree (fun _ _ _ _ => trivial) (fun _ _ _ => trivial)
    (fun _ _ _ => trivial)
    (fun s₁ step donor _ _ _ h₁ => ?_) fun s' error _ hbroken => herr s' error hbroken
  refine obeys_seq (obeys_seq (obeys_tokenHex writes_asksOwn.toFree fun s₂ token h₂ _ _ =>
    obeys_seq ⟨trivial, fun ans _ => ?_⟩))
  have h₃ : s₂.Writes (s₂.update
      (.record (.testSubscribed ("test_sub_" ++ token) body.amountMinor body.currency)) ans) [] :=
    Session.writes_update rfl rfl
  refine obeys_seq (obeys_ofExcept ?_)
  rw [hrail]
  refine obeys_seq (obeys_uuid7 writes_asksOwn.toFree fun s₄ id h₄ =>
    obeys_seq (obeys_add trivial fun s₅ h₅ => ?_))
  refine obeys_seq (obeys_flush writes_asksOwn.toFree (fun s₆ h₆ _ _ => ?_)
    fun s' error _ hbroken => herr s' error hbroken)
  have hcommitted : s₆.committed = [] :=
    h₆.committed.trans (h₅.committed.trans
      (h₄.committed.trans (h₃.committed.trans (h₂.committed.trans h₁.committed))))
  refine obeys_seq (settleSubscription_books hcommitted hbound (fun s₇ h₇ hbooks => ?_)
    fun s' error hfailed => giftAnswered_error hfailed)
  exact commit_answers rfl rfl hbooks

theorem obeys_seeks {α : Type} {payload : DonorPayload} {program : Act α}
    (h : program.Only fun op => op.addsDonor = false) :
    program.Obeys client (Seeks payload) (fun _ _ => True) s := by
  refine h.obeys_any.mono (fun s op hop => ?_) fun _ _ h => h
  cases op with
  | push stmt => cases stmt with
    | insertDonor _ => cases hop
    | _ => trivial
  | _ => trivial

theorem giver_seeks {β : Type} {consent : Bool} {payload : DonorPayload} {source : String}
    {rest : Donor → Act β}
    (h : ∀ donor, (rest donor).Only fun op => op.addsDonor = false) :
    (do let donor ← getOrCreateDonor payload
        if consent then
          let donor ← recordConsent donor source
          rest donor
        else
          let donor ← pure donor
          rest donor : Act β).Obeys client (Seeks payload) (fun _ _ => True) {} := by
  have hfree : Free (Seeks payload) := ⟨fun _ => trivial, fun _ => trivial, fun _ => trivial, fun _ => trivial⟩
  refine obeys_giver hfree (fun s' id h hmissing => ⟨rfl, h.committed, hmissing⟩) (fun _ _ _ => trivial)
    (fun _ _ _ => trivial) (fun _ _ donor _ _ _ _ => obeys_seeks (h donor)) fun _ _ _ _ => trivial

theorem handler_seeks (hgiven : request.given = some body) :
    request.handler.Obeys client (Seeks body.donor) (fun _ _ => True) {} := by
  unfold Request.given at hgiven
  split at hgiven
  · next body' hrequest =>
      cases hgiven
      rw [Request.handler_oneOff hrequest]
      refine obeys_seq (obeys_selectProvider (fun provider _ => giver_seeks fun donor => ?_) fun _ => trivial)
      refine ((only_createOneOff provider (gift body)).mono fun op hop =>
        Op.addsDonor_of_spares (Op.sparesDonors_of_outer hop)).bind fun result => ?_
      have hlast : (commit >>= fun _ => Prog.ofExcept (oneOffResponse result) >>= fun response =>
          (pure ⟨200, .oneOff response⟩ : Act Response)).Only fun op => op.addsDonor = false :=
        only_commit_then (.bind .ofExcept fun _ => trivial)
      cases provider with
      | test => exact ((spares_settleOneOff _ _ _ _).mono fun _ => Op.addsDonor_of_spares).bind fun _ => hlast
      | stripe _ | paypal _ _ | mpesa _ _ | btc _ => exact hlast
  · next body' hrequest =>
      cases hgiven
      rw [Request.handler_subscription hrequest]
      refine obeys_seq (obeys_selectProvider (fun provider _ => giver_seeks fun donor => ?_) fun _ => trivial)
      refine ((spares_createSubscription provider (gift body)).mono fun _ =>
        Op.addsDonor_of_spares).bind fun result => ?_
      refine .bind .ofExcept fun rail => .bind (.perform rfl) fun id => .bind (.perform rfl) fun _ =>
        .bind (spares_flush.mono fun _ => Op.addsDonor_of_spares) fun _ => ?_
      cases provider with
      | test =>
          exact ((spares_settleSubscription _ _ _ _).mono fun _ => Op.addsDonor_of_spares).bind fun _ =>
            only_commit_then trivial
      | stripe _ | paypal _ _ | mpesa _ _ | btc _ => exact only_commit_then trivial
  · cases hgiven

theorem handler_answers (hgiven : request.given = some body) (hrail : body.provider = "test")
    (hbound : body.amountMinor < 2 ^ 31) : request.handler.Obeys client AsksOwn GiftAnswered {} := by
  unfold Request.given at hgiven
  split at hgiven
  · next body' hrequest =>
      cases hgiven
      rw [Request.handler_oneOff hrequest]
      exact createOneOff_answers hrail hbound
  · next body' hrequest =>
      cases hgiven
      rw [Request.handler_subscription hrequest]
      exact createSubscription_answers hrail hbound
  · cases hgiven

-- A gift on the test rail that the amount column can hold.
structure Request.TestGift (request : Request) (body : GiveBody) : Prop where
  given : request.given = some body
  rail : body.provider = "test"
  bound : body.amountMinor < 2 ^ 31

-- What a request asks, and how it ends, when it is such a gift.
def GiftPermits (request : Request) (s : Session) (op : Op) : Prop :=
  Permits request s op ∧ ∀ body, request.TestGift body → Seeks body.donor s op ∧ AsksOwn s op

def GiftConcludes (request : Request) (s : Session) (result : Except Exn Response) : Prop :=
  Concludes request s result ∧ ∀ body, request.TestGift body → GiftAnswered s result

theorem handler_gives (request : Request) :
    (service.start request).Obeys service.toClient (GiftPermits request)
    (GiftConcludes request) service.fresh := by
  have hproper := handler_obeys request
  by_cases hgift : ∃ body, request.TestGift body
  · obtain ⟨body, hbody⟩ := hgift
    have hsame {body' : GiveBody} (h : request.TestGift body') : body' = body :=
      Option.some.inj (h.given.symm.trans hbody.given)
    have hboth := (handler_seeks hbody.given).and (handler_answers hbody.given hbody.rail hbody.bound)
    refine (hproper.and hboth).mono (fun s op h => ⟨h.1, fun body' hbody' => ?_⟩)
      fun s result h => ⟨h.1, fun body' hbody' => h.2.2⟩
    rw [hsame hbody']
    exact h.2
  · exact hproper.mono (fun s op h => ⟨h, fun body hbody => absurd ⟨body, hbody⟩ hgift⟩)
      fun s result h => ⟨h, fun body hbody => absurd ⟨body, hbody⟩ hgift⟩

end Answers

end BridgeOfHope
