import BridgeOfHope.Donations.Giver
import BridgeOfHope.Freshness

namespace BridgeOfHope

open Process Payments Donations
open Prog (Only)

-- Where the entries come from that a request adds to the unique indexes, and the
-- rows that its foreign keys point to.

def Event.id : Event → Option Uuid
  | ⟨.uuid7, id⟩ => some id
  | _ => none

def Session.ids (s : Session) : List Uuid := s.past.filterMap Event.id

theorem Session.ids_mono {s s' : Session} (h : s.past <:+ s'.past) {id : Uuid} (hid : id ∈ s.ids) :
    id ∈ s'.ids :=
  (h.filterMap _).subset hid

theorem Session.mem_ids_update {s : Session} {op : Op} {ans : Ans op} {id : Uuid}
    (h : id ∈ (s.update op ans).ids) :
    id ∈ s.ids ∨ (⟨op, ans⟩ : Event) = ⟨.uuid7, id⟩ := by
  obtain ⟨event, hevent, hid⟩ := List.mem_filterMap.mp h
  rcases List.mem_cons.mp hevent with rfl | hold
  · unfold Event.id at hid
    split at hid
    · next heq =>
        cases hid
        exact .inr heq
    · cases hid
  · exact .inl (List.mem_filterMap.mpr ⟨event, hold, hid⟩)

-- The session has looked for its event and found nothing.
def Missed (s : Session) : Prop := ∃ lookup ∈ s.lookups, lookup.2 = []

-- It has not stored the event since.
def Between (s : Session) : Prop := s.committed = [] ∧ Missed s

instance (s : Session) : Decidable (Missed s) := inferInstanceAs (Decidable (∃ lookup ∈ s.lookups, _))

instance (s : Session) : Decidable (Between s) := inferInstanceAs (Decidable (_ ∧ _))

theorem missed_of_mem {s : Session} {providerEventId : String}
    (h : ⟨.query (.eventByProviderEventId providerEventId), .ok []⟩ ∈ s.past) : Missed s :=
  ⟨(providerEventId, []), Session.mem_lookups.mpr h, rfl⟩

def DonationArgs.references (args : DonationArgs) : List Key :=
  .donor args.donorId :: args.subscriptionId.toList.map .subscription

-- The session has read the row of the entry, or written it.
def Key.KnownIn (s : Session) : Key → Prop
  | .donor id => (∃ email row, s.Read (.donorByEmail email) row ∧ row.id = id) ∨
      ∃ row, ⟨.push (.insertDonor row), ()⟩ ∈ s.past ∧ row.id = id
  | .subscription id => ∃ row, ⟨.push (.insertSubscription row), ()⟩ ∈ s.past ∧ row.id = id
  | _ => False

theorem Key.KnownIn.mono {s s' : Session} {key : Key} (h : key.KnownIn s) (hpast : s.past <:+ s'.past) :
    key.KnownIn s' := by
  cases key with
  | donor id =>
      rcases h with ⟨email, row, hread, hid⟩ | ⟨row, hpushed, hid⟩
      · exact .inl ⟨email, row, hread.mono hpast, hid⟩
      · exact .inr ⟨row, hpast.subset hpushed, hid⟩
  | subscription id =>
      obtain ⟨row, hpushed, hid⟩ := h
      exact ⟨row, hpast.subset hpushed, hid⟩
  | _ => exact h.elim

section Handlers

variable [Platform]

-- The entry is made of what the session drew, or of the event delivered to it.
-- A rail other than the test rail names its subscriptions itself, and the rail of a
-- subscription is the one that the request names.
def Key.MadeIn (request : Request) (s : Session) : Key → Prop
  | .donor id | .subscription id | .donation id | .webhookEvent id | .dataRequest id => id ∈ s.ids
  | .donorEmail _ => True
  | .providerPayment providerPaymentId => ∃ token ∈ s.drawn, PaymentOf token providerPaymentId
  | .providerEvent providerEventId => (∃ token ∈ s.drawn, providerEventId = "test_evt_" ++ token) ∨
      ∃ args, request.delivery = some args ∧ args.providerEventId = .str providerEventId
  | .providerSubscription provider providerSubscriptionId =>
      (provider = .test → ∃ token ∈ s.drawn, providerSubscriptionId = "test_sub_" ++ token) ∧
        ∀ body ∈ request.given, SubscriptionProvider.ofString body.provider = .ok provider

-- A webhook draws an id only for an event that it has looked for in vain.
def Minting (request : Request) (s : Session) : Op → Prop
  | .push stmt => (∀ key ∈ stmt.keys, key.MadeIn request s) ∧ ∀ key ∈ stmt.references, key.KnownIn s
  | .uuid7 => request.isWebhook = true → Between s
  | _ => True

-- Started in `s`, the program mints such entries only, and a value that it
-- returns is one of `Q`.
def Mints {α : Type} (request : Request) (Q : Session → α → Prop) (s : Session) (program : Act α) : Prop :=
  program.Obeys client (Minting request)
    (fun s' result => s.past <:+ s'.past ∧ ∀ value, result = .ok value → Q s' value) s

variable {request : Request} {α β : Type} {Q : Session → α → Prop} {R : Session → β → Prop} {s s' : Session}

theorem Key.MadeIn.mono {key : Key} (h : key.MadeIn request s) (hpast : s.past <:+ s'.past) :
    key.MadeIn request s' := by
  have htoken {P : String → Prop} : (∃ token ∈ s.drawn, P token) → ∃ token ∈ s'.drawn, P token := by
    rintro ⟨token, hmem, hP⟩
    exact ⟨token, Session.drawn_mono hpast hmem, hP⟩
  cases key with
  | donorEmail => trivial
  | providerPayment => exact htoken h
  | providerEvent => exact h.imp_left htoken
  | providerSubscription => exact ⟨fun hprovider => htoken (h.1 hprovider), h.2⟩
  | _ => exact Session.ids_mono hpast h

theorem mints_ret {value : α} (h : Q s value) : Mints request Q s (.ret value : Act α) :=
  ⟨List.suffix_rfl, fun _ hvalue => Except.ok.inj hvalue ▸ h⟩

theorem mints_raise {error : Exn} : Mints request Q s (.raise error : Act α) :=
  ⟨List.suffix_rfl, fun _ hvalue => nomatch hvalue⟩

theorem Mints.bind {program : Act α} {rest : α → Act β} (h : Mints request Q s program)
    (hrest : ∀ s' value, s.past <:+ s'.past → Q s' value → Mints request R s' (rest value)) :
    Mints request R s (program >>= rest) := by
  refine obeys_seq (Prog.Obeys.mono h (fun _ _ hop => hop) fun s' result ⟨hpast, hQ⟩ => ?_)
  cases result with
  | ok value =>
      exact (hrest s' value hpast (hQ value rfl)).mono (fun _ _ hop => hop)
        fun _ _ ⟨hpast', hR⟩ => ⟨hpast.trans hpast', hR⟩
  | error error => exact ⟨hpast, fun _ hvalue => nomatch hvalue⟩

theorem mints_perform {op : Op} {Q : Session → Ans op → Prop} (hop : Minting request s op)
    (hQ : ∀ answer, Q (s.update op answer) answer) : Mints request Q s (perform op) :=
  ⟨hop, fun answer _ => ⟨List.suffix_cons _ _, fun _ hvalue => Except.ok.inj hvalue ▸ hQ answer⟩⟩

theorem mints_ofExcept {result : Except Exn α} (h : ∀ value, result = .ok value → Q s value) :
    Mints request Q s (Prog.ofExcept result) :=
  obeys_ofExcept ⟨List.suffix_rfl, h⟩

theorem mints_any {result : Except Exn α} : Mints request (fun _ _ => True) s (Prog.ofExcept result) :=
  mints_ofExcept fun _ _ => trivial

-- What mints nothing at all and refers to nothing.
def Op.Keyless : Op → Prop
  | .push stmt => stmt.keys = [] ∧ stmt.references = []
  | .uuid7 => False
  | _ => True

theorem mints_of_only {program : Act α} (h : program.Only Op.Keyless) :
    Mints request (fun _ _ => True) s program := by
  refine h.obeys (fun s' => s.past <:+ s'.past) (fun _ _ _ hpast _ => hpast.trans (List.suffix_cons _ _)) ?_
    (fun _ _ hpast => ⟨hpast, fun _ _ => trivial⟩) List.suffix_rfl
  intro s' op _ hop
  cases op with
  | push stmt =>
      obtain ⟨hkeys, hreferences⟩ := hop
      exact ⟨by simp [hkeys], by simp [hreferences]⟩
  | uuid7 => exact hop.elim
  | _ => trivial

theorem Op.Keyless.of_outer {op : Op} (h : op.outer = true) : op.Keyless := by
  cases op with
  | push | uuid7 => cases h
  | _ => trivial

theorem mints_now : Mints request (fun _ _ => True) s now := mints_of_only (.perform trivial)

theorem mints_flush : Mints request (fun _ _ => True) s flush := mints_of_only (only_flush trivial)

theorem mints_scalar {query : Query} :
    Mints request (fun s' found => ∀ row ∈ found, s'.Read query row) s (scalar query) := by
  refine Mints.bind (Q := fun s' rows => ∀ row ∈ rows, s'.Read query row) ?_ fun s' rows _ hrows =>
    mints_ret fun row hrow => hrows row (List.mem_of_mem_head? hrow)
  refine mints_flush.bind fun s₁ _ _ _ => Mints.bind (Q := fun s' answer => ⟨.query query, answer⟩ ∈ s'.past)
    (mints_perform trivial fun _ => List.mem_cons_self) fun s₂ answer _ hanswer =>
      mints_ofExcept fun rows hrows row hrow => ⟨rows, by rwa [← hrows], hrow⟩

theorem mints_commit : Mints request (fun _ _ => True) s commit := mints_of_only (only_commit trivial trivial)

theorem mints_uuid7 (h : request.isWebhook = true → Between s) :
    Mints request (fun s' id => id ∈ s'.ids) s uuid7 :=
  mints_perform h fun _ => List.mem_cons_self

theorem mints_tokenHex : Mints request (fun s' token => token ∈ s'.drawn) s tokenHex :=
  mints_perform trivial fun _ => List.mem_cons_self

theorem mints_add {stmt : Stmt} (hkeys : ∀ key ∈ stmt.keys, key.MadeIn request s)
    (hreferences : ∀ key ∈ stmt.references, key.KnownIn s) :
    Mints request (fun s' _ => ⟨.push stmt, ()⟩ ∈ s'.past) s (add stmt) :=
  mints_perform ⟨hkeys, hreferences⟩ fun _ => List.mem_cons_self

theorem keyless_assignDonor (donor : Donor) (columns : List DonorSet) :
    (donor.assign columns).Only Op.Keyless :=
  .bind (.perform ⟨rfl, rfl⟩) fun _ => trivial

theorem keyless_assignSubscription (subscription : Subscription) (columns : List SubscriptionSet) :
    (subscription.assign columns).Only Op.Keyless :=
  .bind (.perform ⟨rfl, rfl⟩) fun _ => trivial

theorem keyless_markEventProcessed (event : WebhookEvent) (error : Option String) :
    (Ledger.markEventProcessed event error).Only Op.Keyless :=
  .bind (.perform trivial) fun _ =>
    .bind (.bind (.perform ⟨rfl, rfl⟩) fun _ => trivial) fun _ => only_flush trivial

theorem keyless_sendEmail (settings : Settings) (to_ subject : String) (template : Template) :
    (sendEmail settings to_ subject template).Only Op.Keyless := by
  unfold sendEmail
  split
  · exact .bind (.perform trivial) fun _ => .ofExcept
  · exact .perform trivial

theorem keyless_selectProvider (name : String) (settings : Settings) :
    (selectProvider name settings).Only Op.Keyless := by
  unfold selectProvider
  split
  · trivial
  · split <;> trivial

-- The look-up of an event, in a session that has committed nothing.
theorem mints_eventLookup {providerEventId : String} (h : s.committed = []) :
    Mints request (fun s' found => found = none → Between s') s
      (scalar (.eventByProviderEventId providerEventId)) := by
  refine Mints.bind (Q := fun s' rows => rows = [] → Between s') ?_ fun s' rows _ hrows => ?_
  · refine Mints.bind (Q := fun s' _ => s'.committed = []) ?_ fun s₁ _ _ h₁ => ?_
    · refine Mints.bind (Q := fun s' _ => s'.committed = []) (mints_perform trivial fun answer => ?_)
        fun s₁ answer _ h₁ => mints_ofExcept fun _ _ => h₁
      cases answer <;> exact h
    · refine Mints.bind (Q := fun s' answer => answer = .ok [] → Between s')
        (mints_perform trivial fun answer hnone => ?_) fun s₂ answer _ h₂ =>
          mints_ofExcept fun rows hrows hnone => h₂ (by rw [hrows, hnone])
      rw [hnone]
      exact ⟨h₁, missed_of_mem List.mem_cons_self⟩
  · exact mints_ret fun hnone => hrows (List.head?_eq_none_iff.mp hnone)

theorem mints_recordWebhookEvent {args : EventArgs}
    (hmade : ∀ providerEventId, args.providerEventId.text = .ok providerEventId →
      (Key.providerEvent providerEventId).MadeIn request s)
    (hfresh : request.isWebhook = true → s.committed = []) :
    Mints request (fun _ _ => True) s (Ledger.recordWebhookEvent args) := by
  refine Mints.bind (Q := fun s' providerEventId => s' = s ∧
    (Key.providerEvent providerEventId).MadeIn request s) (mints_ofExcept fun id hid => ⟨rfl, hmade id hid⟩) ?_
  rintro _ providerEventId - ⟨rfl, hid⟩
  refine Mints.bind (Q := fun s' found => found = none → request.isWebhook = true → Between s') ?_
    fun s₁ found h₁ hfound => ?_
  · by_cases hwebhook : request.isWebhook = true
    · exact (mints_eventLookup (hfresh hwebhook)).mono (fun _ _ hop => hop)
        fun _ _ ⟨hpast, hQ⟩ => ⟨hpast, fun value hvalue hnone _ => hQ value hvalue hnone⟩
    · exact mints_scalar.mono (fun _ _ hop => hop) fun _ _ ⟨hpast, _⟩ =>
        ⟨hpast, fun _ _ _ h => absurd h hwebhook⟩
  cases found with
  | some row => exact mints_ret trivial
  | none =>
      refine Mints.bind (Q := fun s' _ => request.isWebhook = true → Between s')
        (mints_perform trivial fun _ => ?_)
        fun s₂ receivedAt h₂ hbetween => ?_
      · intro hwebhook
        obtain ⟨hcommitted, lookup, hlookup, hnone⟩ := hfound rfl hwebhook
        exact ⟨hcommitted, lookup, hlookup, hnone⟩
      refine (mints_uuid7 hbetween).bind fun s₃ id h₃ hdrawn => mints_any.bind fun s₄ eventType h₄ _ => ?_
      have hpast := h₁.trans (h₂.trans (h₃.trans h₄))
      refine (mints_add (fun key hkey => ?_) (by simp [Stmt.references])).bind fun s₅ _ _ _ =>
        mints_flush.bind fun _ _ _ _ => mints_ret trivial
      simp only [Stmt.keys, WebhookEvent.keys, EventArgs.row, List.mem_cons, List.not_mem_nil, or_false] at hkey
      rcases hkey with rfl | rfl
      · exact Session.ids_mono h₄ hdrawn
      · exact hid.mono hpast

section Gifts

variable (hwebhook : request.isWebhook = false)

include hwebhook

theorem mints_id : Mints request (fun s' id => id ∈ s'.ids) s uuid7 :=
  mints_uuid7 fun h => by rw [hwebhook] at h; cases h

theorem mints_recordDonation {args : DonationArgs}
    (hmade : (Key.providerPayment args.providerPaymentId).MadeIn request s)
    (hknown : ∀ key ∈ args.references, key.KnownIn s) :
    Mints request (fun _ _ => True) s (Ledger.recordDonation args) := by
  refine mints_scalar.bind fun s₁ found h₁ _ => ?_
  cases found with
  | some donation => exact mints_ret trivial
  | none =>
      refine mints_now.bind fun s₂ completedAt h₂ _ => (mints_id hwebhook).bind fun s₃ id h₃ hdrawn => ?_
      have hpast := h₁.trans (h₂.trans h₃)
      refine (mints_add (fun key hkey => ?_) fun key hkey => ?_).bind fun s₄ _ _ _ =>
        mints_flush.bind fun _ _ _ _ => mints_ret trivial
      · simp only [Stmt.keys, Donation.keys, DonationArgs.row, List.mem_cons, List.not_mem_nil,
          or_false] at hkey
        rcases hkey with rfl | rfl
        · exact hdrawn
        · exact hmade.mono hpast
      · exact (hknown key hkey).mono hpast

theorem mints_settlement {eventType subject : String} {args : Json → DonationArgs} {tail : Act Unit}
    (hmade : ∀ payload, (Key.providerPayment (args payload).providerPaymentId).MadeIn request s)
    (hknown : ∀ payload, ∀ key ∈ (args payload).references, key.KnownIn s)
    (htail : tail.Only Op.Keyless) :
    Mints request (fun _ _ => True) s (settlement eventType subject args tail) := by
  refine Mints.bind (Q := fun s' payload => ∃ token ∈ s'.drawn, ∃ time,
    payload = TestProvider.syntheticPayload token eventType subject time) ?_ fun s₁ payload h₁ hpayload => ?_
  · refine mints_tokenHex.bind fun s₁ token _ htoken => mints_now.bind fun s₂ time h₂ _ => mints_ret ?_
    exact ⟨token, Session.drawn_mono h₂ htoken, time, rfl⟩
  obtain ⟨token, htoken, time, rfl⟩ := hpayload
  refine Mints.bind (Q := fun _ value => value = .str ("test_evt_" ++ token))
    (mints_ofExcept fun _ hvalue => (Except.ok.inj hvalue).symm) ?_
  rintro s₂ _ h₂ rfl
  refine mints_any.bind fun s₃ type h₃ _ => Mints.bind (mints_recordWebhookEvent ?_ ?_) fun s₄ found h₄ _ => ?_
  · intro providerEventId htext
    cases htext
    exact .inl ⟨token, Session.drawn_mono (h₂.trans h₃) htoken, rfl⟩
  · intro h
    rw [hwebhook] at h
    cases h
  obtain ⟨event, isNew⟩ := found
  cases isNew with
  | false => exact mints_ret trivial
  | true =>
      have hpast := h₁.trans (h₂.trans (h₃.trans h₄))
      refine (mints_recordDonation hwebhook ((hmade _).mono hpast) fun key hkey =>
        (hknown _ key hkey).mono hpast).bind fun s₅ _ _ _ => ?_
      exact mints_of_only ((keyless_markEventProcessed event none).bind fun _ => htail)

theorem mints_getOrCreateDonor (payload : DonorPayload) :
    Mints request (fun s' donor => (Key.donor donor.id).KnownIn s') s (getOrCreateDonor payload) := by
  refine mints_scalar.bind fun s₁ found _ hfound => ?_
  cases found with
  | some donor => exact mints_ret (.inl ⟨_, donor, hfound donor rfl, rfl⟩)
  | none =>
      refine (mints_id hwebhook).bind fun s₂ id _ hdrawn => (mints_add (fun key hkey => ?_) (by simp
        [Stmt.references])).bind fun s₃ _ _ hpushed => mints_flush.bind fun s₄ _ h₄ _ =>
          mints_ret (.inr ⟨_, h₄.subset hpushed, rfl⟩)
      simp only [Stmt.keys, Donor.keys, newDonor, List.mem_cons, List.not_mem_nil, or_false] at hkey
      rcases hkey with rfl | rfl
      · exact hdrawn
      · trivial

theorem mints_giver (payload : DonorPayload) (consent : Bool) (source : String) :
    Mints request (fun s' donor => (Key.donor donor.id).KnownIn s') s (giver payload consent source) := by
  refine (mints_getOrCreateDonor hwebhook payload).bind fun s₁ donor _ hknown => ?_
  cases consent with
  | true =>
      refine mints_now.bind fun s₂ time h₂ _ => Mints.bind (mints_of_only (.perform ⟨rfl, rfl⟩))
        fun s₃ _ h₃ _ => mints_ret ?_
      rw [Donor.setAll_id]
      exact hknown.mono (h₂.trans h₃)
  | false => exact mints_ret hknown

theorem mints_createOneOff (settings : Settings) (body : OneOffCreate) :
    Mints request (fun _ _ => True) s (createOneOff settings body) := by
  rw [createOneOff_eq]
  refine (mints_of_only (keyless_selectProvider _ _)).bind fun s₁ provider _ _ =>
    (mints_giver hwebhook _ _ _).bind fun s₂ donor _ hdonor => ?_
  have hlast (s : Session) (result : OneOffResult) : Mints request (fun _ _ => True) s (do
      commit
      let response ← Prog.ofExcept (oneOffResponse result)
      return ⟨200, .oneOff response⟩ : Act Response) :=
    mints_commit.bind fun _ _ _ _ => mints_any.bind fun _ _ _ _ => mints_ret trivial
  cases provider with
  | test =>
      refine Mints.bind (Q := fun s' result => ∃ token ∈ s'.drawn,
        result.providerPaymentId = .str ("test_pay_" ++ token))
        (mints_tokenHex.bind fun s' token _ htoken => mints_ret ⟨token, htoken, rfl⟩)
        fun s₃ result h₃ hresult => ?_
      obtain ⟨token, htoken, hid⟩ := hresult
      refine Mints.bind (Q := fun _ _ => True) ?_ fun s₄ _ _ _ => hlast s₄ result
      unfold settleOneOff
      rw [hid]
      refine Mints.bind (Q := fun s' paymentId => s₃.past <:+ s'.past ∧ paymentId = "test_pay_" ++ token)
        (mints_ofExcept fun _ hvalue => ⟨List.suffix_rfl, (Except.ok.inj hvalue).symm⟩) ?_
      rintro s₄ _ - ⟨h₄, rfl⟩
      refine mints_settlement hwebhook (fun _ => ⟨token, Session.drawn_mono h₄ htoken, .inl rfl⟩)
        (fun _ key hkey => ?_) ?_
      · rw [List.mem_singleton.mp hkey]
        exact hdonor.mono (h₃.trans h₄)
      exact .bind .ofExcept fun _ => .bind (.perform trivial) fun _ => keyless_sendEmail _ _ _ _
  | stripe _ | paypal _ _ | mpesa _ _ | btc _ =>
      refine (mints_of_only ((only_createOneOff _ _).mono fun _ => Op.Keyless.of_outer)).bind
        fun s₃ result _ _ => ?_
      exact hlast s₃ result

theorem mints_settleSubscription (settings : Settings) (body : SubscriptionCreate) (donor : Donor)
    {subscription : Subscription} {token : String} (htoken : token ∈ s.drawn)
    (hid : subscription.providerSubscriptionId = "test_sub_" ++ token) (hdonor : (Key.donor donor.id).KnownIn s)
    (hsubscription : (Key.subscription subscription.id).KnownIn s) :
    Mints request (fun _ _ => True) s (settleSubscription settings body donor subscription) := by
  refine Mints.bind (Q := fun _ _ => True) (mints_of_only ?_) fun s₁ _ h₁ _ => ?_
  · exact .bind (.perform trivial) fun _ => (keyless_assignSubscription _ _).bind fun _ => only_flush trivial
  refine @mints_settlement _ _ s₁ hwebhook "subscription.activated" subscription.providerSubscriptionId
    (fun payload => initialArgs body donor.id subscription payload) _ (fun _ => ?_) (fun _ key hkey => ?_) ?_
  · refine ⟨token, Session.drawn_mono h₁ htoken, .inr ?_⟩
    show subscription.providerSubscriptionId ++ "_initial" = _
    rw [hid]
  · rcases List.mem_cons.mp hkey with rfl | hkey
    · exact hdonor.mono h₁
    · rw [List.mem_singleton.mp hkey]
      exact hsubscription.mono h₁
  · exact .bind (.perform trivial) fun _ => .bind .ofExcept fun _ => keyless_sendEmail _ _ _ _

theorem mints_finishSubscription (settings : Settings) {body : SubscriptionCreate}
    (hgiven : request.given = some body) (provider : Provider) {donor : Donor}
    (hdonor : (Key.donor donor.id).KnownIn s) {result : SubscriptionResult}
    (htest : body.provider = "test" → ∃ token ∈ s.drawn, result.providerSubscriptionId = "test_sub_" ++ token)
    (hprovider : provider = .test → body.provider = "test") :
    Mints request (fun _ _ => True) s (finishSubscription settings body provider donor result) := by
  refine Mints.bind (Q := fun s' rail => s' = s ∧ SubscriptionProvider.ofString body.provider = .ok rail ∧
    (rail = .test → body.provider = "test")) (mints_ofExcept fun rail hrail => ⟨rfl, hrail, fun htest => ?_⟩) ?_
  · rw [htest] at hrail
    unfold SubscriptionProvider.ofString at hrail
    split at hrail
    · next found hfound =>
        cases hrail
        have hname := List.find?_some hfound
        exact (of_decide_eq_true hname).symm
    · cases hrail
  rintro s' rail - ⟨hs, hnamed, hrail⟩
  rw [hs]
  refine (mints_id hwebhook).bind fun s₁ id h₁ hdrawn => ?_
  refine (mints_add (fun key hkey => ?_) fun key hkey => ?_).bind fun s₂ _ h₂ hpushed =>
    mints_flush.bind fun s₃ _ h₃ _ => ?_
  · simp only [Stmt.keys, Subscription.keys, newSubscription, List.mem_cons, List.not_mem_nil, or_false] at hkey
    rcases hkey with rfl | rfl
    · exact hdrawn
    · refine ⟨fun h => ?_, fun body' hbody' => ?_⟩
      · obtain ⟨token, htoken, hid⟩ := htest (hrail h)
        exact ⟨token, Session.drawn_mono h₁ htoken, hid⟩
      · cases hgiven.symm.trans hbody'
        exact hnamed
  · rw [List.mem_singleton.mp hkey]
    exact hdonor.mono h₁
  have hlast (s : Session) (response : Response) :
      Mints request (fun _ _ => True) s (commit >>= fun _ => (pure response : Act Response)) :=
    mints_commit.bind fun _ _ _ _ => mints_ret trivial
  cases provider with
  | test =>
      obtain ⟨token, htoken, hid⟩ := htest (hprovider rfl)
      have hlater := Session.drawn_mono (h₁.trans (h₂.trans h₃)) htoken
      have hknown := hdonor.mono (h₁.trans (h₂.trans h₃))
      exact (mints_settleSubscription hwebhook settings body donor hlater hid hknown
        ⟨_, h₃.subset hpushed, rfl⟩).bind fun s₄ _ _ _ => hlast s₄ _
  | stripe _ | paypal _ _ | mpesa _ _ | btc _ => exact hlast s₃ _

theorem mints_createSubscription (settings : Settings) {body : SubscriptionCreate}
    (hgiven : request.given = some body) :
    Mints request (fun _ _ => True) s (createSubscription settings body) := by
  rw [createSubscription_eq]
  rcases selectProvider_cases body.provider settings with ⟨provider, hprovider, hselect⟩ | ⟨error, hselect⟩
  · rw [hselect]
    refine (mints_giver hwebhook _ _ _).bind fun s₁ donor _ hdonor => ?_
    refine Mints.bind (Q := fun s' result => body.provider = "test" →
      ∃ token ∈ s'.drawn, result.providerSubscriptionId = "test_sub_" ++ token) ?_ fun s₂ result h₂ hresult =>
        mints_finishSubscription hwebhook settings hgiven provider (hdonor.mono h₂) hresult ?_
    · have hrail (hname : body.provider ≠ "test")
          (h : (provider.createSubscription (gift body)).Only Op.Keyless) :
          Mints request (fun s' result => body.provider = "test" →
            ∃ token ∈ s'.drawn, result.providerSubscriptionId = "test_sub_" ++ token) s₁
              (provider.createSubscription (gift body)) :=
        (mints_of_only h).mono (fun _ _ hop => hop)
          fun _ _ ⟨hpast, _⟩ => ⟨hpast, fun _ _ htest => absurd htest hname⟩
      rcases getProvider_cases hprovider with ⟨-, rfl⟩ | ⟨hname, rfl⟩ | ⟨hname, _, rfl⟩ | ⟨hname, _, rfl⟩ |
        ⟨hname, rfl⟩
      · refine mints_tokenHex.bind fun s₂ token _ htoken =>
          Mints.bind (Q := fun s' _ => token ∈ s'.drawn) (mints_perform trivial fun _ => htoken)
            fun s₃ _ _ htoken => mints_ret fun _ => ⟨token, htoken, rfl⟩
      · exact hrail (by simp [hname]) (.bind (.perform trivial) fun _ => .bind .ofExcept fun _ => trivial)
      · exact hrail (by simp [hname]) trivial
      · exact hrail (by simp [hname]) trivial
      · exact hrail (by simp [hname]) trivial
    · rintro rfl
      rcases getProvider_cases hprovider with ⟨hname, -⟩ | ⟨-, h⟩ | ⟨-, _, h⟩ | ⟨-, _, h⟩ | ⟨-, h⟩
      · exact hname
      · cases h
      · cases h
      · cases h
      · cases h
  · rw [hselect]
    exact mints_raise

theorem mints_subscribe (body : NewsletterSubscribe) :
    Mints request (fun _ _ => True) s (Content.subscribe body) := by
  refine mints_scalar.bind fun s₁ found _ _ => mints_now.bind fun s₂ time _ _ => ?_
  have hlast (s : Session) : Mints request (fun _ _ => True) s (do
      commit
      return ⟨200, .status "subscribed"⟩ : Act Response) := mints_commit.bind fun _ _ _ _ => mints_ret trivial
  cases found with
  | some donor =>
      exact Mints.bind (Q := fun _ _ => True) (mints_of_only
        ((keyless_assignDonor _ _).bind fun _ => trivial)) fun s₃ _ _ _ => hlast s₃
  | none =>
      refine (mints_id hwebhook).bind fun s₃ id _ hdrawn => (mints_add (fun key hkey => ?_) (by simp
        [Stmt.references])).bind fun s₄ _ _ _ => hlast s₄
      simp only [Stmt.keys, Donor.keys, Donor.setAll_id, Content.newSubscriber, List.mem_cons, List.not_mem_nil,
        or_false] at hkey
      rcases hkey with rfl | rfl
      · exact hdrawn
      · trivial

theorem mints_createDataRequest (body : DataRequestCreate) :
    Mints request (fun _ _ => True) s (Content.createDataRequest body) := by
  refine mints_scalar.bind fun s₁ found _ hfound => ?_
  cases found with
  | none => exact mints_raise
  | some donor =>
      refine mints_any.bind fun s₂ type h₂ _ => mints_now.bind fun s₃ requestedAt h₃ _ =>
        (mints_id hwebhook).bind fun s₄ id h₄ hdrawn => (mints_add (fun key hkey => ?_) fun key hkey => ?_).bind
          fun _ _ _ _ => mints_commit.bind fun _ _ _ _ => mints_ret trivial
      · rw [List.mem_singleton.mp hkey]
        exact hdrawn
      · rw [List.mem_singleton.mp hkey]
        exact .inl ⟨_, donor, (hfound donor rfl).mono (h₂.trans (h₃.trans h₄)), rfl⟩

end Gifts

theorem keyless_unsubscribe (donorId : String) : (Content.unsubscribe donorId).Only Op.Keyless := by
  refine .bind .ofExcept fun id => .bind (only_scalar trivial trivial) fun found => ?_
  cases found with
  | some donor =>
      exact .bind (keyless_assignDonor _ _) fun _ => .bind (only_commit trivial trivial) fun _ => trivial
  | none => trivial

theorem keyless_donorSubscriptions (secretKey token : String) :
    (Subscriptions.donorSubscriptions secretKey token).Only Op.Keyless := by
  refine .bind (.perform trivial) fun time => .bind .ofExcept fun found => ?_
  cases found with
  | none => trivial
  | some donorId => exact only_scalars trivial trivial

theorem keyless_changeAmount (settings : Settings) (token : String) (body : ManageSubscriptionPatch) :
    (Subscriptions.changeAmount settings token body).Only Op.Keyless := by
  refine .bind (keyless_donorSubscriptions _ _) fun subs => ?_
  cases subs with
  | nil => trivial
  | cons sub _ =>
      exact .bind (keyless_assignSubscription _ _) fun _ => .bind (only_commit trivial trivial) fun _ => trivial

theorem keyless_cancel (settings : Settings) (token : String) :
    (Subscriptions.cancel settings token).Only Op.Keyless := by
  rw [Subscriptions.cancel_eq]
  refine .bind (keyless_donorSubscriptions _ _) fun subs => ?_
  cases subs with
  | nil => trivial
  | cons sub _ =>
      have htell : (Subscriptions.tellRail settings sub).Only fun op => op.outer = true :=
        .handle (.bind .ofExcept fun provider => only_cancelSubscription provider _) fun _ => trivial
      refine .bind (htell.mono fun _ => Op.Keyless.of_outer) fun _ => .bind ?_ fun _ => ?_
      · exact .bind (.perform trivial) fun _ =>
          (keyless_assignSubscription _ _).bind fun _ => only_flush trivial
      refine .bind (only_scalar trivial trivial) fun found => ?_
      have hlast : (do
          commit
          return ⟨200, .status "cancelled"⟩ : Act Response).Only Op.Keyless :=
        .bind (only_commit trivial trivial) fun _ => trivial
      cases found with
      | some donor => exact .bind (keyless_sendEmail _ _ _ _) fun _ => hlast
      | none => exact hlast

theorem keyless_process (event : WebhookEvent) : (Webhooks.process event).Only Op.Keyless := by
  have hmark (error : Option String) : (do
      Ledger.markEventProcessed event error
      commit : Act Unit).Only Op.Keyless :=
    .bind (keyless_markEventProcessed event error) fun _ => only_commit trivial trivial
  exact .handle (hmark none) fun error => hmark (some error.message)

theorem mints_handle {endpoint : Webhooks.Endpoint} {headers : List (String × String)} {rawBody : Bytes}
    (hrequest : request.endpoint = .webhook endpoint headers rawBody) (hs : s.committed = []) :
    Mints request (fun _ _ => True) s
      (Webhooks.handle request.settings.settings endpoint.providerName headers rawBody) := by
  unfold Webhooks.handle
  cases hprovider : getProvider endpoint.providerName request.settings.settings with
  | error error => exact mints_ret trivial
  | ok provider =>
      dsimp only
      split
      case isFalse => exact mints_ret trivial
      case isTrue hverify =>
        cases hparse : provider.parseEvent rawBody with
        | error error => exact mints_raise
        | ok event =>
            have hdelivery : request.delivery = some
                ⟨endpoint.providerName, event.providerEventId, event.eventType,
                event.payload, event.signatureValid⟩ := by
              simp [Request.delivery, hrequest, hprovider, hverify, hparse]
            refine Mints.bind (Q := fun s' (value : Payments.WebhookEvent) => s' = s ∧ value = event)
              (mints_ret ⟨rfl, rfl⟩) ?_
            rintro s' value - ⟨hs', hvalue⟩
            rw [hs', hvalue]
            refine Mints.bind (mints_recordWebhookEvent (fun providerEventId htext => ?_) fun _ => hs)
              fun s₁ found _ _ => Mints.bind mints_commit fun s₂ _ _ _ => ?_
            · exact .inr ⟨_, hdelivery, Json.text_eq_ok.mp htext⟩
            obtain ⟨row, isNew⟩ := found
            cases isNew with
            | false => exact mints_ret trivial
            | true => exact mints_of_only ((keyless_process row).bind fun _ => trivial)

theorem handler_mints (request : Request) :
    (service.start request).Obeys service.toClient (Minting request) (fun _ _ => True) service.fresh := by
  suffices h : Mints request (fun _ _ => True) {} request.handler from
    Prog.Obeys.mono h (fun _ _ hop => hop) fun _ _ _ => trivial
  have hwebhook (h : ∀ endpoint headers rawBody, request.endpoint ≠ .webhook endpoint headers rawBody) :
      request.isWebhook = false := by
    unfold Request.isWebhook
    split
    · next heq => exact absurd heq (h _ _ _)
    · rfl
  unfold Request.handler
  cases hrequest : request.endpoint with
  | oneOff body => exact mints_createOneOff (hwebhook (by simp [hrequest])) _ body
  | subscription body =>
      exact mints_createSubscription (hwebhook (by simp [hrequest])) _ (by simp [Request.given, hrequest])
  | manageGet token => exact mints_of_only ((keyless_donorSubscriptions _ token).bind fun _ => trivial)
  | managePatch token body => exact mints_of_only (keyless_changeAmount _ token body)
  | manageDelete token => exact mints_of_only (keyless_cancel _ token)
  | newsletterSubscribe body => exact mints_subscribe (hwebhook (by simp [hrequest])) body
  | newsletterUnsubscribe donorId => exact mints_of_only (keyless_unsubscribe donorId)
  | dataRequest body => exact mints_createDataRequest (hwebhook (by simp [hrequest])) body
  | webhook endpoint headers rawBody => exact mints_handle hrequest rfl

end Handlers

end BridgeOfHope
