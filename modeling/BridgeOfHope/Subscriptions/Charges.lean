import BridgeOfHope.Subscriptions.Confirmed

namespace BridgeOfHope

open Process

-- The amount of a stored subscription and the amount its rail was told. They start
-- out as one amount, and a PATCH changes the stored one only.

-- The id under which Stripe keeps what it has accepted.
def RailRecord.session : RailRecord → Option String
  | .checkout _ sessionId => some sessionId
  | _ => none

theorem Event.eq_record {e : Event} {id currency : String} {amountMinor : Int}
    (h : e.entry = some (.testSubscribed id amountMinor currency)) :
    e = ⟨.record (.testSubscribed id amountMinor currency), ()⟩ := by
  unfold Event.entry at h
  split at h <;> cases h
  rfl

-- `secrets.token_hex` never repeats a value, and Stripe never an id.
def NewRailIds (pool : ServicePool) : ServiceMove → Prop
  | .act _ .tokenHex token => ∀ t ∈ pool.threads, token ∉ t.loc.drawn
  | .act _ (.stripeCheckout _) (.ok checkout) =>
      ∀ entry ∈ pool.shared.rails, entry.session ≠ some checkout.id
  | _ => True

instance (pool : ServicePool) : (move : ServiceMove) → Decidable (NewRailIds pool move)
  | .act _ op answer => match op, answer with
    | .tokenHex, token => inferInstanceAs (Decidable (∀ t ∈ pool.threads, token ∉ t.loc.drawn))
    | .stripeCheckout _, .ok checkout => inferInstanceAs (Decidable
        (∀ entry ∈ pool.shared.rails, entry.session ≠ some checkout.id))
    | .stripeCheckout _, .error _ | .now, _ | .uuid7, _ | .push _, _ | .flush, _ | .query _, _
    | .commit, _ | .stripeDelete _, _ | .http _, _ | .record _, _ | .smtp _, _ | .log _, _ =>
        isTrue trivial
  | .arrive _ | .finish _ | .crash _ => isTrue trivial

-- What a session has told the test rail is what its own request asks for.
def ToldOwn (request : Request) (s : Session) : Prop :=
  ∀ id amountMinor currency, ⟨.record (.testSubscribed id amountMinor currency), ()⟩ ∈ s.past →
    ∃ body, request.endpoint = .subscription body ∧ amountMinor = body.amountMinor ∧
      currency = body.currency ∧ ∃ token ∈ s.drawn, id = "test_sub_" ++ token

-- No two threads share a token, and no two checkouts an id.
structure SingleIds (pool : ServicePool) : Prop where
  tokens : (pool.threads.map Thread.loc).Pairwise fun s s' => ∀ token ∈ s.drawn, token ∉ s'.drawn
  sessions : pool.shared.rails.Pairwise fun entry entry' =>
    ∀ id, entry.session = some id → entry'.session ≠ some id
  own : ∀ t ∈ pool.threads, ToldOwn t.req t.loc

theorem SingleIds.same_thread {pool : ServicePool} (h : SingleIds pool) {t t' : ServiceThread}
    (ht : t ∈ pool.threads) (ht' : t' ∈ pool.threads) {token : String} (htoken : token ∈ t.loc.drawn)
    (htoken' : token ∈ t'.loc.drawn) : t = t' := by
  obtain ⟨i, hi⟩ := List.mem_iff_getElem?.mp ht
  obtain ⟨k, hk⟩ := List.mem_iff_getElem?.mp ht'
  by_cases hik : i = k
  · subst hik
    exact Option.some.inj (hi.symm.trans hk)
  · have hapart := System.forall_of_pairwise (fun h token hs' hs => h token hs hs') h.tokens hi hk hik
    exact absurd htoken' (hapart token htoken)

-- The test rail is told of a subscription by the request that draws its id.
theorem instructed_test {pool : ServicePool} (h : SingleIds pool) (hfaithful : Faithful pool)
    {t : ServiceThread}
    (ht : t ∈ pool.threads) {token currency : String} {amountMinor : Int} (htoken : token ∈ t.loc.drawn)
    (hmem : ⟨.record (.testSubscribed ("test_sub_" ++ token) amountMinor currency), ()⟩ ∈ t.loc.past) :
    lastInstructed pool.shared.rails .test ("test_sub_" ++ token) = some (amountMinor, currency) := by
  have hentry := (hfaithful _).mpr ⟨t, ht, _, hmem, rfl⟩
  refine lastInstructed_eq hentry (by simp [RailRecord.instruction]) fun entry hentry' other hother => ?_
  cases entry with
  | testSubscribed id amountMinor' currency' =>
      simp only [RailRecord.instruction, true_and] at hother
      split at hother
      · next hsame =>
          cases hother
          subst hsame
          obtain ⟨t', ht', e, he, heq⟩ := (hfaithful _).mp hentry'
          rw [Event.eq_record heq] at he
          obtain ⟨body, hrequest, hamount, hcurrency, -⟩ := h.own t ht _ _ _ hmem
          obtain ⟨body', hrequest', rfl, rfl, token', htoken', hid'⟩ := h.own t' ht' _ _ _ he
          have hsame : token = token' := by simpa using hid'
          subst hsame
          rw [h.same_thread ht ht' htoken htoken', hrequest'] at hrequest
          cases hrequest
          rw [hamount, hcurrency]
      · cases hother
  | checkout _ _ => simp [RailRecord.instruction] at hother
  | _ => cases hother

-- Stripe is told of a subscription by the checkout that has its session id.
theorem instructed_checkout {pool : ServicePool} (h : SingleIds pool) {checkout : Checkout} {id : String}
    (hentry : .checkout checkout id ∈ pool.shared.rails) (hmode : checkout.mode = .subscription) :
    lastInstructed pool.shared.rails .stripe id = some (checkout.unitAmount, checkout.currency) := by
  refine lastInstructed_eq hentry (by simp [RailRecord.instruction, hmode]) ?_
  intro entry hentry' other hother
  by_cases hsame : entry = .checkout checkout id
  · subst hsame
    simpa [RailRecord.instruction, hmode, eq_comm] using hother
  · have : Std.Symm fun entry entry' : RailRecord => ∀ id, entry.session = some id → entry'.session ≠ some id :=
      ⟨fun _ _ h id hid hid' => h id hid' hid⟩
    have hapart := h.sessions.forall hentry' hentry hsame
    cases entry with
    | checkout request id' =>
        simp only [RailRecord.instruction, true_and] at hother
        split at hother
        · next hid => exact absurd rfl (hapart _ (congrArg some hid.2))
        · cases hother
    | testSubscribed _ _ _ => simp [RailRecord.instruction] at hother
    | _ => cases hother

section Runs

variable [Platform] {pool pool' : ServicePool} {move : ServiceMove}

-- The currency as the rail is told it.
def Subscription.railCurrency (subscription : Subscription) : String :=
  match subscription.provider with
  | .stripe => Platform.lower subscription.currency
  | _ => subscription.currency

theorem ToldOwn.update {request : Request} {s : Session} {op : Op} (h : ToldOwn request s) (ans : Ans op)
    (hpermits : Permits request s op) : ToldOwn request (s.update op ans) := by
  intro id amountMinor currency hmem
  have hdrawn : ∀ token ∈ s.drawn, token ∈ (s.update op ans).drawn :=
    fun _ htoken => Session.drawn_mono (List.suffix_cons _ _) htoken
  rcases List.mem_cons.mp hmem with hnew | hold
  · cases hnew
    obtain ⟨body, hrequest, hamount, hcurrency, token, htoken, hid⟩ := hpermits
    exact ⟨body, hrequest, hamount, hcurrency, token, hdrawn token htoken, hid⟩
  · obtain ⟨body, hrequest, hamount, hcurrency, token, htoken, hid⟩ := h id amountMinor currency hold
    exact ⟨body, hrequest, hamount, hcurrency, token, hdrawn token htoken, hid⟩

theorem session_new {shared : World} {threads : List ServiceThread} {i : ℕ} {request : Request}
    {s : Session} {op : Op}
    {ans : Ans op} (hpermits : Permits request s op) (hallow : NewRailIds ⟨shared, threads⟩ (.act i op ans))
    {entry : RailRecord} (hentry : Event.entry ⟨op, ans⟩ = some entry) {id : String}
    (hid : entry.session = some id) :
    ∀ entry' ∈ shared.rails, entry'.session ≠ some id := by
  cases op with
  | stripeCheckout checkout => cases ans with
    | ok session =>
        cases hentry
        cases hid
        exact hallow
    | error _ => cases hentry
  | record record =>
      cases hentry
      cases entry with
      | checkout _ _ => exact hpermits.elim
      | _ => cases hid
  | stripeDelete _ | http _ | commit | flush => cases ans <;> cases hentry <;> cases hid
  | _ => cases hentry

theorem SingleIds.step (h : SingleIds pool) (hproper : ∀ t ∈ pool.threads, Proper t)
    (hallow : NewRailIds pool move) (hmove : service.Step pool move pool') : SingleIds pool' := by
  refine ⟨?_, ?_, ?_⟩
  · refine hmove.pairwise (fun h token hs' hs => h token hs hs') ?_ (fun _ _ h => h) ?_ h.tokens
    · intro request _ t _ token _ hfresh
      cases hfresh
    · rintro i t op ans rfl - - t' ht' hpair token htoken
      rcases Session.mem_drawn_update htoken with hold | hnew
      · exact hpair token hold
      · cases hnew
        exact hallow t' (List.mem_of_mem_eraseIdx ht')
  · cases hmove with
    | @act shared threads i request s op next ans hthread hanswer =>
        have hpermits : Permits request s op := permits_of_issues hproper ⟨hthread, next, rfl⟩
        show (effect shared s op ans).rails.Pairwise _
        rw [effect_rails]
        refine List.pairwise_append.mpr ⟨?_, h.sessions, fun entry hentry entry' hentry' id hid => ?_⟩
        · cases Event.entry ⟨op, ans⟩ <;> simp
        · exact session_new hpermits hallow (Option.mem_toList.mp hentry) hid entry' hentry'
    | _ => exact h.sessions
  · refine hmove.forall_threads hproper (P := fun _ request s => ToldOwn request s)
      (fun _ _ _ _ _ hmem => ?_) (fun _ _ h => h) ?_ (fun _ _ _ _ _ _ _ _ _ h => h) h.own
    · cases hmem
    · exact fun _ _ _ ans _ _ hpermits _ hs => hs.update ans hpermits

theorem singleIds_run (hrun : service.Run NewRailIds ⟨{}, []⟩ pool) : SingleIds pool :=
  (hrun.invariant_of_obeys handler_obeys (I := SingleIds) ⟨.nil, .nil, by simp⟩ (by simp)
    fun _ _ _ h hproper hallow hmove => h.step hproper hallow hmove).1

-- The rail of an opened subscription has been told one thing about it.
theorem instructed_opened (h : SingleIds pool) (hfaithful : Faithful pool) {t : ServiceThread}
    (ht : t ∈ pool.threads) {sub : Subscription} (hopened : Opened t.loc sub) :
    lastInstructed pool.shared.rails sub.provider sub.providerSubscriptionId =
      some (sub.amountMinor, sub.railCurrency) := by
  unfold Opened at hopened
  unfold Subscription.railCurrency
  split at hopened
  · next hrail =>
      obtain ⟨⟨token, htoken, hid⟩, hmem⟩ := hopened
      rw [hid] at hmem
      rw [hrail, hid]
      exact instructed_test h hfaithful ht htoken hmem
  · next hrail =>
      obtain ⟨checkout, url, hmem, hmode, hamount, hcurrency⟩ := hopened
      have hentry := (hfaithful (.checkout checkout sub.providerSubscriptionId)).mpr ⟨t, ht, _, hmem, rfl⟩
      rw [hrail, instructed_checkout h hentry hmode, hamount, hcurrency]
  · exact hopened.elim

theorem Subscription.railCurrency_setAll (sub : Subscription) (columns : List SubscriptionSet) :
    (sub.setAll columns).railCurrency = sub.railCurrency := by
  unfold Subscription.railCurrency
  rw [Subscription.setAll_provider, Subscription.setAll_currency]

theorem instructed_amount (hrun : service.Run NewRailIds ⟨{}, []⟩ pool) {row : Subscription}
    (hrow : row ∈ pool.shared.db.subscriptions) :
    ∃ charged, lastInstructed pool.shared.rails row.provider row.providerSubscriptionId =
        some (charged, row.railCurrency) ∧
      (row.amountMinor = charged ∨ ∃ t ∈ pool.threads, Patched t row.id row.amountMinor) := by
  obtain ⟨t, ht, sub, columns, hopened, rfl, hamount⟩ := sourced_run hrun hrow
  have htold := instructed_opened (singleIds_run hrun) (faithful_run hrun) ht hopened
  refine ⟨sub.amountMinor, ?_, hamount⟩
  rw [Subscription.setAll_provider, Subscription.setAll_providerSubscriptionId,
    Subscription.railCurrency_setAll, htold]

end Runs

open Trial

theorem instructed_amount_stripe : ∃ pool, service.Run NewRailIds ⟨{}, []⟩ pool ∧
    ∃ row ∈ pool.shared.db.subscriptions, row.provider = .stripe ∧ ∃ charged,
      lastInstructed pool.shared.rails row.provider row.providerSubscriptionId =
        some (charged, row.railCurrency) ∧
      (row.amountMinor = charged ∨ ∃ t ∈ pool.threads, Patched t row.id row.amountMinor) := by
  obtain ⟨pool, hrun, row, hrow, hstripe⟩ := exists_run NewRailIds
    (fun pool => ∃ row ∈ pool.shared.db.subscriptions, row.provider = .stripe) stripeMonthly (by decide +kernel)
  exact ⟨pool, hrun, row, hrow, hstripe, instructed_amount hrun hrow⟩

-- The gift is raised from 25 to 99 dollars, and the rail still charges 25.
theorem raised_gift_charged_as_before : ∃ pool, service.Run NewRailIds ⟨{}, []⟩ pool ∧
    (∃ t ∈ pool.threads, response t = some ⟨200, .status "updated"⟩) ∧
    ∃ row ∈ pool.shared.db.subscriptions, row.status ≠ .cancelled ∧ row.amountMinor = 9900 ∧
      lastInstructed pool.shared.rails row.provider row.providerSubscriptionId =
        some (2500, row.railCurrency) :=
  exists_run NewRailIds
    (fun pool => (∃ t ∈ pool.threads, response t = some ⟨200, .status "updated"⟩) ∧
      ∃ row ∈ pool.shared.db.subscriptions, row.status ≠ .cancelled ∧ row.amountMinor = 9900 ∧
        lastInstructed pool.shared.rails row.provider row.providerSubscriptionId =
          some (2500, row.railCurrency))
    (oneMonthly ++ [.arrive managePatch] ++ turns 1 6 (reply 1) ++ [.finish 1]) (by decide +kernel)

end BridgeOfHope
