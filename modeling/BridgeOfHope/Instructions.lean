import BridgeOfHope.Subscriptions.History

namespace BridgeOfHope

open Process

-- What the rails have been told, and by whom.

def Event.entry : Event → Option RailRecord
  | ⟨.stripeCheckout request, .ok checkout⟩ => some (.checkout request checkout.id)
  | ⟨.stripeDelete id, .ok _⟩ => some (.stripeDeleted id)
  | ⟨.http request, .ok _⟩ => some (.http request)
  | ⟨.record entry, _⟩ => some entry
  | _ => none

-- The amount a rail is told to charge for a subscription.
def RailRecord.instruction (provider : SubscriptionProvider) (providerSubscriptionId : String) :
    RailRecord → Option (Int × String)
  | .testSubscribed id amountMinor currency =>
      if provider = .test ∧ id = providerSubscriptionId then some (amountMinor, currency) else none
  | .checkout request sessionId =>
      if provider = .stripe ∧ request.mode = .subscription ∧ sessionId = providerSubscriptionId then
        some (request.unitAmount, request.currency)
      else none
  | _ => none

-- The latest record comes first.
def lastInstructed (rails : List RailRecord) (provider : SubscriptionProvider)
    (providerSubscriptionId : String) : Option (Int × String) :=
  (rails.filterMap (RailRecord.instruction provider providerSubscriptionId)).head?

theorem lastInstructed_eq {rails : List RailRecord} {provider : SubscriptionProvider}
    {providerSubscriptionId : String} {charge : Int × String} {entry : RailRecord} (hmem : entry ∈ rails)
    (hentry : entry.instruction provider providerSubscriptionId = some charge)
    (hall : ∀ entry ∈ rails, ∀ other, entry.instruction provider providerSubscriptionId = some other →
      other = charge) : lastInstructed rails provider providerSubscriptionId = some charge := by
  unfold lastInstructed
  cases hlist : rails.filterMap (RailRecord.instruction provider providerSubscriptionId) with
  | nil =>
      have := List.filterMap_eq_nil_iff.mp hlist entry hmem
      cases this.symm.trans hentry
  | cons first rest =>
      have hfirst : first ∈ rails.filterMap (RailRecord.instruction provider providerSubscriptionId) := by
        simp [hlist]
      obtain ⟨e, he, heq⟩ := List.mem_filterMap.mp hfirst
      rw [List.head?_cons, hall e he first heq]

theorem effect_rails (world : World) (s : Session) (op : Op) (ans : Ans op) :
    (effect world s op ans).rails = (Event.entry ⟨op, ans⟩).toList ++ world.rails := by
  cases op with
  | stripeCheckout _ => cases ans <;> rfl
  | stripeDelete _ => cases ans <;> rfl
  | http _ => cases ans <;> rfl
  | commit => cases ans <;> rfl
  | _ => rfl

section Runs

variable [Platform] {pool pool' : ServicePool} {move : ServiceMove}

-- The rails have on record exactly what some request told them.
def Faithful (pool : ServicePool) : Prop :=
  ∀ entry, entry ∈ pool.shared.rails ↔ ∃ t ∈ pool.threads, ∃ e ∈ t.loc.past, e.entry = some entry

theorem Faithful.step (h : Faithful pool) (hproper : ∀ t ∈ pool.threads, Proper t)
    (hmove : service.Step pool move pool') : Faithful pool' := by
  refine fun entry => ⟨fun hentry => ?_, fun ⟨t, ht, e, he, heq⟩ => ?_⟩
  · have hlater (hold : entry ∈ pool.shared.rails) :
        ∃ t ∈ pool'.threads, ∃ e ∈ t.loc.past, e.entry = some entry := by
      obtain ⟨t, ht, e, he, heq⟩ := (h entry).mp hold
      obtain ⟨t', ht', -, hpast, -⟩ := thread_later hmove ht
      exact ⟨t', ht', e, hpast.subset he, heq⟩
    cases hmove with
    | @act shared threads i request s op next ans hthread hanswer =>
        rw [show (service.effect shared s op ans).rails = _ from effect_rails shared s op ans] at hentry
        rcases List.mem_append.mp hentry with hnew | hold
        · refine ⟨_, List.mem_of_getElem? (List.getElem?_set_self ?_), ⟨op, ans⟩, List.mem_cons_self,
            Option.mem_toList.mp hnew⟩
          exact (List.getElem?_eq_some_iff.mp hthread).1
        · exact hlater hold
    | _ => exact hlater hentry
  · refine hmove.forall_threads hproper (P := fun world _ s => ∀ e ∈ s.past, ∀ entry,
      e.entry = some entry → entry ∈ world.rails) (fun _ _ _ he => (nomatch he)) (fun _ _ h => h) ?_ ?_
      (fun t ht e he entry heq => (h entry).mpr ⟨t, ht, e, he, heq⟩) t ht e he entry heq
    · rintro i t op ans - - - - hs e he entry heq
      show entry ∈ (effect _ _ _ _).rails
      rw [effect_rails]
      rcases List.mem_cons.mp he with rfl | he
      · exact List.mem_append_left _ (Option.mem_toList.mpr heq)
      · exact List.mem_append_right _ (hs e he entry heq)
    · rintro i t op ans request s - - - hs e he entry heq
      show entry ∈ (effect _ _ _ _).rails
      rw [effect_rails]
      exact List.mem_append_right _ (hs e he entry heq)

theorem faithful_run {allow : ServicePool → ServiceMove → Prop}
    (hrun : service.Run allow ⟨{}, []⟩ pool) : Faithful pool :=
  (hrun.invariant_of_obeys handler_obeys (I := Faithful) (fun entry => by simp) (by simp)
    fun _ _ _ h hproper _ hmove => h.step hproper hmove).1

-- A PATCH that has committed this amount for the row.
def Patched (t : ServiceThread) (id : Uuid) (amountMinor : Int) : Prop :=
  ∃ token, ∃ body : ManageSubscriptionPatch, ∃ columns, t.req.endpoint = .managePatch token body ∧
    body.amountMinor = amountMinor ∧ .updateSubscription id columns ∈ t.loc.committed

-- Every row was opened by a request that had told the rail what to charge.
-- Only a PATCH makes its amount another one.
def Sourced (pool : ServicePool) (row : Subscription) : Prop :=
  ∃ t ∈ pool.threads, ∃ subscription columns, Opened t.loc subscription ∧
    row = subscription.setAll columns ∧ (row.amountMinor = subscription.amountMinor ∨
      ∃ t' ∈ pool.threads, Patched t' row.id row.amountMinor)

theorem Patched.later {t : ServiceThread} {id : Uuid} {amountMinor : Int} (h : Patched t id amountMinor)
    (ht : t ∈ pool.threads) (hmove : service.Step pool move pool') :
    ∃ t' ∈ pool'.threads, Patched t' id amountMinor := by
  obtain ⟨token, body, columns, hrequest, hamount, hmem⟩ := h
  obtain ⟨t', ht', hreq, -, hcommitted⟩ := thread_later hmove ht
  exact ⟨t', ht', token, body, columns, hreq ▸ hrequest, hamount, hcommitted.subset hmem⟩

theorem Sourced.later {row : Subscription} (h : Sourced pool row) (hmove : service.Step pool move pool') :
    Sourced pool' row := by
  obtain ⟨t, ht, subscription, columns, hopened, hrow, hamount⟩ := h
  obtain ⟨t', ht', -, hpast, -⟩ := thread_later hmove ht
  refine ⟨t', ht', subscription, columns, hopened.mono hpast, hrow, hamount.imp_right ?_⟩
  rintro ⟨t₁, ht₁, hpatched⟩
  exact hpatched.later ht₁ hmove

theorem Sourced.step (h : ∀ row ∈ pool.shared.db.subscriptions, Sourced pool row)
    (hconsistent : Consistent pool) (hproper : ∀ t ∈ pool.threads, Proper t)
    (hmove : service.Step pool move pool') :
    ∀ row ∈ pool'.shared.db.subscriptions, Sourced pool' row := by
  intro row hrow
  rcases db_step hproper hmove with hquiet | ⟨i, t, transaction, -, hcommits⟩
  · exact (h row (hquiet.db ▸ hrow)).later hmove
  obtain ⟨t', hi, hreq, hpast, hcommitted⟩ := hcommits.self
  have ht' := List.mem_of_getElem? hi
  cases subscription_step hconsistent hcommits hrow with
  | kept hrow => exact (h row hrow).later hmove
  | opened hrow =>
      cases hcommits.ready.licensed with
      | @subscribe body step rail psid id subscription activation hrequest hdonor hsubscription hopened
          hactive hsettled =>
          refine ⟨t', ht', subscription, ?_⟩
          cases activation with
          | none =>
              rw [List.mem_singleton.mp hrow]
              exact ⟨[], hopened.mono hpast, rfl, .inl rfl⟩
          | some a =>
              rw [List.mem_singleton.mp hrow]
              refine ⟨_, hopened.mono hpast, rfl, .inl ?_⟩
              refine (Subscription.setAll_amountMinor subscription _).resolve_right fun hmem => ?_
              simpa [Ledger.activatedColumns] using (List.mem_filter.mp hmem).1
      | _ => cases hrow
  | @changed row₀ subscription amountMinor hrow₀ htransaction hid hrow =>
      obtain ⟨t₀, ht₀, source, columns, hopened, hsource, -⟩ := (h row₀ hrow₀).later hmove
      refine ⟨t₀, ht₀, source, columns ++ [.amountMinor amountMinor], hopened, ?_, .inr ⟨t', ht', ?_⟩⟩
      · rw [Subscription.setAll_append, ← hsource, hrow]
        rfl
      · cases htransaction
        cases hcommits.ready.licensed with
        | @changeAmount token body subscription hrequest htoken hread =>
            refine ⟨token, body, subscription.changes [.amountMinor body.amountMinor],
              (congrArg Request.endpoint hreq).trans hrequest, by rw [hrow], ?_⟩
            rw [hcommitted, hrow, hid]
            exact List.mem_cons_self
  | @cancelled row₀ subscription time hrow₀ htransaction hid hrow hstatus =>
      obtain ⟨t₀, ht₀, source, columns, hopened, hsource, hamount⟩ := (h row₀ hrow₀).later hmove
      refine ⟨t₀, ht₀, source, columns ++ _, hopened, by rw [Subscription.setAll_append, ← hsource, hrow], ?_⟩
      have hsame : row.amountMinor = row₀.amountMinor := by
        rw [hrow]
        refine (Subscription.setAll_amountMinor row₀ _).resolve_right fun hmem => ?_
        simpa [Ledger.cancelledColumns] using (List.mem_filter.mp hmem).1
      rw [hsame, show row.id = row₀.id by rw [hrow, Subscription.setAll_id]]
      exact hamount

theorem sourced_run {allow : ServicePool → ServiceMove → Prop}
    (hrun : service.Run allow ⟨{}, []⟩ pool) {row : Subscription}
    (hrow : row ∈ pool.shared.db.subscriptions) : Sourced pool row := by
  have h := hrun.invariant_of_obeys handler_obeys
    (I := fun pool => Consistent pool ∧ ∀ row ∈ pool.shared.db.subscriptions, Sourced pool row)
    ⟨.initial, by simp⟩ (by simp) fun _ _ _ h hproper _ hmove =>
      ⟨h.1.step hproper hmove, Sourced.step h.2 h.1 hproper hmove⟩
  exact h.1.2 row hrow

end Runs

end BridgeOfHope
