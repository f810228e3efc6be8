import BridgeOfHope.Consistency

namespace BridgeOfHope

open Process

-- The payment ids of the test rail, by the token they are made of.
def PaymentOf (token providerPaymentId : String) : Prop :=
  providerPaymentId = "test_pay_" ++ token ∨ providerPaymentId = "test_sub_" ++ token ++ "_initial"

theorem PaymentOf.inj {token token' providerPaymentId : String} (h : PaymentOf token providerPaymentId)
    (h' : PaymentOf token' providerPaymentId) : token = token' := by
  have hcross (a b : String) : "test_pay_" ++ a ≠ "test_sub_" ++ b ++ "_initial" := by
    intro heq
    have := congrArg (fun text => text.toList[5]?) heq
    simp at this
  rcases h with rfl | rfl <;> rcases h' with h' | h'
  · simpa using h'
  · exact absurd h' (hcross _ _)
  · exact absurd h'.symm (hcross _ _)
  · simpa using h'

-- A request that is still at work, or that has stored something.
def Holding (t : ServiceThread) : Prop := (∃ rest, t.phase = .running rest) ∨ t.loc.committed ≠ []

-- `secrets.token_hex` draws a value that nothing holds: no stored row has it,
-- and no request that is still at work drew it.
def NewTokens (pool : ServicePool) : ServiceMove → Prop
  | .act _ .tokenHex token => ∀ t ∈ pool.threads, Holding t → token ∉ t.loc.drawn
  | _ => True

instance (t : ServiceThread) : Decidable (Holding t) :=
  match h : t.phase with
  | .running rest => isTrue (.inl ⟨rest, h⟩)
  | .ended _ | .died => decidable_of_iff (t.loc.committed ≠ []) (by simp [Holding, h])

instance (pool : ServicePool) : (move : ServiceMove) → Decidable (NewTokens pool move)
  | .act _ op answer => match op, answer with
    | .tokenHex, token =>
        inferInstanceAs (Decidable (∀ t ∈ pool.threads, Holding t → token ∉ t.loc.drawn))
    | .now, _ | .uuid7, _ | .push _, _ | .flush, _ | .query _, _ | .commit, _ | .stripeCheckout _, _
    | .stripeDelete _, _ | .http _, _ | .record _, _ | .smtp _, _ | .log _, _ => isTrue trivial
  | .arrive _ | .finish _ | .crash _ => isTrue trivial

-- An index entry that was made of the token.
def Key.Carries (token : String) : Key → Prop
  | .providerPayment providerPaymentId => PaymentOf token providerPaymentId
  | .providerEvent providerEventId => providerEventId = "test_evt_" ++ token
  | .providerSubscription _ providerSubscriptionId => providerSubscriptionId = "test_sub_" ++ token
  | _ => False

instance (token : String) : (key : Key) → Decidable (key.Carries token)
  | .providerPayment providerPaymentId => inferInstanceAs (Decidable
      (providerPaymentId = "test_pay_" ++ token ∨ providerPaymentId = "test_sub_" ++ token ++ "_initial"))
  | .providerEvent providerEventId => inferInstanceAs (Decidable (providerEventId = _))
  | .providerSubscription _ providerSubscriptionId =>
      inferInstanceAs (Decidable (providerSubscriptionId = _))
  | .donor _ | .donorEmail _ | .subscription _ | .donation _ | .webhookEvent _ | .dataRequest _ =>
      isFalse nofun

-- The weaker reading, in which a token only differs from what some row has by
-- now, committed or not. A token that another request has drawn may come again.
def UnstoredTokens [Platform] (pool : ServicePool) : ServiceMove → Prop
  | .act _ .tokenHex token =>
      ∀ key ∈ entries pool.shared.db (pool.threads.map Thread.loc), ¬ key.Carries token
  | _ => True

instance [Platform] (pool : ServicePool) : (move : ServiceMove) → Decidable (UnstoredTokens pool move)
  | .act _ op answer => match op, answer with
    | .tokenHex, token => inferInstanceAs (Decidable
        (∀ key ∈ entries pool.shared.db (pool.threads.map Thread.loc), ¬ key.Carries token))
    | .now, _ | .uuid7, _ | .push _, _ | .flush, _ | .query _, _ | .commit, _ | .stripeCheckout _, _
    | .stripeDelete _, _ | .http _, _ | .record _, _ | .smtp _, _ | .log _, _ => isTrue trivial
  | .arrive _ | .finish _ | .crash _ => isTrue trivial

def Apart (threads : List ServiceThread) : Prop :=
  ∀ (i j : ℕ) t t', threads[i]? = some t → threads[j]? = some t' → i ≠ j → Holding t → Holding t' →
    ∀ token ∈ t.loc.drawn, token ∉ t'.loc.drawn

theorem Apart.set {threads : List ServiceThread} {i : ℕ} {t₀ t₁ : ServiceThread} (h : Apart threads)
    (hi : threads[i]? = some t₀)
    (hnew : Holding t₁ → Holding t₀ ∧ ∀ token ∈ t₁.loc.drawn, token ∈ t₀.loc.drawn ∨
      ∀ t ∈ threads, Holding t → token ∉ t.loc.drawn) : Apart (threads.set i t₁) := by
  intro j k t t' hj hk hne hholding hholding' token htoken
  rw [List.getElem?_set] at hj hk
  split at hj <;> split at hk
  · omega
  · rename_i hij _
    split at hj
    · cases hj
      obtain ⟨hholding₀, hdrawn⟩ := hnew hholding
      rcases hdrawn token htoken with hold | hfresh
      · exact h i k t₀ t' hi hk (by omega) hholding₀ hholding' token hold
      · exact hfresh t' (List.mem_of_getElem? hk) hholding'
    · cases hj
  · split at hk
    · cases hk
      obtain ⟨hholding₀, hdrawn⟩ := hnew hholding'
      intro htoken'
      rcases hdrawn token htoken' with hold | hfresh
      · exact h j i t t₀ hj hi (by omega) hholding hholding₀ token htoken hold
      · exact hfresh t (List.mem_of_getElem? hj) hholding htoken
    · cases hk
  · exact h j k t t' hj hk hne hholding hholding' token htoken

-- Every stored donation is paid under a token that its request drew, so a
-- request that looks up its own payment id never finds one.
def Unread (s : Session) : Prop :=
  ∀ (providerPaymentId : String) (row : Donation),
    ¬ s.Read (.donationByProviderPaymentId providerPaymentId) row

structure Minted (pool : ServicePool) : Prop where
  apart : Apart pool.threads
  origin : ∀ d ∈ pool.shared.db.donations, ∃ t ∈ pool.threads, t.loc.committed ≠ [] ∧
    ∃ token ∈ t.loc.drawn, PaymentOf token d.providerPaymentId
  unread : ∀ t ∈ pool.threads, Unread t.loc

theorem Minted.initial : Minted ⟨{}, []⟩ := ⟨by simp [Apart], by simp, by simp⟩

variable [Platform] {pool pool' : ServicePool} {move : ServiceMove}

theorem Apart.step (h : Apart pool.threads) (hfresh : NewTokens pool move)
    (hmove : service.Step pool move pool') : Apart pool'.threads := by
  cases hmove with
  | arrive shared threads req =>
      intro i j t t' hi hj hne hholding hholding' token htoken
      rw [List.getElem?_append] at hi hj
      split at hi
      · split at hj
        · exact h i j t t' hi hj hne hholding hholding' token htoken
        · rw [List.getElem?_singleton] at hj
          split at hj
          · cases hj
            nofun
          · cases hj
      · rw [List.getElem?_singleton] at hi
        split at hi
        · cases hi
          cases htoken
        · cases hi
  | act hthread hanswer =>
      refine h.set hthread fun _ => ⟨.inl ⟨_, rfl⟩, fun token htoken => ?_⟩
      refine (Session.mem_drawn_update htoken).imp_right fun hop t ht hholding => ?_
      cases hop
      exact hfresh t ht hholding
  | finish hthread => exact h.set hthread fun hnew => ⟨.inl ⟨_, rfl⟩, fun _ => .inl⟩
  | fail hthread => exact h.set hthread fun hnew => ⟨.inl ⟨_, rfl⟩, fun _ => .inl⟩
  | crash hthread => exact h.set hthread fun hnew => ⟨.inl ⟨_, rfl⟩, fun _ => .inl⟩

theorem Minted.step (h : Minted pool) (hfresh : NewTokens pool move)
    (hproper : ∀ t ∈ pool.threads, Proper t) (hmove : service.Step pool move pool') :
    Minted pool' := by
  refine ⟨h.apart.step hfresh hmove, fun d hd => ?_, ?_⟩
  · have hold (hd : d ∈ pool.shared.db.donations) : ∃ t ∈ pool'.threads, t.loc.committed ≠ [] ∧
        ∃ token ∈ t.loc.drawn, PaymentOf token d.providerPaymentId := by
      obtain ⟨t, ht, hcommitted, token, htoken, hid⟩ := h.origin d hd
      obtain ⟨t', ht', -, hpast, hprefix⟩ := thread_later hmove ht
      refine ⟨t', ht', fun hnil => hcommitted ?_, token, Session.drawn_mono hpast htoken, hid⟩
      exact List.prefix_nil.mp (hnil ▸ hprefix)
    rcases db_step hproper hmove with hquiet | ⟨i, t, transaction, -, hcommits⟩
    · exact hold (hquiet.db ▸ hd)
    · obtain ⟨t', hi', -, hpast, hcommitted⟩ := hcommits.self
      rw [hcommits.db, Db.mem_donations_applyAll] at hd
      refine hd.elim hold fun hd => ⟨t', List.mem_of_getElem? hi', ?_, ?_⟩
      · rw [hcommitted]
        exact List.append_ne_nil_of_right_ne_nil _ (List.ne_nil_of_mem hd)
      · obtain ⟨x, hx, hdonation⟩ := Transaction.donation_cases hd
        obtain ⟨⟨id, completedAt⟩, -, rfl⟩ := Option.map_eq_some_iff.mp hdonation
        rcases hcommits.ready.licensed.settled hx with ⟨body, step, token, -, -, -, htoken, hargs, -⟩ |
          ⟨body, step, subscription, time, token, id, -, -, -, htoken, hsubscription, hargs, -⟩
        · refine ⟨token, Session.drawn_mono hpast htoken, .inl ?_⟩
          rw [hargs]
          rfl
        · refine ⟨token, Session.drawn_mono hpast htoken, .inr ?_⟩
          rw [hargs, hsubscription]
          rfl
  · refine hmove.forall_threads hproper (P := fun _ _ s => Unread s) (fun _ _ => ?_)
      (fun _ _ hs => hs) ?_ (fun _ _ _ _ _ _ _ _ _ hs => hs) h.unread
    · rintro _ _ ⟨_, hpast, -⟩
      cases hpast
    · rintro i t op ans - ⟨hi, hrunning⟩ hpermits henabled hs providerPaymentId row ⟨rows, hpast, hrow⟩
      rcases List.mem_cons.mp hpast with hnew | hpast
      · cases hnew
        have hanswer : enabled pool.shared (pool.threads.map Thread.loc) t.loc
            (.query (.donationByProviderPaymentId providerPaymentId)) (.ok rows) := henabled
        obtain ⟨hmem, haccepts⟩ := mem_table hpermits hanswer hrow
        obtain ⟨hcommitted, token, htoken, hid⟩ := hpermits.2
        obtain ⟨t', ht', hcommitted', token', htoken', hid'⟩ := h.origin row hmem
        obtain ⟨j, hj⟩ := List.mem_iff_getElem?.mp ht'
        have hsame : row.providerPaymentId = providerPaymentId := by
          simpa [Query.accepts] using haccepts
        have heq : token = token' := PaymentOf.inj hid (hsame ▸ hid')
        have hne : i ≠ j := by
          rintro rfl
          cases hi.symm.trans hj
          exact hcommitted' hcommitted
        obtain ⟨next, hnext⟩ := hrunning
        exact h.apart i j t t' hi hj hne (.inl ⟨_, hnext⟩) (.inr hcommitted') token htoken (heq ▸ htoken')
      · exact hs providerPaymentId row ⟨rows, hpast, hrow⟩

end BridgeOfHope
