import BridgeOfHope.Donations.Answered

namespace BridgeOfHope

open Process Donations

-- Gifts on the test rail that carry one email, before any donor has it.

-- A lookup of a donor by email that found nothing.
def Event.missedDonor : Event → Option String
  | ⟨.query (.donorByEmail email), .ok []⟩ => some email
  | _ => none

-- The ids that the test rail makes of a token.
def Key.MadeOf (token : String) : Key → Prop
  | .providerPayment providerPaymentId => PaymentOf token providerPaymentId
  | .providerEvent providerEventId => providerEventId = "test_evt_" ++ token
  | _ => False

instance (token : String) : (key : Key) → Decidable (key.MadeOf token)
  | .providerPayment providerPaymentId => inferInstanceAs (Decidable
      (providerPaymentId = "test_pay_" ++ token ∨ providerPaymentId = "test_sub_" ++ token ++ "_initial"))
  | .providerEvent providerEventId => inferInstanceAs (Decidable (providerEventId = _))
  | .donor _ | .donorEmail _ | .subscription _ | .providerSubscription _ _ | .donation _ | .webhookEvent _
  | .dataRequest _ => isFalse id

def Key.ofEmail : Key → Bool
  | .donorEmail _ => true
  | _ => false

section Runs

variable [Platform]

-- The request looked for a donor of the email in vain.
def Sought (email : String) (s : Session) : Prop :=
  ∃ event ∈ s.past, ∃ email' ∈ event.missedDonor, Platform.citext email' = Platform.citext email

-- It has not stored one since.
def Seeking (email : String) (s : Session) : Prop := s.committed = [] ∧ Sought email s

instance (email : String) (s : Session) : Decidable (Sought email s) :=
  inferInstanceAs (Decidable (∃ event ∈ s.past, _))

instance (email : String) (s : Session) : Decidable (Seeking email s) := inferInstanceAs (Decidable (_ ∧ _))

def FirstGift (email : String) (request : Request) : Prop :=
  ∃ body ∈ request.given, body.provider = "test" ∧ body.amountMinor < 2 ^ 31 ∧
    Platform.citext body.donor.email = Platform.citext email

instance (email : String) (request : Request) : Decidable (FirstGift email request) :=
  inferInstanceAs (Decidable (∃ body ∈ request.given, _))

-- Only such gifts, every drawn token is new, and nothing fails, save an INSERT
-- whose email a committed row has.
def OnlyFirstGifts (email : String) (pool : ServicePool) : ServiceMove → Prop
  | .arrive request => FirstGift email request
  | .act i .flush (.error _) => ∃ t ∈ pool.threads[i]?, ∃ key ∈ t.loc.unflushed.flatMap Stmt.keys,
      key.ofEmail = true ∧ key ∈ pool.shared.db.keys
  | .act _ .tokenHex token =>
      (∀ t ∈ pool.threads, token ∉ t.loc.drawn) ∧ ∀ key ∈ pool.shared.db.keys, ¬ key.MadeOf token
  | .act _ (.query _) (.error _) | .act _ .commit (.error _) | .act _ (.smtp _) (.error _) | .crash _ => False
  | _ => True

-- No gift looks for its donor while another one is between a lookup in vain and its commit.
def OneSeeker (email : String) (pool : ServicePool) : ServiceMove → Prop
  | .act _ (.query (.donorByEmail _)) _ => ∀ t ∈ pool.threads, ¬ Seeking email t.loc
  | _ => True

instance (email : String) (pool : ServicePool) :
    (move : ServiceMove) → Decidable (OnlyFirstGifts email pool move)
  | .act i op answer => match op, answer with
    | .flush, .error _ => inferInstanceAs (Decidable (∃ t ∈ pool.threads[i]?,
        ∃ key ∈ t.loc.unflushed.flatMap Stmt.keys, key.ofEmail = true ∧ key ∈ pool.shared.db.keys))
    | .tokenHex, token => inferInstanceAs (Decidable ((∀ t ∈ pool.threads, token ∉ t.loc.drawn) ∧
        ∀ key ∈ pool.shared.db.keys, ¬ key.MadeOf token))
    | .query _, .error _ | .commit, .error _ | .smtp _, .error _ => isFalse id
    | .flush, .ok _ | .query _, .ok _ | .commit, .ok _ | .smtp _, .ok _ | .now, _ | .uuid7, _ | .push _, _
    | .stripeCheckout _, _ | .stripeDelete _, _ | .http _, _ | .record _, _ | .log _, _ => isTrue trivial
  | .arrive request => inferInstanceAs (Decidable (FirstGift email request))
  | .crash _ => isFalse id
  | .finish _ => isTrue trivial

instance (email : String) (pool : ServicePool) : (move : ServiceMove) → Decidable (OneSeeker email pool move)
  | .act _ op _ => match op with
    | .query (.donorByEmail _) => inferInstanceAs (Decidable (∀ t ∈ pool.threads, ¬ Seeking email t.loc))
    | .query (.eventByProviderEventId _) | .query (.donorById _) | .query (.donationByProviderPaymentId _)
    | .query (.openSubscriptions _) | .flush | .commit | .now | .uuid7 | .tokenHex | .push _
    | .stripeCheckout _ | .stripeDelete _ | .http _ | .record _ | .smtp _ | .log _ => isTrue trivial
  | .arrive _ | .finish _ | .crash _ => isTrue trivial

variable {email : String} {request : Request} {s s' : Session} {op : Op} {ans : Ans op}

theorem Sought.mono (h : Sought email s) (hpast : s.past <:+ s'.past) : Sought email s' := by
  obtain ⟨event, hevent, hmissed⟩ := h
  exact ⟨event, hpast.subset hevent, hmissed⟩

theorem sought_of_mem {email' : String} (hemail : Platform.citext email' = Platform.citext email)
    (h : ⟨.query (.donorByEmail email'), .ok []⟩ ∈ s.past) : Sought email s :=
  ⟨_, h, email', rfl, hemail⟩

theorem sought_update (h : Sought email (s.update op ans)) : Sought email s ∨ ∃ email',
    (⟨op, ans⟩ : Event) = ⟨.query (.donorByEmail email'), .ok []⟩ ∧
      Platform.citext email' = Platform.citext email := by
  obtain ⟨event, hevent, email', hmissed, hemail⟩ := h
  rcases List.mem_cons.mp hevent with rfl | hold
  · refine .inr ⟨email', ?_, hemail⟩
    unfold Event.missedDonor at hmissed
    split at hmissed
    · next heq =>
        cases hmissed
        exact heq
    · cases hmissed
  · exact .inl ⟨event, hold, email', hmissed, hemail⟩

-- A gift that nothing has disturbed so far.
structure Carefree (email : String) (request : Request) (s : Session) : Prop where
  gift : FirstGift email request
  smooth : s.Smooth
  unmet : Unmet s
  inserts : ∀ row, .insertDonor row ∈ s.pending →
    Platform.citext row.email = Platform.citext email ∧ Seeking email s

theorem Carefree.update (h : Carefree email request s) (hpermits : GiftPermits request s op)
    (hsmooth : (s.update op ans).Smooth) (hunmet : Unmet (s.update op ans)) :
    Carefree email request (s.update op ans) := by
  refine ⟨h.gift, hsmooth, hunmet, ?_⟩
  have hpast : s.past <:+ (s.update op ans).past := List.suffix_cons _ _
  have hold (hpending : ∀ stmt ∈ (s.update op ans).pending, stmt ∈ s.pending)
      (hcommitted : (s.update op ans).committed = s.committed) (row : Donor)
      (hrow : .insertDonor row ∈ (s.update op ans).pending) :
      Platform.citext row.email = Platform.citext email ∧ Seeking email (s.update op ans) := by
    obtain ⟨hemail, hnone, hsought⟩ := h.inserts row (hpending _ hrow)
    exact ⟨hemail, hcommitted.trans hnone, hsought.mono hpast⟩
  cases op with
  | push stmt =>
      intro row hrow
      rw [(Session.writes_push stmt ans).pending] at hrow
      rcases List.mem_append.mp hrow with hrow | hnew
      · obtain ⟨hemail, hnone, hsought⟩ := h.inserts row hrow
        exact ⟨hemail, hnone, hsought.mono hpast⟩
      · rw [← List.mem_singleton.mp hnew] at hpermits
        obtain ⟨body, hgiven, hrail, hbound, hemail⟩ := h.gift
        obtain ⟨⟨hsame, hnone, hmissed⟩, -⟩ := hpermits.2 body ⟨hgiven, hrail, hbound⟩
        refine ⟨by rw [hsame, hemail], hnone, (sought_of_mem hemail hmissed).mono hpast⟩
  | flush => cases ans with
    | ok _ => exact hold (by simp [Session.pending, Session.update, Session.advance]) rfl
    | error _ => exact absurd hsmooth (Session.not_smooth rfl)
  | query query => cases ans with
    | ok _ => exact hold (fun _ h => h) rfl
    | error _ => exact absurd hsmooth (Session.not_smooth rfl)
  | commit => cases ans with
    | ok _ =>
        intro row hrow
        obtain ⟨hunflushed, -⟩ := hpermits.1
        have hnone : (s.update .commit (.ok ())).pending = [] := by
          show [] ++ s.unflushed = []
          rw [hunflushed, List.append_nil]
        rw [hnone] at hrow
        cases hrow
    | error _ => exact absurd hsmooth (Session.not_smooth rfl)
  | stripeCheckout _ => exact hold (fun _ h => h) rfl
  | stripeDelete _ => exact hold (fun _ h => h) rfl
  | http _ => exact hold (fun _ h => h) rfl
  | smtp _ => exact hold (fun _ h => h) rfl
  | _ => exact hold (fun _ h => h) rfl

-- Only the insertion of a donor adds an entry for an email.
theorem Stmt.donor_of_key {stmt : Stmt} {key : Key} (hkey : key ∈ stmt.keys) (hemail : key.ofEmail = true) :
    ∃ row, stmt = .insertDonor row ∧ key = .donorEmail (Platform.citext row.email) := by
  cases stmt with
  | insertDonor row =>
      refine ⟨row, rfl, ?_⟩
      rcases List.mem_cons.mp hkey with rfl | hkey
      · cases hemail
      · exact List.mem_singleton.mp hkey
  | updateDonor | updateSubscription | updateWebhookEvent => cases hkey
  | _ =>
      simp only [Stmt.keys, Subscription.keys, Donation.keys, WebhookEvent.keys, DataRequest.keys,
        List.mem_cons, List.not_mem_nil] at hkey
      grind [Key.ofEmail]

theorem FirstGift.isWebhook (h : FirstGift email request) : request.isWebhook = false := by
  obtain ⟨body, hgiven, -⟩ := h
  unfold Request.given at hgiven
  unfold Request.isWebhook
  split at hgiven
  · next hrequest => rw [hrequest]
  · next hrequest => rw [hrequest]
  · cases hgiven

-- The ids that a gift stores are made of tokens it drew.
theorem Licensed.drew {transaction : Transaction} {key : Key} {token : String}
    (h : Licensed request s transaction)
    (hgift : request.isWebhook = false) (hkey : key ∈ transaction.stmts.flatMap Stmt.keys)
    (hmade : key.MadeOf token) :
    token ∈ s.drawn := by
  obtain ⟨stmt, hstmt, hmem⟩ := List.mem_flatMap.mp hkey
  have hpaid {providerPaymentId token' : String} (hkey : key = .providerPayment providerPaymentId)
      (hid : PaymentOf token' providerPaymentId) (hdrawn : token' ∈ s.drawn) : token ∈ s.drawn := by
    rw [hkey] at hmade
    rw [PaymentOf.inj hmade hid]
    exact hdrawn
  cases stmt with
  | insertDonation d =>
      obtain ⟨x, hx, hd⟩ := Transaction.donation_cases hstmt
      obtain ⟨⟨id, completedAt⟩, -, rfl⟩ := Option.map_eq_some_iff.mp hd
      have hkey : key = .providerPayment x.args.providerPaymentId := by
        rcases List.mem_cons.mp hmem with rfl | hmem
        · cases hmade
        · exact List.mem_singleton.mp hmem
      rcases h.settled hx with ⟨body, step, token', -, -, -, hdrawn, hargs, -⟩ |
        ⟨body, step, subscription, time, token', id', -, -, -, hdrawn, hsubscription, hargs, -⟩
      · exact hpaid hkey (.inl (by rw [hargs]; rfl)) hdrawn
      · exact hpaid hkey (.inr (by rw [hargs, hsubscription]; rfl)) hdrawn
  | insertWebhookEvent event =>
      have hkey : key = .providerEvent event.providerEventId := by
        rcases List.mem_cons.mp hmem with rfl | hmem
        · cases hmade
        · exact List.mem_singleton.mp hmem
      rcases Transaction.event_cases hstmt with ⟨x, hx, rfl⟩ | rfl
      · have hsynthetic : ∃ eventType subject, x.Synthetic eventType subject s := by
          rcases h.settled hx with ⟨_, _, _, -, -, -, -, -, hx⟩ | ⟨_, _, _, _, _, _, -, -, -, -, -, -, hx⟩
          · exact ⟨_, _, hx⟩
          · exact ⟨_, _, hx⟩
        obtain ⟨eventType, subject, ⟨token', hdrawn, occurredAt, id, receivedAt, hrow⟩, -⟩ := hsynthetic
        rw [hkey, hrow] at hmade
        have hsame : token' = token := by simpa [Key.MadeOf, EventArgs.row] using hmade
        rw [← hsame]
        exact hdrawn
      · cases h with
        | receive hrequest =>
            rw [delivery_eq_none hgift] at hrequest
            cases hrequest
  | updateDonor | updateSubscription | updateWebhookEvent => cases hmem
  | _ =>
      simp only [Stmt.keys, Donor.keys, Subscription.keys, DataRequest.keys, List.mem_cons,
        List.not_mem_nil] at hmem
      grind [Key.MadeOf]

-- Nothing is stored yet that a gift which has committed nothing is about to store.
structure Clear (email : String) (db : Db) (s : Session) : Prop where
  donor : Sought email s → .donorEmail (Platform.citext email) ∉ db.keys
  tokens : ∀ token ∈ s.drawn, ∀ key ∈ db.keys, ¬ key.MadeOf token

-- The gifts have looked for their donor one by one so far.
structure Queued (email : String) (pool : ServicePool) : Prop where
  carefree : ∀ t ∈ pool.threads, Carefree email t.req t.loc
  alone : (pool.threads.map Thread.loc).Pairwise fun s s' => Seeking email s → ¬ Seeking email s'
  drawn : (pool.threads.map Thread.loc).Pairwise fun s s' => ∀ token ∈ s.drawn, token ∉ s'.drawn
  clear : ∀ t ∈ pool.threads, t.loc.committed = [] → Clear email pool.shared.db t.loc

variable {pool pool' : ServicePool} {move : ServiceMove} {i : ℕ} {t : ServiceThread}

-- Of two gifts only one can be about to store the donor.
theorem Queued.seeks_alone (h : Queued email pool) {k : ℕ} {u : ServiceThread} (hi : pool.threads[i]? = some t)
    (hk : pool.threads[k]? = some u) (hne : i ≠ k) (hseeking : Seeking email t.loc) :
    ¬ Seeking email u.loc :=
  System.forall_of_pairwise (fun h hs' hs => h hs hs') h.alone hi hk hne hseeking

theorem Queued.draws_alone (h : Queued email pool) {k : ℕ} {u : ServiceThread} (hi : pool.threads[i]? = some t)
    (hk : pool.threads[k]? = some u) (hne : i ≠ k) {token : String} (htoken : token ∈ t.loc.drawn) :
    token ∉ u.loc.drawn :=
  System.forall_of_pairwise (fun h token htoken htoken' => h token htoken' htoken) h.drawn hi hk hne token
    htoken

-- So no INSERT is refused.
theorem Queued.smooth (h : Queued email pool) (hissues : System.Issues pool i t op)
    (hallow : OnlyFirstGifts email pool (.act i op ans)) : (t.loc.update op ans).Smooth := by
  have ht := List.mem_of_getElem? hissues.1
  obtain ⟨hsound, hmail⟩ := (h.carefree t ht).smooth
  have hkept (hbroken : (t.loc.update op ans).broken = false) (hnew : Event.mailFailed ⟨op, ans⟩ = false) :
      (t.loc.update op ans).Smooth := by
    refine ⟨hbroken, fun event hevent => ?_⟩
    rcases List.mem_cons.mp hevent with rfl | hold
    · exact hnew
    · exact hmail event hold
  cases op with
  | flush => cases ans with
    | ok _ => exact hkept hsound rfl
    | error _ =>
        obtain ⟨t', hi, key, hkey, hemail, hstored⟩ := hallow
        cases hissues.1.symm.trans hi
        obtain ⟨stmt, hstmt, hmem⟩ := List.mem_flatMap.mp hkey
        obtain ⟨row, rfl, rfl⟩ := Stmt.donor_of_key hmem hemail
        obtain ⟨hsame, hnone, hsought⟩ := (h.carefree t ht).inserts row (List.mem_append_right _ hstmt)
        rw [hsame] at hstored
        exact absurd hstored ((h.clear t ht hnone).donor hsought)
  | query _ => cases ans with
    | ok _ => exact hkept hsound rfl
    | error _ => exact hallow.elim
  | commit => cases ans with
    | ok _ => exact hkept hsound rfl
    | error _ => exact hallow.elim
  | smtp _ => cases ans with
    | ok _ => exact hkept hsound rfl
    | error _ => exact hallow.elim
  | stripeCheckout _ => exact hkept hsound rfl
  | stripeDelete _ => exact hkept hsound rfl
  | http _ => exact hkept hsound rfl
  | _ => exact hkept hsound rfl

-- And no lookup meets a row with an id that was just made up.
theorem Queued.unmet (h : Queued email pool) (hissues : System.Issues pool i t op)
    (hpermits : GiftPermits t.req t.loc op)
    (henabled : enabled pool.shared (pool.threads.map Thread.loc) t.loc op ans) :
    Unmet (t.loc.update op ans) := by
  have ht := List.mem_of_getElem? hissues.1
  obtain ⟨hgift, hsmooth, ⟨hevents, hdonations⟩, -⟩ := h.carefree t ht
  obtain ⟨body, hgiven, hrail, hbound, -⟩ := hgift
  obtain ⟨-, hasks⟩ := hpermits.2 body ⟨hgiven, hrail, hbound⟩
  refine ⟨fun id row hread => ?_, fun id row hread => ?_⟩
  · obtain ⟨rows, hpast, hrow⟩ := hread
    rcases List.mem_cons.mp hpast with hnew | hold
    · cases hnew
      obtain ⟨hstored, haccepts⟩ := mem_table hpermits.1 henabled hrow
      obtain ⟨hnone, token, htoken, hid⟩ := hasks
      have hsame : row.providerEventId = id := by simpa [Query.accepts] using haccepts
      have hkey : .providerEvent row.providerEventId ∈ pool.shared.db.keys :=
        Db.mem_keys_of_webhookEvent hstored (by simp [WebhookEvent.keys])
      exact (h.clear t ht hnone).tokens token htoken _ hkey (hsame.trans hid)
    · exact hevents id row ⟨rows, hold, hrow⟩
  · obtain ⟨rows, hpast, hrow⟩ := hread
    rcases List.mem_cons.mp hpast with hnew | hold
    · cases hnew
      obtain ⟨hstored, haccepts⟩ := mem_table hpermits.1 henabled hrow
      obtain ⟨hnone, token, htoken, hid⟩ := hpermits.1.2
      have hsame : row.providerPaymentId = id := by simpa [Query.accepts] using haccepts
      have hkey : .providerPayment row.providerPaymentId ∈ pool.shared.db.keys :=
        Db.mem_keys_of_donation hstored (by simp [Donation.keys])
      refine (h.clear t ht hnone).tokens token htoken _ hkey ?_
      rw [hsame]
      exact hid
    · exact hdonations id row ⟨rows, hold, hrow⟩

theorem Queued.alone_step (h : Queued email pool) (hseeker : OneSeeker email pool move)
    (hmove : service.Step pool move pool') :
    (pool'.threads.map Thread.loc).Pairwise fun s s' => Seeking email s → ¬ Seeking email s' := by
  refine hmove.pairwise (fun h hs' hs => h hs hs') ?_ (fun _ _ h => h) ?_ h.alone
  · rintro request - t - - ⟨-, event, hevent, -⟩
    cases hevent
  · rintro i t op ans rfl hissues - t' ht' hpair ⟨hnone, hsought⟩
    have hold : t.loc.committed = [] := List.prefix_nil.mp (hnone ▸ t.loc.committed_prefix op ans)
    rcases sought_update hsought with hsought | ⟨email', hevent, -⟩
    · exact hpair ⟨hold, hsought⟩
    · cases hevent
      exact hseeker t' (List.mem_of_mem_eraseIdx ht')

theorem Queued.drawn_step (h : Queued email pool) (hallow : OnlyFirstGifts email pool move)
    (hmove : service.Step pool move pool') :
    (pool'.threads.map Thread.loc).Pairwise fun s s' => ∀ token ∈ s.drawn, token ∉ s'.drawn := by
  refine hmove.pairwise (fun h token htoken htoken' => h token htoken' htoken) ?_ (fun _ _ h => h) ?_ h.drawn
  · rintro request - t - token - htoken
    cases htoken
  · rintro i t op ans rfl hissues - t' ht' hpair token htoken
    rcases Session.mem_drawn_update htoken with hold | hevent
    · exact hpair token hold
    · cases hevent
      exact hallow.1 t' (List.mem_of_mem_eraseIdx ht')

theorem Queued.clear_step (h : Queued email pool) (hproper : ∀ t ∈ pool.threads, Proper t)
    (hallow : OnlyFirstGifts email pool move) (hmove : service.Step pool move pool') :
    ∀ t ∈ pool'.threads, t.loc.committed = [] → Clear email pool'.shared.db t.loc := by
  refine uncommitted_step hproper hmove ?_ (fun s h => ⟨h.donor, h.tokens⟩) ?_ ?_ h.clear
  · refine ⟨?_, by simp [Session.drawn]⟩
    rintro ⟨event, hevent, -⟩
    cases hevent
  · rintro i t op ans rfl hissues henabled - hclear
    refine ⟨fun hsought => ?_, fun token htoken => ?_⟩
    · rcases sought_update hsought with hold | ⟨email', hevent, hemail⟩
      · exact hclear.donor hold
      · cases hevent
        intro hkey
        obtain ⟨donor, hdonor, hsame⟩ := Db.donor_of_key hkey
        have hselect := henabled.2.nil_eq
        rw [Query.select, Session.view, Db.table_applyAll (permits_of_issues hproper hissues).1] at hselect
        have hfound : donor ∈ List.filter (Query.accepts (.donorByEmail email')) pool.shared.db.donors :=
          List.mem_filter.mpr ⟨hdonor, by simp [Query.accepts, hsame, hemail]⟩
        rw [show List.filter _ pool.shared.db.donors = [] from hselect.symm] at hfound
        cases hfound
    · rcases Session.mem_drawn_update htoken with hold | hevent
      · exact hclear.tokens token hold
      · cases hevent
        exact hallow.2
  · intro i t transaction hcommits k u hk hne hnone hclear
    have ht := hcommits.mem
    have hcarefree := h.carefree t ht
    refine ⟨fun hsought hkey => ?_, fun token htoken key hkey hmade => ?_⟩
    · rcases List.mem_append.mp ((Db.keys_applyAll _ _).subset hkey) with hold | hnew
      · exact hclear.donor hsought hold
      -- whoever stores the donor looked for it in vain as well
      · obtain ⟨stmt, hstmt, hmem⟩ := List.mem_flatMap.mp hnew
        obtain ⟨row, rfl, -⟩ := Stmt.donor_of_key hmem rfl
        have hpending : .insertDonor row ∈ t.loc.pending := by
          rw [hcommits.ready.pending]
          exact hstmt
        have hseeking := (hcarefree.inserts row hpending).2
        exact h.seeks_alone hcommits.issues.1 hk hne hseeking ⟨hnone, hsought⟩
    · rcases List.mem_append.mp ((Db.keys_applyAll _ _).subset hkey) with hold | hnew
      · exact hclear.tokens token htoken key hold hmade
      · have hdrawn := hcommits.ready.licensed.drew hcarefree.gift.isWebhook hnew hmade
        exact h.draws_alone hcommits.issues.1 hk hne hdrawn htoken

theorem proper_of_gives (h : service.Obedient GiftPermits GiftConcludes t) : Proper t :=
  h.mono (fun _ _ _ hop => hop.1) fun _ _ _ hresult => hresult.1

theorem Queued.step (h : Queued email pool)
    (hgives : ∀ t ∈ pool.threads, service.Obedient GiftPermits GiftConcludes t)
    (hallow : OnlyFirstGifts email pool move) (hseeker : OneSeeker email pool move)
    (hmove : service.Step pool move pool') : Queued email pool' := by
  have hproper (t : ServiceThread) (ht : t ∈ pool.threads) : Proper t := proper_of_gives (hgives t ht)
  refine ⟨?_, h.alone_step hseeker hmove, h.drawn_step hallow hmove, h.clear_step hproper hallow hmove⟩
  refine hmove.forall_threads hgives (P := fun _ request s => Carefree email request s) ?_ ?_ ?_
    (fun _ _ _ _ _ _ _ _ _ h => h) h.carefree
  · rintro request rfl
    refine ⟨hallow, ⟨rfl, by simp [service]⟩, ⟨?_, ?_⟩, by simp [service, Session.pending]⟩
    · rintro id row ⟨rows, hpast, -⟩
      cases hpast
    · rintro id row ⟨rows, hpast, -⟩
      cases hpast
  · intro request s h
    exact ⟨h.gift, ⟨h.smooth.database, h.smooth.mail⟩, ⟨h.unmet.events, h.unmet.donations⟩,
      by simp [service, Session.close, Session.pending]⟩
  · rintro i t op ans rfl hissues hpermits henabled hcarefree
    exact hcarefree.update hpermits (h.smooth hissues hallow) (h.unmet hissues hpermits henabled)

-- The request was answered 200, and all that it stored belongs to the donor.
structure Welcomed (db : Db) (donor : Donor) (t : ServiceThread) : Prop where
  answered : ∃ response, t.phase = .ended (.ok response) ∧ response.status = 200
  given : ∃ donation ∈ db.donations, .insertDonation donation ∈ t.loc.committed
  donations : ∀ donation, .insertDonation donation ∈ t.loc.committed →
    donation ∈ db.donations ∧ donation.donorId = donor.id
  opened : ∀ body, t.req.endpoint = .subscription body → ∃ sub, .insertSubscription sub ∈ t.loc.committed
  subscriptions : ∀ sub, .insertSubscription sub ∈ t.loc.committed →
    ∃ row ∈ db.subscriptions, row.id = sub.id ∧ row.donorId = donor.id

-- The transaction of a gift that has stored a donation.
theorem gift_recorded {transaction : Transaction} {d : Donation} (hlicensed : Licensed request s transaction)
    (hcommitted : s.committed = transaction.earlier ++ transaction.stmts)
    (hd : .insertDonation d ∈ s.committed) :
    ∃ (body : GiveBody) (step : DonorStep), request.given = some body ∧ step.From body.donor s ∧
    (∀ stmt ∈ step.stmts, stmt ∈ s.committed) ∧
      (∀ d, .insertDonation d ∈ s.committed → d.donorId = step.row.id) ∧
      (∀ body, request.endpoint = .subscription body → ∃ sub, .insertSubscription sub ∈ s.committed) ∧
      ∀ sub, .insertSubscription sub ∈ s.committed → sub.donorId = step.row.id := by
  have hstmts (d : Donation) (hd : .insertDonation d ∈ s.committed) :
      .insertDonation d ∈ transaction.stmts := by
    rw [hcommitted] at hd
    rcases List.mem_append.mp hd with hd | hd
    · cases transaction <;> simp [Transaction.earlier] at hd
    · exact hd
  obtain ⟨x, hx, -⟩ := Transaction.donation_cases (hstmts d hd)
  have hdonor (d : Donation) (hd : .insertDonation d ∈ s.committed) : d.donorId = x.args.donorId := by
    obtain ⟨x', hx', hd'⟩ := Transaction.donation_cases (hstmts d hd)
    cases hx.symm.trans hx'
    obtain ⟨inserted, -, rfl⟩ := Option.map_eq_some_iff.mp hd'
    rfl
  rcases hlicensed.settled hx with ⟨body, step, token, hrequest, rfl, hfrom, -, hargs, -⟩ |
    ⟨body, step, subscription, time, token, id, hrequest, rfl, hfrom, -, hsubscription, hargs, -⟩
  · have hall : s.committed = step.stmts ++ x.stmts := by
      rw [hcommitted]
      simp [Transaction.earlier, Transaction.stmts]
    refine ⟨body, step, by simp [Request.given, hrequest], hfrom, fun stmt hstmt => ?_,
      fun d hd => ?_, fun body' hbody => ?_,
      fun sub hsub => ?_⟩
    · rw [hall]
      exact List.mem_append_left _ hstmt
    · rw [hdonor d hd, hargs]
      rfl
    · cases hrequest.symm.trans hbody
    · rw [hall] at hsub
      rcases List.mem_append.mp hsub with hsub | hsub
      · cases DonorStep.target_stmts hsub
      · simp [Settlement.mem_stmts] at hsub
  · have hall : s.committed = (Transaction.subscribe step subscription (some ⟨time, some x⟩)).stmts := by
      rw [hcommitted]
      rfl
    refine ⟨body, step, by simp [Request.given, hrequest], hfrom, fun stmt hstmt => ?_, fun d hd => ?_,
      fun body' _ => ⟨subscription, ?_⟩, fun sub hsub => ?_⟩
    · rw [hall]
      exact Transaction.mem_stmts_subscribe.mpr (.inl hstmt)
    · rw [hdonor d hd, hargs]
      rfl
    · rw [hall]
      exact Transaction.mem_stmts_subscribe.mpr (.inr (.inl rfl))
    · rw [hall] at hsub
      rcases Transaction.mem_stmts_subscribe.mp hsub with hsub | hsub | ⟨a, ha, hsub⟩
      · cases DonorStep.target_stmts hsub
      · cases hsub
        rw [hsubscription]
        rfl
      · simp [Activation.mem_stmts, Settlement.mem_stmts] at hsub

-- The donor is the only one with the email.
def Received (email : String) (db : Db) (t : ServiceThread) : Prop :=
  ∃ donor ∈ db.donors, Platform.citext donor.email = Platform.citext email ∧
    (∀ donor' ∈ db.donors, Platform.citext donor'.email = Platform.citext email → donor' = donor) ∧
      Welcomed db donor t

theorem Queued.initial (world : World) : Queued email ⟨world, []⟩ := ⟨by simp, .nil, .nil, by simp⟩

theorem queued_run {world : World} (hkeys : world.db.keys.Nodup)
    (hrun : service.Run (fun pool move => OnlyFirstGifts email pool move ∧
      OneSeeker email pool move) ⟨world, []⟩ pool) :
    (Consistent pool ∧ Queued email pool) ∧
      ∀ t ∈ pool.threads, service.Obedient GiftPermits GiftConcludes t :=
  hrun.invariant_of_obeys (I := fun pool => Consistent pool ∧ Queued email pool) handler_gives
    ⟨⟨by simpa [entries] using hkeys, by simp⟩, .initial world⟩ (by simp)
    fun pool move pool' h hgives hallow hmove =>
      ⟨h.1.step (fun t ht => proper_of_gives (hgives t ht)) hmove, h.2.step hgives hallow.1 hallow.2 hmove⟩

theorem Queued.received (hqueued : Queued email pool) (hconsistent : Consistent pool)
    (hgives : ∀ t ∈ pool.threads, service.Obedient GiftPermits GiftConcludes t) (ht : t ∈ pool.threads)
    {out : Except Exn Response} (hended : t.phase = .ended out) : Received email pool.shared.db t := by
  have hcarefree := hqueued.carefree t ht
  obtain ⟨body, hgiven, hrail, hbound, hemail⟩ := hcarefree.gift
  have hconcludes := hgives t ht
  unfold System.Obedient at hconcludes
  rw [hended] at hconcludes
  obtain ⟨s, hloc, -, hanswer⟩ := hconcludes
  have hsmooth : s.Smooth := by
    have h := hcarefree.smooth
    rw [hloc] at h
    exact ⟨h.database, h.mail⟩
  have hunmet : Unmet s := by
    have h := hcarefree.unmet
    rw [hloc] at h
    exact ⟨h.events, h.donations⟩
  obtain ⟨response, hout, hstatus, d, hd⟩ := hanswer body ⟨hgiven, hrail, hbound⟩ hsmooth hunmet
  have hd' : .insertDonation d ∈ t.loc.committed := by
    rw [hloc]
    exact hd
  have hgrounded := hconsistent.grounded t ht
  obtain ⟨transaction, hcommitted, hlicensed⟩ := hgrounded.recorded.resolve_left (List.ne_nil_of_mem hd')
  obtain ⟨body', step, hgiven', hfrom, hstep, hdonations, hopened, hsubscriptions⟩ :=
    gift_recorded hlicensed hcommitted hd'
  cases hgiven.symm.trans hgiven'
  obtain ⟨donor, hdonor, hid, hsame⟩ := giver_stored hconsistent ht hfrom hstep
  have hfolded : Platform.citext donor.email = Platform.citext email := by
    rw [hsame, ← hemail]
    rcases hfrom with ⟨-, hread⟩ | ⟨-, id, hrow⟩
    · simpa [Query.accepts] using (hgrounded.reads _ _ hread).2
    · rw [hrow]
      rfl
  refine ⟨donor, hdonor, hfolded, fun donor' hdonor' hfolded' => ?_, ⟨response, by rw [hended, hout], hstatus⟩,
    ⟨d, hgrounded.kept _ hd', hd'⟩, fun d hd =>
      ⟨hgrounded.kept _ hd, (hdonations d hd).trans hid.symm⟩, hopened,
    fun sub hsub => ?_⟩
  · refine Db.row_unique (Db.nodup_donors hconsistent.keys_nodup) hdonor' hdonor
      (show Key.donorEmail (Platform.citext email) ∈ donor'.keys by simp [Donor.keys, hfolded']) ?_
    simp [Donor.keys, hfolded]
  · obtain ⟨columns, hrow⟩ := hgrounded.kept _ hsub
    exact ⟨_, hrow, Subscription.setAll_id sub columns, by
      rw [hid, ← hsubscriptions sub hsub]
      exact Subscription.setAll_donorId sub columns⟩

end Runs

end BridgeOfHope
