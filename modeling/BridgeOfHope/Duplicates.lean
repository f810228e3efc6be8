import BridgeOfHope.Deliveries
import BridgeOfHope.Origins.Runs
import BridgeOfHope.Process.Termination

namespace BridgeOfHope

open Process

-- Deliveries of one event that overlap in time, among whatever else is going on.

section Session

variable {s : Session}

theorem missed_update {op : Op} {ans : Ans op} (h : Missed (s.update op ans)) :
    Missed s ∨ ∃ providerEventId,
      (⟨op, ans⟩ : Event) = ⟨.query (.eventByProviderEventId providerEventId), .ok []⟩ := by
  obtain ⟨⟨providerEventId, rows⟩, hlookup, hnone⟩ := h
  rcases List.mem_cons.mp (Session.mem_lookups.mp hlookup) with hnew | hold
  · exact .inr ⟨providerEventId, by rw [← hnew, show rows = [] from hnone]⟩
  · exact .inl ⟨_, Session.mem_lookups.mpr hold, hnone⟩

theorem Missed.mono {s' : Session} (h : Missed s) (hpast : s.past <:+ s'.past) : Missed s' := by
  obtain ⟨lookup, hlookup, hnone⟩ := h
  exact ⟨lookup, (hpast.filterMap _).subset hlookup, hnone⟩

end Session

theorem EventArgs.Inserts.id {args : EventArgs} {providerEventId : String} {row : WebhookEvent}
    (h : args.Inserts row)
    (hid : args.providerEventId = .str providerEventId) : row.providerEventId = providerEventId := by
  obtain ⟨_, _, _, _, hid', -, rfl⟩ := h
  exact Json.str.inj (hid'.symm.trans hid)

section Runs

variable [Platform]

abbrev Delivers (args : EventArgs) (t : ServiceThread) : Prop := t.req.delivery = some args

-- No failure of a delivery of the event but the refusal of an INSERT whose key
-- is committed. The other requests may fail and die as they like; what they
-- deliver are other events, and what they draw is new.
def Faultless (args : EventArgs) (pool : ServicePool) : ServiceMove → Prop
  | .arrive request => ∀ args' ∈ request.delivery, args'.providerEventId = args.providerEventId → args' = args
  | .act i .uuid7 id => NewIds pool (.act i .uuid7 id)
  | .act _ .tokenHex token => args.providerEventId ≠ .str ("test_evt_" ++ token)
  | .act i .flush (.error _) => ∀ t ∈ pool.threads[i]?, Delivers args t →
      ∃ key ∈ t.loc.unflushed.flatMap Stmt.keys, key ∈ pool.shared.db.keys
  | .act i (.query _) (.error _) | .act i .commit (.error _) | .crash i =>
      ∀ t ∈ pool.threads[i]?, ¬ Delivers args t
  | _ => True

-- No delivery looks for the event while another one is between its own lookup
-- and the commit that stores the event.
def Unraced (args : EventArgs) (pool : ServicePool) : ServiceMove → Prop
  | .act i (.query (.eventByProviderEventId _)) _ => ∀ t ∈ pool.threads[i]?, Delivers args t →
      ∀ t' ∈ pool.threads.eraseIdx i, Delivers args t' → ¬ Between t'.loc
  | _ => True

def OneByOne (args : EventArgs) (pool : ServicePool) (move : ServiceMove) : Prop :=
  Faultless args pool move ∧ Unraced args pool move

instance (args : EventArgs) (pool : ServicePool) : (move : ServiceMove) →
    Decidable (Faultless args pool move)
  | .act i op answer => match op, answer with
    | .uuid7, id => inferInstanceAs (Decidable (NewIds pool (.act i .uuid7 id)))
    | .tokenHex, token => inferInstanceAs (Decidable (args.providerEventId ≠ .str ("test_evt_" ++ token)))
    | .flush, .error _ => inferInstanceAs (Decidable (∀ t ∈ pool.threads[i]?, Delivers args t →
        ∃ key ∈ t.loc.unflushed.flatMap Stmt.keys, key ∈ pool.shared.db.keys))
    | .query _, .error _ | .commit, .error _ =>
        inferInstanceAs (Decidable (∀ t ∈ pool.threads[i]?, ¬ Delivers args t))
    | .flush, .ok _ | .query _, .ok _ | .commit, .ok _ | .now, _ | .push _, _ | .stripeCheckout _, _
    | .stripeDelete _, _ | .http _, _ | .record _, _ | .smtp _, _ | .log _, _ => isTrue trivial
  | .arrive request => inferInstanceAs (Decidable (∀ args' ∈ request.delivery,
      args'.providerEventId = args.providerEventId → args' = args))
  | .crash i => inferInstanceAs (Decidable (∀ t ∈ pool.threads[i]?, ¬ Delivers args t))
  | .finish _ => isTrue trivial

instance (args : EventArgs) (pool : ServicePool) : (move : ServiceMove) → Decidable (Unraced args pool move)
  | .act i op _ => match op with
    | .query (.eventByProviderEventId _) => inferInstanceAs (Decidable
        (∀ t ∈ pool.threads[i]?, Delivers args t →
        ∀ t' ∈ pool.threads.eraseIdx i, Delivers args t' → ¬ Between t'.loc))
    | .query (.donorByEmail _) | .query (.donorById _) | .query (.donationByProviderPaymentId _)
    | .query (.openSubscriptions _) | .flush | .commit | .now | .uuid7 | .tokenHex | .push _
    | .stripeCheckout _ | .stripeDelete _ | .http _ | .record _ | .smtp _ | .log _ => isTrue trivial
  | .arrive _ | .finish _ | .crash _ => isTrue trivial

instance (args : EventArgs) (pool : ServicePool) (move : ServiceMove) :
    Decidable (OneByOne args pool move) := inferInstanceAs (Decidable (_ ∧ _))

theorem Faultless.newIds {args : EventArgs} {pool : ServicePool} {move : ServiceMove}
    (h : Faultless args pool move) : NewIds pool move := by
  cases move with
  | act i op answer => cases op with
    | uuid7 => exact h
    | _ => trivial
  | _ => trivial

variable {request : Request} {s s' : Session} {args : EventArgs} {providerEventId : String}

-- A delivery stores its own event, having missed it.
theorem Recorded.delivered (h : Recorded request s) (hdelivery : request.delivery = some args) :
    s.committed = [] ∨ Missed s ∧ ∃ row, args.Inserts row ∧ .insertWebhookEvent row ∈ s.committed ∧
      s.committed.flatMap Stmt.keys = row.keys := by
  rcases h with h | ⟨transaction, hcommitted, hlicensed⟩
  · exact .inl h
  obtain ⟨endpoint, headers, rawBody, hwebhook⟩ := delivery_endpoint hdelivery
  have hinserted {row : WebhookEvent} {marks : List Stmt}
      (h : s.committed = .insertWebhookEvent row :: marks) (hmarks : marks.flatMap Stmt.keys = [])
      (hrow : args.Inserts row) : ∃ row, args.Inserts row ∧ .insertWebhookEvent row ∈ s.committed ∧
        s.committed.flatMap Stmt.keys = row.keys := by
    refine ⟨row, hrow, by simp [h], ?_⟩
    rw [h, List.flatMap_cons, hmarks, List.append_nil]
    rfl
  cases hlicensed with
  | seen => exact .inl hcommitted
  | receive hrequest hid htype hmissing =>
      cases hdelivery.symm.trans hrequest
      exact .inr ⟨missed_of_mem hmissing, hinserted hcommitted rfl ⟨_, _, _, _, hid, htype, rfl⟩⟩
  | process hrequest hid htype hmissing =>
      cases hdelivery.symm.trans hrequest
      exact .inr ⟨missed_of_mem hmissing, hinserted hcommitted rfl ⟨_, _, _, _, hid, htype, rfl⟩⟩
  | oneOff hrequest | subscribe hrequest | changeAmount hrequest | cancel hrequest | subscriber hrequest
  | unsubscriber hrequest | dataRequest hrequest => cases hwebhook.symm.trans hrequest

theorem Keeps.mono {stmt : Stmt} (h : Keeps request s stmt) (hcommitted : s'.committed = s.committed)
    (hpast : s.past <:+ s'.past) : Keeps request s' stmt := by
  cases stmt with
  | insertWebhookEvent row => exact ⟨hcommitted.trans h.1, hpast.subset h.2.1, h.2.2⟩
  | updateWebhookEvent id columns => exact ⟨hcommitted ▸ h.1, h.2⟩
  | _ => exact h

theorem Keeps.between {stmt : Stmt} {key : Key} (h : Keeps request s stmt) (hkey : key ∈ stmt.keys) :
    Between s := by
  cases stmt with
  | insertWebhookEvent row => exact ⟨h.1, missed_of_mem h.2.1⟩
  | updateWebhookEvent id columns => cases hkey
  | _ => exact h.elim

-- A delivery for which everything has gone well.
structure Undisturbed (args : EventArgs) (request : Request) (s : Session) : Prop where
  delivery : request.delivery = some args
  sound : s.broken = false
  looked : s.lookups.length ≤ 1
  single : s.pending.length ≤ 1
  keeps : ∀ stmt ∈ s.pending, Keeps request s stmt

theorem Undisturbed.update {op : Op} {ans : Ans op}
    (h : Undisturbed args request s) (hpermits : Permits request s op)
    (hsound : (s.update op ans).broken = false) : Undisturbed args request (s.update op ans) := by
  have hwebhook : request.isWebhook = true := by
    obtain ⟨endpoint, headers, rawBody, hrequest⟩ := delivery_endpoint h.delivery
    simp [Request.isWebhook, hrequest]
  have hpast : s.past <:+ (s.update op ans).past := List.suffix_cons _ _
  -- what writes and commits nothing, and is no lookup
  have hquiet (hlookup : (s.update op ans).lookups.length ≤ 1)
      (hcommitted : (s.update op ans).committed = s.committed)
      (hpending : (s.update op ans).pending = s.pending) : Undisturbed args request (s.update op ans) := by
    refine ⟨h.delivery, hsound, hlookup, hpending ▸ h.single, fun stmt hstmt => ?_⟩
    exact (h.keeps stmt (hpending ▸ hstmt)).mono hcommitted hpast
  cases op with
  | push stmt =>
      obtain ⟨hpending, hkeeps⟩ := hpermits hwebhook h.sound
      have hnew : (s.update (.push stmt) ans).pending = [stmt] := by
        rw [(Session.writes_push stmt ans).pending, hpending, List.nil_append]
      refine ⟨h.delivery, hsound, h.looked, by simp [hnew], fun stmt' hstmt => ?_⟩
      rw [hnew, List.mem_singleton] at hstmt
      have hcommitted : (s.update (.push stmt) ans).committed = s.committed := rfl
      exact hstmt ▸ hkeeps.mono hcommitted hpast
  | flush => cases ans with
    | ok ans => exact hquiet h.looked rfl (by simpa using (Session.writes_flush (s := s) ans).pending)
    | error _ => cases hsound
  | query query => cases ans with
    | ok rows =>
        refine hquiet ?_ rfl rfl
        cases query with
        | eventByProviderEventId providerEventId =>
            obtain ⟨hlookups, -⟩ := hpermits.2 hwebhook
            show ((providerEventId, rows) :: s.lookups).length ≤ 1
            rw [hlookups]
            rfl
        | _ => exact h.looked
    | error _ => cases hsound
  | commit => cases ans with
    | ok _ =>
        have hnone : (s.update .commit (.ok ())).pending = [] := by
          show [] ++ s.unflushed = []
          rw [hpermits.1, List.append_nil]
        exact ⟨h.delivery, hsound, h.looked, by simp [hnone], by simp [hnone]⟩
    | error _ => cases hsound
  | stripeCheckout _ => exact hquiet h.looked rfl rfl
  | stripeDelete _ => exact hquiet h.looked rfl rfl
  | http _ => exact hquiet h.looked rfl rfl
  | smtp _ => exact hquiet h.looked rfl rfl
  | _ => exact hquiet h.looked rfl rfl


-- The deliveries of the event have gone one by one so far: only one of them
-- missed it. What the others draw and deliver are other events.
structure Orderly (args : EventArgs) (pool : ServicePool) : Prop where
  undisturbed : ∀ t ∈ pool.threads, Delivers args t → Undisturbed args t.req t.loc
  alive : ∀ t ∈ pool.threads, Delivers args t → t.phase ≠ .died
  alone : ∀ (i k : ℕ) t t', pool.threads[i]? = some t → pool.threads[k]? = some t' → Delivers args t →
    Delivers args t' → Missed t.loc → Missed t'.loc → i = k
  others : ∀ t ∈ pool.threads, (∀ token ∈ t.loc.drawn, args.providerEventId ≠ .str ("test_evt_" ++ token)) ∧
    ∀ args' ∈ t.req.delivery, args'.providerEventId = args.providerEventId → args' = args

-- Everything that is known after deliveries that went one by one.
structure Calm (args : EventArgs) (providerEventId : String) (pool : ServicePool) : Prop where
  consistent : Consistent pool
  ids : OwnIds pool
  owned : .providerEvent providerEventId ∈ pool.shared.db.keys → ∃ t ∈ pool.threads, ∃ stmt ∈ t.loc.committed,
    .providerEvent providerEventId ∈ stmt.keys
  tracked : ∀ event ∈ pool.shared.db.webhookEvents, event.providerEventId = providerEventId →
    event.Done ∨ Waiting pool event
  orderly : Orderly args pool

variable {pool pool' : ServicePool} {move : ServiceMove} {i k : ℕ} {t t' : ServiceThread}

-- A delivery that has committed missed its event, which is stored now.
theorem Consistent.delivered (h : Consistent pool) (ht : t ∈ pool.threads)
    (hdelivery : Delivers args t) (hne : t.loc.committed ≠ []) : Missed t.loc ∧
      ∃ row columns, args.Inserts row ∧ t.loc.committed.flatMap Stmt.keys = row.keys ∧
        row.setAll columns ∈ pool.shared.db.webhookEvents := by
  obtain ⟨hmissed, row, hrow, hmem, hkeys⟩ :=
    ((h.grounded t ht).recorded.delivered hdelivery).resolve_left hne
  obtain ⟨columns, hevent⟩ := (h.grounded t ht).kept _ hmem
  exact ⟨hmissed, row, columns, hrow, hkeys, hevent⟩

section Calm

variable (h : Calm args providerEventId pool) (hid : args.providerEventId = .str providerEventId)

include h

theorem Calm.same (hi : pool.threads[i]? = some t) (hk : pool.threads[k]? = some t')
    (hdelivery : Delivers args t)
    (hdelivery' : Delivers args t') (hmissed : Missed t.loc) (hmissed' : Missed t'.loc) : t = t' := by
  obtain rfl := h.orderly.alone i k t t' hi hk hdelivery hdelivery' hmissed hmissed'
  exact Option.some.inj (hi.symm.trans hk)

-- A lookup that finds nothing is made while no other delivery missed the event.
theorem Calm.missed_first (hproper : ∀ t ∈ pool.threads, service.Obedient Conducts Concludes t)
    {asked : String} (hissues : System.Issues pool i t (.query (.eventByProviderEventId asked)))
    (hdelivery : Delivers args t)
    (hanswer : enabled pool.shared (pool.threads.map Thread.loc) t.loc (.query (.eventByProviderEventId asked))
      (.ok []))
    (hunraced : Unraced args pool (.act i (.query (.eventByProviderEventId asked)) (.ok [])))
    (hk : pool.threads[k]? = some t') (hik : i ≠ k) (hdelivery' : Delivers args t') : ¬ Missed t'.loc := by
  intro hmissed
  have ht' := List.mem_of_getElem? hk
  have hpermits := ((hproper t (List.mem_of_getElem? hissues.1)).issued hissues).1
  obtain ⟨endpoint, headers, rawBody, hrequest⟩ := delivery_endpoint hdelivery
  obtain ⟨-, -, args', hargs, hasked⟩ := hpermits.2 (by simp [Request.isWebhook, hrequest])
  cases hdelivery.symm.trans hargs
  have hmem : t' ∈ pool.threads.eraseIdx i := List.mem_eraseIdx_iff_getElem?.mpr ⟨k, Ne.symm hik, hk⟩
  have hne : t'.loc.committed ≠ [] := fun hnone =>
    hunraced t hissues.1 hdelivery t' hmem hdelivery' ⟨hnone, hmissed⟩
  obtain ⟨-, row, columns, hrow, -, hevent⟩ := h.consistent.delivered ht' hdelivery' hne
  have hfound := List.mem_filter (p := (Query.eventByProviderEventId asked).accepts).mpr
    ⟨hevent, by simp [Query.accepts, hrow.id hasked]⟩
  have hselect := hanswer.2.nil_eq
  rw [Query.select, Session.view, Db.table_applyAll hpermits.1] at hselect
  have hnone : pool.shared.db.webhookEvents.filter (Query.eventByProviderEventId asked).accepts = [] :=
    hselect.symm
  rw [hnone] at hfound
  cases hfound

include hid

-- Only deliveries of the event write a row of it.
theorem Calm.deliverer (ht : t ∈ pool.threads) {stmt : Stmt} (hstmt : stmt ∈ t.loc.committed ++ t.loc.pending)
    (hkey : .providerEvent providerEventId ∈ stmt.keys) : Delivers args t := by
  obtain ⟨htokens, hdelivers⟩ := h.orderly.others t ht
  rcases h.ids.made t ht stmt hstmt _ hkey with ⟨token, htoken, hsame⟩ | ⟨args', hargs, hid'⟩
  · exact absurd (hid.trans (congrArg Json.str hsame)) (htokens token htoken)
  · exact hargs.trans (congrArg some (hdelivers args' hargs (hid'.trans hid.symm)))

-- A row of the event that is stored was committed by a delivery that missed it.
theorem Calm.storer (hkey : .providerEvent providerEventId ∈ pool.shared.db.keys) :
    ∃ t ∈ pool.threads, Delivers args t ∧ Missed t.loc ∧ t.loc.committed ≠ [] := by
  obtain ⟨t, ht, stmt, hstmt, hmem⟩ := h.owned hkey
  have hdelivery := h.deliverer hid ht (List.mem_append_left _ hstmt) hmem
  have hne := List.ne_nil_of_mem hstmt
  exact ⟨t, ht, hdelivery, (h.consistent.delivered ht hdelivery hne).1, hne⟩

-- While a delivery has the event to store, nobody holds an entry of its row.
theorem Calm.unheld (hi : pool.threads[i]? = some t) (hdelivery : Delivers args t) {row : WebhookEvent}
    (hrow : .insertWebhookEvent row ∈ t.loc.unflushed) {key : Key} (hkey : key ∈ row.keys) :
    key ∉ entries pool.shared.db (pool.threads.map Thread.loc) := by
  have ht := List.mem_of_getElem? hi
  have hundisturbed := h.orderly.undisturbed t ht hdelivery
  have hpending : .insertWebhookEvent row ∈ t.loc.pending := List.mem_append_right _ hrow
  have hkeeps := hundisturbed.keeps _ hpending
  obtain ⟨hcommitted, hmissed⟩ : Between t.loc := hkeeps.between hkey
  have hflushed : t.loc.flushed = [] := by
    have hsingle : t.loc.flushed.length + t.loc.unflushed.length ≤ 1 := by
      simpa [Session.pending] using hundisturbed.single
    have hpos := List.length_pos_of_mem hrow
    exact List.length_eq_zero_iff.mp (by omega)
  rcases List.mem_cons.mp hkey with rfl | hkey
  · have hdrawn := (h.ids.made t ht _ (List.mem_append_right _ hpending) _ hkey).drawn rfl
    exact h.ids.free hi hdrawn rfl (by simp [hcommitted]) (by simp [Session.keys, hflushed])
  -- whoever stored or holds the event missed it as well, so it is the same session
  obtain ⟨-, -, args', hargs, hinserts⟩ := hkeeps
  cases hdelivery.symm.trans hargs
  rw [List.mem_singleton.mp hkey, hinserts.id hid]
  intro hentry
  rcases List.mem_append.mp hentry with hstored | hheld
  · obtain ⟨t', ht', hdelivery', hmissed', hne⟩ := h.storer hid hstored
    obtain ⟨k, hk⟩ := List.mem_iff_getElem?.mp ht'
    rw [← h.same hi hk hdelivery hdelivery' hmissed hmissed'] at hne
    exact hne hcommitted
  · obtain ⟨s, hs, hmem⟩ := List.mem_flatMap.mp hheld
    obtain ⟨t', ht', rfl⟩ := List.mem_map.mp hs
    obtain ⟨k, hk⟩ := List.mem_iff_getElem?.mp ht'
    obtain ⟨stmt, hstmt, hstmtkey⟩ := List.mem_flatMap.mp hmem
    have hpending' : stmt ∈ t'.loc.pending := List.mem_append_left _ hstmt
    have hdelivery' := h.deliverer hid ht' (List.mem_append_right _ hpending') hstmtkey
    have hbetween' := ((h.orderly.undisturbed t' ht' hdelivery').keeps stmt hpending').between hstmtkey
    rw [← h.same hi hk hdelivery hdelivery' hmissed hbetween'.2, hflushed] at hstmt
    cases hstmt

-- So no INSERT is refused.
theorem Calm.unbroken {op : Op} {ans : Ans op} (hissues : System.Issues pool i t op)
    (hdelivery : Delivers args t) (hfaultless : Faultless args pool (.act i op ans)) :
    (t.loc.update op ans).broken = false := by
  have ht := List.mem_of_getElem? hissues.1
  have hundisturbed := h.orderly.undisturbed t ht hdelivery
  have hsound := hundisturbed.sound
  cases op with
  | flush => cases ans with
    | ok _ => exact hsound
    | error _ =>
        obtain ⟨key, hkey, hstored⟩ := hfaultless t hissues.1 hdelivery
        obtain ⟨stmt, hstmt, hmem⟩ := List.mem_flatMap.mp hkey
        have hkeeps := hundisturbed.keeps stmt (List.mem_append_right _ hstmt)
        cases stmt with
        | insertWebhookEvent row =>
            exact absurd (List.mem_append_left _ hstored) (h.unheld hid hissues.1 hdelivery hstmt hmem)
        | updateWebhookEvent id columns => cases hmem
        | _ => exact hkeeps.elim
  | query _ => cases ans with
    | ok _ => exact hsound
    | error _ => exact absurd hdelivery (hfaultless t hissues.1)
  | commit => cases ans with
    | ok _ => exact hsound
    | error _ => exact absurd hdelivery (hfaultless t hissues.1)
  | _ => exact hsound

theorem Calm.orderly_step (hproper : ∀ t ∈ pool.threads, service.Obedient Conducts Concludes t)
    (hallow : OneByOne args pool move) (hmove : service.Step pool move pool') : Orderly args pool' := by
  obtain ⟨hfaultless, hunraced⟩ := hallow
  refine ⟨?_, ?_, ?_, ?_⟩
  · refine hmove.forall_threads hproper
      (P := fun _ (request : Request) s => request.delivery = some args → Undisturbed args request s)
      ?_ ?_ ?_ (fun _ _ _ _ _ _ _ _ _ hs => hs) h.orderly.undisturbed
    · exact fun request _ hdelivery =>
        ⟨hdelivery, rfl, Nat.zero_le _, Nat.zero_le _, fun _ hstmt => (nomatch hstmt)⟩
    · intro request s hs hdelivery
      have hs := hs hdelivery
      exact ⟨hs.delivery, hs.sound, hs.looked, Nat.zero_le _, fun _ hstmt => (nomatch hstmt)⟩
    · rintro i t op ans rfl hissues hop - hs hdelivery
      exact (hs hdelivery).update hop.1 (h.unbroken hid hissues hdelivery hfaultless)
  · refine hmove.alive (P := fun request => request.delivery = some args) (fun i hcrash => ?_) h.orderly.alive
    subst hcrash
    exact hfaultless
  · -- who missed the event had missed it before, or makes its lookup now
    have hbefore {j : ℕ} {u : ServiceThread} (hj : pool'.threads[j]? = some u) (hdelivery : Delivers args u)
        (hmissed : Missed u.loc) :
        (∃ u₀, pool.threads[j]? = some u₀ ∧ Delivers args u₀ ∧ Missed u₀.loc) ∨ ∃ asked u₀,
          move = .act j (.query (.eventByProviderEventId asked)) (.ok []) ∧ Delivers args u₀ ∧
          System.Issues pool j u₀ (.query (.eventByProviderEventId asked)) ∧
          ∀ (l : ℕ) v, pool.threads[l]? = some v → j ≠ l → Delivers args v → ¬ Missed v.loc := by
      cases hmove.origin hj with
      | fresh hmove hloc =>
          rw [hloc] at hmissed
          obtain ⟨lookup, hlookup, -⟩ := hmissed
          cases hlookup
      | still hthread => exact .inl ⟨u, hthread, hdelivery, hmissed⟩
      | @acted u₀ op ans hmove hissues hanswer hreq hloc =>
          subst hmove
          have hdelivery₀ : Delivers args u₀ := by rw [Delivers, ← hreq]; exact hdelivery
          rw [hloc] at hmissed
          rcases missed_update hmissed with hold | ⟨asked, hevent⟩
          · exact .inl ⟨u₀, hissues.1, hdelivery₀, hold⟩
          · cases hevent
            exact .inr ⟨asked, u₀, rfl, hdelivery₀, hissues, fun l v hl hjl hdelivery' =>
              h.missed_first hproper hissues hdelivery₀ hanswer hunraced hl hjl hdelivery'⟩
      | finished hthread hreq hloc hphase =>
          rw [hloc] at hmissed
          exact .inl ⟨_, hthread, by rw [Delivers, ← hreq]; exact hdelivery, hmissed⟩
    intro i k t t' hi hk hdelivery hdelivery' hmissed hmissed'
    by_contra hik
    rcases hbefore hi hdelivery hmissed with ⟨u, hu, hdu, hmu⟩ | ⟨asked, u, hact, -, -, hfirst⟩
    · rcases hbefore hk hdelivery' hmissed' with ⟨v, hv, hdv, hmv⟩ | ⟨_, v, -, -, -, hfirst⟩
      · exact hik (h.orderly.alone i k u v hu hv hdu hdv hmu hmv)
      · exact hfirst i u hu (Ne.symm hik) hdu hmu
    · rcases hbefore hk hdelivery' hmissed' with ⟨v, hv, hdv, hmv⟩ | ⟨_, v, hact', -⟩
      · exact hfirst k v hv hik hdv hmv
      · rw [hact] at hact'
        injection hact' with hsame
        exact hik hsame
  · refine hmove.forall_threads hproper (P := fun _ request s =>
      (∀ token ∈ s.drawn, args.providerEventId ≠ .str ("test_evt_" ++ token)) ∧
        ∀ args' ∈ request.delivery, args'.providerEventId = args.providerEventId → args' = args)
      ?_ (fun _ _ hs => hs) ?_ (fun _ _ _ _ _ _ _ _ _ hs => hs) h.orderly.others
    · rintro request rfl
      exact ⟨fun _ htoken => (nomatch htoken), hfaultless⟩
    · rintro i t op ans rfl - - - ⟨htokens, hdelivers⟩
      refine ⟨fun token htoken => ?_, hdelivers⟩
      rcases Session.mem_drawn_update htoken with hold | hdrawn
      · exact htokens token hold
      · cases hdrawn
        exact hfaultless

theorem Calm.step (hconducts : ∀ t ∈ pool.threads, service.Obedient Conducts Concludes t)
    (hallow : OneByOne args pool move) (hmove : service.Step pool move pool') :
    Calm args providerEventId pool' := by
  have hproper (t : ServiceThread) (ht : t ∈ pool.threads) : Proper t := proper_of_conducts (hconducts t ht)
  refine ⟨h.consistent.step hproper hmove, h.ids.step hconducts hallow.1.newIds hmove,
    owned_step h.owned hproper hmove, fun event hevent hsame => ?_, h.orderly_step hid hconducts hallow hmove⟩
  exact tracked_step (fun row hrow hrowsame => h.tracked row hrow (hrowsame.trans hsame)) h.consistent hproper
    hmove hevent

end Calm

-- From any tables with intact indexes that hold no row of the event.
theorem calm_run {world : World} (hkeys : world.db.keys.Nodup)
    (hnone : ∀ event ∈ world.db.webhookEvents, event.providerEventId ≠ providerEventId)
    (hid : args.providerEventId = .str providerEventId) (hrun : service.Run (OneByOne args) ⟨world, []⟩ pool) :
    Calm args providerEventId pool ∧ ∀ t ∈ pool.threads, service.Obedient Conducts Concludes t := by
  refine hrun.invariant_of_obeys (I := Calm args providerEventId) handler_conducts ?_ (by simp)
    fun _ _ _ h hconducts hallow hmove => h.step hid hconducts hallow hmove
  refine ⟨⟨by simpa [entries] using hkeys, by simp⟩, .initial world, fun hkey => ?_,
    fun event hevent hsame => absurd hsame (hnone event hevent), by simp, by simp, by simp, by simp⟩
  obtain ⟨event, hevent, hsame⟩ := Db.event_of_key hkey
  exact absurd hsame (hnone event hevent)

section Ends

variable (h : Calm args providerEventId pool)
  (hconducts : ∀ t ∈ pool.threads, service.Obedient Conducts Concludes t)
  {eventType : String} (hid : args.providerEventId = .str providerEventId)

include h hid

-- An INSERT or an UPDATE of a delivery goes through.
theorem Calm.flushable (hfits : ∀ row, args.Inserts row → row.fits = true) (hi : pool.threads[i]? = some t)
    (hdelivery : Delivers args t) : flushable pool.shared.db (pool.threads.map Thread.loc) t.loc := by
  have ht := List.mem_of_getElem? hi
  have hundisturbed := h.orderly.undisturbed t ht hdelivery
  have hsingle : t.loc.flushed.length + t.loc.unflushed.length ≤ 1 := by
    simpa [Session.pending] using hundisturbed.single
  cases hunflushed : t.loc.unflushed with
  | nil => simp [BridgeOfHope.flushable, hunflushed, Db.admitsAll]
  | cons stmt rest =>
      rw [hunflushed, List.length_cons] at hsingle
      obtain rfl : rest = [] := List.length_eq_zero_iff.mp (by omega)
      have hflushed : t.loc.flushed = [] := List.length_eq_zero_iff.mp (by omega)
      have hmem : stmt ∈ t.loc.unflushed := by simp [hunflushed]
      have hkeeps := hundisturbed.keeps stmt (List.mem_append_right _ hmem)
      have hview : t.loc.view pool.shared.db = pool.shared.db := by simp [Session.view, hflushed]
      simp only [BridgeOfHope.flushable, hunflushed, hview, List.flatMap_singleton, Db.admitsAll,
        Bool.and_true]
      cases stmt with
      | insertWebhookEvent row =>
          refine ⟨by simp [Stmt.keys, WebhookEvent.keys],
            fun key hkey => h.unheld hid hi hdelivery hmem hkey, ?_⟩
          obtain ⟨-, -, args', hargs, hrow⟩ := hkeeps
          cases hdelivery.symm.trans hargs
          exact hfits row hrow
      | updateWebhookEvent id columns =>
          refine ⟨List.nodup_nil, fun _ hkey =>
            absurd hkey List.not_mem_nil, List.all_eq_true.mpr fun event hevent => ?_⟩
          obtain ⟨⟨inserted, hinserted, rfl⟩, hattempts⟩ := hkeeps
          obtain ⟨hevent, hsame⟩ := List.mem_filter.mp hevent
          -- the row that it marks is the one that it inserted
          obtain ⟨-, row, columns', hrow, hkeys, hstored⟩ :=
            h.consistent.delivered ht hdelivery (List.ne_nil_of_mem hinserted)
          have hkey : .webhookEvent inserted.id ∈ row.keys :=
            hkeys ▸ List.mem_flatMap.mpr ⟨_, hinserted, List.mem_cons_self⟩
          have hsame : event.id = inserted.id := of_decide_eq_true hsame
          obtain rfl : event = row.setAll columns' := by
            refine Db.row_unique (Db.nodup_webhookEvents h.consistent.keys_nodup) hevent hstored
              (show .webhookEvent inserted.id ∈ event.keys by simp [WebhookEvent.keys, hsame]) ?_
            simpa [WebhookEvent.keys] using hkey
          refine WebhookEvent.fits_setAll (WebhookEvent.fits_of_attempts (hfits row hrow) ?_) hattempts
          rcases h.tracked _ hevent (by rw [WebhookEvent.setAll_providerEventId, hrow.id hid]) with
            hdone | hwaiting
          · exact hdone.attempts.le
          · exact hwaiting.1.attempts.le.trans (Nat.zero_le 1)
      | _ => exact hkeeps.elim

include hconducts

-- A delivery that has ended is answered 200, and it is not between its two statements.
theorem Calm.answered (htype : args.eventType = .str eventType) (ht : t ∈ pool.threads)
    (hdelivery : Delivers args t)
    (hended : ¬ t.IsRunning) : t.answer = some ⟨200, .empty⟩ ∧ ¬ Between t.loc := by
  have hundisturbed := h.orderly.undisturbed t ht hdelivery
  have hproper := proper_of_conducts (hconducts t ht)
  have hanswer : ∃ response, t.answer = some response := by
    unfold Proper System.Obedient at hproper
    cases hphase : t.phase with
    | running rest => exact absurd ⟨rest, hphase⟩ hended
    | died => exact absurd hphase (h.orderly.alive t ht hdelivery)
    | ended out =>
        cases out with
        | ok response => exact ⟨response, by simp [Thread.answer, hphase]⟩
        | error error =>
            rw [hphase] at hproper
            obtain ⟨s, hloc, -, hbroken⟩ := hproper
            have hsound := hundisturbed.sound
            rw [hloc] at hsound
            cases (hbroken _ _ _ hundisturbed.delivery hid htype).symm.trans hsound
  obtain ⟨response, hanswer⟩ := hanswer
  obtain ⟨rfl, _, asked, -, -, hcase⟩ := answered_delivery hproper hundisturbed.delivery hanswer
  refine ⟨hanswer, fun ⟨hcommitted, ⟨missed, rows⟩, hlookup, hnone⟩ => ?_⟩
  rcases hcase with ⟨-, found, rows', hpast, hfound⟩ | ⟨_, _, _, _, hne⟩
  · have hread := Session.mem_lookups.mpr hpast
    obtain ⟨lookup, hlookups⟩ :=
      List.length_eq_one_iff.mp (hundisturbed.looked.antisymm (List.length_pos_of_mem hlookup))
    rw [hlookups, List.mem_singleton] at hlookup hread
    cases hlookup.trans hread.symm
    rw [show rows = [] from hnone] at hfound
    cases hfound
  · rw [hcommitted] at hne
    cases hne

end Ends

-- A stock of one id for the deliveries: only a delivery that missed the event draws it.
structure Spare (args : EventArgs) (id : Uuid) (pool : ServicePool) : Prop where
  drawn : ∀ t ∈ pool.threads, id ∈ t.loc.ids → Delivers args t ∧ Missed t.loc
  stored : ∀ key, key.id = some id → key ∈ pool.shared.db.keys → ∃ t ∈ pool.threads, ∃ stmt ∈ t.loc.committed,
    key ∈ stmt.keys

-- The steps of the deliveries alone.
def ByDeliveries (args : EventArgs) (pool : ServicePool) : ServiceMove → Prop
  | .arrive _ => False
  | .act i _ _ => ∀ t ∈ pool.threads[i]?, Delivers args t
  | .finish _ | .crash _ => True

theorem Spare.step {id : Uuid} (h : Spare args id pool)
    (hconducts : ∀ t ∈ pool.threads, service.Obedient Conducts Concludes t)
    (hwork : ByDeliveries args pool move)
    (hmove : service.Step pool move pool') : Spare args id pool' := by
  refine ⟨fun t' ht' hid => ?_, fun key hname => owned_step (h.stored key hname)
    (fun t ht => proper_of_conducts (hconducts t ht)) hmove⟩
  obtain ⟨k, hk⟩ := List.mem_iff_getElem?.mp ht'
  cases hmove.origin hk with
  | fresh hmove hloc =>
      rw [hloc] at hid
      cases hid
  | still hthread => exact h.drawn t' (List.mem_of_getElem? hthread) hid
  | @acted t op ans hmove hissues hanswer hreq hloc =>
      subst hmove
      have ht := List.mem_of_getElem? hissues.1
      have hdelivery : Delivers args t := hwork t hissues.1
      have hpast : t.loc.past <:+ t'.loc.past := hloc ▸ List.suffix_cons _ _
      rw [Delivers, hreq]
      rw [hloc] at hid
      refine ⟨hdelivery, Missed.mono ?_ hpast⟩
      rcases Session.mem_ids_update hid with hold | hdrawn
      · exact (h.drawn t ht hold).2
      · cases hdrawn
        obtain ⟨endpoint, headers, rawBody, hrequest⟩ := delivery_endpoint hdelivery
        exact (((hconducts t ht).issued hissues).2 (by simp [Request.isWebhook, hrequest])).2
  | finished hthread hreq hloc hphase =>
      rw [hloc] at hid
      rw [Delivers, hreq, hloc]
      exact h.drawn _ (List.mem_of_getElem? hthread) hid

section Progress

variable {id : Uuid} {eventType : String} (h : Calm args providerEventId pool)
  (hconducts : ∀ t ∈ pool.threads, service.Obedient Conducts Concludes t) (hspare : Spare args id pool)

include h hspare

-- It is new to the delivery that draws it.
theorem Calm.newIds (hi : pool.threads[i]? = some t) (hdelivery : Delivers args t) (hbetween : Between t.loc) :
    NewIds pool (.act i .uuid7 id) := by
  obtain ⟨hcommitted, hmissed⟩ := hbetween
  refine ⟨fun key hkey hname => ?_, fun t' ht' hdrawn => ?_⟩
  · obtain ⟨t', ht', stmt, hstmt, hmem⟩ := hspare.stored key hname hkey
    obtain ⟨k, hk⟩ := List.mem_iff_getElem?.mp ht'
    have hdrawn := (h.ids.made t' ht' stmt (List.mem_append_left _ hstmt) key hmem).drawn hname
    obtain ⟨hdelivery', hmissed'⟩ := hspare.drawn t' ht' hdrawn
    rw [← h.same hi hk hdelivery hdelivery' hmissed hmissed', hcommitted] at hstmt
    cases hstmt
  · obtain ⟨k, hne, hk⟩ := List.mem_eraseIdx_iff_getElem?.mp ht'
    obtain ⟨hdelivery', hmissed'⟩ := hspare.drawn t' (List.mem_of_mem_eraseIdx ht') hdrawn
    exact hne (h.orderly.alone i k t t' hi hk hdelivery hdelivery' hmissed hmissed').symm

include hconducts

-- What a delivery asks for next is granted, unless it is a lookup and has to wait.
theorem Calm.granted (hid : args.providerEventId = .str providerEventId)
    (hfits : ∀ row, args.Inserts row → row.fits = true) {op : Op}
    (hissues : System.Issues pool i t op) (hdelivery : Delivers args t)
    (hunraced : ∀ ans, Unraced args pool (.act i op ans)) :
    ∃ ans, enabled pool.shared (pool.threads.map Thread.loc) t.loc op ans ∧
      OneByOne args pool (.act i op ans) := by
  have ht := List.mem_of_getElem? hissues.1
  have hsound := (h.orderly.undisturbed t ht hdelivery).sound
  cases op with
  | now => exact ⟨0, trivial, trivial, trivial⟩
  | uuid7 =>
      obtain ⟨endpoint, headers, rawBody, hrequest⟩ := delivery_endpoint hdelivery
      have hbetween := ((hconducts t ht).issued hissues).2 (by simp [Request.isWebhook, hrequest])
      exact ⟨id, trivial, h.newIds hspare hissues.1 hdelivery hbetween, trivial⟩
  | tokenHex =>
      -- one of two tokens is not in the id of the event
      have hzeros : isTokenHex "00000000000000000000" = true := by decide
      have hones : isTokenHex "11111111111111111111" = true := by decide
      by_cases hclash : args.providerEventId = .str ("test_evt_" ++ "00000000000000000000")
      · refine ⟨_, hones, ?_, trivial⟩
        show args.providerEventId ≠ .str ("test_evt_" ++ "11111111111111111111")
        rw [hclash]
        decide
      · exact ⟨_, hzeros, hclash, trivial⟩
  | push stmt => exact ⟨(), trivial, trivial, trivial⟩
  | flush => exact ⟨.ok (), ⟨hsound, h.flushable hid hfits hissues.1 hdelivery⟩, trivial, trivial⟩
  | query query =>
      exact ⟨.ok (query.select (t.loc.view pool.shared.db)), ⟨hsound, .refl _⟩, trivial, hunraced _⟩
  | commit => exact ⟨.ok (), hsound, trivial, trivial⟩
  | stripeCheckout _ => exact ⟨.error ⟨.other, ""⟩, trivial, trivial, trivial⟩
  | stripeDelete _ => exact ⟨.ok (), trivial, trivial, trivial⟩
  | http _ => exact ⟨.error ⟨.other, ""⟩, trivial, trivial, trivial⟩
  | record _ => exact ⟨(), trivial, trivial, trivial⟩
  | smtp _ => exact ⟨.ok (), trivial, trivial, trivial⟩
  | log _ => exact ⟨(), trivial, trivial, trivial⟩

theorem Calm.moves (hid : args.providerEventId = .str providerEventId)
    (hfits : ∀ row, args.Inserts row → row.fits = true) (hi : pool.threads[i]? = some t)
    (hdelivery : Delivers args t) (hrunning : t.IsRunning)
    (hunraced : ∀ op, System.Issues pool i t op → ∀ ans, Unraced args pool (.act i op ans)) :
    ∃ move pool', (∀ request, move ≠ .arrive request) ∧
      (OneByOne args pool move ∧ ByDeliveries args pool move) ∧
      service.Step pool move pool' := by
  obtain ⟨shared, threads⟩ := pool
  obtain ⟨request, s, phase⟩ := t
  obtain ⟨rest, rfl : phase = _⟩ := hrunning
  cases rest with
  | ret response => exact ⟨.finish i, _, by simp, ⟨⟨trivial, trivial⟩, trivial⟩, .finish hi⟩
  | raise error => exact ⟨.finish i, _, by simp, ⟨⟨trivial, trivial⟩, trivial⟩, .fail hi⟩
  | call op next =>
      have hissues : System.Issues ⟨shared, threads⟩ i ⟨request, s, .running (.call op next)⟩ op :=
        ⟨hi, next, rfl⟩
      obtain ⟨ans, henabled, hallow⟩ := h.granted hconducts hspare hid hfits hissues hdelivery
        (hunraced op hissues)
      refine ⟨.act i op ans, _, by simp, ⟨hallow, fun t ht => ?_⟩, .act hi henabled⟩
      cases hi.symm.trans ht
      exact hdelivery

-- While a delivery is at work, some delivery can go on: the one that missed
-- the event, or any of them when there is none.
theorem Calm.progress (hid : args.providerEventId = .str providerEventId)
    (htype : args.eventType = .str eventType)
    (hfits : ∀ row, args.Inserts row → row.fits = true)
    (hrunning : ∃ t ∈ pool.threads, Delivers args t ∧ t.IsRunning) :
    ∃ move pool', (∀ request, move ≠ .arrive request) ∧
      (OneByOne args pool move ∧ ByDeliveries args pool move) ∧
      service.Step pool move pool' := by
  by_cases hbetween : ∃ t ∈ pool.threads, Delivers args t ∧ Between t.loc
  · obtain ⟨t, ht, hdelivery, hbetween⟩ := hbetween
    obtain ⟨i, hi⟩ := List.mem_iff_getElem?.mp ht
    have hworks : t.IsRunning := by
      by_contra hended
      exact (h.answered hconducts hid htype ht hdelivery hended).2 hbetween
    refine h.moves hconducts hspare hid hfits hi hdelivery hworks fun op hissues ans => ?_
    obtain ⟨endpoint, headers, rawBody, hrequest⟩ := delivery_endpoint hdelivery
    obtain ⟨lookup, hlookup, -⟩ := hbetween.2
    cases op with
    | query query => cases query with
      | eventByProviderEventId asked =>
          -- it has made its lookup
          have hpermits := ((hconducts t ht).issued hissues).1
          obtain ⟨hnone, -⟩ := hpermits.2 (by simp [Request.isWebhook, hrequest])
          rw [hnone] at hlookup
          cases hlookup
      | _ => trivial
    | _ => trivial
  · obtain ⟨t, ht, hdelivery, hworks⟩ := hrunning
    obtain ⟨i, hi⟩ := List.mem_iff_getElem?.mp ht
    refine h.moves hconducts hspare hid hfits hi hdelivery hworks fun op _ ans => ?_
    cases op with
    | query query => cases query with
      | eventByProviderEventId asked =>
          intro _ _ _ t' ht' hdelivery' hother
          exact hbetween ⟨t', List.mem_of_mem_eraseIdx ht', hdelivery', hother⟩
      | _ => trivial
    | _ => trivial

end Progress

-- The rows of the event.
def Db.eventsOf (db : Db) (providerEventId : String) : List WebhookEvent :=
  db.webhookEvents.filter fun event => event.providerEventId = providerEventId

-- An answered delivery has its event in the table, once.
theorem Calm.stored_once (h : Calm args providerEventId pool)
    (hconducts : ∀ t ∈ pool.threads, service.Obedient Conducts Concludes t)
    (hid : args.providerEventId = .str providerEventId) {eventType : String}
    (htype : args.eventType = .str eventType) (ht : t ∈ pool.threads) (hdelivery : Delivers args t)
    (hended : ¬ t.IsRunning) : ∃ event, pool.shared.db.eventsOf providerEventId = [event] := by
  have hunique := Db.nodup_webhookEvents h.consistent.keys_nodup
  have hmem {event : WebhookEvent} : event ∈ pool.shared.db.eventsOf providerEventId ↔
      event ∈ pool.shared.db.webhookEvents ∧ event.providerEventId = providerEventId := by
    simp [Db.eventsOf]
  obtain ⟨event, hevent⟩ : ∃ event, event ∈ pool.shared.db.eventsOf providerEventId := by
    obtain ⟨hanswer, -⟩ := h.answered hconducts hid htype ht hdelivery hended
    have hgrounded := h.consistent.grounded t ht
    obtain ⟨-, _, asked, hargs, hasked, hcase⟩ :=
      answered_delivery (proper_of_conducts (hconducts t ht)) hdelivery hanswer
    cases hdelivery.symm.trans hargs
    cases hasked.symm.trans hid
    rcases hcase with ⟨-, found, hread⟩ | ⟨_, _, _, _, hcommitted⟩
    · obtain ⟨⟨columns, hevent⟩, haccepts⟩ := hgrounded.reads _ _ hread
      refine ⟨_, hmem.mpr ⟨hevent, (WebhookEvent.setAll_providerEventId found columns).trans ?_⟩⟩
      simpa [Query.accepts] using haccepts
    · obtain ⟨columns, hevent⟩ := hgrounded.kept (.insertWebhookEvent _)
        (by rw [hcommitted]; exact List.mem_cons_self)
      exact ⟨_, hmem.mpr ⟨hevent, WebhookEvent.setAll_providerEventId _ columns⟩⟩
  refine ⟨event, ?_⟩
  have hkey {row : WebhookEvent} (hrow : row ∈ pool.shared.db.eventsOf providerEventId) :
      .providerEvent providerEventId ∈ row.keys := by simp [WebhookEvent.keys, (hmem.mp hrow).2]
  have hall (row : WebhookEvent) (hrow : row ∈ pool.shared.db.eventsOf providerEventId) : row = event :=
    Db.row_unique hunique (hmem.mp hrow).1 (hmem.mp hevent).1 (hkey hrow) (hkey hevent)
  have hnodup : (pool.shared.db.eventsOf providerEventId).Nodup :=
    (Db.rows_nodup hunique fun row => by simp [WebhookEvent.keys]).filter _
  have hreplicate := List.eq_replicate_of_mem hall
  rw [hreplicate] at hnodup hevent ⊢
  have hle := List.nodup_replicate.mp hnodup
  have hpos : (pool.shared.db.eventsOf providerEventId).length ≠ 0 := fun hzero => by simp [hzero] at hevent
  rw [show (pool.shared.db.eventsOf providerEventId).length = 1 by omega]
  rfl

-- What the deliveries of one event come to. The one at place `i` has run the
-- processing, and the others have written nothing.
structure DeliveredOnce (args : EventArgs) (providerEventId : String) (pool : ServicePool) : Prop where
  answers : ∀ t ∈ pool.threads, Delivers args t → t.IsRunning ∨ response t = some ⟨200, .empty⟩
  stored : (∃ t ∈ pool.threads, Delivers args t ∧ ¬ t.IsRunning) → ∃ event,
    pool.shared.db.eventsOf providerEventId = [event]
  processed : (∃ t ∈ pool.threads, Delivers args t) → (∀ t ∈ pool.threads, Delivers args t → ¬ t.IsRunning) →
    (∀ event ∈ pool.shared.db.eventsOf providerEventId, event.Done) ∧
      ∃ i t event time, pool.threads[i]? = some t ∧ Delivers args t ∧
        t.loc.committed = [.insertWebhookEvent event] ++ (Transaction.process event time).stmts ∧
          ∀ t' ∈ pool.threads.eraseIdx i, Delivers args t' → t'.loc.committed = []

theorem Calm.deliveredOnce (h : Calm args providerEventId pool)
    (hconducts : ∀ t ∈ pool.threads, service.Obedient Conducts Concludes t)
    (hid : args.providerEventId = .str providerEventId) {eventType : String}
    (htype : args.eventType = .str eventType) : DeliveredOnce args providerEventId pool := by
  have hmem {event : WebhookEvent} : event ∈ pool.shared.db.eventsOf providerEventId ↔
      event ∈ pool.shared.db.webhookEvents ∧ event.providerEventId = providerEventId := by
    simp [Db.eventsOf]
  refine ⟨fun t ht hdelivery => ?_, fun ⟨t, ht, hdelivery, hended⟩ =>
    h.stored_once hconducts hid htype ht hdelivery hended, fun ⟨t₀, ht₀, hdelivery₀⟩ hall =>
      ⟨fun event hevent => ?_, ?_⟩⟩
  · by_cases hrunning : t.IsRunning
    · exact .inl hrunning
    · obtain ⟨hanswer, -⟩ := h.answered hconducts hid htype ht hdelivery hrunning
      unfold Thread.answer at hanswer
      split at hanswer
      · next out hphase =>
          cases hanswer
          exact .inr (by simp [response, hphase, respond])
      · cases hanswer
  · -- the delivery that an unprocessed event waits for would still be running
    obtain ⟨hevent, hsame⟩ := hmem.mp hevent
    refine (h.tracked event hevent hsame).resolve_right fun ⟨_, t, ht, hcommitted⟩ => ?_
    have hstmt : .insertWebhookEvent event ∈ t.loc.committed ++ t.loc.pending := by simp [hcommitted]
    have hdelivery := h.deliverer hid ht hstmt (by simp [Stmt.keys, WebhookEvent.keys, hsame])
    have hnone := waiting_unanswered (proper_of_conducts (hconducts t ht))
      (h.consistent.grounded t ht).recorded hcommitted
    cases hnone.symm.trans (h.answered hconducts hid htype ht hdelivery (hall t ht hdelivery)).1
  · obtain ⟨event, hevents⟩ := h.stored_once hconducts hid htype ht₀ hdelivery₀ (hall t₀ ht₀ hdelivery₀)
    obtain ⟨hevent, hsame⟩ := hmem.mp (by rw [hevents]; exact List.mem_singleton_self event)
    obtain ⟨t, ht, hdelivery, hmissed, hne⟩ := h.storer hid
      (Db.mem_keys_of_webhookEvent hevent (by simp [WebhookEvent.keys, hsame]))
    obtain ⟨-, _, _, -, -, hcase⟩ := answered_delivery (proper_of_conducts (hconducts t ht)) hdelivery
      (h.answered hconducts hid htype ht hdelivery (hall t ht hdelivery)).1
    rcases hcase with ⟨hnone, -⟩ | ⟨eventType', id, receivedAt, time, hcommitted⟩
    · exact absurd hnone hne
    obtain ⟨i, hi⟩ := List.mem_iff_getElem?.mp ht
    refine ⟨i, t, _, time, hi, hdelivery, hcommitted, fun t' ht' hdelivery' => ?_⟩
    by_contra hother
    obtain ⟨k, hne', hk⟩ := List.mem_eraseIdx_iff_getElem?.mp ht'
    have hmissed' := (h.consistent.delivered (List.mem_of_getElem? hk) hdelivery' hother).1
    exact hne' (h.orderly.alone i k t t' hi hk hdelivery hdelivery' hmissed hmissed').symm

-- Deliveries that go one by one, whatever else is going on: each is answered
-- 200, and one of them does the work. Wherever they stand, they can all be
-- brought to their answer, as long as there is an id left.
theorem duplicate_deliveries {world : World} (hkeys : world.db.keys.Nodup)
    (hnone : ∀ event ∈ world.db.webhookEvents, event.providerEventId ≠ providerEventId)
    (hrun : service.Run (OneByOne args) ⟨world, []⟩ pool)
    {eventType : String} (hid : args.providerEventId = .str providerEventId)
    (htype : args.eventType = .str eventType) (hfits : ∀ row, args.Inserts row → row.fits = true) :
    DeliveredOnce args providerEventId pool ∧
      ∀ id, (∀ key ∈ pool.shared.db.keys, key.id ≠ some id) → (∀ t ∈ pool.threads, id ∉ t.loc.ids) →
        ∃ pool', service.Run (OneByOne args) pool pool' ∧
          (∀ t ∈ pool'.threads, Delivers args t → ¬ t.IsRunning) ∧
            pool'.threads.map Thread.req = pool.threads.map Thread.req := by
  obtain ⟨hcalm, hconducts⟩ := calm_run hkeys hnone hid hrun
  refine ⟨hcalm.deliveredOnce hconducts hid htype, fun id hstored hdrawn => ?_⟩
  have hspare : Spare args id pool :=
    ⟨fun t ht hmem => absurd hmem (hdrawn t ht), fun key hname hkey => absurd hname (hstored key hkey)⟩
  have hprogress (pool₁ : ServicePool)
      (hrun₁ : service.Run (fun pool move => OneByOne args pool move ∧ ByDeliveries args pool move) pool pool₁)
      (hrunning : ∃ t ∈ pool₁.threads, Delivers args t ∧ t.IsRunning) :
      ∃ move pool₂, (∀ request, move ≠ .arrive request) ∧
        (OneByOne args pool₁ move ∧ ByDeliveries args pool₁ move) ∧
        service.Step pool₁ move pool₂ := by
    obtain ⟨hlater, hspare₁⟩ : service.Run (OneByOne args) ⟨world, []⟩ pool₁ ∧ Spare args id pool₁ := by
      refine hrun₁.invariant
        (I := fun pool => service.Run (OneByOne args) ⟨world, []⟩ pool ∧ Spare args id pool)
        ⟨hrun, hspare⟩ fun pool₁ move pool₂ ⟨hrun₁, hspare₁⟩ hallow hmove => ?_
      exact ⟨hrun₁.tail ⟨move, hallow.1, hmove⟩,
        hspare₁.step (calm_run hkeys hnone hid hrun₁).2 hallow.2 hmove⟩
    obtain ⟨hcalm₁, hconducts₁⟩ := calm_run hkeys hnone hid hlater
    exact hcalm₁.progress hconducts₁ hspare₁ hid htype hfits hrunning
  obtain ⟨pool', hrun', hended⟩ :=
    System.Run.completes (P := fun request : Request => request.delivery = some args) hprogress
  exact ⟨pool', hrun'.mono fun _ _ hallow => hallow.1, hended⟩

end Runs

open Trial

def deliveredArgs : EventArgs :=
  ⟨"stripe", .str "evt_1RaBoh", .str "checkout.session.completed", eventJson, true⟩

-- The second delivery looks for the event after the first one has stored it.
-- Meanwhile a gift of somebody else is under way, and dies.
def overlapping : List ServiceCue :=
  [.arrive delivery, .arrive delivery, .arrive (oneOff "test" "brian@example.org")] ++ turns 2 6 (reply 2) ++
    turns 0 8 (reply 0) ++ turns 2 8 (reply 2) ++ turns 1 4 (reply 1) ++ [.finish 1, .crash 2]

theorem duplicate_deliveries_overlapping : ∃ pool pool',
    service.Run (OneByOne deliveredArgs) ⟨{ db := aminaOnly }, []⟩ pool ∧
      pool.threads.map Thread.answer = [none, some ⟨200, .empty⟩, none] ∧
      service.Run (OneByOne deliveredArgs) pool pool' ∧ pool'.threads.length = 3 ∧
      (∀ t ∈ pool'.threads, Delivers deliveredArgs t → ¬ t.IsRunning) ∧
      DeliveredOnce deliveredArgs "evt_1RaBoh" pool' := by
  obtain ⟨pool, hrun, hanswers, hstored, hdrawn⟩ := exists_run_from (OneByOne deliveredArgs) aminaOnly
    (fun pool => pool.threads.map Thread.answer = [none, some ⟨200, .empty⟩, none] ∧
      (∀ key ∈ pool.shared.db.keys, key.id ≠ some (uuid 999)) ∧ ∀ t ∈ pool.threads, uuid 999 ∉ t.loc.ids)
    overlapping (by decide +kernel)
  have hkeys : aminaOnly.keys.Nodup := by decide
  have hnone : ∀ event ∈ aminaOnly.webhookEvents, event.providerEventId ≠ "evt_1RaBoh" := by simp [aminaOnly]
  have hfits (row : WebhookEvent) (hrow : deliveredArgs.Inserts row) : row.fits = true := by
    obtain ⟨_, _, id, receivedAt, hid, htype, rfl⟩ := hrow
    cases hid
    cases htype
    simp only [WebhookEvent.fits, EventArgs.row, deliveredArgs]
    decide
  obtain ⟨-, hcompletes⟩ := duplicate_deliveries hkeys hnone hrun rfl rfl hfits
  obtain ⟨pool', hrun', hended, hsame⟩ := hcompletes (uuid 999) hstored hdrawn
  have hlength := congrArg List.length hsame
  have hanswered := congrArg List.length hanswers
  simp only [List.length_map, List.length_cons, List.length_nil] at hlength hanswered
  exact ⟨pool, pool', hrun, hanswers, hrun', hlength.trans hanswered, hended,
    (duplicate_deliveries hkeys hnone (hrun.trans hrun') rfl rfl hfits).1⟩

-- Both deliveries look for the event before either has stored it. The INSERT
-- of the second one is refused.
def raced : List ServiceCue :=
  [.arrive delivery, .arrive delivery] ++ turns 0 2 (reply 0) ++ turns 1 2 (reply 1) ++
    turns 0 11 (reply 0) ++ [.finish 0] ++ turns 1 3 (reply 1) ++ turns 1 1 (refuse 1) ++ [.finish 1]

theorem raced_delivery_fails : ∃ pool, service.Run (Faultless deliveredArgs) ⟨{}, []⟩ pool ∧
    pool.threads.map response =
      [some ⟨200, .empty⟩, some ⟨500, .problem "Internal server error" none⟩] :=
  exists_run (Faultless deliveredArgs) _ raced (by decide +kernel)

end BridgeOfHope
