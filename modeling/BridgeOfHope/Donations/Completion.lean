import BridgeOfHope.Donations.FirstGifts
import BridgeOfHope.Donations.Spending
import BridgeOfHope.Limits
import BridgeOfHope.LockOrder
import BridgeOfHope.Origins.Runs
import BridgeOfHope.Process.Termination

namespace BridgeOfHope

open Process Donations

-- First gifts that look for their donor one by one can all be brought to their
-- answers.

-- All that the test rail makes of a token.
def Key.NamedAfter (token : String) (key : Key) : Prop :=
  key.MadeOf token ∨ key = .providerSubscription .test ("test_sub_" ++ token)

theorem Key.NamedAfter.unique {key : Key} {token token' : String} (h : key.NamedAfter token)
    (h' : key.NamedAfter token') : token = token' := by
  cases key with
  | providerPayment => exact PaymentOf.inj (h.resolve_right (by simp)) (h'.resolve_right (by simp))
  | providerEvent id =>
      have hid : id = "test_evt_" ++ token := h.resolve_right (by simp)
      have hid' : id = "test_evt_" ++ token' := h'.resolve_right (by simp)
      simpa using hid.symm.trans hid'
  | providerSubscription =>
      have hkey := (h.resolve_left fun h => h).symm.trans (h'.resolve_left fun h => h)
      simpa using hkey
  | _ => simp [NamedAfter, MadeOf] at h

theorem length_flatMap_le {α β : Type} {f : α → List β} {as : List α} {n : ℕ}
    (hf : ∀ a ∈ as, (f a).length ≤ n) :
    (as.flatMap f).length ≤ n * as.length := by
  rw [List.length_flatMap, Nat.mul_comm]
  refine (List.sum_le_card_nsmul _ n fun m hm => ?_).trans_eq (by simp)
  obtain ⟨a, ha, rfl⟩ := List.mem_map.mp hm
  exact hf a ha

section Runs

variable [Platform]

-- Every body fits the columns, and no stored subscription is called after a token
-- that is drawn.
def Provisioned (pool : ServicePool) : ServiceMove → Prop
  | .arrive request => ∀ body ∈ request.given, (Platform.upper body.donor.countryCode).length ≤ 2
  | .act _ .tokenHex token => .providerSubscription .test ("test_sub_" ++ token) ∉ pool.shared.db.keys
  | _ => True

instance (pool : ServicePool) : (move : ServiceMove) → Decidable (Provisioned pool move)
  | .arrive request => inferInstanceAs (Decidable (∀ body ∈ request.given,
      (Platform.upper body.donor.countryCode).length ≤ 2))
  | .act _ op answer => match op, answer with
    | .tokenHex, token => inferInstanceAs (Decidable
        (.providerSubscription .test ("test_sub_" ++ token) ∉ pool.shared.db.keys))
    | .uuid7, _ | .now, _ | .push _, _ | .flush, _ | .query _, _ | .commit, _ | .stripeCheckout _, _
    | .stripeDelete _, _ | .http _, _ | .record _, _ | .smtp _, _ | .log _, _ => isTrue trivial
  | .finish _ | .crash _ => isTrue trivial

def Unhindered (email : String) (pool : ServicePool) (move : ServiceMove) : Prop :=
  (OnlyFirstGifts email pool move ∧ OneSeeker email pool move) ∧ NewIds pool move ∧ Provisioned pool move

instance (email : String) (pool : ServicePool) (move : ServiceMove) : Decidable (Unhindered email pool move) :=
  inferInstanceAs (Decidable ((_ ∧ _) ∧ _ ∧ _))

-- The tables that the run started with take all that the gifts write.
structure Supplied (world : World) (pool : ServicePool) : Prop where
  ids : OwnIds pool
  rows : pool.shared.db.RowsFit
  country : ∀ t ∈ pool.threads, ∀ body ∈ t.req.given, (Platform.upper body.donor.countryCode).length ≤ 2
  spent : ∀ t ∈ pool.threads, t.loc.spent ≤ 7
  owned : ∀ key ∈ pool.shared.db.keys, key ∉ world.db.keys → ∃ t ∈ pool.threads, ∃ stmt ∈ t.loc.committed,
    key ∈ stmt.keys
  named : ∀ t ∈ pool.threads, t.loc.committed = [] → ∀ token ∈ t.loc.drawn,
    .providerSubscription .test ("test_sub_" ++ token) ∉ pool.shared.db.keys

structure Ongoing (email : String) (world : World) (pool : ServicePool) : Prop where
  consistent : Consistent pool
  queued : Queued email pool
  supplied : Supplied world pool
  alive : ∀ t ∈ pool.threads, t.phase ≠ .died

variable {email : String} {world : World} {pool pool' : ServicePool} {move : ServiceMove} {i : ℕ}
  {t : ServiceThread} {op : Op} {ans : Ans op}

theorem Supplied.initial (world : World) (hrows : world.db.RowsFit) : Supplied world ⟨world, []⟩ :=
  ⟨.initial world, hrows, by simp, by simp, fun key hkey hother => absurd hkey hother, by simp⟩

theorem conducts_of_provides {t : ServiceThread} (h : service.Obedient Provides GiftConcludes t) :
    service.Obedient Conducts Concludes t :=
  h.mono (fun _ _ _ hop => ⟨hop.1.1.1, hop.1.2⟩) fun _ _ _ h => h.1

theorem gives_of_provides {t : ServiceThread} (h : service.Obedient Provides GiftConcludes t) :
    service.Obedient GiftPermits GiftConcludes t :=
  h.mono (fun _ _ _ hop => hop.1.1) fun _ _ _ h => h

-- What an entry is made of that a gift on the test rail writes.
theorem named_of_madeIn {request : Request} {s : Session} (hgift : FirstGift email request) {key : Key}
    (hmade : key.MadeIn request s) :
    key.id.isSome = true ∨ key.ofEmail = true ∨ ∃ token ∈ s.drawn, key.NamedAfter token := by
  obtain ⟨body, hgiven, hrail, -⟩ := id hgift
  cases key with
  | donorEmail => exact .inr (.inl rfl)
  | providerPayment id =>
      obtain ⟨token, htoken, hid⟩ := hmade
      exact .inr (.inr ⟨token, htoken, .inl hid⟩)
  | providerEvent id =>
      rcases hmade with ⟨token, htoken, hid⟩ | ⟨args, hdelivery, -⟩
      · exact .inr (.inr ⟨token, htoken, .inl hid⟩)
      · rw [delivery_eq_none hgift.isWebhook] at hdelivery
        cases hdelivery
  | providerSubscription provider id =>
      obtain ⟨htest, hnamed⟩ := hmade
      have hprovider := hnamed body hgiven
      rw [hrail] at hprovider
      cases hprovider
      obtain ⟨token, htoken, rfl⟩ := htest rfl
      exact .inr (.inr ⟨token, htoken, .inr rfl⟩)
  | _ => exact .inl rfl

theorem drawn_of_named {request : Request} {s : Session} (hgift : FirstGift email request) {key : Key}
    (hmade : key.MadeIn request s) {token : String} (hnamed : key.NamedAfter token) : token ∈ s.drawn := by
  rcases named_of_madeIn hgift hmade with hid | hemail | ⟨token', htoken', hnamed'⟩
  · cases key <;> simp [Key.NamedAfter, Key.MadeOf, Key.id] at hnamed hid
  · cases key <;> simp [Key.NamedAfter, Key.MadeOf, Key.ofEmail] at hnamed hemail
  · rwa [hnamed.unique hnamed']

section Steps

variable (h : Ongoing email world pool)
  (hprovides : ∀ t ∈ pool.threads, service.Obedient Provides GiftConcludes t)

include h

theorem Ongoing.fitting (ht : t ∈ pool.threads) : ∃ body, t.req.FittingGift body := by
  obtain ⟨body, hgiven, hrail, hbound, -⟩ := (h.queued.carefree t ht).gift
  exact ⟨body, ⟨hgiven, hrail, hbound⟩, h.supplied.country t ht body hgiven⟩

include hprovides

-- What a gift asks for next, and how its transaction stands.
theorem Ongoing.issued (hissues : System.Issues pool i t op) :
    GiftPermits t.req t.loc op ∧ Minting t.req t.loc op ∧ op.fits = true ∧ Frugal t.loc op ∧
      Prepared t.loc := by
  have ht := List.mem_of_getElem? hissues.1
  obtain ⟨⟨hpermits, hminting⟩, hgift⟩ := (hprovides t ht).issued hissues
  obtain ⟨body, hbody⟩ := h.fitting ht
  obtain ⟨⟨hfits, hfrugal⟩, hprepared⟩ := hgift body hbody
  exact ⟨hpermits, hminting, hfits, hfrugal, hprepared⟩

theorem Ongoing.rows_step (hmove : service.Step pool move pool') : pool'.shared.db.RowsFit := by
  have hproper (t : ServiceThread) (ht : t ∈ pool.threads) : Proper t :=
    proper_of_conducts (conducts_of_provides (hprovides t ht))
  rcases db_step hproper hmove with hquiet | ⟨i, t, transaction, -, hcommits⟩
  · rw [hquiet.db]
    exact h.supplied.rows
  · rw [hcommits.db, ← hcommits.flushed]
    obtain ⟨-, -, -, -, hprepared⟩ := h.issued hprovides hcommits.issues
    exact h.supplied.rows.applyAll fun stmt hstmt => hprepared.fits stmt (List.mem_append_left _ hstmt)

theorem Ongoing.spent_step (hmove : service.Step pool move pool') : ∀ t ∈ pool'.threads, t.loc.spent ≤ 7 := by
  intro t' ht'
  obtain ⟨k, hk⟩ := List.mem_iff_getElem?.mp ht'
  cases hmove.origin hk with
  | fresh hmove hloc => exact hloc ▸ Nat.zero_le 7
  | still hthread => exact h.supplied.spent t' (List.mem_of_getElem? hthread)
  | @acted t op ans hmove hissues hanswer hreq hloc =>
      have hold := h.supplied.spent t (List.mem_of_getElem? hissues.1)
      obtain ⟨-, -, -, hfrugal, -⟩ := h.issued hprovides hissues
      have hspent : (t.loc.update op ans).spent ≤ 7 := by
        rw [Session.spent_update]
        split
        · next hspends =>
            have hlt : t.loc.spent < 7 := by
              cases op with
              | query query => cases query with
                | donorByEmail => exact (show t.loc.spent = 0 from hfrugal) ▸ (by decide : 0 < 7)
                | _ => cases hspends
              | uuid7 | tokenHex => exact hfrugal
              | _ => cases hspends
            exact hlt
        · exact hold
      exact hloc ▸ hspent
  | @finished t hthread hreq hloc hphase =>
      have hold := h.supplied.spent t (List.mem_of_getElem? hthread)
      exact hloc ▸ hold

theorem Ongoing.named_step (hprovisioned : Provisioned pool move) (hmove : service.Step pool move pool') :
    ∀ t ∈ pool'.threads, t.loc.committed = [] → ∀ token ∈ t.loc.drawn,
      .providerSubscription .test ("test_sub_" ++ token) ∉ pool'.shared.db.keys := by
  have hproper (t : ServiceThread) (ht : t ∈ pool.threads) : Proper t :=
    proper_of_conducts (conducts_of_provides (hprovides t ht))
  refine uncommitted_step (P := fun (db : Db) (s : Session) => ∀ token ∈ s.drawn,
    Key.providerSubscription .test ("test_sub_" ++ token) ∉ db.keys) hproper hmove ?_ (fun _ hs => hs) ?_ ?_
    h.supplied.named
  · intro token htoken
    cases htoken
  · rintro i t op ans rfl hissues - - hold token htoken
    rcases Session.mem_drawn_update htoken with hdrawn | hevent
    · exact hold token hdrawn
    · cases hevent
      exact hprovisioned
  · intro i t transaction hcommits k u hk hne _ hold token htoken hkey
    rcases List.mem_append.mp ((Db.keys_applyAll _ _).subset hkey) with hstored | hnew
    · exact hold token htoken hstored
    · rw [← hcommits.flushed] at hnew
      have hmade := (h.supplied.ids.made t hcommits.mem).flushed hnew
      have hdrawn := drawn_of_named (h.queued.carefree t hcommits.mem).gift hmade (.inr rfl)
      exact h.queued.draws_alone hcommits.issues.1 hk hne hdrawn htoken

theorem Ongoing.supplied_step (hallow : Unhindered email pool move) (hmove : service.Step pool move pool') :
    Supplied world pool' := by
  obtain ⟨-, hids, hprovisioned⟩ := hallow
  have hconducts (t : ServiceThread) (ht : t ∈ pool.threads) := conducts_of_provides (hprovides t ht)
  refine ⟨h.supplied.ids.step hconducts hids hmove, h.rows_step hprovides hmove, ?_,
    h.spent_step hprovides hmove, fun key hkey hother => ?_, h.named_step hprovides hprovisioned hmove⟩
  · refine hmove.forall_threads hprovides (P := fun (_ : World) (request : Request) (_ : Session) =>
        ∀ body ∈ request.given, (Platform.upper body.donor.countryCode).length ≤ 2) ?_ (fun _ _ hs => hs)
      (fun _ _ _ _ _ _ _ _ hs => hs) (fun _ _ _ _ _ _ _ _ _ hs => hs) h.supplied.country
    rintro request rfl
    exact hprovisioned
  · exact owned_step (fun hold => h.supplied.owned key hold hother)
      (fun t ht => proper_of_conducts (hconducts t ht)) hmove hkey

end Steps

theorem ongoing_run (hkeys : world.db.keys.Nodup) (hrows : world.db.RowsFit)
    (hrun : service.Run (Unhindered email) ⟨world, []⟩ pool) :
    Ongoing email world pool ∧ ∀ t ∈ pool.threads, service.Obedient Provides GiftConcludes t := by
  refine hrun.invariant_of_obeys (I := Ongoing email world) handler_provides
    ⟨⟨by simpa [entries] using hkeys, by simp⟩, .initial world, .initial world hrows, by simp⟩ (by simp)
    fun pool move pool' h hprovides hallow hmove => ?_
  have hgives (t : ServiceThread) (ht : t ∈ pool.threads) := gives_of_provides (hprovides t ht)
  have hproper (t : ServiceThread) (ht : t ∈ pool.threads) : Proper t := proper_of_gives (hgives t ht)
  refine ⟨h.consistent.step hproper hmove, h.queued.step hgives hallow.1.1 hallow.1.2 hmove,
    h.supplied_step hprovides hallow hmove, ?_⟩
  have halive := hmove.alive (P := fun _ => True) (fun i hcrash => ?_) fun t ht _ => h.alive t ht
  · exact fun t ht => halive t ht trivial
  · subst hcrash
    exact absurd hallow.1.1 id

section Progress

variable (h : Ongoing email world pool)
  (hprovides : ∀ t ∈ pool.threads, service.Obedient Provides GiftConcludes t)

include h

-- An entry that a gift is about to add is held by nobody.
theorem Ongoing.unheld (hi : pool.threads[i]? = some t) (hnone : t.loc.committed = []) {stmt : Stmt}
    (hstmt : stmt ∈ t.loc.pending) {key : Key} (hkey : key ∈ stmt.keys) (hown : key ∉ t.loc.keys) :
    key ∉ entries pool.shared.db (pool.threads.map Thread.loc) := by
  have ht := List.mem_of_getElem? hi
  have hmade := h.supplied.ids.made t ht stmt (List.mem_append_right _ hstmt) key hkey
  have hclear := h.queued.clear t ht hnone
  have hfree (hstored : key ∉ pool.shared.db.keys)
      (hother : ∀ k u, pool.threads[k]? = some u → i ≠ k → key ∉ u.loc.keys) :
      key ∉ entries pool.shared.db (pool.threads.map Thread.loc) := by
    intro hentry
    rcases List.mem_append.mp hentry with hmem | hmem
    · exact hstored hmem
    · obtain ⟨s, hs, hheld⟩ := List.mem_flatMap.mp hmem
      obtain ⟨u, hu, rfl⟩ := List.mem_map.mp hs
      obtain ⟨k, hk⟩ := List.mem_iff_getElem?.mp hu
      by_cases hik : i = k
      · subst hik
        cases hi.symm.trans hk
        exact hown hheld
      · exact hother k u hk hik hheld
  rcases named_of_madeIn (h.queued.carefree t ht).gift hmade with hid | hemail | ⟨token, htoken, hnamed⟩
  · obtain ⟨id, hid⟩ := Option.isSome_iff_exists.mp hid
    exact h.supplied.ids.free hi (hmade.drawn hid) hid (by simp [hnone]) hown
  -- nobody else is about to store a donor
  · obtain ⟨row, rfl, rfl⟩ := Stmt.donor_of_key hkey hemail
    obtain ⟨hsame, hseeking⟩ := (h.queued.carefree t ht).inserts row hstmt
    refine hfree (hsame ▸ hclear.donor hseeking.2) fun k u hk hne hheld => ?_
    obtain ⟨stmt', hstmt', hkey'⟩ := List.mem_flatMap.mp hheld
    obtain ⟨row', rfl, -⟩ := Stmt.donor_of_key hkey' rfl
    have hseeking' := ((h.queued.carefree u (List.mem_of_getElem? hk)).inserts row'
      (List.mem_append_left _ hstmt')).2
    exact h.queued.seeks_alone hi hk hne hseeking hseeking'
  · refine hfree (fun hstored => ?_) fun k u hk hne hheld => ?_
    · rcases hnamed with hmadeOf | rfl
      · exact hclear.tokens token htoken key hstored hmadeOf
      · exact h.supplied.named t ht hnone token htoken hstored
    · have hu := List.mem_of_getElem? hk
      have hdrawn := drawn_of_named (h.queued.carefree u hu).gift
        ((h.supplied.ids.made u hu).flushed hheld) hnamed
      exact h.queued.draws_alone hi hk hne htoken hdrawn

include hprovides

-- What a gift writes is taken.
theorem Ongoing.flushable (hordered : ∀ t ∈ pool.threads, t.loc.pending.Pairwise Stmt.Precedes)
    (hissues : System.Issues pool i t .flush) :
    flushable pool.shared.db (pool.threads.map Thread.loc) t.loc := by
  have ht := List.mem_of_getElem? hissues.1
  obtain ⟨-, -, -, -, hprepared⟩ := h.issued hprovides hissues
  have hnodup := keys_nodup_of_precedes (hordered t ht)
  rw [Session.pending, List.flatMap_append] at hnodup
  obtain ⟨-, hunflushed, hdisjoint⟩ := List.nodup_append'.mp hnodup
  refine ⟨hunflushed, fun key hkey => ?_, ?_⟩
  · obtain ⟨stmt, hstmt, hmem⟩ := List.mem_flatMap.mp hkey
    have hpending : stmt ∈ t.loc.pending := List.mem_append_right _ hstmt
    exact h.unheld hissues.1 (hprepared.early (List.ne_nil_of_mem hpending)) hpending hmem
      fun hown => hdisjoint hown hkey
  · refine Db.admitsAll_of_fits (h.supplied.rows.applyAll fun stmt hstmt => hprepared.fits stmt
      (List.mem_append_left _ hstmt)) (fun stmt hstmt => hprepared.fits stmt (List.mem_append_right _ hstmt)) ?_
    intro earlier stmt later hsplit key hkey
    have hpending : t.loc.pending = (t.loc.flushed ++ earlier) ++ stmt :: later := by
      rw [Session.pending, hsplit, List.append_assoc]
    have hstmt : stmt ∈ t.loc.pending := by simp [hpending]
    have hview : (t.loc.view pool.shared.db).applyAll earlier =
        pool.shared.db.applyAll (t.loc.flushed ++ earlier) := by
      simp [Session.view, Db.applyAll]
    rw [hview]
    refine (Db.keys_applyAll _ _).symm.subset ?_
    have hwritten {stmt' : Stmt} (hpushed : ⟨.push stmt', ()⟩ ∈ t.loc.past) (hkey' : key ∈ stmt'.keys) :
        key ∈ pool.shared.db.keys ++ (t.loc.flushed ++ earlier).flatMap Stmt.keys := by
      have hmem := hprepared.pushed (h.queued.carefree t ht).smooth.database
        (hprepared.early (List.ne_nil_of_mem hstmt)) stmt' hpushed
      have hbefore := Stmt.mem_earlier (hpending ▸ hordered t ht) (hpending ▸ hmem) hkey' hkey
      exact List.mem_append_right _ (List.mem_flatMap.mpr ⟨stmt', hbefore, hkey'⟩)
    have hknown := hprepared.known stmt hstmt key hkey
    cases key with
    | donor id =>
        rcases hknown with ⟨email', row, hread, rfl⟩ | ⟨row, hpushed, rfl⟩
        · obtain ⟨⟨columns, hrow⟩, -⟩ := (h.consistent.grounded t ht).reads _ _ hread
          have hid : (donorTable.set row columns).id = row.id := Donor.setAll_id row columns
          exact List.mem_append_left _ (Db.mem_keys_of_donor hrow (by simp [Donor.keys, hid]))
        · exact hwritten hpushed (by simp [Stmt.keys, Donor.keys])
    | subscription id =>
        obtain ⟨row, hpushed, rfl⟩ := hknown
        exact hwritten hpushed (by simp [Stmt.keys, Subscription.keys])
    | _ => exact hknown.elim

omit hprovides in
-- A request has drawn what names an entry that it has stored, so that what none has
-- drawn is only named by the tables that the run started with.
theorem Ongoing.unstored {α : Type} (names : Key → α → Prop) {a : α}
    (hold : ∀ key ∈ world.db.keys, ¬ names key a)
    (hdrawn : ∀ t ∈ pool.threads, ∀ key : Key, key.MadeIn t.req t.loc → ¬ names key a) :
    ∀ key ∈ pool.shared.db.keys, ¬ names key a := by
  intro key hkey hname
  by_cases hmem : key ∈ world.db.keys
  · exact hold key hmem hname
  · obtain ⟨t, ht, stmt, hstmt, hkey⟩ := h.supplied.owned key hkey hmem
    exact hdrawn t ht key (h.supplied.ids.made t ht stmt (List.mem_append_left _ hstmt) key hkey) hname

omit hprovides in
theorem Ongoing.exists_token (hroom : world.db.keys.length + 7 * pool.threads.length < 16 ^ 20) :
    ∃ token, isTokenHex token = true ∧ (∀ t ∈ pool.threads, token ∉ t.loc.drawn) ∧
      ∀ key ∈ pool.shared.db.keys, ¬ key.NamedAfter token := by
  have hdrawn : (pool.threads.flatMap fun t => t.loc.drawn).length ≤ 7 * pool.threads.length :=
    length_flatMap_le fun t ht => t.loc.drawn_le_spent.trans (h.supplied.spent t ht)
  obtain ⟨digits, hnew, hold⟩ : ∃ digits, hexToken digits ∉ (pool.threads.flatMap fun t => t.loc.drawn) ∧
      ∀ key ∈ world.db.keys, ¬ key.NamedAfter (hexToken digits) := by
    refine exists_unnamed hexToken_injective (fun (key : Key) token => key.NamedAfter token)
      Key.NamedAfter.unique ?_
    rw [Fintype.card_fun, Fintype.card_fin, Fintype.card_fin]
    omega
  have hall (t : ServiceThread) (ht : t ∈ pool.threads) : hexToken digits ∉ t.loc.drawn := fun htoken =>
    hnew (List.mem_flatMap.mpr ⟨t, ht, htoken⟩)
  refine ⟨_, isTokenHex_hexToken digits, hall, h.unstored (fun key token => key.NamedAfter token) hold
    fun t ht key hmade hname => ?_⟩
  exact hall t ht (drawn_of_named (h.queued.carefree t ht).gift hmade hname)

omit hprovides in
theorem Ongoing.exists_id (hroom : world.db.keys.length + 7 * pool.threads.length < 16 ^ 20) :
    ∃ id : Uuid, (∀ t ∈ pool.threads, id ∉ t.loc.ids) ∧ ∀ key ∈ pool.shared.db.keys, key.id ≠ some id := by
  have hdrawn : (pool.threads.flatMap fun t => t.loc.ids).length ≤ 7 * pool.threads.length :=
    length_flatMap_le fun t ht => t.loc.ids_le_spent.trans (h.supplied.spent t ht)
  have hinjective : Function.Injective (BitVec.ofFin : Fin (2 ^ 128) → Uuid) := fun i j hij =>
    congrArg BitVec.toFin hij
  obtain ⟨i, hnew, hold⟩ : ∃ i, BitVec.ofFin i ∉ (pool.threads.flatMap fun t => t.loc.ids) ∧
      ∀ key ∈ world.db.keys, ¬ key.id = some (BitVec.ofFin i) := by
    refine exists_unnamed hinjective (fun (key : Key) id => key.id = some id)
      (fun h h' => Option.some.inj (h.symm.trans h')) ?_
    rw [Fintype.card_fin]
    omega
  have hall (t : ServiceThread) (ht : t ∈ pool.threads) : BitVec.ofFin i ∉ t.loc.ids := fun hid =>
    hnew (List.mem_flatMap.mpr ⟨t, ht, hid⟩)
  exact ⟨_, hall, h.unstored (fun key id => key.id = some id) hold fun t ht key hmade hname =>
    hall t ht (hmade.drawn hname)⟩

-- What a gift asks for next is granted, unless it looks for its donor and has to wait.
theorem Ongoing.granted (hordered : ∀ t ∈ pool.threads, t.loc.pending.Pairwise Stmt.Precedes)
    (hroom : world.db.keys.length + 7 * pool.threads.length < 16 ^ 20) (hissues : System.Issues pool i t op)
    (hseeker : ∀ ans, OneSeeker email pool (.act i op ans)) :
    ∃ ans, enabled pool.shared (pool.threads.map Thread.loc) t.loc op ans ∧
      Unhindered email pool (.act i op ans) := by
  have hsound := (h.queued.carefree t (List.mem_of_getElem? hissues.1)).smooth.database
  cases op with
  | now => exact ⟨0, trivial, ⟨trivial, trivial⟩, trivial, trivial⟩
  | uuid7 =>
      obtain ⟨id, hdrawn, hstored⟩ := h.exists_id hroom
      exact ⟨id, trivial, ⟨trivial, trivial⟩,
        ⟨hstored, fun t ht => hdrawn t (List.mem_of_mem_eraseIdx ht)⟩, trivial⟩
  | tokenHex =>
      obtain ⟨token, htoken, hdrawn, hnamed⟩ := h.exists_token hroom
      exact ⟨token, htoken, ⟨⟨hdrawn, fun key hkey hmade => hnamed key hkey (.inl hmade)⟩, trivial⟩, trivial,
        fun hkey => hnamed _ hkey (.inr rfl)⟩
  | push stmt => exact ⟨(), trivial, ⟨trivial, trivial⟩, trivial, trivial⟩
  | flush =>
      exact ⟨.ok (), ⟨hsound, h.flushable hprovides hordered hissues⟩, ⟨trivial, trivial⟩, trivial, trivial⟩
  | query query =>
      exact ⟨.ok (query.select (t.loc.view pool.shared.db)), ⟨hsound, .refl _⟩, ⟨trivial, hseeker _⟩, trivial,
        trivial⟩
  | commit => exact ⟨.ok (), hsound, ⟨trivial, trivial⟩, trivial, trivial⟩
  | stripeCheckout _ => exact ⟨.error ⟨.other, ""⟩, trivial, ⟨trivial, trivial⟩, trivial, trivial⟩
  | stripeDelete _ => exact ⟨.ok (), trivial, ⟨trivial, trivial⟩, trivial, trivial⟩
  | http _ => exact ⟨.error ⟨.other, ""⟩, trivial, ⟨trivial, trivial⟩, trivial, trivial⟩
  | record _ => exact ⟨(), trivial, ⟨trivial, trivial⟩, trivial, trivial⟩
  | smtp _ => exact ⟨.ok (), trivial, ⟨trivial, trivial⟩, trivial, trivial⟩
  | log _ => exact ⟨(), trivial, ⟨trivial, trivial⟩, trivial, trivial⟩

theorem Ongoing.moves (hordered : ∀ t ∈ pool.threads, t.loc.pending.Pairwise Stmt.Precedes)
    (hroom : world.db.keys.length + 7 * pool.threads.length < 16 ^ 20) (hi : pool.threads[i]? = some t)
    (hrunning : t.IsRunning)
    (hseeker : ∀ op, System.Issues pool i t op → ∀ ans, OneSeeker email pool (.act i op ans)) :
    ∃ move pool', (∀ request, move ≠ .arrive request) ∧ Unhindered email pool move ∧
      service.Step pool move pool' := by
  obtain ⟨shared, threads⟩ := pool
  obtain ⟨request, s, phase⟩ := t
  obtain ⟨rest, rfl : phase = _⟩ := hrunning
  cases rest with
  | ret response => exact ⟨.finish i, _, by simp, ⟨⟨trivial, trivial⟩, trivial, trivial⟩, .finish hi⟩
  | raise error => exact ⟨.finish i, _, by simp, ⟨⟨trivial, trivial⟩, trivial, trivial⟩, .fail hi⟩
  | call op next =>
      have hissues : System.Issues ⟨shared, threads⟩ i ⟨request, s, .running (.call op next)⟩ op :=
        ⟨hi, next, rfl⟩
      obtain ⟨ans, henabled, hallow⟩ := h.granted hprovides hordered hroom hissues (hseeker op hissues)
      exact ⟨.act i op ans, _, by simp, hallow, .act hi henabled⟩

theorem Ongoing.received (ht : t ∈ pool.threads) (hended : ¬ t.IsRunning) :
    Received email pool.shared.db t := by
  have hgives (t : ServiceThread) (ht : t ∈ pool.threads) := gives_of_provides (hprovides t ht)
  cases hphase : t.phase with
  | running rest => exact absurd ⟨rest, hphase⟩ hended
  | ended out => exact h.queued.received h.consistent hgives ht hphase
  | died => exact absurd hphase (h.alive t ht)

-- While a gift is at work, some gift can go on: the one that has found no donor,
-- or any of them when there is none.
theorem Ongoing.progress (hordered : ∀ t ∈ pool.threads, t.loc.pending.Pairwise Stmt.Precedes)
    (hroom : world.db.keys.length + 7 * pool.threads.length < 16 ^ 20)
    (hrunning : ∃ t ∈ pool.threads, t.IsRunning) :
    ∃ move pool', (∀ request, move ≠ .arrive request) ∧ Unhindered email pool move ∧
      service.Step pool move pool' := by
  by_cases hseeks : ∃ t ∈ pool.threads, t.IsRunning ∧ Seeking email t.loc
  · obtain ⟨t, ht, hworks, -, event, hevent, hmissed⟩ := hseeks
    obtain ⟨i, hi⟩ := List.mem_iff_getElem?.mp ht
    refine h.moves hprovides hordered hroom hi hworks fun op hissues ans => ?_
    cases op with
    | query query => cases query with
      | donorByEmail asked =>
          -- it has made its lookup
          obtain ⟨-, -, -, hfrugal, -⟩ := h.issued hprovides hissues
          have hspent : t.loc.past.countP Event.spends = 0 := hfrugal
          have hnone := List.countP_eq_zero.mp hspent event hevent
          obtain ⟨email', hmissed, -⟩ := hmissed
          unfold Event.missedDonor at hmissed
          split at hmissed
          · exact absurd rfl hnone
          · cases hmissed
      | _ => trivial
    | _ => trivial
  · obtain ⟨t, ht, hworks⟩ := hrunning
    obtain ⟨i, hi⟩ := List.mem_iff_getElem?.mp ht
    refine h.moves hprovides hordered hroom hi hworks fun op _ ans => ?_
    cases op with
    | query query => cases query with
      | donorByEmail asked =>
          intro u hu hseeking
          refine hseeks ⟨u, hu, ?_, hseeking⟩
          by_contra hended
          obtain ⟨donor, -, -, -, hwelcomed⟩ := h.received hprovides hu hended
          obtain ⟨donation, -, hbooked⟩ := hwelcomed.given
          rw [hseeking.1] at hbooked
          cases hbooked
      | _ => trivial
    | _ => trivial

end Progress

-- First gifts that look for their donor one by one are answered 200 when they end,
-- and there is one donor, to whom all that they store belongs. Wherever they stand,
-- they can all be brought to that, in tables that take what they write.
theorem first_gifts (hkeys : world.db.keys.Nodup)
    (hrun : service.Run (fun pool move => OnlyFirstGifts email pool move ∧
      OneSeeker email pool move) ⟨world, []⟩ pool) :
    (∀ t ∈ pool.threads, ∀ out, t.phase = .ended out → Received email pool.shared.db t) ∧
      (world.db.RowsFit → world.db.keys.length + 7 * pool.threads.length < 16 ^ 20 →
        service.Run (Unhindered email) ⟨world, []⟩ pool → ∃ pool', service.Run (Unhindered email) pool pool' ∧
          (∀ t ∈ pool'.threads, Received email pool'.shared.db t) ∧
            pool'.threads.map Thread.req = pool.threads.map Thread.req) := by
  obtain ⟨⟨hconsistent, hqueued⟩, hgives⟩ := queued_run hkeys hrun
  refine ⟨fun t ht out hended => hqueued.received hconsistent hgives ht hended, fun hrows hroom hrun => ?_⟩
  have hongoing {pool₁ : ServicePool}
      (hrun₁ : service.Run (fun pool move => Unhindered email pool move ∧ ∀ request, move ≠ .arrive request)
        pool pool₁) :
      service.Run (Unhindered email) ⟨world, []⟩ pool₁ ∧
        pool₁.threads.map Thread.req = pool.threads.map Thread.req := by
    refine hrun₁.invariant (I := fun pool₁ => service.Run (Unhindered email) ⟨world, []⟩ pool₁ ∧
      pool₁.threads.map Thread.req = pool.threads.map Thread.req) ⟨hrun, rfl⟩
      fun pool₁ move pool₂ ⟨hlater, hreqs⟩ hallow hmove => ?_
    exact ⟨hlater.tail ⟨move, hallow.1, hmove⟩, (hmove.descends hallow.2).2.trans hreqs⟩
  obtain ⟨pool', hrun', hended, hreqs⟩ := System.Run.completes (P := fun _ => True)
    fun pool₁ hrun₁ hrunning => by
    obtain ⟨hlater, hreqs⟩ := hongoing hrun₁
    obtain ⟨h, hprovides⟩ := ongoing_run hkeys hrows hlater
    have hlength : pool₁.threads.length = pool.threads.length := by simpa using congrArg List.length hreqs
    obtain ⟨t, ht, -, hworks⟩ := hrunning
    obtain ⟨move, pool₂, harrive, hallow, hmove⟩ :=
      h.progress hprovides (pending_ordered hlater) (hlength ▸ hroom) ⟨t, ht, hworks⟩
    exact ⟨move, pool₂, harrive, ⟨hallow, harrive⟩, hmove⟩
  obtain ⟨h, hprovides⟩ := ongoing_run hkeys hrows (hongoing hrun').1
  exact ⟨pool', hrun'.mono fun _ _ hallow => hallow.1, fun t ht =>
    h.received hprovides ht (hended t ht trivial), hreqs⟩

end Runs

open Trial

-- A gift and a monthly gift that overlap, in two spellings of one email: the
-- second looks for its donor when the first is stored, and is under way when the
-- first is answered.
def inTurn : List ServiceCue :=
  [.arrive (oneOff "test" "amina@example.org"), .arrive (subscription "test" "Amina@Example.org")] ++
    turns 0 5 (reply 0) ++ turns 1 1 (reply 1) ++ turns 0 22 (reply 0) ++ turns 1 4 (reply 1) ++ [.finish 0]

theorem first_gifts_inTurn : ∃ pool pool', service.Run (Unhindered "amina@example.org") ⟨{}, []⟩ pool ∧
    (∃ t ∈ pool.threads, t.answer = none) ∧
    (∃ t ∈ pool.threads, Received "amina@example.org" pool.shared.db t) ∧
    service.Run (Unhindered "amina@example.org") pool pool' ∧ pool'.threads.length = 2 ∧
      ∀ t ∈ pool'.threads, Received "amina@example.org" pool'.shared.db t := by
  obtain ⟨pool, hrun, hanswers⟩ := exists_run (Unhindered "amina@example.org")
    (fun pool => pool.threads.map (fun t => t.answer.isSome) = [true, false]) inTurn (by decide +kernel)
  obtain ⟨first, rest, hthreads, hfirst, hrest⟩ := List.map_eq_cons_iff.mp hanswers
  obtain ⟨second, rfl, hsecond⟩ := List.map_eq_singleton_iff.mp hrest
  have hkeys : ({} : World).db.keys.Nodup := List.nodup_nil
  have hroom : ({} : World).db.keys.length + 7 * pool.threads.length < 16 ^ 20 := by
    rw [hthreads]
    exact (by decide : 0 + 7 * 2 < 16 ^ 20)
  obtain ⟨hended, hcompletes⟩ := first_gifts hkeys (hrun.mono fun _ _ hallow => hallow.1)
  obtain ⟨pool', hrun', hall, hreqs⟩ := hcompletes ⟨by simp, by simp, by simp⟩ hroom hrun
  have hlength : pool'.threads.length = 2 := by simpa [hthreads] using congrArg List.length hreqs
  have hmem : first ∈ pool.threads := by simp [hthreads]
  refine ⟨pool, pool', hrun, ⟨second, by simp [hthreads], by simpa using hsecond⟩, ⟨first, hmem, ?_⟩, hrun',
    hlength, hall⟩
  cases hphase : first.phase with
  | ended out => exact hended first hmem out hphase
  | running rest => simp [Thread.answer, hphase] at hfirst
  | died => simp [Thread.answer, hphase] at hfirst

-- A double submit: both look before either is stored.
def doubleSubmit : List ServiceCue :=
  [.arrive (oneOff "test" "amina@example.org"), .arrive (oneOff "test" "amina@example.org")] ++
    turns 0 2 (reply 0) ++ turns 1 4 (reply 1) ++ turns 0 25 (reply 0) ++ turns 1 1 (refuse 1) ++
      [.finish 0, .finish 1]

theorem double_submit_refused : ∃ pool, service.Run (OnlyFirstGifts "amina@example.org") ⟨{}, []⟩ pool ∧
    ∃ t ∈ pool.threads, (response t).map Response.status = some 500 ∧ t.loc.committed = [] ∧
      pool.shared.db.donations.length = 1 :=
  exists_run (OnlyFirstGifts "amina@example.org") _ doubleSubmit (by decide +kernel)

end BridgeOfHope
