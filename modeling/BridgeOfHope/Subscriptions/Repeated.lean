import BridgeOfHope.Subscriptions.OneClick

namespace BridgeOfHope

open Process

-- The donor who uses the cancellation link again and again. Each time one monthly
-- gift is cancelled, until there is none left.

def Event.mailFailed : Event → Bool
  | ⟨.smtp _, .error _⟩ => true
  | _ => false

-- Neither the database nor the mail has failed.
structure Session.Smooth (s : Session) : Prop where
  database : s.broken = false
  mail : ∀ event ∈ s.past, event.mailFailed = false

instance (s : Session) : Decidable s.Smooth :=
  decidable_of_iff (s.broken = false ∧ ∀ event ∈ s.past, event.mailFailed = false)
    ⟨fun h => ⟨h.1, h.2⟩, fun h => ⟨h.database, h.mail⟩⟩

theorem Session.not_smooth {s : Session} (hbroken : s.broken = true) : ¬ s.Smooth := by
  intro hsmooth
  rw [hsmooth.database] at hbroken
  cases hbroken

-- Whether mails leave by SMTP. Otherwise they go to the log.
def Settings.mailsBySmtp (settings : Settings) : Bool :=
  settings.emailProvider = "smtp" && Settings.given settings.smtpHost

theorem free_any : Free fun _ _ => True :=
  ⟨fun _ => trivial, fun _ => trivial, fun _ => trivial, fun _ => trivial⟩

-- The row as a cancellation leaves it.
def Subscription.calledOff (sub : Subscription) (time : Time) : Subscription :=
  { sub with
    status := .cancelled, cancelledAt := some time, cancellationReason := some Subscriptions.cancelReason }

theorem Subscription.setAll_cancelled (sub : Subscription) (time : Time) :
    sub.setAll (sub.changes (Ledger.cancelledColumns (some Subscriptions.cancelReason) time)) =
      sub.calledOff time := by
  cases sub
  simp only [Subscription.changes, Ledger.cancelledColumns, Subscription.set, List.filter_cons, List.filter_nil]
  split <;> split <;> split <;> simp_all [Subscription.setAll, Subscription.set, Subscription.calledOff]

section Store

variable [Platform] {A : Uuid} {db db' : Db}

-- One open subscription of the donor is cancelled. Every other row stays as it is.
def CancelsOne (A : Uuid) (db db' : Db) : Prop :=
  ∃ sub ∈ (Query.openSubscriptions A).select db, ∃ time, db' = { db with
    subscriptions := db.subscriptions.map fun row => if row = sub then sub.calledOff time else row }

def Db.cancelledIds (db : Db) : List Uuid :=
  (db.subscriptions.filter fun row => row.status = .cancelled).map Subscription.id

-- The ids that a donor who cancels everything ends up with as cancelled.
def Db.cancelledOrOwnedIds (A : Uuid) (db : Db) : List Uuid :=
  (db.subscriptions.filter fun row => row.status = .cancelled || row.donorId = A).map Subscription.id

theorem cancelsOne_of_cancel (hunique : db.keys.Nodup) {sub : Subscription}
    (hsub : sub ∈ (Query.openSubscriptions A).select db)
    (time : Time) : CancelsOne A db (db.applyAll (Transaction.cancel sub time).stmts) := by
  obtain ⟨hstored, -⟩ := mem_openSubscriptions.mp hsub
  refine ⟨sub, hsub, time, ?_⟩
  show { db with subscriptions := _ } = _
  congr 1
  refine List.map_congr_left fun row hrow => ?_
  by_cases hid : row.id = sub.id
  · have hsame := Db.subscription_unique hunique hrow hstored hid
    rw [if_pos hid, if_pos hsame, hsame, Subscription.setAll_cancelled]
  · rw [if_neg hid, if_neg (fun hsame => hid (congrArg _ hsame))]

theorem CancelsOne.keys (h : CancelsOne A db db') : db'.keys = db.keys := by
  obtain ⟨sub, -, time, rfl⟩ := h
  have hkeys (row : Subscription) : (if row = sub then sub.calledOff time else row).keys = row.keys := by
    split
    · next hsame =>
        rw [hsame]
        rfl
    · rfl
  unfold Db.keys
  simp only [List.flatMap_map, hkeys]

-- What is open is one fewer, and what is cancelled or the donor's is the same.
theorem CancelsOne.open_length (h : CancelsOne A db db') (hunique : db.keys.Nodup) :
    ((Query.openSubscriptions A).select db').length + 1 = ((Query.openSubscriptions A).select db).length := by
  obtain ⟨sub, hsub, time, rfl⟩ := h
  have hrest : (Query.openSubscriptions A).select { db with
      subscriptions := db.subscriptions.map fun row => if row = sub then sub.calledOff time else row } =
      ((Query.openSubscriptions A).select db).erase sub := by
    have haccepts (row : Subscription) :
        (Query.openSubscriptions A).accepts (if row = sub then sub.calledOff time else row) =
        (row != sub && (Query.openSubscriptions A).accepts row) := by
      by_cases hsame : row = sub
      · simp [hsame, Query.accepts, Subscription.calledOff]
      · simp [hsame]
    rw [(openSubscriptions_nodup hunique).erase_eq_filter]
    simp only [Query.select, Query.table, List.filter_map, List.filter_filter, Function.comp_def, haccepts]
    refine (List.map_congr_left fun row hrow => if_neg ?_).trans (List.map_id _)
    simp only [List.mem_filter, Bool.and_eq_true, bne_iff_ne] at hrow
    exact hrow.2.1
  rw [hrest, List.length_erase_of_mem hsub]
  have hpos := List.length_pos_of_mem hsub
  omega

theorem CancelsOne.cancelledOrOwnedIds (h : CancelsOne A db db') :
    db'.cancelledOrOwnedIds A = db.cancelledOrOwnedIds A := by
  obtain ⟨sub, hsub, time, rfl⟩ := h
  obtain ⟨-, hdonor, -⟩ := mem_openSubscriptions.mp hsub
  have hid (row : Subscription) : (if row = sub then sub.calledOff time else row).id = row.id := by
    split
    · next hsame => rw [hsame, Subscription.calledOff]
    · rfl
  have hkept (row : Subscription) :
      (decide ((if row = sub then sub.calledOff time else row).status = .cancelled) ||
      decide ((if row = sub then sub.calledOff time else row).donorId = A)) =
        (decide (row.status = .cancelled) || decide (row.donorId = A)) := by
    by_cases hsame : row = sub
    · simp [hsame, hdonor, Subscription.calledOff]
    · simp [hsame]
  unfold Db.cancelledOrOwnedIds
  simp only [List.filter_map, List.map_map, Function.comp_def, hid, hkept]

theorem cancelledIds_of_none_open (h : (Query.openSubscriptions A).select db = []) :
    db.cancelledIds = db.cancelledOrOwnedIds A := by
  have hnone : ∀ row ∈ db.subscriptions, row.donorId = A → row.status = .cancelled := by
    intro row hrow hdonor
    by_contra hopen
    have hmem := mem_openSubscriptions.mpr ⟨hrow, hdonor, hopen⟩
    rw [h] at hmem
    cases hmem
  refine congrArg (List.map Subscription.id) (List.filter_congr fun row hrow => ?_)
  by_cases hdonor : row.donorId = A
  · simp [hnone row hrow hdonor]
  · simp [hdonor]

end Store

section Served

variable [Platform] {A : Uuid} {world world' : World} {request : Request} {s : Session}

-- How a cancellation ends: in 404 when nothing is open, and in 200 otherwise.
def CancelAnswered (A : Uuid) (s : Session) (result : Except Exn Response) : Prop :=
  ∃ rows, ⟨.query (.openSubscriptions A), .ok rows⟩ ∈ s.past ∧
    (rows = [] ∧ result = .error ⟨.httpException 404, "No active monthly gift found."⟩ ∧ s.committed = [] ∨
      rows ≠ [] ∧ result = .ok ⟨200, .status "cancelled"⟩)

-- A mail either goes out or is the reason why the request was not smooth.
theorem obeys_sendEmail_any {settings : Settings} {to_ subject : String} {template : Template}
    {before : Session → Op → Prop} (hsmtp : ∀ s mail, settings.mailsBySmtp = true → before s (.smtp mail))
    (hlog : ∀ s mail, settings.mailsBySmtp = false → before s (.log mail))
    {after : Session → Except Exn Unit → Prop}
    (hok : ∀ s', s.past <:+ s'.past → s'.pending = s.pending → s'.committed = s.committed → s'.sent ≠ [] →
      after s' (.ok ()))
    (herr : ∀ s' error, settings.mailsBySmtp = true → s.Extends s' → ¬ s'.Smooth → after s' (.error error)) :
    (sendEmail settings to_ subject template).Obeys client before after s := by
  unfold sendEmail
  split
  · next hserver =>
      refine obeys_seq ⟨hsmtp s _ hserver, fun answer _ => obeys_ofExcept ?_⟩
      cases answer with
      | ok value => exact hok _ (List.suffix_cons _ _) rfl rfl (List.cons_ne_nil _ _)
      | error error =>
          refine herr _ error hserver (Session.extends_update rfl rfl) fun hsmooth => ?_
          cases hsmooth.mail _ List.mem_cons_self
  · next hserver =>
      have hconsole : settings.mailsBySmtp = false := Bool.eq_false_iff.mpr hserver
      exact ⟨hlog s _ hconsole, fun answer _ => hok _ (List.suffix_cons _ _) rfl rfl (List.cons_ne_nil _ _)⟩

theorem finishCancel_answers {settings : Settings} {sub : Subscription} :
    (Subscriptions.finishCancel settings sub).Obeys client (fun _ _ => True)
      (fun s' result => s.past <:+ s'.past ∧ (s'.Smooth → result = .ok ⟨200, .status "cancelled"⟩)) s := by
  have hends {s' : Session} {result : Except Exn Response} (h : s.past <:+ s'.past)
      (hbroken : s'.broken = true) :
      s.past <:+ s'.past ∧ (s'.Smooth → result = .ok ⟨200, .status "cancelled"⟩) :=
    ⟨h, fun hsmooth => absurd hsmooth (Session.not_smooth hbroken)⟩
  refine obeys_seq (Ledger.obeys_cancelSubscriptionRow free_any (fun _ _ _ => trivial)
    (fun s₁ cancelledAt h₁ => ?_)
    fun s' error h hbroken => hends h.past hbroken)
  have hcommit {s₂ : Session} (h₂ : s₁.past <:+ s₂.past) : (do
      commit
      return ⟨200, .status "cancelled"⟩ : Act Response).Obeys client (fun _ _ => True)
        (fun s' result => s.past <:+ s'.past ∧ (s'.Smooth → result = .ok ⟨200, .status "cancelled"⟩)) s₂ := by
    have hpast₂ := h₁.past.trans h₂
    exact obeys_seq (obeys_commit free_any (fun _ _ _ => trivial)
      (fun s₃ _ _ _ h₃ _ => ⟨hpast₂.trans h₃, fun _ => rfl⟩)
      fun s' error h hbroken => hends (hpast₂.trans h.past) hbroken)
  refine obeys_seq (obeys_scalar free_any (fun _ _ _ _ => trivial) (fun s₂ h₂ _ => hcommit h₂.past)
    (fun s₂ donor donors h₂ _ _ => ?_) fun s' error h hbroken => hends (h₁.past.trans h.past) hbroken)
  exact obeys_seq (obeys_sendEmail_any (fun _ _ _ => trivial) (fun _ _ _ => trivial)
    (fun s₃ h₃ _ _ _ => hcommit (h₂.past.trans h₃)) fun s' error _ h hfailed =>
      ⟨(h₁.past.trans h₂.past).trans h.past, fun hsmooth => absurd hsmooth hfailed⟩)

theorem cancel_answers {token : String} (hrequest : request.endpoint = .manageDelete token) :
    request.handler.Obeys client (fun _ _ => True) (fun s result => s.Smooth → ∀ time A, s.Began time →
      verifyManageToken request.settings.settings.secretKey token time = .ok (some A) →
        CancelAnswered A s result) {} := by
  have hhandler : request.handler = Subscriptions.cancel request.settings.settings token := by
    unfold Request.handler
    rw [hrequest]
  rw [hhandler, Subscriptions.cancel_eq]
  refine obeys_seq (Subscriptions.obeys_donorSubscriptions free_any (fun _ _ _ _ _ _ _ => trivial)
    (fun s₁ rows donorId time h₁ hbegan hverify hmem _ => ?_)
      fun s' error _ hbroken hsmooth time A hstart htoken =>
      absurd hsmooth (Session.not_smooth (hbroken time A hstart htoken)))
  have hsame {s' : Session} {time' : Time} {A : Uuid} (h : s₁.past <:+ s'.past) (hstart : s'.Began time')
      (htoken : verifyManageToken request.settings.settings.secretKey token time' = .ok (some A)) :
        donorId = A := by
    have hbegan' : s'.Began time := hbegan.trans h
    rw [← hbegan'.unique hstart, hverify] at htoken
    cases htoken
    rfl
  cases rows with
  | nil =>
      intro _ time' A hstart htoken
      rw [← hsame List.suffix_rfl hstart htoken]
      exact ⟨[], hmem, .inl ⟨rfl, rfl, h₁.committed⟩⟩
  | cons sub rows =>
      have htell : (Subscriptions.tellRail request.settings.settings sub).Obeys client (Permits request)
          (fun s' result => s₁.past <:+ s'.past ∧ result = .ok ()) s₁ :=
        Subscriptions.obeys_tellRail fun s' h _ => ⟨h.past, rfl⟩
      refine obeys_seq (htell.mono (fun _ _ _ => trivial) ?_)
      rintro s₂ _ ⟨h₂, rfl⟩
      refine finishCancel_answers.mono (fun _ _ _ => trivial)
        fun s₃ result h hsmooth time' A hstart htoken => ?_
      have hpast := h₂.trans h.1
      rw [← hsame hpast hstart htoken]
      exact ⟨_, hpast.subset hmem, .inr ⟨List.cons_ne_nil _ _, h.2 hsmooth⟩⟩

-- A DELETE with a valid link of the donor, served while nobody else is at work. The
-- rail may answer whatever it likes.
inductive Deletes (A : Uuid) (world : World) : Except Exn Response → World → Prop
  | serve {request : Request} {token : String} {time : Time} {state : World × Session}
    {result : Except Exn Response}
      (hrequest : request.endpoint = .manageDelete token) (hserves : service.Serves world request state result)
      (hbegan : state.2.Began time)
      (htoken : verifyManageToken request.settings.settings.secretKey token time = .ok (some A))
      (hsmooth : state.2.Smooth) : Deletes A world result state.1

-- One such request.
theorem Deletes.step {result : Except Exn Response} (h : Deletes A world result world')
    (hunique : world.db.keys.Nodup) :
    (Query.openSubscriptions A).select world.db ≠ [] ∧ respond result = ⟨200, .status "cancelled"⟩ ∧
        CancelsOne A world.db world'.db ∨
      (Query.openSubscriptions A).select world.db = [] ∧ (respond result).status = 404 ∧
        world'.db = world.db := by
  cases h with
  | @serve request token time state _ hrequest hserves hbegan htoken hsmooth =>
      have hexec : request.handler.Exec service.alone (world, {}) state result := hserves
      obtain ⟨rows, hlook, hend⟩ := (System.obeys_alone (cancel_answers hrequest)).exec hexec
        hsmooth time A hbegan htoken
      have hrows := serves_looks hserves hlook
      rcases hend with ⟨rfl, rfl, hcommitted⟩ | ⟨hne, rfl⟩
      · refine .inr ⟨hrows.nil_eq.symm, rfl, ?_⟩
        rw [serves_db hserves, hcommitted]
        rfl
      · obtain ⟨sub, hsub, cancelledAt, hdb⟩ := served_cancellation hrequest hserves hbegan htoken rfl
        refine .inl ⟨List.ne_nil_of_mem hsub, rfl, ?_⟩
        rw [hdb]
        exact cancelsOne_of_cancel hunique hsub cancelledAt

-- A sequence of them, and what is true before each.
theorem deletes_run {worlds : ℕ → World} {results : ℕ → Except Exn Response} {count : ℕ}
    (hunique : (worlds 0).db.keys.Nodup)
    (hdeletes : ∀ i < count, Deletes A (worlds i) (results i) (worlds (i + 1))) :
    ∀ i ≤ count, (worlds i).db.keys.Nodup ∧
      ((Query.openSubscriptions A).select (worlds i).db).length =
        ((Query.openSubscriptions A).select (worlds 0).db).length - i ∧
      (worlds i).db.cancelledOrOwnedIds A = (worlds 0).db.cancelledOrOwnedIds A := by
  intro i
  induction i with
  | zero => exact fun _ => ⟨hunique, rfl, rfl⟩
  | succ i ih =>
      intro hle
      obtain ⟨hnodup, hlength, hids⟩ := ih (by omega)
      rcases (hdeletes i (by omega)).step hnodup with ⟨hopen, -, hone⟩ | ⟨hnone, -, hdb⟩
      · have hnext := hone.open_length hnodup
        exact ⟨hone.keys ▸ hnodup, by omega, hone.cancelledOrOwnedIds.trans hids⟩
      · rw [hnone, List.length_nil] at hlength
        rw [hdb]
        exact ⟨hnodup, by rw [hnone, List.length_nil]; omega, hids⟩

theorem repeated_cancellation {pool : ServicePool} (hrun : service.Run (fun _ _ => True) ⟨{}, []⟩ pool)
    {worlds : ℕ → World} {results : ℕ → Except Exn Response} {count : ℕ} (hfirst : worlds 0 = pool.shared)
    (hdeletes : ∀ i < count, Deletes A (worlds i) (results i) (worlds (i + 1))) :
    let openCount := ((Query.openSubscriptions A).select pool.shared.db).length
    (∀ i < count, i < openCount → respond (results i) = ⟨200, .status "cancelled"⟩ ∧
      CancelsOne A (worlds i).db (worlds (i + 1)).db) ∧
    (∀ i < count, openCount ≤ i → (respond (results i)).status = 404 ∧ (worlds (i + 1)).db = (worlds i).db) ∧
    (openCount ≤ count → (worlds openCount).db.cancelledIds = pool.shared.db.cancelledOrOwnedIds A) := by
  intro openCount
  have hunique : (worlds 0).db.keys.Nodup := hfirst ▸ (consistent_run hrun).1.keys_nodup
  have hopen : ((Query.openSubscriptions A).select (worlds 0).db).length = openCount := by rw [hfirst]
  have hbefore := deletes_run hunique hdeletes
  refine ⟨fun i hi hlt => ?_, fun i hi hle => ?_, fun hle => ?_⟩
  · obtain ⟨hnodup, hlength, -⟩ := hbefore i (by omega)
    rcases (hdeletes i hi).step hnodup with ⟨-, hanswer, hone⟩ | ⟨hnone, -, -⟩
    · exact ⟨hanswer, hone⟩
    · rw [hnone, List.length_nil] at hlength
      omega
  · obtain ⟨hnodup, hlength, -⟩ := hbefore i (by omega)
    rcases (hdeletes i hi).step hnodup with ⟨hne, -, -⟩ | ⟨-, hanswer, hdb⟩
    · have hpos := List.length_pos_of_ne_nil hne
      omega
    · exact ⟨hanswer, hdb⟩
  · obtain ⟨-, hlength, hids⟩ := hbefore openCount hle
    have hnone : (Query.openSubscriptions A).select (worlds openCount).db = [] :=
      List.eq_nil_of_length_eq_zero (by omega)
    rw [cancelledIds_of_none_open hnone, hids, hfirst]

end Served

open Trial

-- Further cancellations go smoothly, one after the other.
def cancelsAgain : ℕ → ℕ → World → Bool
  | 0, _, _ => true
  | count + 1, n, world => (Prog.follow service.alone (fun state => reply n state.1 state.2)
      (world, {}) manageDelete.handler).any fun finish =>
        (finish.1.2.Began clock ∧ finish.1.2.Smooth) ∧ cancelsAgain count (n + 1) finish.1.1 = true

theorem deletes_of_cancelsAgain {count n : ℕ} {world : World} (h : cancelsAgain (count + 1) n world = true) :
    ∃ state result, Deletes amina.id world result state ∧ cancelsAgain count (n + 1) state = true := by
  obtain ⟨state, result, hserves, ⟨hbegan, hsmooth⟩, hagain⟩ := exists_serves world manageDelete (reply n)
    (fun state _ => (state.2.Began clock ∧ state.2.Smooth) ∧ cancelsAgain count (n + 1) state.1 = true) h
  have htoken : verifyManageToken secretKey manageToken clock = .ok (some amina.id) := by decide +kernel
  exact ⟨state.1, result, .serve rfl hserves hbegan htoken hsmooth, hagain⟩

-- A donor who has set up a monthly gift twice asks for its cancellation three
-- times: each of the first two requests cancels one of them.
theorem repeated_cancellation_thrice : ∃ pool first second third result result' result'',
    service.Run (fun _ _ => True) ⟨{}, []⟩ pool ∧ Deletes amina.id pool.shared result first ∧
    Deletes amina.id first result' second ∧ Deletes amina.id second result'' third ∧
    respond result = ⟨200, .status "cancelled"⟩ ∧ CancelsOne amina.id pool.shared.db first.db ∧
    respond result' = ⟨200, .status "cancelled"⟩ ∧ CancelsOne amina.id first.db second.db ∧
    second.db.cancelledIds = pool.shared.db.cancelledOrOwnedIds amina.id ∧
    (respond result'').status = 404 ∧ third.db = second.db := by
  obtain ⟨pool, hrun, hlength, hagain⟩ := exists_run (fun _ _ => True)
    (fun pool => ((Query.openSubscriptions amina.id).select pool.shared.db).length = 2 ∧
      cancelsAgain 3 2 pool.shared = true) twoMonthlies (by decide +kernel)
  obtain ⟨first, result, hfirst, hagain⟩ := deletes_of_cancelsAgain hagain
  obtain ⟨second, result', hsecond, hagain⟩ := deletes_of_cancelsAgain hagain
  obtain ⟨third, result'', hthird, -⟩ := deletes_of_cancelsAgain hagain
  have hdeletes : ∀ i < 3, Deletes amina.id ([pool.shared, first, second, third].getD i {})
      ([result, result', result''].getD i result) ([pool.shared, first, second, third].getD (i + 1) {}) := by
    intro i hi
    have hcases : i = 0 ∨ i = 1 ∨ i = 2 := by omega
    rcases hcases with rfl | rfl | rfl
    · exact hfirst
    · exact hsecond
    · exact hthird
  obtain ⟨hcancels, hlater, hall⟩ := @repeated_cancellation _ amina.id pool hrun _ _ 3 rfl hdeletes
  obtain ⟨hanswer, hone⟩ := hcancels 0 (by decide) (by omega)
  obtain ⟨hanswer', hone'⟩ := hcancels 1 (by decide) (by omega)
  obtain ⟨hanswer'', hsame⟩ := hlater 2 (by decide) (by omega)
  have hdone := hall (by omega)
  rw [hlength] at hdone
  exact ⟨pool, first, second, third, result, result', result'', hrun, hfirst, hsecond, hthird, hanswer, hone,
    hanswer', hone', hdone, hanswer'', hsame⟩

end BridgeOfHope
