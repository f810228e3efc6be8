import BridgeOfHope.Donations.Giver

namespace BridgeOfHope

open Process Payments Donations

-- What a give or a newsletter request does to the donors. All of it is written
-- before the rail is asked, and the commit is the last step.

def Event.commits : Event → Bool
  | ⟨.commit, .ok _⟩ => true
  | _ => false

-- The first thing that the clock told the request.
def Session.clock (s : Session) : Option Time := (s.past.filterMap Event.time).getLast?

theorem Session.clock_now {s : Session} (h : s.clock = none) (time : Time) :
    (s.update .now time).clock = some time := by
  have hnone : s.past.filterMap Event.time = [] := List.getLast?_eq_none_iff.mp h
  simp [Session.clock, Session.update, Event.time, hnone]

theorem Session.clock_mono {s s' : Session} {time : Time} (h : s.clock = some time)
    (hpast : s.past <:+ s'.past) :
    s'.clock = some time := by
  obtain ⟨later, hlater⟩ := hpast
  have hlast : (s.past.filterMap Event.time).getLast? = some time := h
  rw [Session.clock, ← hlater, List.filterMap_append, List.getLast?_append, hlast]
  rfl

def Op.sparesDonors : Op → Bool
  | .push stmt => stmt.target ≠ .donors
  | .commit => false
  | _ => true

def Stmt.onDonors (stmt : Stmt) : Bool := stmt.target = .donors

abbrev SparesDonors {α : Type} (program : Act α) : Prop := program.Only fun op => op.sparesDonors = true

theorem spares_flush : SparesDonors flush := only_flush rfl

theorem spares_scalar (query : Query) : SparesDonors (scalar query) := only_scalar rfl rfl

theorem spares_sendEmail (settings : Settings) (to_ subject : String) (template : Template) :
    SparesDonors (sendEmail settings to_ subject template) := by
  unfold sendEmail
  split
  · exact .bind (.perform rfl) fun _ => .ofExcept
  · exact .perform rfl

-- After the donor is found, a give request writes to the other tables only.

theorem spares_recordWebhookEvent (args : EventArgs) : SparesDonors (Ledger.recordWebhookEvent args) := by
  refine .bind .ofExcept fun id => .bind (spares_scalar _) fun existing => ?_
  cases existing with
  | some row => trivial
  | none =>
      refine .bind (.perform rfl) fun time => .bind (.perform rfl) fun rowId =>
        .bind .ofExcept fun eventType => ?_
      exact .bind (.perform rfl) fun _ => .bind spares_flush fun _ => trivial

theorem spares_recordDonation (args : DonationArgs) : SparesDonors (Ledger.recordDonation args) := by
  refine .bind (spares_scalar _) fun existing => ?_
  cases existing with
  | some donation => trivial
  | none =>
      refine .bind (.perform rfl) fun time => .bind (.perform rfl) fun id => ?_
      exact .bind (.perform rfl) fun _ => .bind spares_flush fun _ => trivial

theorem spares_markEventProcessed (event : WebhookEvent) (error : Option String) :
    SparesDonors (Ledger.markEventProcessed event error) :=
  .bind (.perform rfl) fun _ => .bind (.bind (.perform rfl) fun _ => trivial) fun _ => spares_flush

theorem Op.sparesDonors_of_outer {op : Op} (h : op.outer = true) : op.sparesDonors = true := by
  cases op with
  | push stmt => cases h
  | commit => cases h
  | _ => rfl

theorem spares_settlement {eventType subject : String} {args : Json → DonationArgs} {tail : Act Unit}
    (htail : SparesDonors tail) :
    SparesDonors (settlement eventType subject args tail) := by
  refine .bind (.bind (.perform rfl) fun _ => .bind (.perform rfl) fun _ => trivial) fun payload => ?_
  refine .bind .ofExcept fun _ => .bind .ofExcept fun _ => .bind (spares_recordWebhookEvent _) fun found => ?_
  obtain ⟨event, isNew⟩ := found
  cases isNew with
  | false => trivial
  | true =>
      exact .bind (spares_recordDonation _) fun _ => .bind (spares_markEventProcessed event none) fun _ => htail

theorem spares_settleOneOff (settings : Settings) (body : OneOffCreate) (donor : Donor)
    (result : OneOffResult) :
    SparesDonors (settleOneOff settings body donor result) := by
  refine .bind .ofExcept fun paymentId => ?_
  refine @spares_settlement "payment.succeeded" paymentId
    (fun payload => oneOffArgs body donor.id paymentId payload) _ ?_
  exact .bind .ofExcept fun amount => .bind (.perform rfl) fun time => spares_sendEmail _ _ _ _

section Platform

variable [Platform]

theorem spares_settleSubscription (settings : Settings) (body : SubscriptionCreate) (donor : Donor)
    (subscription : Subscription) : SparesDonors (settleSubscription settings body donor subscription) := by
  refine .bind (.bind (.perform rfl) fun _ => .bind (.bind (.perform rfl) fun _ => trivial) fun _ =>
    spares_flush) fun _ => ?_
  refine @spares_settlement "subscription.activated" subscription.providerSubscriptionId
    (fun payload => initialArgs body donor.id subscription payload) _ ?_
  exact .bind (.perform rfl) fun time => .bind .ofExcept fun amount => spares_sendEmail _ _ _ _

theorem spares_createSubscription (provider : Provider) (gift : Gift) :
    SparesDonors (provider.createSubscription gift) := by
  cases provider with
  | test => exact .bind (.perform rfl) fun _ => .bind (.perform rfl) fun _ => trivial
  | stripe s => exact .bind (.perform rfl) fun _ => .bind .ofExcept fun _ => trivial
  | paypal s base => trivial
  | mpesa s host => trivial
  | btc s => trivial

end Platform

theorem Db.donors_applyAll (db : Db) (stmts : List Stmt) :
    (db.applyAll stmts).donors = (db.applyAll (stmts.filter Stmt.onDonors)).donors := by
  have hcongr (db db' : Db) (stmts : List Stmt) (h : db.donors = db'.donors) :
      (db.applyAll stmts).donors = (db'.applyAll stmts).donors := by
    induction stmts generalizing db db' with
    | nil => exact h
    | cons stmt stmts ih =>
        refine ih (db.apply stmt) (db'.apply stmt) ?_
        cases stmt <;> simp [Db.apply, h]
  induction stmts generalizing db with
  | nil => rfl
  | cons stmt stmts ih =>
      rw [Db.applyAll_cons, ih]
      by_cases hdonors : stmt.onDonors = true
      · rw [List.filter_cons_of_pos hdonors, Db.applyAll_cons]
      · rw [List.filter_cons_of_neg hdonors]
        refine hcongr _ _ _ ?_
        cases stmt <;> first | rfl | exact absurd rfl hdonors

-- The request has not committed yet, and these are the statements about donors
-- that it is going to commit.
structure Tracks (world : World) (stmts : List Stmt) (state : World × Session) : Prop where
  db : state.1.db = world.db
  uncommitted : state.2.past.any Event.commits = false
  pending : state.2.broken = false → state.2.pending.filter Stmt.onDonors = stmts

-- What the request leaves: nothing, and then it has raised, or these statements about donors.
def Leaves {α : Type} (world : World) (stmts : List Stmt) (state : World × Session)
    (result : Except Exn α) : Prop :=
  state.2.past.any Event.commits = false ∧ state.1.db = world.db ∧ (∃ error, result = .error error) ∨
    state.2.past.any Event.commits = true ∧ state.1.db.donors = (world.db.applyAll stmts).donors

theorem Tracks.leaves {α : Type} {world : World} {stmts : List Stmt} {state : World × Session}
    (h : Tracks world stmts state) (stmts' : List Stmt) (error : Exn) :
    Leaves (α := α) world stmts' state (.error error) :=
  .inl ⟨h.uncommitted, h.db, error, rfl⟩

theorem tracks_start (world : World) : Tracks world [] (world, {}) := ⟨rfl, rfl, fun _ => rfl⟩

section Exec

variable [Platform] {world : World} {stmts : List Stmt} {state state' : World × Session} {α β : Type}

theorem Tracks.update (h : Tracks world stmts state) {op : Op} {ans : Ans op}
    (hspares : op.sparesDonors = true) :
    Tracks world stmts (service.alone.update state op ans) := by
  have hcommit : (⟨op, ans⟩ : Event) ≠ ⟨.commit, .ok ()⟩ := by
    intro hcommit
    cases hcommit
    cases hspares
  refine ⟨(effect_quiet hcommit).trans h.db, ?_, fun hbroken => ?_⟩
  · show (Event.commits ⟨op, ans⟩ || state.2.past.any Event.commits) = false
    rw [h.uncommitted]
    cases op with
    | commit => cases hspares
    | _ => rfl
  · cases op with
    | push stmt =>
        show (state.2.flushed ++ (state.2.unflushed ++ [stmt])).filter Stmt.onDonors = stmts
        have hother : stmt.onDonors = false := by simpa [Op.sparesDonors, Stmt.onDonors] using hspares
        have hpending : (state.2.flushed ++ state.2.unflushed).filter Stmt.onDonors = stmts := h.pending hbroken
        rw [← List.append_assoc, List.filter_append, hpending]
        simp [hother]
    | flush => cases ans with
      | ok _ => simpa [Session.pending, service, System.alone, Session.update,
        Session.advance] using h.pending hbroken
      | error _ => cases hbroken
    | query query => cases ans with
      | ok _ => exact h.pending hbroken
      | error _ => cases hbroken
    | commit => cases hspares
    | _ => exact h.pending hbroken

theorem Tracks.push (h : Tracks world stmts state) {stmt : Stmt} (hdonors : stmt.onDonors = true) :
    Tracks world (stmts ++ [stmt]) (service.alone.update state (.push stmt) ()) := by
  refine ⟨h.db, h.uncommitted, fun hbroken => ?_⟩
  show (state.2.flushed ++ (state.2.unflushed ++ [stmt])).filter Stmt.onDonors = _
  have hpending : (state.2.flushed ++ state.2.unflushed).filter Stmt.onDonors = stmts := h.pending hbroken
  rw [← List.append_assoc, List.filter_append, hpending]
  simp [hdonors]

theorem Tracks.exec {program : Act α} {result : Except Exn α} (h : Tracks world stmts state)
    (honly : SparesDonors program) (hexec : program.Exec service.alone state state' result) :
    Tracks world stmts state' := by
  have hobeys : program.Obeys service.alone (fun _ _ => True) (fun state _ => Tracks world stmts state) state :=
    honly.obeys (Tracks world stmts) (fun _ _ _ htracks hop => htracks.update hop) (fun _ _ _ _ => trivial)
      (fun _ _ htracks => htracks) h
  exact hobeys.exec hexec

-- The rest of a program that leaves what is tracked so far.
def Finishes (program : Act α) : Prop :=
  ∀ world stmts state state' result, Tracks world stmts state → program.Exec service.alone state state' result →
    Leaves world stmts state' result

theorem Finishes.seq {program : Act α} {rest : α → Act β} (honly : SparesDonors program)
    (h : ∀ value, Finishes (rest value)) : Finishes (program >>= rest) := by
  intro world stmts state state' result htracks hexec
  rcases Prog.exec_bind.mp hexec with ⟨mid, value, hfirst, hrest⟩ | ⟨error, hfirst, rfl⟩
  · exact h value _ _ _ _ _ (htracks.exec honly hfirst) hrest
  · exact (htracks.exec honly hfirst).leaves stmts error

theorem exec_flush {result : Except Exn Unit} (hexec : flush.Exec service.alone state state' result)
    (hok : result = .ok ()) : state.2.broken = false ∧ state' = service.alone.update state .flush (.ok ()) := by
  obtain ⟨answer, hanswer, hrest⟩ := Prog.exec_call.mp hexec
  obtain ⟨rfl, rfl⟩ := Prog.exec_ofExcept.mp hrest
  subst hok
  exact ⟨hanswer.1, rfl⟩

theorem finishes_commit {rest : Unit → Act β} (h : (rest ()).Only fun _ => False) :
    Finishes (commit >>= rest) := by
  intro world stmts state state' result htracks hexec
  have hquiet {mid : World × Session} {result : Except Exn β}
      (hrest : (rest ()).Exec service.alone mid state' result) :
      state' = mid := by
    cases hprogram : rest () with
    | ret value =>
        rw [hprogram] at hrest
        exact (Prog.exec_ret.mp hrest).1
    | raise error =>
        rw [hprogram] at hrest
        exact (Prog.exec_raise.mp hrest).1
    | call op next =>
        rw [hprogram] at h
        exact h.1.elim
  have hsplit : commit >>= rest = flush >>= fun _ => perform .commit >>= fun answer =>
      Prog.ofExcept answer >>= rest := by
    simp only [commit, Prog.bind_assoc]
  rw [hsplit] at hexec
  rcases Prog.exec_bind.mp hexec with ⟨mid, value, hflush, hrest⟩ | ⟨error, hflush, rfl⟩
  · obtain ⟨hsound, rfl⟩ := exec_flush hflush rfl
    have htracks' := htracks.exec spares_flush hflush
    obtain ⟨answer, hanswer, hlast⟩ := Prog.exec_call.mp hrest
    cases answer with
    | ok value =>
        rw [hquiet hlast]
        refine .inr ⟨rfl, ?_⟩
        show (state.1.db.applyAll (state.2.flushed ++ state.2.unflushed)).donors = _
        have hpending :
            (state.2.flushed ++ state.2.unflushed).filter Stmt.onDonors = stmts := htracks.pending hsound
        rw [htracks.db, Db.donors_applyAll, hpending]
    | error error =>
        obtain ⟨rfl, rfl⟩ := Prog.exec_raise.mp hlast
        refine .inl ⟨?_, htracks'.db, error, rfl⟩
        show (false || _) = false
        rw [Bool.false_or]
        exact htracks'.uncommitted
  · exact (htracks.exec spares_flush hflush).leaves stmts error

theorem finishes_oneOff (settings : Settings) (body : OneOffCreate) (provider : Provider) (donor : Donor) :
    Finishes (provider.createOneOff (gift body) >>= finishOneOff settings body provider donor) := by
  refine .seq ((only_createOneOff provider (gift body)).mono fun op => Op.sparesDonors_of_outer)
    fun result => ?_
  unfold finishOneOff
  have hlast : Finishes (commit >>= fun _ => Prog.ofExcept (oneOffResponse result) >>= fun response =>
      (pure ⟨200, .oneOff response⟩ : Act Response)) := finishes_commit (.bind .ofExcept fun _ => trivial)
  cases provider with
  | test => exact .seq (spares_settleOneOff settings body donor result) fun _ => hlast
  | stripe _ | paypal _ _ | mpesa _ _ | btc _ => exact hlast

theorem finishes_subscription (settings : Settings) (body : SubscriptionCreate)
    (provider : Provider) (donor : Donor) :
    Finishes (provider.createSubscription (gift body) >>= finishSubscription settings body provider donor) := by
  refine .seq (spares_createSubscription provider (gift body)) fun result => ?_
  unfold finishSubscription
  refine .seq .ofExcept fun rail => .seq (.perform rfl) fun id => .seq (.perform rfl) fun _ =>
    .seq spares_flush fun _ => ?_
  cases provider with
  | test => exact .seq (spares_settleSubscription settings body donor _) fun _ => finishes_commit trivial
  | stripe _ | paypal _ _ | mpesa _ _ | btc _ => exact finishes_commit trivial

end Exec

section Served

variable [Platform] {world : World} {request : Request} {state : World × Session} {body : GiveBody}
    {payload : DonorPayload}
  {consent : Bool} {source : String} {α β : Type}

-- The first statement of a request looks at the committed tables.
theorem exec_lookup {query : Query} {found : Option query.Row}
    (hexec : (scalar query).Exec service.alone (world, {}) state (.ok found)) :
    Tracks world [] state ∧ state.2.clock = none ∧ (∀ row ∈ found, row ∈ query.select world.db) ∧
      (found = none → query.select world.db = []) := by
  refine ⟨(tracks_start world).exec (spares_scalar query) hexec, ?_⟩
  rcases Prog.exec_bind.mp hexec with ⟨mid, rows, hscalars, hrest⟩ | ⟨error, -, hresult⟩
  · obtain ⟨rfl, hfound⟩ := Prog.exec_ret.mp hrest
    cases hfound
    rcases Prog.exec_bind.mp hscalars with ⟨mid', value, hflush, hquery⟩ | ⟨error, -, hresult⟩
    · obtain ⟨-, rfl⟩ := exec_flush hflush rfl
      obtain ⟨answer, hanswer, hrest⟩ := Prog.exec_call.mp hquery
      obtain ⟨rfl, rfl⟩ := Prog.exec_ofExcept.mp hrest
      refine ⟨rfl, fun row hrow => hanswer.2.subset (List.mem_of_mem_head? hrow), fun hnone => ?_⟩
      rw [List.head?_eq_none_iff] at hnone
      exact (hnone ▸ hanswer.2).nil_eq.symm
    · cases hresult
  · cases hresult

-- How a give request finds or makes its donor, and records the consent.
structure DonorStep.Chosen (step : DonorStep) (world : World) (payload : DonorPayload)
    (consent : Bool) (source : String)
    (s : Session) : Prop where
  origin : step.isNew = false ∧ step.row ∈ (Query.donorByEmail payload.email).select world.db ∨
    step.isNew = true ∧ ∃ id, step.row = newDonor payload id
  columns : consent = false ∧ step.columns = none ∨ consent = true ∧ ∃ time, s.clock = some time ∧
    step.columns = some (step.row.changes (consentColumns source time))

theorem exec_getOrCreateDonor {result : Except Exn Donor}
    (hexec : (getOrCreateDonor payload).Exec service.alone (world, {}) state result) :
    (∃ stmts, Tracks world stmts state) ∧ ∀ donor, result = .ok donor → state.2.clock = none ∧ ∃ isNew,
      Tracks world (DonorStep.stmts ⟨donor, isNew, none⟩) state ∧
        DonorStep.Chosen ⟨donor, isNew, none⟩ world payload false source state.2 := by
  rcases Prog.exec_bind.mp hexec with ⟨mid, found, hlookup, hrest⟩ | ⟨error, hlookup, rfl⟩
  · obtain ⟨htracks, hclock, hfound, -⟩ := exec_lookup hlookup
    cases found with
    | some donor =>
        obtain ⟨rfl, rfl⟩ := Prog.exec_ret.mp hrest
        refine ⟨⟨_, htracks⟩, fun donor' hdonor => ?_⟩
        cases hdonor
        exact ⟨hclock, false, htracks, .inl ⟨rfl, hfound donor rfl⟩, .inl ⟨rfl, rfl⟩⟩
    | none =>
        obtain ⟨id, -, hrest⟩ := Prog.exec_call.mp hrest
        obtain ⟨answer, -, hrest⟩ := Prog.exec_call.mp hrest
        have hstored := (htracks.update rfl : Tracks world [] (service.alone.update mid .uuid7 id)).push
          (show (Stmt.insertDonor (newDonor payload id)).onDonors = true from rfl)
        have hrest' : (flush >>= fun _ =>
            Prog.ret (newDonor payload id) : Act Donor).Exec service.alone _ state result := hrest
        rcases Prog.exec_bind.mp hrest' with ⟨mid', value, hflush, hlast⟩ | ⟨error, hflush, rfl⟩
        · obtain ⟨rfl, rfl⟩ := Prog.exec_ret.mp hlast
          have htracks' := hstored.exec spares_flush hflush
          obtain ⟨-, rfl⟩ := exec_flush hflush rfl
          refine ⟨⟨_, htracks'⟩, fun donor hdonor => ?_⟩
          cases hdonor
          exact ⟨hclock, true, htracks', .inr ⟨rfl, id, rfl⟩, .inl ⟨rfl, rfl⟩⟩
        · refine ⟨⟨_, hstored.exec spares_flush hflush⟩, fun donor hdonor => ?_⟩
          cases hdonor
  · refine ⟨⟨_, (tracks_start world).exec (spares_scalar _) hlookup⟩, fun donor hdonor => ?_⟩
    cases hdonor

theorem exec_giver {result : Except Exn Donor}
    (hexec : (giver payload consent source).Exec service.alone (world, {}) state result) :
    (∃ stmts, Tracks world stmts state) ∧
      ∀ donor, result = .ok donor → ∃ step : DonorStep, Tracks world step.stmts state ∧
        step.Chosen world payload consent source state.2 := by
  rcases Prog.exec_bind.mp hexec with ⟨mid, donor, hfirst, hrest⟩ | ⟨error, hfirst, rfl⟩
  · obtain ⟨-, hdonor⟩ := @exec_getOrCreateDonor _ _ _ _ source _ hfirst
    obtain ⟨hclock, isNew, htracks, hchosen⟩ := hdonor donor rfl
    cases consent with
    | false =>
        obtain ⟨rfl, rfl⟩ := Prog.exec_ret.mp hrest
        exact ⟨⟨_, htracks⟩, fun _ _ => ⟨_, htracks, hchosen⟩⟩
    | true =>
        obtain ⟨time, -, hrest⟩ := Prog.exec_call.mp hrest
        obtain ⟨answer, -, hrest⟩ := Prog.exec_call.mp hrest
        obtain ⟨rfl, rfl⟩ := Prog.exec_ret.mp hrest
        have htracks' := (htracks.update rfl : Tracks world _ (service.alone.update mid .now time)).push
          (show (Stmt.updateDonor donor.id (donor.changes (consentColumns source time))).onDonors =
            true from rfl)
        refine ⟨⟨_, htracks'⟩, fun _ _ =>
          ⟨⟨donor, isNew, some (donor.changes (consentColumns source time))⟩, ?_,
          hchosen.origin, .inr ⟨rfl, time, Session.clock_now hclock time, rfl⟩⟩⟩
        simpa [DonorStep.stmts] using htracks'
  · obtain ⟨htracks, -⟩ := @exec_getOrCreateDonor _ _ _ _ source _ hfirst
    refine ⟨htracks, fun donor hdonor => ?_⟩
    cases hdonor

-- A gift that is committed has written its donor step. Any other one has raised and
-- written nothing.
theorem exec_give {rest : Provider → Donor → Act Response} {name : String} {settings : Settings}
    {result : Except Exn Response} (hfinishes : ∀ provider donor, Finishes (rest provider donor))
    (hexec : (selectProvider name settings >>= fun provider =>
      giver payload consent source >>= rest provider).Exec
      service.alone (world, {}) state result) :
    state.2.past.any Event.commits = false ∧ state.1.db = world.db ∧ (∃ error, result = .error error) ∨
      state.2.past.any Event.commits = true ∧
        ∃ step : DonorStep, step.Chosen world payload consent source state.2 ∧
        state.1.db.donors = (world.db.applyAll step.stmts).donors := by
  rcases selectProvider_cases name settings with ⟨provider, -, hselect⟩ | ⟨error, hselect⟩
  · rw [hselect] at hexec
    have hserved : (giver payload consent source >>= rest provider).Exec service.alone (world, {})
        state result := hexec
    rcases Prog.exec_bind.mp hserved with ⟨mid, donor, hgiver, hfinish⟩ | ⟨error, hgiver, rfl⟩
    · obtain ⟨-, hgiven⟩ := exec_giver hgiver
      obtain ⟨step, htracks, hchosen⟩ := hgiven donor rfl
      rcases hfinishes provider donor _ _ _ _ _ htracks hfinish with hnothing | ⟨hcommits, hdonors⟩
      · exact .inl hnothing
      · refine .inr ⟨hcommits, step, ⟨hchosen.origin, hchosen.columns.imp_right ?_⟩, hdonors⟩
        rintro ⟨hconsent, time, hclock, hcolumns⟩
        exact ⟨hconsent, time, Session.clock_mono hclock (past_of_exec hfinish), hcolumns⟩
    · obtain ⟨⟨stmts, htracks⟩, -⟩ := exec_giver hgiver
      exact .inl ⟨htracks.uncommitted, htracks.db, error, rfl⟩
  · rw [hselect] at hexec
    obtain ⟨hstart, hresult⟩ := Prog.exec_raise.mp hexec
    cases hstart
    exact .inl ⟨rfl, rfl, error, hresult⟩

end Served

end BridgeOfHope
