import BridgeOfHope.Consistency
import BridgeOfHope.Donations.Tracks

namespace BridgeOfHope

open Process Payments Donations

-- The marketing consent of a donor, as the fold of what the donor has asked for.

inductive ConsentAct : Type
  | optIn (email : String) (time : Time) (source : String)
  | optOut (donorId : Uuid)
deriving DecidableEq

namespace ConsentAct

def optsIn : ConsentAct → Bool
  | optIn .. => true
  | optOut _ => false

-- When and where the donor opted in.
def record : ConsentAct → Option (Time × String)
  | optIn _ time source => some (time, source)
  | optOut _ => none

def columns : ConsentAct → List DonorSet
  | optIn _ time source => consentColumns source time
  | optOut _ => [.marketingConsent false]

def concerns [Platform] : ConsentAct → Donor → Bool
  | optIn email _ _, donor => Platform.citext donor.email = Platform.citext email
  | optOut donorId, donor => donor.id = donorId

def on [Platform] (act : ConsentAct) (donor : Donor) : Donor :=
  if act.concerns donor then donor.setAll act.columns else donor

end ConsentAct

-- The three consent columns say what these acts, in their order, come to.
structure Reflects (acts : List ConsentAct) (donor : Donor) : Prop where
  given : donor.marketingConsent = true ↔ ∃ act ∈ acts.getLast?, act.optsIn = true
  recordedAt : donor.consentRecordedAt = (acts.filterMap ConsentAct.record).getLast?.map Prod.fst
  source : donor.consentSource = (acts.filterMap ConsentAct.record).getLast?.map Prod.snd

theorem reflects_nil {donor : Donor} (hgiven : donor.marketingConsent = false)
    (htime : donor.consentRecordedAt = none)
    (hsource : donor.consentSource = none) : Reflects [] donor where
  given := by simp [hgiven]
  recordedAt := htime
  source := hsource

-- A row without any consent has nothing for an opt-out to change.
theorem Reflects.of_optOuts {acts : List ConsentAct} {donor : Donor} (h : Reflects [] donor)
    (hacts : ∀ act ∈ acts, act.optsIn = false) : Reflects acts donor := by
  have hnone : acts.filterMap ConsentAct.record = [] := by
    refine List.filterMap_eq_nil_iff.mpr fun act hact => ?_
    cases act with
    | optIn email time source => cases hacts _ hact
    | optOut donorId => rfl
  constructor
  · have hgiven : ¬ donor.marketingConsent = true := by simpa using h.given
    refine iff_of_false hgiven ?_
    rintro ⟨act, hlast, hoptsIn⟩
    rw [hacts act (List.mem_of_mem_getLast? hlast)] at hoptsIn
    cases hoptsIn
  · simpa [hnone] using h.recordedAt
  · simpa [hnone] using h.source

theorem Reflects.step {acts : List ConsentAct} {donor : Donor} (h : Reflects acts donor) (act : ConsentAct) :
    Reflects (acts ++ [act]) (donor.setAll act.columns) := by
  cases act with
  | optIn email time source =>
      constructor <;> simp [ConsentAct.columns, consentColumns, Donor.setAll, Donor.set,
        ConsentAct.optsIn, ConsentAct.record]
  | optOut donorId =>
      constructor
      · simp [ConsentAct.columns, Donor.setAll, Donor.set, ConsentAct.optsIn]
      · simpa [ConsentAct.columns, Donor.setAll, Donor.set, ConsentAct.record] using h.recordedAt
      · simpa [ConsentAct.columns, Donor.setAll, Donor.set, ConsentAct.record] using h.source

theorem Donor.setAll_changes (donor : Donor) (act : ConsentAct) :
    donor.setAll (donor.changes act.columns) = donor.setAll act.columns := by
  cases act with
  | optIn email time source => exact donor.setAll_consent source time
  | optOut donorId =>
      cases donor
      simp only [Donor.changes, ConsentAct.columns, Donor.set, List.filter_cons, List.filter_nil]
      split <;> simp_all [Donor.setAll, Donor.set]

-- A request counts when it was answered. One that raises is rolled back and counts as
-- nothing, unless it raised after its commit.
def Session.counts (s : Session) : Except Exn Response → Bool
  | .ok _ => true
  | .error _ => s.past.any Event.commits

theorem Session.counts_of_commits {s : Session} (hcommits : s.past.any Event.commits = true)
    (result : Except Exn Response) : s.counts result = true := by
  cases result with
  | ok _ => rfl
  | error _ => exact hcommits

section Acts

variable [Platform] {request : Request} {act : ConsentAct} {donor : Donor}

theorem ConsentAct.concerns_setAll (act' : ConsentAct) (columns : List DonorSet) :
    act'.concerns (donor.setAll columns) = act'.concerns donor := by
  cases act' <;> simp [ConsentAct.concerns]

theorem ConsentAct.concerns_on (act act' : ConsentAct) :
    act'.concerns (act.on donor) = act'.concerns donor := by
  unfold ConsentAct.on
  split
  · exact act'.concerns_setAll _
  · rfl

-- What a request asks for, and when: an opt-in is dated by what the clock told the request first.
def consentAct (request : Request) (s : Session) (result : Except Exn Response) : Option ConsentAct :=
  if s.counts result then
    match request.endpoint with
    | .oneOff body =>
        if body.consent then some (.optIn body.donor.email (s.clock.getD 0) "give_form_oneoff") else none
    | .subscription body =>
        if body.consent then some (.optIn body.donor.email (s.clock.getD 0) "give_form_monthly") else none
    | .newsletterSubscribe body => some (.optIn body.email (s.clock.getD 0) "newsletter_double_optin")
    | .newsletterUnsubscribe donorId => (Platform.pgUuid donorId).toOption.map .optOut
    | _ => none
  else none

end Acts

theorem DonorStep.donors_applyAll (db : Db) (step : DonorStep) : (db.applyAll step.stmts).donors =
    (db.donors ++ if step.isNew then [step.row] else []).map fun row =>
      if row.id = step.row.id then row.setAll (step.columns.getD []) else row := by
  unfold DonorStep.stmts
  cases hnew : step.isNew <;> cases hcolumns : step.columns <;>
    simp [Db.applyAll, Db.apply]

section Step

variable [Platform] {world : World} {request : Request} {state : World × Session} {act : ConsentAct}

-- An act is about one donor only.
theorem ConsentAct.concerns_unique {rows : List Donor} {row row' : Donor}
    (hunique : (rows.flatMap Donor.keys).Nodup)
    (hrow : row ∈ rows) (hrow' : row' ∈ rows) (h : act.concerns row = true)
    (h' : act.concerns row' = true) : row = row' := by
  cases act with
  | optIn email time source =>
      simp only [ConsentAct.concerns, decide_eq_true_eq] at h h'
      have hkey : Key.donorEmail (Platform.citext row'.email) ∈ row.keys := by simp [Donor.keys, h, h']
      exact Db.row_unique hunique hrow hrow' hkey (by simp [Donor.keys])
  | optOut donorId =>
      simp only [ConsentAct.concerns, decide_eq_true_eq] at h h'
      have hkey : Key.donor row'.id ∈ row.keys := by simp [Donor.keys, h, h']
      exact Db.row_unique hunique hrow hrow' hkey (by simp [Donor.keys])

theorem ConsentAct.map_on {rows : List Donor} {row : Donor}
    (hunique : (rows.flatMap Donor.keys).Nodup) (hrow : row ∈ rows)
    (hconcerns : act.concerns row = true) :
    rows.map act.on = rows.map fun r => if r.id = row.id then r.setAll (row.changes act.columns) else r := by
  refine List.map_congr_left fun r hr => ?_
  have hid (h : r.id = row.id) : r = row :=
    Db.row_unique hunique hr hrow (show Key.donor row.id ∈ r.keys by simp [Donor.keys, h])
      (by simp [Donor.keys])
  unfold ConsentAct.on
  by_cases h : r = row
  · rw [h, if_pos hconcerns, if_pos rfl, Donor.setAll_changes]
  · have hother : act.concerns r ≠ true := fun hr' =>
      h (ConsentAct.concerns_unique hunique hr hrow hr' hconcerns)
    rw [if_neg hother, if_neg (mt hid h)]

theorem donor_keys_map {rows : List Donor} {f : Donor → Donor} (hid : ∀ row, (f row).id = row.id)
    (hemail : ∀ row, (f row).email = row.email) : (rows.map f).flatMap Donor.keys =
      rows.flatMap Donor.keys := by
  rw [List.flatMap_map]
  refine congrArg (List.flatMap · rows) (funext fun row => ?_)
  simp [Donor.keys, hid, hemail]

-- What one request makes of the donors: perhaps a new row, without any consent, and
-- then what the act asks for. Only an opt-out can be about nobody.
def ConsentStep (act : Option ConsentAct) (before after : List Donor) : Prop :=
  ∃ created, after = (before ++ created).map (fun row => act.elim row fun act => act.on row) ∧
    (∀ row ∈ created, Reflects [] row) ∧
      ∀ a ∈ act, a.optsIn = true → ∃ row ∈ before ++ created, a.concerns row = true

theorem consentStep_nothing {error : Exn} (hcommits : state.2.past.any Event.commits = false)
    (hdb : state.1.db = world.db) :
    ConsentStep (consentAct request state.2 (.error error)) world.db.donors state.1.db.donors := by
  unfold consentAct Session.counts
  rw [hcommits, hdb]
  exact ⟨[], by simp, by simp, by simp⟩

-- An opt-out of somebody who has no row.
theorem consentStep_nobody {donors : List Donor} (hnobody : ∀ row ∈ donors, act.concerns row = false)
    (hoptsOut : act.optsIn = false) : ConsentStep (some act) donors donors := by
  refine ⟨[], ?_, by simp, fun a ha hoptsIn => ?_⟩
  · have hsame : donors.map act.on = donors :=
      (List.map_congr_left fun row hrow => if_neg (by simp [hnobody row hrow])).trans (List.map_id _)
    simpa using hsame.symm
  · cases ha
    rw [hoptsOut] at hoptsIn
    cases hoptsIn

theorem consentStep_of_donors {db : Db} {after : List Donor} {step : DonorStep}
    (hdonors : after = (db.applyAll step.stmts).donors) (hunique : (after.flatMap Donor.keys).Nodup)
    (horigin : step.isNew = false ∧ step.row ∈ db.donors ∨ step.isNew = true ∧ Reflects [] step.row)
    {act : Option ConsentAct} (hcolumns : act = none ∧ step.columns = none ∨
      ∃ a, act = some a ∧ a.concerns step.row = true ∧ step.columns = some (step.row.changes a.columns)) :
    ConsentStep act db.donors after := by
  rw [DonorStep.donors_applyAll] at hdonors
  rw [hdonors, donor_keys_map (by intro row; split <;> simp) (by intro row; split <;> simp)] at hunique
  have hrow : step.row ∈ db.donors ++ if step.isNew then [step.row] else [] := by
    rcases horigin with ⟨-, hold⟩ | ⟨hnew, -⟩
    · exact List.mem_append_left _ hold
    · simp [hnew]
  refine ⟨if step.isNew then [step.row] else [], ?_, ?_, ?_⟩
  · rcases hcolumns with ⟨rfl, hcolumns⟩ | ⟨a, rfl, hconcerns, hcolumns⟩
    · simp [hdonors, hcolumns]
    · have hon := ConsentAct.map_on hunique hrow hconcerns
      rw [hdonors, hcolumns]
      exact hon.symm
  · intro row hmem
    rcases horigin with ⟨hold, -⟩ | ⟨hnew, hblank⟩
    · simp [hold] at hmem
    · rw [hnew] at hmem
      rw [List.mem_singleton.mp hmem]
      exact hblank
  · intro a ha _
    rcases hcolumns with ⟨rfl, -⟩ | ⟨a', rfl, hconcerns, -⟩
    · cases ha
    · cases ha
      exact ⟨step.row, hrow, hconcerns⟩

-- A subscriber without a row gets one that has the consent from the start.
theorem consentStep_of_insert {donors : List Donor} {row : Donor}
    (hunique : ((donors ++ [row.setAll act.columns]).flatMap Donor.keys).Nodup) (hblank : Reflects [] row)
    (hconcerns : act.concerns row = true) :
    ConsentStep (some act) donors (donors ++ [row.setAll act.columns]) := by
  have hkeys : (donors ++ [row.setAll act.columns]).flatMap Donor.keys =
      (donors ++ [row]).flatMap Donor.keys := by
    simp [Donor.keys]
  rw [hkeys] at hunique
  refine ⟨[row], ?_, by simpa using hblank, fun a ha _ => ?_⟩
  · have hon := ConsentAct.map_on hunique (List.mem_append_right donors List.mem_cons_self) hconcerns
    have hothers : ∀ r ∈ donors, r.id ≠ row.id := by
      intro r hr hid
      have hkey : Key.donor row.id ∈ r.keys := by simp [Donor.keys, hid]
      have hdisjoint := List.disjoint_of_nodup_append (List.flatMap_append ▸ hunique)
      exact hdisjoint (List.mem_flatMap.mpr ⟨r, hr, hkey⟩) (by simp [Donor.keys])
    show _ = (donors ++ [row]).map act.on
    rw [hon, List.map_append]
    congr 1
    · exact ((List.map_congr_left fun r hr => if_neg (hothers r hr)).trans (List.map_id _)).symm
    · simp [Donor.setAll_changes]
  · cases ha
    exact ⟨row, by simp, hconcerns⟩

-- The requests that can be about consent.
def Request.asksConsent (request : Request) : Bool :=
  match request.endpoint with
  | .oneOff _ | .subscription _ | .newsletterSubscribe _ | .newsletterUnsubscribe _ => true
  | _ => false

theorem serves_keys {result : Except Exn Response} (hunique : world.db.keys.Nodup)
    (hserves : service.Serves world request state result) : state.1.db.keys.Nodup := by
  have hinit : Consistent ⟨world, []⟩ := ⟨by simpa [entries] using hunique, by simp⟩
  have hrun := hserves.run.invariant_of_obeys handler_obeys hinit (by simp)
    fun _ _ _ h hproper _ hmove => h.step hproper hmove
  exact hrun.1.keys_nodup

theorem consentStep_give {payload : DonorPayload} {consent : Bool} {source : String}
    {result : Except Exn Response} (hunique : state.1.db.keys.Nodup)
    (hact : state.2.past.any Event.commits = true → consentAct request state.2 result =
      if consent then some (.optIn payload.email (state.2.clock.getD 0) source) else none)
    (hend : state.2.past.any Event.commits = false ∧ state.1.db = world.db ∧
        (∃ error, result = .error error) ∨ state.2.past.any Event.commits = true ∧
        ∃ step : DonorStep, step.Chosen world payload consent source state.2 ∧
        state.1.db.donors = (world.db.applyAll step.stmts).donors) :
    ConsentStep (consentAct request state.2 result) world.db.donors state.1.db.donors := by
  rcases hend with ⟨hcommits, hdb, error, rfl⟩ | ⟨hcommits, step, ⟨horigin, hcolumns⟩, hdonors⟩
  · exact consentStep_nothing hcommits hdb
  · have hrow : Platform.citext step.row.email = Platform.citext payload.email := by
      rcases horigin with ⟨-, hold⟩ | ⟨-, id, hrow⟩
      · simpa [Query.select, Query.table, Query.accepts] using (List.mem_filter.mp hold).2
      · rw [hrow, newDonor]
    rw [hact hcommits]
    refine consentStep_of_donors hdonors (Db.nodup_donors hunique) ?_ ?_
    · rcases horigin with ⟨hold, hmem⟩ | ⟨hnew, id, hrow⟩
      · exact .inl ⟨hold, (List.mem_filter.mp hmem).1⟩
      · rw [hrow]
        exact .inr ⟨hnew, reflects_nil rfl rfl rfl⟩
    · rcases hcolumns with ⟨rfl, hcolumns⟩ | ⟨rfl, time, hclock, hcolumns⟩
      · exact .inl ⟨rfl, hcolumns⟩
      · refine .inr ⟨.optIn payload.email time source, ?_, by simpa [ConsentAct.concerns] using hrow, hcolumns⟩
        rw [hclock]
        rfl

theorem consentStep_subscribe {body : NewsletterSubscribe} {result : Except Exn Response}
    (hrequest : request.endpoint = .newsletterSubscribe body) (hunique : state.1.db.keys.Nodup)
    (hexec : (Content.subscribe body).Exec service.alone (world, {}) state result) :
    ConsentStep (consentAct request state.2 result) world.db.donors state.1.db.donors := by
  have hact {time : Time} (hcommits : state.2.past.any Event.commits = true)
      (hclock : state.2.clock = some time) :
      consentAct request state.2 result = some (.optIn body.email time "newsletter_double_optin") := by
    simp only [consentAct, Session.counts_of_commits hcommits, hrequest, hclock, if_true, Option.getD_some]
  rcases Prog.exec_bind.mp hexec with ⟨mid, found, hlookup, hrest⟩ | ⟨error, hlookup, rfl⟩
  · obtain ⟨htracks, hclock, hfound, -⟩ := exec_lookup hlookup
    obtain ⟨time, -, hrest⟩ := Prog.exec_call.mp hrest
    have htracks : Tracks world [] (service.alone.update mid .now time) := htracks.update rfl
    have hclock := Session.clock_now hclock time
    have hlater : (service.alone.update mid .now time).2.past <:+ state.2.past := past_of_exec hrest
    have hcommit : Finishes (commit >>= fun _ => (Prog.ret ⟨200, .status "subscribed"⟩ : Act Response)) :=
      finishes_commit trivial
    cases found with
    | some donor =>
        obtain ⟨answer, -, hlast⟩ := Prog.exec_call.mp hrest
        have htracks := htracks.push (show (Stmt.updateDonor donor.id
          (donor.changes (Content.newsletterConsent time))).onDonors = true from rfl)
        rcases hcommit _ _ _ _ _ htracks hlast with ⟨hcommits, hdb, error, rfl⟩ | ⟨hcommits, hdonors⟩
        · exact consentStep_nothing hcommits hdb
        · rw [hact hcommits (Session.clock_mono hclock hlater)]
          have hmem := List.mem_filter.mp (hfound donor rfl)
          refine @consentStep_of_donors _ world.db _ ⟨donor, false, some _⟩ hdonors (Db.nodup_donors hunique)
            (.inl ⟨rfl, hmem.1⟩) _ (.inr ⟨_, rfl, ?_, rfl⟩)
          simpa [ConsentAct.concerns, Query.accepts] using hmem.2
    | none =>
        obtain ⟨id, -, hlast⟩ := Prog.exec_call.mp hrest
        obtain ⟨answer, -, hlast⟩ := Prog.exec_call.mp hlast
        have htracks := (htracks.update rfl : Tracks world [] (service.alone.update _ .uuid7 id)).push
          (show (Stmt.insertDonor ((Content.newSubscriber body id).setAll
            (Content.newsletterConsent time))).onDonors = true
            from rfl)
        rcases hcommit _ _ _ _ _ htracks hlast with ⟨hcommits, hdb, error, rfl⟩ | ⟨hcommits, hdonors⟩
        · exact consentStep_nothing hcommits hdb
        · rw [hact hcommits (Session.clock_mono hclock hlater)]
          have hunique' := Db.nodup_donors hunique
          rw [hdonors] at hunique' ⊢
          exact consentStep_of_insert hunique' (reflects_nil rfl rfl rfl)
            (by simp [ConsentAct.concerns, Content.newSubscriber])
  · have htracks := (tracks_start world).exec (spares_scalar _) hlookup
    exact consentStep_nothing htracks.uncommitted htracks.db

theorem consentStep_unsubscribe {donorId : String} {result : Except Exn Response}
    (hrequest : request.endpoint = .newsletterUnsubscribe donorId) (hunique : state.1.db.keys.Nodup)
    (hexec : (Content.unsubscribe donorId).Exec service.alone (world, {}) state result) :
    ConsentStep (consentAct request state.2 result) world.db.donors state.1.db.donors := by
  rcases Prog.exec_bind.mp hexec with ⟨start, id, hid, hrest⟩ | ⟨error, hid, rfl⟩
  · obtain ⟨rfl, hparsed⟩ := Prog.exec_ofExcept.mp hid
    have hact (hcounts : state.2.counts result = true) :
        consentAct request state.2 result = some (.optOut id) := by
      simp only [consentAct, hcounts, hrequest, if_true, ← hparsed]
      rfl
    rcases Prog.exec_bind.mp hrest with ⟨mid, found, hlookup, hrest⟩ | ⟨error, hlookup, rfl⟩
    · obtain ⟨htracks, -, hfound, hnobody⟩ := exec_lookup hlookup
      cases found with
      | some donor =>
          obtain ⟨answer, -, hlast⟩ := Prog.exec_call.mp hrest
          have htracks := htracks.push (show (Stmt.updateDonor donor.id
            (donor.changes [.marketingConsent false])).onDonors = true from rfl)
          have hcommit :
              Finishes (commit >>= fun _ => (Prog.ret ⟨200, .status "unsubscribed"⟩ : Act Response)) :=
            finishes_commit trivial
          rcases hcommit _ _ _ _ _ htracks hlast with ⟨hcommits, hdb, error, rfl⟩ | ⟨hcommits, hdonors⟩
          · exact consentStep_nothing hcommits hdb
          · rw [hact (Session.counts_of_commits hcommits result)]
            have hmem := List.mem_filter.mp (hfound donor rfl)
            refine @consentStep_of_donors _ world.db _ ⟨donor, false, some _⟩ hdonors (Db.nodup_donors hunique)
              (.inl ⟨rfl, hmem.1⟩) _ (.inr ⟨_, rfl, ?_, rfl⟩)
            simpa [ConsentAct.concerns, Query.accepts] using hmem.2
      | none =>
          -- Nobody has the id: the request is answered, and no row is about it.
          obtain ⟨rfl, rfl⟩ := Prog.exec_ret.mp hrest
          rw [hact rfl, htracks.db]
          refine consentStep_nobody (fun row hrow => ?_) rfl
          have hnone := List.filter_eq_nil_iff.mp (hnobody rfl) row hrow
          simpa [ConsentAct.concerns, Query.accepts] using hnone
    · have htracks := (tracks_start world).exec (spares_scalar _) hlookup
      exact consentStep_nothing htracks.uncommitted htracks.db
  · obtain ⟨rfl, -⟩ := Prog.exec_ofExcept.mp hid
    exact consentStep_nothing rfl rfl

theorem served_consent {result : Except Exn Response} (hunique : world.db.keys.Nodup)
    (hasks : request.asksConsent = true)
    (hserves : service.Serves world request state result) :
    ConsentStep (consentAct request state.2 result) world.db.donors state.1.db.donors := by
  have hunique' := serves_keys hunique hserves
  have hexec : request.handler.Exec service.alone (world, {}) state result := hserves
  cases hrequest : request.endpoint with
  | oneOff body =>
      rw [Request.handler_oneOff hrequest, createOneOff_eq] at hexec
      refine @consentStep_give _ _ _ _ _ body.consent _ _ hunique' ?_ (exec_give (finishes_oneOff _ _) hexec)
      intro hcommits
      simp only [consentAct, Session.counts_of_commits hcommits, hrequest, if_true]
  | subscription body =>
      rw [Request.handler_subscription hrequest, createSubscription_eq] at hexec
      refine @consentStep_give _ _ _ _ _ body.consent _ _ hunique'
        ?_ (exec_give (finishes_subscription _ _) hexec)
      intro hcommits
      simp only [consentAct, Session.counts_of_commits hcommits, hrequest, if_true]
  | newsletterSubscribe body =>
      unfold Request.handler at hexec
      rw [hrequest] at hexec
      exact consentStep_subscribe hrequest hunique' hexec
  | newsletterUnsubscribe donorId =>
      unfold Request.handler at hexec
      rw [hrequest] at hexec
      exact consentStep_unsubscribe hrequest hunique' hexec
  | _ => simp [Request.asksConsent, hrequest] at hasks

end Step

section Histories

variable [Platform] {world : World} {served : List (Turn Request Session Exn Response)}

-- What a history of requests asks for, in order.
def consentActs (served : List (Turn Request Session Exn Response)) : List ConsentAct :=
  served.filterMap fun turn => consentAct turn.req turn.loc turn.result

-- Each opt-in so far has the row that it concerns, and each row shows the acts that concern it.
structure Shown (acts : List ConsentAct) (donors : List Donor) : Prop where
  known : ∀ act ∈ acts, act.optsIn = true → ∃ row ∈ donors, act.concerns row = true
  reflected : ∀ row ∈ donors, Reflects (acts.filter fun act => act.concerns row) row

-- A row that has just come shows nothing, and nobody has opted in for it so far.
theorem Shown.created {acts : List ConsentAct} {donors created : List Donor} (h : Shown acts donors)
    (hunique : ((donors ++ created).flatMap Donor.keys).Nodup) (hblank : ∀ row ∈ created, Reflects [] row)
    {row : Donor} (hrow : row ∈ donors ++ created) :
    Reflects (acts.filter fun act => act.concerns row) row := by
  rcases List.mem_append.mp hrow with hold | hnew
  · exact h.reflected row hold
  · refine (hblank row hnew).of_optOuts fun a ha => ?_
    obtain ⟨ha, hconcerned⟩ := List.mem_filter.mp ha
    refine Bool.eq_false_iff.mpr fun hoptsIn => ?_
    obtain ⟨row₀, hrow₀, hknown⟩ := h.known a ha hoptsIn
    have hsame := a.concerns_unique hunique hrow (List.mem_append_left _ hrow₀) hconcerned hknown
    have hdisjoint := List.disjoint_of_nodup_append (List.flatMap_append ▸ hunique)
    have hkey : Key.donor row.id ∈ row.keys := by simp [Donor.keys]
    exact hdisjoint (List.mem_flatMap.mpr ⟨row₀, hrow₀, hsame ▸ hkey⟩)
      (List.mem_flatMap.mpr ⟨row, hnew, hkey⟩)

theorem ConsentAct.id_on (act : ConsentAct) (row : Donor) : (act.on row).id = row.id := by
  unfold ConsentAct.on
  split <;> simp

theorem ConsentAct.email_on (act : ConsentAct) (row : Donor) : (act.on row).email = row.email := by
  unfold ConsentAct.on
  split <;> simp

theorem Shown.step {acts : List ConsentAct} {act : Option ConsentAct} {donors after : List Donor}
    (h : Shown acts donors)
    (hstep : ConsentStep act donors after) (hunique : (after.flatMap Donor.keys).Nodup) :
    Shown (acts ++ act.toList) after := by
  obtain ⟨created, rfl, hblank, hact⟩ := hstep
  have hconcerns (a : ConsentAct) (row : Donor) :
      a.concerns (act.elim row fun act => act.on row) = a.concerns row := by
    cases act with
    | none => rfl
    | some act => exact act.concerns_on a
  have hrows : ((donors ++ created).flatMap Donor.keys).Nodup := by
    refine donor_keys_map ?_ ?_ ▸ hunique
    · intro row
      cases act with
      | none => rfl
      | some act => exact act.id_on row
    · intro row
      cases act with
      | none => rfl
      | some act => exact act.email_on row
  constructor
  · intro a ha hoptsIn
    rcases List.mem_append.mp ha with hold | hnew
    · obtain ⟨row, hrow, hknown⟩ := h.known a hold hoptsIn
      exact ⟨_, List.mem_map_of_mem (List.mem_append_left _ hrow), (hconcerns a row).trans hknown⟩
    · obtain ⟨row, hrow, hknown⟩ := hact a (by simpa using hnew) hoptsIn
      exact ⟨_, List.mem_map_of_mem hrow, (hconcerns a row).trans hknown⟩
  · intro row' hrow'
    obtain ⟨row, hrow, rfl⟩ := List.mem_map.mp hrow'
    have hbefore := h.created hrows hblank hrow
    simp only [hconcerns]
    rw [List.filter_append]
    cases act with
    | none => simpa using hbefore
    | some act =>
        show Reflects _ (act.on row)
        unfold ConsentAct.on
        by_cases hconcerned : act.concerns row = true
        · simpa [hconcerned] using hbefore.step act
        · simpa [hconcerned] using hbefore

theorem consent_run (h : service.InTurn {} served world)
    (hasks : ∀ turn ∈ served, turn.req.asksConsent = true) :
    world.db.keys.Nodup ∧ Shown (consentActs served) world.db.donors := by
  induction h with
  | nil => exact ⟨List.nodup_nil, by simp [consentActs], by simp⟩
  | @snoc mid served request state result hearlier hserves ih =>
      obtain ⟨hunique, hshown⟩ := ih (fun turn hmem => hasks turn (List.mem_append_left _ hmem))
      have hstep := served_consent hunique (hasks ⟨request, state.2, result⟩ (by simp)) hserves
      have hunique' := serves_keys hunique hserves
      refine ⟨hunique', ?_⟩
      have hacts : consentActs (served ++ [⟨request, state.2, result⟩]) =
          consentActs served ++ (consentAct request state.2 result).toList := by
        cases hact : consentAct request state.2 result <;>
          simp [consentActs, List.filterMap_append, hact]
      rw [hacts]
      exact hshown.step hstep (Db.nodup_donors hunique')

-- The consent columns of every donor are the fold of the donor's own acts, everyone who
-- has opted in has a row, and a request leaves every row alone that its act is not about.
theorem marketing_consent (h : service.InTurn {} served world)
    (hasks : ∀ turn ∈ served, turn.req.asksConsent = true) :
    (∀ donor ∈ world.db.donors, Reflects ((consentActs served).filter fun act => act.concerns donor) donor) ∧
      (∀ act ∈ consentActs served, act.optsIn = true → ∃ donor ∈ world.db.donors, act.concerns donor = true) ∧
      ∀ request state result, request.asksConsent = true → service.Serves world request state result →
        ∀ donor ∈ world.db.donors, (∀ act ∈ consentAct request state.2 result, act.concerns donor = false) →
          donor ∈ state.1.db.donors := by
  obtain ⟨hunique, hshown⟩ := consent_run h hasks
  refine ⟨hshown.reflected, hshown.known, fun request state result hasks hserves donor hdonor hother => ?_⟩
  obtain ⟨created, hafter, -, -⟩ := served_consent hunique hasks hserves
  rw [hafter]
  refine List.mem_map.mpr ⟨donor, List.mem_append_left _ hdonor, ?_⟩
  cases hact : consentAct request state.2 result with
  | none => rfl
  | some act =>
      have hspared := hother act hact
      show act.on donor = donor
      simp [ConsentAct.on, hspared]

end Histories

open Trial

-- Requests that are served in turn, each with the answers of its own function.
theorem exists_inTurn (world : World)
    (requests : List (Request × (World → Session → (op : Op) → Ans op)))
    (P : List (Turn Request Session Exn Response) × World → Prop) [DecidablePred P]
    (h : (service.serveAll world requests).any (fun finish => P finish) = true) :
    ∃ served last, service.InTurn world served last ∧ P (served, last) := by
  obtain ⟨⟨served, last⟩, hall, hP⟩ := (Option.any_eq_true _ _).mp h
  exact ⟨served, last, System.InTurn.append_serveAll (.nil world) hall, of_decide_eq_true hP⟩

def consentingGift : Request :=
  ⟨settings, .oneOff { giveBody "test" "Amina@Example.org" with consent := true }⟩

def newsletter : Request := ⟨settings, .newsletterSubscribe ⟨"amina@example.org"⟩⟩

def leaveNewsletter : Request := ⟨settings, .newsletterUnsubscribe (uuid 2).toText⟩

-- A giver who consents, is refused when subscribing, subscribes, and leaves again.
theorem marketing_consent_withdrawn : ∃ served world, service.InTurn {} served world ∧
    served.map Turn.req = [consentingGift, newsletter, newsletter, leaveNewsletter] ∧
    served.map (fun turn => turn.result.isOk) = [true, false, true, true] ∧
    consentActs served = [.optIn "Amina@Example.org" (clock + 5) "give_form_oneoff",
      .optIn "amina@example.org" (clock + 2) "newsletter_double_optin", .optOut (uuid 2)] ∧
    ∃ donor ∈ world.db.donors, Reflects (consentActs served) donor := by
  obtain ⟨served, world, hinTurn, hreqs, hresults, hacts, donor, hdonor, hconcerned⟩ := exists_inTurn {}
    [(consentingGift, reply 0), (newsletter, refuse 1), (newsletter, reply 2), (leaveNewsletter, reply 3)]
    (fun finish => finish.1.map Turn.req = [consentingGift, newsletter, newsletter, leaveNewsletter] ∧
      finish.1.map (fun turn => turn.result.isOk) = [true, false, true, true] ∧
      consentActs finish.1 = [.optIn "Amina@Example.org" (clock + 5) "give_form_oneoff",
        .optIn "amina@example.org" (clock + 2) "newsletter_double_optin", .optOut (uuid 2)] ∧
      ∃ donor ∈ finish.2.db.donors, ∀ act ∈ consentActs finish.1, act.concerns donor = true)
    (by decide +kernel)
  refine ⟨served, world, hinTurn, hreqs, hresults, hacts, donor, hdonor, ?_⟩
  have hasks : ∀ turn ∈ served, turn.req.asksConsent = true := by
    intro turn hturn
    have hreq : turn.req ∈ served.map Turn.req := List.mem_map_of_mem hturn
    rw [hreqs] at hreq
    simp only [List.mem_cons, List.not_mem_nil, or_false, or_self_left] at hreq
    rcases hreq with h | h | h <;> rw [h] <;> rfl
  have hreflects := (marketing_consent hinTurn hasks).1 donor hdonor
  rwa [List.filter_eq_self.mpr hconcerned] at hreflects

end BridgeOfHope
