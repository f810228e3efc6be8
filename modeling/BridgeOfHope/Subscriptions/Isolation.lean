import BridgeOfHope.Instructions
import BridgeOfHope.Service.Solo
import BridgeOfHope.Subscriptions.Picks

namespace BridgeOfHope

open Process

-- A manage link reads and writes what belongs to one donor, and nothing else.

variable {A : Uuid} {db db' : Db}

namespace Db

def donorRows (db : Db) (A : Uuid) : List Donor := db.donors.filter fun row => row.id = A

def subscriptionsOf (db : Db) (A : Uuid) : List Subscription :=
  db.subscriptions.filter fun row => row.donorId = A

-- Both stores hold the same about the donor.
structure Agree (A : Uuid) (db db' : Db) : Prop where
  donor : (db.donorRows A).Perm (db'.donorRows A)
  subscriptions : (db.subscriptionsOf A).Perm (db'.subscriptionsOf A)

-- Only subscriptions of the donor have changed.
structure Kept (A : Uuid) (db db' : Db) : Prop where
  donors : db'.donors = db.donors
  subscriptions : (db'.subscriptions.filter fun row => row.donorId ≠ A) =
    db.subscriptions.filter fun row => row.donorId ≠ A
  donations : db'.donations = db.donations
  webhookEvents : db'.webhookEvents = db.webhookEvents
  dataRequests : db'.dataRequests = db.dataRequests

-- No other donor has a subscription of that id.
def Owns (db : Db) (A : Uuid) (id : Uuid) : Prop := ∀ row ∈ db.subscriptions, row.id = id → row.donorId = A

-- Updates of the donor's subscriptions.
def Owned (db : Db) (A : Uuid) (stmts : List Stmt) : Prop :=
  ∀ stmt ∈ stmts, ∃ id columns, stmt = .updateSubscription id columns ∧ db.Owns A id

theorem Kept.refl (A : Uuid) (db : Db) : Kept A db db := ⟨rfl, rfl, rfl, rfl, rfl⟩

theorem Kept.trans {db'' : Db} (h : Kept A db db') (h' : Kept A db' db'') : Kept A db db'' :=
  ⟨h'.donors.trans h.donors, h'.subscriptions.trans h.subscriptions, h'.donations.trans h.donations,
    h'.webhookEvents.trans h.webhookEvents, h'.dataRequests.trans h.dataRequests⟩

theorem owned_cons {stmt : Stmt} {stmts : List Stmt} : db.Owned A (stmt :: stmts) ↔
    (∃ id columns, stmt = .updateSubscription id columns ∧ db.Owns A id) ∧ db.Owned A stmts :=
  List.forall_mem_cons

theorem owned_append {stmts stmts' : List Stmt} :
    db.Owned A (stmts ++ stmts') ↔ db.Owned A stmts ∧ db.Owned A stmts' :=
  List.forall_mem_append

section Update

variable (id : Uuid) (columns : List SubscriptionSet)

-- Neither the donor nor the id of a row is ever assigned.
theorem donorId_update (row : Subscription) :
    (if row.id = id then row.setAll columns else row).donorId = row.donorId := by
  split <;> simp

theorem id_update (row : Subscription) : (if row.id = id then row.setAll columns else row).id = row.id := by
  split <;> simp

theorem Owns.apply {target : Uuid} (h : db.Owns A target) :
    (db.apply (.updateSubscription id columns)).Owns A target := by
  intro row hrow hid
  obtain ⟨row₀, hrow₀, rfl⟩ := List.mem_map.mp hrow
  rw [id_update] at hid
  rw [donorId_update]
  exact h row₀ hrow₀ hid

theorem Owned.apply {stmts : List Stmt} (h : db.Owned A stmts) :
    (db.apply (.updateSubscription id columns)).Owned A stmts := by
  intro stmt hstmt
  obtain ⟨target, columns', hupdate, howns⟩ := h stmt hstmt
  exact ⟨target, columns', hupdate, howns.apply id columns⟩

theorem subscriptionsOf_apply : (db.apply (.updateSubscription id columns)).subscriptionsOf A =
    (db.subscriptionsOf A).map fun row => if row.id = id then row.setAll columns else row := by
  unfold subscriptionsOf
  rw [apply, List.filter_map]
  congr 1
  refine List.filter_congr fun row _ => ?_
  simp only [Function.comp_apply, donorId_update]

theorem Agree.apply (h : Agree A db db') :
    Agree A (db.apply (.updateSubscription id columns)) (db'.apply (.updateSubscription id columns)) := by
  refine ⟨h.donor, ?_⟩
  rw [subscriptionsOf_apply, subscriptionsOf_apply]
  exact h.subscriptions.map _

variable {id} in
theorem Kept.apply (h : db.Owns A id) : Kept A db (db.apply (.updateSubscription id columns)) := by
  refine ⟨rfl, ?_, rfl, rfl, rfl⟩
  have hsame : ∀ row ∈ db.subscriptions.filter (fun row => row.donorId ≠ A),
      (if row.id = id then row.setAll columns else row) = row := by
    intro row hrow
    obtain ⟨hmem, hother⟩ := List.mem_filter.mp hrow
    have hne : row.id ≠ id := fun hid => by simp [h row hmem hid] at hother
    simp [hne]
  have hfilter : (fun row : Subscription => decide (row.donorId ≠ A)) ∘
      (fun row => if row.id = id then row.setAll columns else row) = fun row => decide (row.donorId ≠ A) := by
    funext row
    simp only [Function.comp_apply, donorId_update]
  show (db.subscriptions.map _).filter _ = _
  rw [List.filter_map, hfilter]
  exact (List.map_congr_left hsame).trans (List.map_id _)

-- Whether the columns take the update is seen at the donor's own rows.
variable {id} in
theorem admits_eq (h : db.Owns A id) : db.admits (.updateSubscription id columns) =
    ((db.subscriptionsOf A).filter fun row => row.id = id).all fun row => (row.setAll columns).fits := by
  show ((db.subscriptions.filter fun row => row.id = id).all fun row => (row.setAll columns).fits) = _
  unfold subscriptionsOf
  rw [List.filter_filter]
  congr 1
  refine List.filter_congr fun row hrow => ?_
  by_cases hid : row.id = id
  · simp [hid, h row hrow hid]
  · simp [hid]

end Update

variable {stmts : List Stmt}

theorem Owned.applyAll {stmts' : List Stmt} (h : db.Owned A stmts) (h' : db.Owned A stmts') :
    (db.applyAll stmts).Owned A stmts' := by
  induction stmts generalizing db with
  | nil => exact h'
  | cons stmt stmts ih =>
      obtain ⟨⟨id, columns, rfl, -⟩, hrest⟩ := owned_cons.mp h
      exact ih (hrest.apply id columns) (h'.apply id columns)

theorem Owns.applyAll {id : Uuid} (h : db.Owns A id) (hstmts : db.Owned A stmts) :
    (db.applyAll stmts).Owns A id := by
  induction stmts generalizing db with
  | nil => exact h
  | cons stmt stmts ih =>
      obtain ⟨⟨id', columns, rfl, -⟩, hrest⟩ := owned_cons.mp hstmts
      exact ih (h.apply id' columns) (hrest.apply id' columns)

theorem Kept.applyAll (h : db.Owned A stmts) : Kept A db (db.applyAll stmts) := by
  induction stmts generalizing db with
  | nil => exact .refl A db
  | cons stmt stmts ih =>
      obtain ⟨⟨id, columns, rfl, howns⟩, hrest⟩ := owned_cons.mp h
      exact (Kept.apply columns howns).trans (ih (hrest.apply id columns))

theorem Agree.applyAll (h : Agree A db db') (hstmts : db.Owned A stmts) :
    Agree A (db.applyAll stmts) (db'.applyAll stmts) := by
  induction stmts generalizing db db' with
  | nil => exact h
  | cons stmt stmts ih =>
      obtain ⟨⟨id, columns, rfl, -⟩, hrest⟩ := owned_cons.mp hstmts
      exact ih (h.apply id columns) (hrest.apply id columns)

theorem Agree.admitsAll (h : Agree A db db') (hstmts : db.Owned A stmts) (hstmts' : db'.Owned A stmts) :
    db'.admitsAll stmts = db.admitsAll stmts := by
  induction stmts generalizing db db' with
  | nil => rfl
  | cons stmt stmts ih =>
      obtain ⟨⟨id, columns, rfl, howns⟩, hrest⟩ := owned_cons.mp hstmts
      obtain ⟨⟨_, _, heq, howns'⟩, hrest'⟩ := owned_cons.mp hstmts'
      cases heq
      have hadmits :
          db'.admits (.updateSubscription id columns) = db.admits (.updateSubscription id columns) := by
        rw [admits_eq columns howns, admits_eq columns howns']
        exact (h.subscriptions.symm.filter _).all_eq
      have htail := ih (h.apply id columns) (hrest.apply id columns) (hrest'.apply id columns)
      simp only [Db.admitsAll, hadmits, htail]

-- What an update adds to the indexes: nothing.
theorem Owned.keys [Platform] (h : db.Owned A stmts) : stmts.flatMap Stmt.keys = [] := by
  refine List.flatMap_eq_nil_iff.mpr fun stmt hstmt => ?_
  obtain ⟨id, columns, rfl, -⟩ := h stmt hstmt
  rfl

section Queries

variable [Platform]

theorem Agree.openSubscriptions (h : Agree A db db') :
    ((Query.openSubscriptions A).select db).Perm ((Query.openSubscriptions A).select db') := by
  have hselect (db : Db) : (Query.openSubscriptions A).select db =
      (db.subscriptionsOf A).filter fun row => row.status ≠ .cancelled := by
    unfold subscriptionsOf
    rw [List.filter_filter]
    exact List.filter_congr fun row _ => Bool.and_comm _ _
  rw [hselect, hselect]
  exact h.subscriptions.filter _

theorem Agree.donorById (h : Agree A db db') :
    ((Query.donorById A).select db).Perm ((Query.donorById A).select db') := h.donor

end Queries

end Db

theorem Session.began_iff {s : Session} {time : Time} :
    s.Began time ↔ s.past.getLast?.bind Event.time = some time := by
  unfold Session.Began
  rw [List.singleton_suffix_iff_getLast?_eq_some]
  cases s.past.getLast? with
  | none => simp
  | some event =>
      obtain ⟨op, ans⟩ := event
      cases op <;> simp [Event.time]

instance (s : Session) (time : Time) : Decidable (s.Began time) :=
  decidable_of_iff _ Session.began_iff.symm

-- Two answers to one question. The same rows come in the same order.
def SameAnswer : (op : Op) → Ans op → Ans op → Prop
  | .query _, .ok rows, .ok rows' => rows.Perm rows' → rows = rows'
  | _, ans, ans' => ans = ans'

-- As long as all went the same way, the same question gets the same answer.
def Alike (past past' : List Event) : Prop :=
  ∀ earlier op ans ans', ⟨op, ans⟩ :: earlier <:+ past → ⟨op, ans'⟩ :: earlier <:+ past' →
    SameAnswer op ans ans'

theorem Alike.mono {past past' past₁ past₁' : List Event} (h : Alike past past') (hpast : past₁ <:+ past)
    (hpast' : past₁' <:+ past') : Alike past₁ past₁' :=
  fun earlier op ans ans' hans hans' => h earlier op ans ans' (hans.trans hpast) (hans'.trans hpast')

section Links

variable [Platform] {secretKey token : String} {time : Time} {world world' : World}
    {state state' : World × Session}

-- The query for the open subscriptions of a donor.
def Op.looks : Op → Bool
  | .query (.openSubscriptions _) => true
  | _ => false

-- A request with the donor's link, at work alone. What it has picked and what it is
-- about to write is the donor's.
structure Confined (A : Uuid) (time : Time) (world : World) (state : World × Session) : Prop where
  unique : state.1.db.keys.Nodup
  began : state.2.Began time
  kept : Db.Kept A world.db state.1.db
  rails : state.1.rails = state.2.past.filterMap Event.entry ++ world.rails
  picked : ∀ sub ∈ state.2.picked, sub.donorId = A ∧ state.1.db.Owns A sub.id
  pending : state.1.db.Owned A state.2.pending

theorem Db.owns_of_mem (hunique : db.keys.Nodup) {row : Subscription} (hrow : row ∈ db.subscriptions)
    (hdonor : row.donorId = A) : db.Owns A row.id := by
  intro other hother hid
  rw [Db.subscription_unique hunique hother hrow hid]
  exact hdonor

theorem Confined.rails_update (h : Confined A time world state) (op : Op) (ans : Ans op) :
    (service.alone.update state op ans).1.rails =
      (service.alone.update state op ans).2.past.filterMap Event.entry ++ world.rails := by
  show (effect state.1 state.2 op ans).rails = (⟨op, ans⟩ :: state.2.past).filterMap Event.entry ++ world.rails
  rw [effect_rails, h.rails, List.filterMap_cons]
  cases Event.entry ⟨op, ans⟩ <;> rfl

-- An answer that leaves the store alone and tells of no row.
theorem Confined.update (h : Confined A time world state) {op : Op} {ans : Ans op}
    (hdb : (service.alone.update state op ans).1.db = state.1.db)
    (hpicked : ∀ sub ∈ (service.alone.update state op ans).2.picked, sub.donorId = A ∧ state.1.db.Owns A sub.id)
    (hpending : state.1.db.Owned A (service.alone.update state op ans).2.pending) :
    Confined A time world (service.alone.update state op ans) where
  unique := hdb ▸ h.unique
  began := h.began.trans (List.suffix_cons _ _)
  kept := hdb ▸ h.kept
  rails := h.rails_update op ans
  picked := hdb ▸ hpicked
  pending := hdb ▸ hpending

theorem Confined.picked_update (h : Confined A time world state) {op : Op} {ans : Ans op}
    (hquery : op.looks = false) :
    ∀ sub ∈ (state.2.update op ans).picked, sub.donorId = A ∧ state.1.db.Owns A sub.id := by
  intro sub hsub
  rcases Session.mem_picked_update hsub with hold | ⟨donorId, rows, hevent⟩
  · exact h.picked sub hold
  · cases hevent
    cases hquery

theorem Confined.quiet (h : Confined A time world state) {op : Op} {ans : Ans op}
    (hadvance : state.2.advance op ans = state.2) (hdb : (effect state.1 state.2 op ans).db = state.1.db)
    (hquery : op.looks = false) : Confined A time world (service.alone.update state op ans) := by
  refine h.update hdb (h.picked_update hquery) ?_
  show state.1.db.Owned A (state.2.advance op ans).pending
  rw [hadvance]
  exact h.pending

-- A failed statement leaves nothing to write.
theorem Confined.abort (h : Confined A time world state) {op : Op} {ans : Ans op}
    (hadvance : state.2.advance op ans = state.2.abort) (hdb : (effect state.1 state.2 op ans).db = state.1.db)
    (hpicked : ∀ sub ∈ (service.alone.update state op ans).2.picked, sub.donorId = A ∧
      state.1.db.Owns A sub.id) :
    Confined A time world (service.alone.update state op ans) := by
  refine h.update hdb hpicked ?_
  show state.1.db.Owned A (state.2.advance op ans).pending
  rw [hadvance]
  exact fun stmt hstmt => absurd hstmt List.not_mem_nil

-- The query for the donor's open subscriptions.
theorem Confined.look (h : Confined A time world state) (hflushed : state.2.flushed = [])
    {ans : Ans (.query (.openSubscriptions A))}
    (hsound : service.alone.sound state (.query (.openSubscriptions A)) ans) :
    Confined A time world (service.alone.update state (.query (.openSubscriptions A)) ans) := by
  cases ans with
  | error error =>
      refine h.abort rfl rfl fun sub hsub => ?_
      rcases Session.mem_picked_update hsub with hold | ⟨_, _, hevent⟩
      · exact h.picked sub hold
      · cases hevent
  | ok rows =>
      refine h.update rfl (fun sub hsub => ?_) h.pending
      rcases Session.mem_picked_update hsub with hold | ⟨_, rows, hevent⟩
      · exact h.picked sub hold
      · cases hevent
        have hview : state.2.view state.1.db = state.1.db := by simp [Session.view, hflushed]
        have hselect := hsound.2.subset List.mem_cons_self
        rw [hview] at hselect
        obtain ⟨hrow, haccepts⟩ := List.mem_filter.mp hselect
        have hdonor : sub.donorId = A := by simp_all [Query.accepts]
        exact ⟨hdonor, Db.owns_of_mem h.unique hrow hdonor⟩

-- What was flushed comes into force.
theorem Confined.commit (h : Confined A time world state) (ans : Ans .commit) :
    Confined A time world (service.alone.update state .commit ans) := by
  cases ans with
  | error error => exact h.abort rfl rfl (h.picked_update rfl)
  | ok _ =>
      obtain ⟨hflushed, hunflushed⟩ := Db.owned_append.mp h.pending
      have hkeys := Db.keys_applyAll state.1.db state.2.flushed
      rw [hflushed.keys, List.append_nil] at hkeys
      have hcommit : Op.commit.looks = false := rfl
      refine ⟨hkeys.nodup_iff.mpr h.unique, h.began.trans (List.suffix_cons _ _),
        h.kept.trans (.applyAll hflushed),
        h.rails_update _ _, fun sub hsub => ?_, hflushed.applyAll hunflushed⟩
      obtain ⟨hdonor, howns⟩ := h.picked_update hcommit sub hsub
      exact ⟨hdonor, howns.applyAll hflushed⟩

theorem Confined.step (htoken : verifyManageToken secretKey token time = .ok (some A))
    (h : Confined A time world state) {op : Op} {ans : Ans op} (hop : Manages secretKey token state.2 op)
    (hsound : service.alone.sound state op ans) :
    Confined A time world (service.alone.update state op ans) := by
  cases hop with
  | now => exact h.quiet rfl rfl rfl
  | uuid7 => exact h.quiet rfl rfl rfl
  | tokenHex => exact h.quiet rfl rfl rfl
  | smtp mail => exact h.quiet (by cases ans <;> rfl) rfl rfl
  | log mail => exact h.quiet rfl rfl rfl
  | flush =>
      cases ans with
      | error error => exact h.abort rfl rfl (h.picked_update rfl)
      | ok _ =>
          refine h.update rfl (h.picked_update rfl) ?_
          show state.1.db.Owned A ((state.2.flushed ++ state.2.unflushed) ++ [])
          rw [List.append_nil]
          exact h.pending
  | @look donorId time' hflushed hbegan htoken' =>
      cases hbegan.unique h.began
      cases htoken.symm.trans htoken'
      exact h.look hflushed hsound
  | tell _ _ houter _ =>
      refine h.quiet (advance_outer houter) (effect_quiet ?_) ?_
      · intro hcommit
        cases hcommit
        cases houter
      · cases op <;> first | rfl | cases houter
  | @assign sub hpicked columns =>
      refine h.update rfl (h.picked_update rfl) ?_
      show state.1.db.Owned A (state.2.flushed ++ (state.2.unflushed ++ [.updateSubscription sub.id columns]))
      rw [← List.append_assoc, Db.owned_append]
      refine ⟨h.pending, ?_⟩
      intro stmt hstmt
      exact ⟨sub.id, columns, List.mem_singleton.mp hstmt, (h.picked sub hpicked).2⟩
  | @donor sub hpicked =>
      cases ans with
      | error error => exact h.abort rfl rfl (h.picked_update rfl)
      | ok rows => exact h.quiet rfl rfl rfl
  | commit hpicked hpending => exact h.commit ans

-- Two requests with the donor's link, each at work alone, that have gone the same way.
structure Beside (A : Uuid) (time : Time) (world world' : World) (state state' : World × Session) : Prop where
  confined : Confined A time world state
  confined' : Confined A time world' state'
  session : state'.2 = state.2
  agree : Db.Agree A state.1.db state'.1.db

-- An answer that the one store can give, the other can give.
theorem Beside.sound (htoken : verifyManageToken secretKey token time = .ok (some A))
    (h : Beside A time world world' state state') {op : Op} {ans : Ans op}
    (hop : Manages secretKey token state.2 op) (hsound : service.alone.sound state op ans) :
    service.alone.sound state' op ans := by
  obtain ⟨db', session'⟩ := state'
  obtain ⟨hconfined, hconfined', rfl, hagree⟩ := h
  obtain ⟨hflushed, hunflushed⟩ := Db.owned_append.mp hconfined.pending
  obtain ⟨hflushed', hunflushed'⟩ := Db.owned_append.mp hconfined'.pending
  cases hop with
  | flush =>
      cases ans with
      | error error => trivial
      | ok _ =>
          obtain ⟨hbroken, hnodup, -, hadmits⟩ := hsound
          refine ⟨hbroken, hnodup, ?_, ?_⟩
          · rw [hunflushed.keys]
            exact fun key hkey => absurd hkey List.not_mem_nil
          · have hsame := (hagree.applyAll hflushed).admitsAll (hflushed.applyAll hunflushed)
              (hflushed'.applyAll hunflushed')
            exact hsame.trans hadmits
  | @look donorId time' hnone hbegan htoken' =>
      cases hbegan.unique hconfined.began
      cases htoken.symm.trans htoken'
      cases ans with
      | error error => trivial
      | ok rows =>
          refine ⟨hsound.1, hsound.2.trans ?_⟩
          exact (hagree.applyAll hflushed).openSubscriptions
  | @donor sub hpicked =>
      cases ans with
      | error error => trivial
      | ok rows =>
          refine ⟨hsound.1, hsound.2.trans ?_⟩
          rw [(hconfined.picked sub hpicked).1]
          exact (hagree.applyAll hflushed).donorById
  | commit _ _ => cases ans <;> exact hsound
  | tell _ _ houter _ => cases op <;> first | exact hsound | cases houter
  | tokenHex => exact hsound
  | _ => trivial

theorem Beside.step (htoken : verifyManageToken secretKey token time = .ok (some A))
    (h : Beside A time world world' state state') {op : Op} {ans : Ans op}
    (hop : Manages secretKey token state.2 op) (hsound : service.alone.sound state op ans) :
    Beside A time world world' (service.alone.update state op ans) (service.alone.update state' op ans) := by
  have hsound' := h.sound htoken hop hsound
  have hop' : Manages secretKey token state'.2 op := h.session ▸ hop
  refine ⟨h.confined.step htoken hop hsound, h.confined'.step htoken hop' hsound', ?_, ?_⟩
  · show state'.2.update op ans = state.2.update op ans
    rw [h.session]
  · show Db.Agree A (effect state.1 state.2 op ans).db (effect state'.1 state'.2 op ans).db
    by_cases hcommit : (⟨op, ans⟩ : Event) = ⟨.commit, .ok ()⟩
    · cases hcommit
      have hflushed := (Db.owned_append.mp h.confined.pending).1
      rw [h.session]
      exact h.agree.applyAll hflushed
    · rw [effect_quiet hcommit, effect_quiet hcommit]
      exact h.agree

-- A manage request asks for the time first. With a link that is not accepted it ends there.
theorem handler_begins {request : Request} (h : request.manageToken = some token) :
    ∃ next, request.handler = .call .now next ∧ ∀ time,
      verifyManageToken request.settings.settings.secretKey token time = .ok none →
        next time = .raise ⟨.httpException 404, "This link has expired or is invalid."⟩ := by
  have hlook (secretKey : String) (rest : List Subscription → Act Response) :
      ∃ next, Subscriptions.donorSubscriptions secretKey token >>= rest = .call .now next ∧ ∀ time,
        verifyManageToken secretKey token time = .ok none →
          next time = .raise ⟨.httpException 404, "This link has expired or is invalid."⟩ := by
    refine ⟨_, rfl, fun time hverify => ?_⟩
    show (((Prog.ofExcept (verifyManageToken secretKey token time)).bind _).bind rest : Act Response) = _
    rw [hverify]
    rfl
  unfold Request.manageToken at h
  unfold Request.handler
  split at h
  · next hendpoint =>
      cases h
      rw [hendpoint]
      exact hlook _ _
  · next hendpoint =>
      cases h
      rw [hendpoint]
      exact hlook _ _
  · next hendpoint =>
      cases h
      rw [hendpoint]
      exact hlook _ _
  · cases h

theorem Beside.answer (htoken : verifyManageToken secretKey token time = .ok (some A))
    (h : Beside A time world world' state state') {op : Op} {ans ans' : Ans op}
    (hop : Manages secretKey token state.2 op) (hsound : service.alone.sound state op ans)
    (hsound' : service.alone.sound state' op ans') (hsame : SameAnswer op ans ans') : ans' = ans := by
  cases op with
  | query query => cases ans with
    | ok rows => cases ans' with
      | ok rows' =>
          have hperm : rows.Perm rows' := (h.sound htoken hop hsound).2.trans hsound'.2.symm
          rw [hsame hperm]
      | error error => exact hsame.symm
    | error error => cases ans' <;> exact hsame.symm
  | _ => exact hsame.symm

-- The two requests asked the same and were answered the same: the same mails, the same
-- calls of the rails and the same statements.
structure SameOutcome (A : Uuid) (world world' : World) (state state' : World × Session) : Prop where
  session : state'.2 = state.2
  rows : Db.Agree A state.1.db state'.1.db
  rails : ∃ calls, state.1.rails = calls ++ world.rails ∧ state'.1.rails = calls ++ world'.rails

theorem Beside.outcome (h : Beside A time world world' state state') :
    SameOutcome A world world' state state' := by
  refine ⟨h.session, h.agree, _, h.confined.rails, ?_⟩
  rw [h.confined'.rails, h.session]

-- Where a request stands that has just looked at the clock.
def begun (world : World) (time : Time) : World × Session := (world, { past := [⟨.now, time⟩] })

theorem confined_begun (hunique : world.db.keys.Nodup) : Confined A time world (begun world time) where
  unique := hunique
  began := List.suffix_rfl
  kept := .refl A world.db
  rails := rfl
  picked _ hsub := absurd hsub List.not_mem_nil
  pending _ hstmt := absurd hstmt List.not_mem_nil

theorem beside_begun (hunique : world.db.keys.Nodup) (hunique' : world'.db.keys.Nodup)
    (hagree : Db.Agree A world.db world'.db) :
    Beside A time world world' (begun world time) (begun world' time) where
  confined := confined_begun hunique
  confined' := confined_begun hunique'
  session := rfl
  agree := hagree

-- What is left of a manage request once it has looked at the clock.
theorem serves_iff {request : Request} {next : Time → Act Response} {result : Except Exn Response}
    (hnext : request.handler = .call .now next) (hbegan : state.2.Began time) :
    service.Serves world request state result ↔
    (next time).Exec service.alone (begun world time) state result := by
  show request.handler.Exec service.alone (world, {}) state result ↔ _
  rw [hnext, Prog.exec_call]
  constructor
  · rintro ⟨time', -, hexec⟩
    have hbegan' : state.2.Began time' := past_of_exec hexec
    rw [hbegan.unique hbegan']
    exact hexec
  · intro hexec
    exact ⟨time, trivial, hexec⟩

theorem serves_began {request : Request} {next : Time → Act Response} {result : Except Exn Response}
    (hnext : request.handler = .call .now next) (h : service.Serves world request state result) :
    ∃ time, state.2.Began time := by
  have hexec : request.handler.Exec service.alone (world, {}) state result := h
  rw [hnext, Prog.exec_call] at hexec
  obtain ⟨time, -, hexec⟩ := hexec
  exact ⟨time, past_of_exec hexec⟩

section Served

variable {request : Request} {result : Except Exn Response} (hrequest : request.manageToken = some token)

include hrequest

theorem obeys_begun {next : Time → Act Response} (hnext : request.handler = .call .now next) (world : World)
    (time : Time) : (next time).Obeys service.alone
      (fun state op => Manages request.settings.settings.secretKey token state.2 op) (fun _ _ => True)
      (begun world time) := by
  have hmanages := handler_manages hrequest
  rw [hnext] at hmanages
  have hrest : (next time).Obeys service.toClient (Manages request.settings.settings.secretKey token)
      (fun _ _ => True) (begun world time).2 := hmanages.2 time trivial
  exact System.obeys_alone hrest

theorem refused_ends (hserves : service.Serves world request state result) (hbegan : state.2.Began time)
    (htoken : verifyManageToken request.settings.settings.secretKey token time = .ok none) :
    respond result = ⟨404, .problem "This link has expired or is invalid." none⟩ ∧
      state = begun world time := by
  obtain ⟨next, hnext, hrefused⟩ := handler_begins hrequest
  have hexec := (serves_iff hnext hbegan).mp hserves
  rw [hrefused time htoken] at hexec
  obtain ⟨rfl, rfl⟩ := Prog.exec_raise.mp hexec
  exact ⟨rfl, rfl⟩

variable (hserves : service.Serves world request state result) (hbegan : state.2.Began time)
  (htoken : verifyManageToken request.settings.settings.secretKey token time = .ok (some A))

include hserves hbegan htoken in
-- It asks for the subscriptions of the donor whose link it has.
theorem donor_of_look {donorId : Uuid} {ans : Except Exn (List Subscription)}
    (hlook : ⟨.query (.openSubscriptions donorId), ans⟩ ∈ state.2.past) : donorId = A := by
  obtain ⟨next, hnext, -⟩ := handler_begins hrequest
  have hlooks := Prog.Exec.invariant (fun state : World × Session => state.2.Began time ∧
      ∀ donorId ans, ⟨.query (.openSubscriptions donorId), ans⟩ ∈ state.2.past → donorId = A) ?_
    (obeys_begun hrequest hnext world time) ((serves_iff hnext hbegan).mp hserves)
      ⟨List.suffix_rfl, by simp [begun]⟩
  · exact hlooks.2 donorId ans hlook
  · rintro state op ans ⟨hbegan, hlooks⟩ hop -
    refine ⟨hbegan.trans (List.suffix_cons _ _), fun donorId ans' hmem => ?_⟩
    rcases List.mem_cons.mp hmem with hnew | hold
    · cases hnew
      cases hop with
      | look _ hbegan' htoken' =>
          cases hbegan'.unique hbegan
          cases htoken.symm.trans htoken'
          rfl
      | tell _ _ houter _ => cases houter
    · exact hlooks donorId ans' hold

variable (hunique : world.db.keys.Nodup) (hunique' : world'.db.keys.Nodup)
    (hagree : Db.Agree A world.db world'.db)

include hserves hbegan htoken hunique hunique' hagree

-- The request can go the same way on the other store.
theorem exists_beside :
    ∃ state', service.Serves world' request state' result ∧ Beside A time world world' state state' := by
  obtain ⟨next, hnext, -⟩ := handler_begins hrequest
  have hexec := (serves_iff hnext hbegan).mp hserves
  obtain ⟨state', hexec', hbeside⟩ := hexec.simulate (R := Beside A time world world')
    (fun _ _ _ _ h hop hsound => ⟨h.sound htoken hop hsound, h.step htoken hop hsound⟩)
    (obeys_begun hrequest hnext world time) (beside_begun hunique hunique' hagree)
  exact ⟨state', (serves_iff hnext hbeside.confined'.began).mpr hexec', hbeside⟩

-- And it goes the same way, as long as it gets the same answers.
theorem beside_of_alike {result' : Except Exn Response}
    (hserves' : service.Serves world' request state' result')
    (halike : Alike state.2.past state'.2.past) : result' = result ∧
      Beside A time world world' state state' := by
  obtain ⟨next, hnext, -⟩ := handler_begins hrequest
  have hexec := (serves_iff hnext hbegan).mp hserves
  obtain ⟨time', hbegan'⟩ := serves_began hnext hserves'
  have htime : time = time' := halike [] .now time time' hbegan hbegan'
  rw [← htime] at hbegan'
  have hstep (state state' : World × Session) (op : Op) (ans ans' : Ans op)
      (h : Beside A time world world' state state')
      (hop : Manages request.settings.settings.secretKey token state.2 op)
      (hsound : service.alone.sound state op ans) (hsound' : service.alone.sound state' op ans')
      (hsame : Alike (service.alone.update state op ans).2.past (service.alone.update state' op ans').2.past) :
      ans' = ans ∧ Beside A time world world' (service.alone.update state op ans)
        (service.alone.update state' op ans) := by
    have hpast : ⟨op, ans'⟩ :: state.2.past <:+ (service.alone.update state' op ans').2.past := by
      rw [← h.session]
      exact List.suffix_rfl
    have hanswer := hsame state.2.past op ans ans' List.suffix_rfl hpast
    exact ⟨h.answer htoken hop hsound hsound' hanswer, h.step htoken hop hsound⟩
  exact hexec.lockstep (Q := fun state state' => Alike state.2.past state'.2.past)
    (fun _ _ _ _ h => h.mono (List.suffix_cons _ _) List.suffix_rfl)
    (fun _ _ _ _ h => h.mono List.suffix_rfl (List.suffix_cons _ _)) hstep
    (obeys_begun hrequest hnext world time) ((serves_iff hnext hbegan').mp hserves') halike
    (beside_begun hunique hunique' hagree)

end Served

theorem manage_link_isolated {request : Request} (hrequest : request.manageToken = some token) :
    (∀ world state result time, service.Serves world request state result → state.2.Began time →
      verifyManageToken request.settings.settings.secretKey token time = .ok none →
        respond result = ⟨404, .problem "This link has expired or is invalid." none⟩ ∧
          state = begun world time) ∧
    ∀ A world state result time, world.db.keys.Nodup → service.Serves world request state result →
      state.2.Began time → verifyManageToken request.settings.settings.secretKey token time = .ok (some A) →
        Db.Kept A world.db state.1.db ∧
        ∀ world', world'.db.keys.Nodup → Db.Agree A world.db world'.db →
          (∃ state', service.Serves world' request state' result ∧ SameOutcome A world world' state state') ∧
          ∀ state' result', service.Serves world' request state' result' → Alike state.2.past state'.2.past →
            result' = result ∧ SameOutcome A world world' state state' := by
  refine ⟨fun world state result time hserves hbegan htoken => refused_ends hrequest hserves hbegan htoken,
    fun A world state result time hunique hserves hbegan htoken => ⟨?_, fun world' hunique' hagree => ⟨?_, ?_⟩⟩⟩
  · have hsame : Db.Agree A world.db world.db := ⟨.refl _, .refl _⟩
    obtain ⟨_, -, hbeside⟩ := exists_beside hrequest hserves hbegan htoken hunique hunique hsame
    exact hbeside.confined.kept
  · obtain ⟨state', hserves', hbeside⟩ := exists_beside hrequest hserves hbegan htoken hunique hunique' hagree
    exact ⟨state', hserves', hbeside.outcome⟩
  · intro state' result' hserves' halike
    obtain ⟨hresult, hbeside⟩ :=
      beside_of_alike hrequest hserves hbegan htoken hunique hunique' hagree hserves' halike
    exact ⟨hresult, hbeside.outcome⟩

end Links

open Trial

def brian : Donor := { amina with id := uuid 102, email := "brian@example.org", firstName := "Brian" }

def bothDonors : Db :=
  { donors := [brian, amina], subscriptions := [monthly 107 brian, monthly 7 amina] }

theorem manage_link_isolated_twoStores : ∃ state state' result,
    service.Serves ⟨aminaOnly, []⟩ manageDelete state result ∧
    service.Serves ⟨bothDonors, []⟩ manageDelete state' result ∧
    result = .ok ⟨200, .status "cancelled"⟩ ∧ Db.Kept amina.id bothDonors state'.1.db ∧
    SameOutcome amina.id ⟨aminaOnly, []⟩ ⟨bothDonors, []⟩ state state' := by
  obtain ⟨state, result, hserves, hbegan, hresult⟩ := exists_serves ⟨aminaOnly, []⟩ manageDelete (reply 1)
    (fun state result => state.2.Began clock ∧ result = .ok ⟨200, .status "cancelled"⟩) (by decide +kernel)
  have htoken : verifyManageToken secretKey manageToken clock = .ok (some amina.id) := by decide +kernel
  have hagree : Db.Agree amina.id aminaOnly bothDonors := ⟨by decide +kernel, by decide +kernel⟩
  have hrequest : manageDelete.manageToken = some manageToken := rfl
  have hisolated := (manage_link_isolated hrequest).2
  obtain ⟨-, hother⟩ := hisolated amina.id _ state result clock (by decide +kernel) hserves hbegan htoken
  obtain ⟨⟨state', hserves', houtcome⟩, -⟩ := hother ⟨bothDonors, []⟩ (by decide +kernel) hagree
  have hbegan' : state'.2.Began clock := houtcome.session ▸ hbegan
  obtain ⟨hkept, -⟩ := hisolated amina.id _ state' result clock (by decide +kernel) hserves' hbegan' htoken
  exact ⟨state, state', result, hserves, hserves', hresult, hkept, houtcome⟩

end BridgeOfHope
