import BridgeOfHope.Database
import BridgeOfHope.Models.Lemmas
import Mathlib.Data.List.Nodup
import Mathlib.Data.List.Pairwise

namespace BridgeOfHope

inductive Table : Type
  | donors
  | subscriptions
  | donations
  | webhookEvents
  | dataRequests
deriving DecidableEq

def Stmt.target : Stmt → Table
  | insertDonor _ | updateDonor .. => .donors
  | insertSubscription _ | updateSubscription .. => .subscriptions
  | insertDonation _ => .donations
  | insertWebhookEvent _ | updateWebhookEvent .. => .webhookEvents
  | insertDataRequest _ => .dataRequests

def Stmt.donated : Stmt → Option Donation
  | insertDonation row => some row
  | _ => none

namespace Query

def source : Query → Table
  | donorByEmail _ | donorById _ => .donors
  | eventByProviderEventId _ => .webhookEvents
  | donationByProviderPaymentId _ => .donations
  | openSubscriptions _ => .subscriptions

-- The statement that stored a row of the query's table.
def inserted : (query : Query) → query.Row → Stmt
  | donorByEmail _, row => .insertDonor row
  | donorById _, row => .insertDonor row
  | eventByProviderEventId _, row => .insertWebhookEvent row
  | donationByProviderPaymentId _, row => .insertDonation row
  | openSubscriptions _, row => .insertSubscription row

end Query

namespace Db

@[simp] theorem applyAll_nil (db : Db) : db.applyAll [] = db := rfl

@[simp] theorem applyAll_cons (db : Db) (stmt : Stmt) (stmts : List Stmt) :
    db.applyAll (stmt :: stmts) = (db.apply stmt).applyAll stmts := rfl

theorem applyAll_append (db : Db) (stmts stmts' : List Stmt) :
    db.applyAll (stmts ++ stmts') = (db.applyAll stmts).applyAll stmts' := List.foldl_append

-- Statements on other tables leave the rows of a query alone.
theorem table_applyAll {query : Query} {db : Db} {stmts : List Stmt}
    (h : ∀ stmt ∈ stmts, stmt.target ≠ query.source) :
    query.table (db.applyAll stmts) = query.table db := by
  induction stmts generalizing db with
  | nil => rfl
  | cons stmt stmts ih =>
      have hhead := h stmt List.mem_cons_self
      rw [applyAll_cons, ih fun stmt hs => h stmt (List.mem_cons_of_mem _ hs)]
      cases query <;> cases stmt <;> first | rfl | exact absurd rfl hhead

end Db

-- A table whose rows are updated column by column, with what a statement
-- does to it: the row it inserts, or the columns it assigns to a stored row.
structure UpdatableTable (Row Column : Type) where
  rows : Db → List Row
  id : Row → Uuid
  set : Row → List Column → Row
  inserted : Stmt → Option Row
  assigned : Uuid → Stmt → List Column
  set_nil : ∀ row, set row [] = row
  set_append : ∀ row columns columns', set row (columns ++ columns') = set (set row columns) columns'
  id_set : ∀ row columns, id (set row columns) = id row
  rows_apply : ∀ db stmt, rows (db.apply stmt) =
    (rows db).map (fun row => set row (assigned (id row) stmt)) ++ (inserted stmt).toList

namespace UpdatableTable

variable {Row Column : Type} (T : UpdatableTable Row Column)

def assignedAll (id : Uuid) (stmts : List Stmt) : List Column := stmts.flatMap (T.assigned id)

-- The rows that the statements insert, as they are after all of them.
def created : List Stmt → List Row
  | [] => []
  | stmt :: stmts =>
      ((T.inserted stmt).map fun row => T.set row (T.assignedAll (T.id row) stmts)).toList ++
        created stmts

-- What the statements make of a table, in one equation.
theorem rows_applyAll (db : Db) (stmts : List Stmt) : T.rows (db.applyAll stmts) =
    (T.rows db).map (fun row => T.set row (T.assignedAll (T.id row) stmts)) ++ T.created stmts := by
  induction stmts generalizing db with
  | nil => simp [Db.applyAll, assignedAll, created, T.set_nil]
  | cons stmt stmts ih =>
      have happly : T.rows (db.applyAll (stmt :: stmts)) = T.rows ((db.apply stmt).applyAll stmts) := rfl
      rw [happly, ih, T.rows_apply, List.map_append, List.map_map, created, List.append_assoc]
      congr 1
      · refine List.map_congr_left fun row _ => ?_
        show T.set (T.set row _) _ = _
        rw [T.id_set, ← T.set_append]
        rfl
      · cases T.inserted stmt <;> rfl

theorem assignedAll_append (id : Uuid) (stmts stmts' : List Stmt) :
    T.assignedAll id (stmts ++ stmts') = T.assignedAll id stmts ++ T.assignedAll id stmts' :=
  List.flatMap_append

theorem created_append (stmts stmts' : List Stmt) : T.created (stmts ++ stmts') =
    (T.created stmts).map (fun row => T.set row (T.assignedAll (T.id row) stmts')) ++
      T.created stmts' := by
  induction stmts with
  | nil => rfl
  | cons stmt stmts ih =>
      rw [List.cons_append, created, ih, created, List.map_append, List.append_assoc]
      congr 1
      cases T.inserted stmt with
      | none => rfl
      | some row =>
          simp only [Option.map_some, Option.toList_some, List.map_cons, List.map_nil, T.id_set,
            ← T.set_append, T.assignedAll_append]

-- Statements on other tables.
def Ignores (stmts : List Stmt) : Prop :=
  ∀ stmt ∈ stmts, T.inserted stmt = none ∧ ∀ id, T.assigned id stmt = []

theorem Ignores.assignedAll {stmts : List Stmt} (h : T.Ignores stmts) (id : Uuid) :
    T.assignedAll id stmts = [] :=
  List.flatMap_eq_nil_iff.mpr fun stmt hstmt => (h stmt hstmt).2 id

theorem Ignores.created {stmts : List Stmt} (h : T.Ignores stmts) : T.created stmts = [] := by
  induction stmts with
  | nil => rfl
  | cons stmt stmts ih =>
      rw [UpdatableTable.created, (h stmt List.mem_cons_self).1,
        ih fun stmt' hstmt => h stmt' (List.mem_cons_of_mem _ hstmt)]
      rfl

-- A row stays, perhaps with columns assigned since.
def Held (db : Db) (row : Row) : Prop := ∃ columns, T.set row columns ∈ T.rows db

theorem Held.apply {db : Db} {row : Row} (h : T.Held db row) (stmt : Stmt) :
    T.Held (db.apply stmt) row := by
  obtain ⟨columns, hrow⟩ := h
  refine ⟨columns ++ T.assigned (T.id row) stmt, ?_⟩
  rw [T.rows_apply]
  refine List.mem_append_left _ (List.mem_map.mpr ⟨_, hrow, ?_⟩)
  rw [T.id_set, T.set_append]

theorem held_of_mem {db : Db} {row : Row} (h : row ∈ T.rows db) : T.Held db row :=
  ⟨[], (T.set_nil row).symm ▸ h⟩

theorem held_apply_inserted (db : Db) {stmt : Stmt} {row : Row} (h : T.inserted stmt = some row) :
    T.Held (db.apply stmt) row := by
  refine T.held_of_mem ?_
  rw [T.rows_apply, h]
  exact List.mem_append_right _ (List.mem_singleton_self _)

end UpdatableTable

def donorTable : UpdatableTable Donor DonorSet where
  rows := Db.donors
  id := Donor.id
  set := Donor.setAll
  inserted
    | .insertDonor row => some row
    | _ => none
  assigned id
    | .updateDonor id' columns => if id = id' then columns else []
    | _ => []
  set_nil _ := rfl
  set_append := Donor.setAll_append
  id_set := Donor.setAll_id
  rows_apply db stmt := by
    cases stmt with
    | updateDonor id columns =>
        simp only [Db.apply, Option.toList_none, List.append_nil]
        refine List.map_congr_left fun row _ => ?_
        split <;> rfl
    | _ => simp [Db.apply]

def subscriptionTable : UpdatableTable Subscription SubscriptionSet where
  rows := Db.subscriptions
  id := Subscription.id
  set := Subscription.setAll
  inserted
    | .insertSubscription row => some row
    | _ => none
  assigned id
    | .updateSubscription id' columns => if id = id' then columns else []
    | _ => []
  set_nil _ := rfl
  set_append := Subscription.setAll_append
  id_set := Subscription.setAll_id
  rows_apply db stmt := by
    cases stmt with
    | updateSubscription id columns =>
        simp only [Db.apply, Option.toList_none, List.append_nil]
        refine List.map_congr_left fun row _ => ?_
        split <;> rfl
    | _ => simp [Db.apply]

def eventTable : UpdatableTable WebhookEvent WebhookEventSet where
  rows := Db.webhookEvents
  id := WebhookEvent.id
  set := WebhookEvent.setAll
  inserted
    | .insertWebhookEvent row => some row
    | _ => none
  assigned id
    | .updateWebhookEvent id' columns => if id = id' then columns else []
    | _ => []
  set_nil _ := rfl
  set_append := WebhookEvent.setAll_append
  id_set := WebhookEvent.setAll_id
  rows_apply db stmt := by
    cases stmt with
    | updateWebhookEvent id columns =>
        simp only [Db.apply, Option.toList_none, List.append_nil]
        refine List.map_congr_left fun row _ => ?_
        split <;> rfl
    | _ => simp [Db.apply]

namespace Db

-- The row that a statement inserted is still there, perhaps with columns
-- assigned since. Donations and data requests are never updated.
def holds (db : Db) : Stmt → Prop
  | .insertDonor row => donorTable.Held db row
  | .insertSubscription row => subscriptionTable.Held db row
  | .insertDonation row => row ∈ db.donations
  | .insertWebhookEvent row => eventTable.Held db row
  | .insertDataRequest row => row ∈ db.dataRequests
  | .updateDonor .. | .updateSubscription .. | .updateWebhookEvent .. => True

theorem holds_apply {db : Db} {stmt : Stmt} (h : db.holds stmt) (next : Stmt) :
    (db.apply next).holds stmt := by
  cases stmt with
  | insertDonor row => exact UpdatableTable.Held.apply _ h next
  | insertSubscription row => exact UpdatableTable.Held.apply _ h next
  | insertWebhookEvent row => exact UpdatableTable.Held.apply _ h next
  | insertDonation row =>
      cases next with
      | insertDonation _ => exact List.mem_append_left _ h
      | _ => exact h
  | insertDataRequest row =>
      cases next with
      | insertDataRequest _ => exact List.mem_append_left _ h
      | _ => exact h
  | _ => trivial

theorem holds_apply_self (db : Db) (stmt : Stmt) : (db.apply stmt).holds stmt := by
  cases stmt with
  | insertDonor row => exact donorTable.held_apply_inserted db rfl
  | insertSubscription row => exact subscriptionTable.held_apply_inserted db rfl
  | insertWebhookEvent row => exact eventTable.held_apply_inserted db rfl
  | insertDonation row => exact List.mem_append_right _ (List.mem_singleton_self _)
  | insertDataRequest row => exact List.mem_append_right _ (List.mem_singleton_self _)
  | _ => trivial

theorem holds_applyAll {db : Db} {stmt : Stmt} (h : db.holds stmt) (stmts : List Stmt) :
    (db.applyAll stmts).holds stmt := by
  induction stmts generalizing db with
  | nil => exact h
  | cons next stmts ih => exact ih (holds_apply h next)

theorem holds_applyAll_of_mem {db : Db} {stmt : Stmt} {stmts : List Stmt} (h : stmt ∈ stmts) :
    (db.applyAll stmts).holds stmt := by
  induction stmts generalizing db with
  | nil => cases h
  | cons next stmts ih =>
      rcases List.mem_cons.mp h with rfl | h
      · exact holds_applyAll (holds_apply_self db stmt) stmts
      · exact ih h

theorem holds_inserted {query : Query} {db : Db} {row : query.Row} (h : row ∈ query.table db) :
    db.holds (query.inserted row) := by
  cases query with
  | donationByProviderPaymentId _ => exact h
  | donorByEmail _ => exact ⟨[], h⟩
  | donorById _ => exact ⟨[], h⟩
  | eventByProviderEventId _ => exact ⟨[], h⟩
  | openSubscriptions _ => exact ⟨[], h⟩

-- Where the rows come from.

theorem donations_applyAll (db : Db) (stmts : List Stmt) :
    (db.applyAll stmts).donations = db.donations ++ stmts.filterMap Stmt.donated := by
  induction stmts generalizing db with
  | nil => simp
  | cons stmt stmts ih =>
      rw [applyAll_cons, ih]
      cases stmt <;> simp [apply, List.filterMap_cons, Stmt.donated]

theorem mem_donations_applyAll {db : Db} {stmts : List Stmt} {row : Donation} :
    row ∈ (db.applyAll stmts).donations ↔ row ∈ db.donations ∨ .insertDonation row ∈ stmts := by
  have hdonated (stmt : Stmt) : stmt.donated = some row ↔ stmt = .insertDonation row := by
    cases stmt <;> simp [Stmt.donated]
  simp [donations_applyAll, hdonated]

-- What the tables have taken fits its columns.
theorem fits_of_admitsAll {db : Db} {stmts : List Stmt} {donor : Donor} (h : db.admitsAll stmts = true)
    (hdonor : .insertDonor donor ∈ stmts) : donor.fits = true := by
  induction stmts generalizing db with
  | nil => cases hdonor
  | cons stmt stmts ih =>
      obtain ⟨hfirst, hrest⟩ := Bool.and_eq_true_iff.mp h
      rcases List.mem_cons.mp hdonor with rfl | hmem
      · exact hfirst
      · exact ih hrest hmem

-- Where no index entry is held twice, a row is known by any of its entries.
theorem row_unique {Row : Type} {rows : List Row} {keys : Row → List Key}
    (h : (rows.flatMap keys).Nodup) {a b : Row} (ha : a ∈ rows) (hb : b ∈ rows) {key : Key}
    (hka : key ∈ keys a) (hkb : key ∈ keys b) : a = b := by
  have : Std.Symm (Function.onFun List.Disjoint keys) := ⟨fun _ _ hab _ hb ha => hab ha hb⟩
  by_contra hne
  exact (List.nodup_flatMap.mp h).2.forall ha hb hne hka hkb

theorem rows_nodup {Row : Type} {rows : List Row} {keys : Row → List Key}
    (h : (rows.flatMap keys).Nodup) (hkeys : ∀ row, keys row ≠ []) : rows.Nodup := by
  refine (List.nodup_flatMap.mp h).2.imp fun {a b} hdisjoint heq => ?_
  obtain ⟨key, hkey⟩ := List.exists_mem_of_ne_nil _ (hkeys a)
  exact hdisjoint hkey (heq ▸ hkey)

section

variable [Platform]

-- No statement changes a column of a unique index.
theorem keys_apply (db : Db) (stmt : Stmt) : (db.apply stmt).keys.Perm (db.keys ++ stmt.keys) := by
  have hdonor (id columns) : ∀ row : Donor,
      (if row.id = id then row.setAll columns else row).keys = row.keys := by
    intro row; split <;> simp [Donor.keys]
  have hsubscription (id columns) : ∀ row : Subscription,
      (if row.id = id then row.setAll columns else row).keys = row.keys := by
    intro row; split <;> simp [Subscription.keys]
  have hevent (id columns) : ∀ row : WebhookEvent,
      (if row.id = id then row.setAll columns else row).keys = row.keys := by
    intro row; split <;> simp [WebhookEvent.keys]
  rw [List.perm_iff_count]
  intro key
  cases stmt <;>
    simp only [apply, keys, Stmt.keys, List.flatMap_append, List.flatMap_cons, List.flatMap_nil,
      List.count_append, List.append_nil, List.flatMap_map, hdonor, hsubscription, hevent] <;>
    omega

theorem keys_applyAll (db : Db) (stmts : List Stmt) :
    (db.applyAll stmts).keys.Perm (db.keys ++ stmts.flatMap Stmt.keys) := by
  induction stmts generalizing db with
  | nil => simp
  | cons stmt stmts ih =>
      rw [applyAll_cons, List.flatMap_cons, ← List.append_assoc]
      exact (ih _).trans ((keys_apply db stmt).append_right _)

theorem donor_of_key {db : Db} {email : String} (h : .donorEmail (Platform.citext email) ∈ db.keys) :
    ∃ donor ∈ db.donors, Platform.citext donor.email = Platform.citext email := by
  simp only [Db.keys, List.mem_append, List.mem_flatMap] at h
  rcases h with (((⟨donor, hdonor, hkey⟩ | ⟨row, -, hkey⟩) | ⟨row, -, hkey⟩) | ⟨row, -, hkey⟩) | ⟨row, -, hkey⟩
  · refine ⟨donor, hdonor, ?_⟩
    simpa [Donor.keys, eq_comm] using hkey
  · simp [Subscription.keys] at hkey
  · simp [Donation.keys] at hkey
  · simp [WebhookEvent.keys] at hkey
  · simp [DataRequest.keys] at hkey

theorem event_of_key {db : Db} {providerEventId : String} (h : .providerEvent providerEventId ∈ db.keys) :
    ∃ event ∈ db.webhookEvents, event.providerEventId = providerEventId := by
  simp only [Db.keys, List.mem_append, List.mem_flatMap] at h
  rcases h with (((⟨row, -, hkey⟩ | ⟨row, -, hkey⟩) | ⟨row, -, hkey⟩) | ⟨event, hevent, hkey⟩) | ⟨row, -, hkey⟩
  · simp [Donor.keys] at hkey
  · simp [Subscription.keys] at hkey
  · simp [Donation.keys] at hkey
  · refine ⟨event, hevent, ?_⟩
    simpa [WebhookEvent.keys, eq_comm] using hkey
  · simp [DataRequest.keys] at hkey

theorem hasDonor_of_key {db : Db} {id : Uuid} (h : .donor id ∈ db.keys) : db.hasDonor id = true := by
  simp only [Db.keys, List.mem_append, List.mem_flatMap] at h
  rcases h with (((⟨donor, hdonor, hkey⟩ | ⟨row, -, hkey⟩) | ⟨row, -, hkey⟩) | ⟨row, -, hkey⟩) | ⟨row, -, hkey⟩
  · refine List.any_eq_true.mpr ⟨donor, hdonor, decide_eq_true ?_⟩
    simpa [Donor.keys, eq_comm] using hkey
  · simp [Subscription.keys] at hkey
  · simp [Donation.keys] at hkey
  · simp [WebhookEvent.keys] at hkey
  · simp [DataRequest.keys] at hkey

theorem hasSubscription_of_key {db : Db} {id : Uuid} (h : .subscription id ∈ db.keys) :
    db.hasSubscription id = true := by
  simp only [Db.keys, List.mem_append, List.mem_flatMap] at h
  rcases h with (((⟨row, -, hkey⟩ | ⟨row, hrow, hkey⟩) | ⟨row, -, hkey⟩) | ⟨row, -, hkey⟩) | ⟨row, -, hkey⟩
  · simp [Donor.keys] at hkey
  · refine List.any_eq_true.mpr ⟨row, hrow, decide_eq_true ?_⟩
    simpa [Subscription.keys, eq_comm] using hkey
  · simp [Donation.keys] at hkey
  · simp [WebhookEvent.keys] at hkey
  · simp [DataRequest.keys] at hkey

theorem mem_keys_of_donor {db : Db} {donor : Donor} (h : donor ∈ db.donors) {key : Key}
    (hkey : key ∈ donor.keys) : key ∈ db.keys := by
  simp only [keys, List.mem_append, List.mem_flatMap]
  exact .inl (.inl (.inl (.inl ⟨donor, h, hkey⟩)))

theorem mem_keys_of_webhookEvent {db : Db} {event : WebhookEvent} (h : event ∈ db.webhookEvents)
    {key : Key} (hkey : key ∈ event.keys) : key ∈ db.keys := by
  simp only [keys, List.mem_append, List.mem_flatMap]
  exact .inl (.inr ⟨event, h, hkey⟩)

theorem mem_keys_of_donation {db : Db} {donation : Donation} (h : donation ∈ db.donations) {key : Key}
    (hkey : key ∈ donation.keys) : key ∈ db.keys := by
  simp only [keys, List.mem_append, List.mem_flatMap]
  exact .inl (.inl (.inr ⟨donation, h, hkey⟩))

theorem mem_keys_of_subscription {db : Db} {row : Subscription} (h : row ∈ db.subscriptions)
    {key : Key} (hkey : key ∈ row.keys) : key ∈ db.keys := by
  simp only [keys, List.mem_append, List.mem_flatMap]
  exact .inl (.inl (.inl (.inr ⟨row, h, hkey⟩)))

section Unique

variable {db : Db} (h : db.keys.Nodup)

include h

theorem nodup_donors : (db.donors.flatMap Donor.keys).Nodup :=
  h.sublist (((List.sublist_append_left _ _).trans (List.sublist_append_left _ _)).trans
    ((List.sublist_append_left _ _).trans (List.sublist_append_left _ _)))

theorem nodup_subscriptions : (db.subscriptions.flatMap Subscription.keys).Nodup :=
  h.sublist (((List.sublist_append_right _ _).trans (List.sublist_append_left _ _)).trans
    ((List.sublist_append_left _ _).trans (List.sublist_append_left _ _)))

theorem nodup_webhookEvents : (db.webhookEvents.flatMap WebhookEvent.keys).Nodup :=
  h.sublist ((List.sublist_append_right _ _).trans (List.sublist_append_left _ _))

variable {row row' : Subscription} (hrow : row ∈ db.subscriptions) (hrow' : row' ∈ db.subscriptions)

include hrow hrow'

theorem subscription_unique (hid : row.id = row'.id) : row = row' := by
  have hkey : Key.subscription row'.id ∈ row.keys := by simp [Subscription.keys, hid]
  exact row_unique (nodup_subscriptions h) hrow hrow' hkey (by simp [Subscription.keys])

theorem subscription_unique_rail (hrail : row.provider = row'.provider)
    (hid : row.providerSubscriptionId = row'.providerSubscriptionId) : row = row' := by
  have hkey : Key.providerSubscription row'.provider row'.providerSubscriptionId ∈ row.keys := by
    simp [Subscription.keys, hrail, hid]
  exact row_unique (nodup_subscriptions h) hrow hrow' hkey (by simp [Subscription.keys])

end Unique

end

end Db

end BridgeOfHope
