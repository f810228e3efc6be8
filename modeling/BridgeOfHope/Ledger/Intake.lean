import BridgeOfHope.Conduct
import BridgeOfHope.Ledger.Calls
import BridgeOfHope.Ledger.FirstWins

namespace BridgeOfHope

open Process FirstWins

-- A log of calls of the ledger, one after another. The first call with an id counts.

inductive LedgerCall : Type
  | event (args : EventArgs)
  | donation (args : DonationArgs)
deriving DecidableEq

inductive LedgerId : Type
  | event (providerEventId : Json)
  | donation (providerPaymentId : String)
deriving DecidableEq

namespace LedgerCall

def key : LedgerCall → LedgerId
  | event args => .event args.providerEventId
  | donation args => .donation args.providerPaymentId

def eventArgs : LedgerCall → Option EventArgs
  | event args => some args
  | donation _ => none

def donationArgs : LedgerCall → Option DonationArgs
  | event _ => none
  | donation args => some args

end LedgerCall

inductive LedgerResult : Type
  | event (row : WebhookEvent) (isNew : Bool)
  | donation (row : Donation)

-- The row of a result is in the store, under the id of the call.
def LedgerResult.Stands (db : Db) (call : LedgerCall) : LedgerResult → Prop
  | event row _ => row ∈ db.webhookEvents ∧ call.key = .event (.str row.providerEventId)
  | donation row => row ∈ db.donations ∧ call.key = .donation row.providerPaymentId

def DonationArgs.Inserts (args : DonationArgs) (row : Donation) : Prop :=
  ∃ id completedAt, row = args.row id completedAt

-- What remains of a row without the generated id and time.
def WebhookEvent.plain (row : WebhookEvent) : WebhookEvent := { row with id := 0, receivedAt := 0 }

def Donation.plain (row : Donation) : Donation := { row with id := 0, completedAt := none }

-- The tables of `db` came from those of `start`, with one row for each of the calls.
structure Db.Took (start : Db) (calls : List LedgerCall) (db : Db) : Prop where
  events : List.Forall₂ EventArgs.Inserts (calls.filterMap LedgerCall.eventArgs) db.webhookEvents
  donations : List.Forall₂ DonationArgs.Inserts (calls.filterMap LedgerCall.donationArgs) db.donations
  donors : db.donors = start.donors
  subscriptions : db.subscriptions = start.subscriptions
  dataRequests : db.dataRequests = start.dataRequests

-- The same rows, but for the generated ids and times.
structure Db.SameRows (db db' : Db) : Prop where
  events : (db.webhookEvents.map WebhookEvent.plain).Perm (db'.webhookEvents.map WebhookEvent.plain)
  donations : (db.donations.map Donation.plain).Perm (db'.donations.map Donation.plain)
  donors : db.donors = db'.donors
  subscriptions : db.subscriptions = db'.subscriptions
  dataRequests : db.dataRequests = db'.dataRequests

theorem EventArgs.Inserts.plain (args : EventArgs) (row row' : WebhookEvent) (h : args.Inserts row)
    (h' : args.Inserts row') : row.plain = row'.plain := by
  obtain ⟨providerEventId, eventType, id, time, hid, htype, rfl⟩ := h
  obtain ⟨providerEventId', eventType', id', time', hid', htype', rfl⟩ := h'
  cases hid.symm.trans hid'
  cases htype.symm.trans htype'
  rfl

theorem DonationArgs.Inserts.plain (args : DonationArgs) (row row' : Donation) (h : args.Inserts row)
    (h' : args.Inserts row') : row.plain = row'.plain := by
  obtain ⟨id, time, rfl⟩ := h
  obtain ⟨id', time', rfl⟩ := h'
  rfl

section Took

variable {start db db' : Db} {calls calls' : List LedgerCall} (h : start.Took calls db)

include h

theorem Db.Took.event_key {row : WebhookEvent} (hrow : row ∈ db.webhookEvents) :
    .event (.str row.providerEventId) ∈ calls.map LedgerCall.key := by
  obtain ⟨args, hargs, hinserts⟩ := (exists_of_forall₂ h.events).2 row hrow
  obtain ⟨call, hcall, heq⟩ := List.mem_filterMap.mp hargs
  obtain ⟨providerEventId, _, _, _, hid, -, rfl⟩ := hinserts
  cases call with
  | event _ =>
      cases heq
      exact List.mem_map.mpr ⟨_, hcall, congrArg LedgerId.event hid⟩
  | donation _ => cases heq

theorem Db.Took.event_row {args : EventArgs} (hkey : .event args.providerEventId ∈ calls.map LedgerCall.key) :
    ∃ row ∈ db.webhookEvents, args.providerEventId = .str row.providerEventId := by
  obtain ⟨call, hcall, heq⟩ := List.mem_map.mp hkey
  cases call with
  | event args' =>
      have hmem : args' ∈ calls.filterMap LedgerCall.eventArgs := List.mem_filterMap.mpr ⟨_, hcall, rfl⟩
      obtain ⟨row, hrow, providerEventId, _, _, _, hid, -, rfl⟩ := (exists_of_forall₂ h.events).1 args' hmem
      exact ⟨_, hrow, (LedgerId.event.inj heq).symm.trans hid⟩
  | donation _ => cases heq

theorem Db.Took.donation_key {row : Donation} (hrow : row ∈ db.donations) :
    .donation row.providerPaymentId ∈ calls.map LedgerCall.key := by
  obtain ⟨args, hargs, id, time, rfl⟩ := (exists_of_forall₂ h.donations).2 row hrow
  obtain ⟨call, hcall, heq⟩ := List.mem_filterMap.mp hargs
  cases call with
  | event _ => cases heq
  | donation _ =>
      cases heq
      exact List.mem_map.mpr ⟨_, hcall, rfl⟩

theorem Db.Took.donation_row {args : DonationArgs}
    (hkey : .donation args.providerPaymentId ∈ calls.map LedgerCall.key) :
    ∃ row ∈ db.donations, row.providerPaymentId = args.providerPaymentId := by
  obtain ⟨call, hcall, heq⟩ := List.mem_map.mp hkey
  cases call with
  | event _ => cases heq
  | donation args' =>
      have hmem : args' ∈ calls.filterMap LedgerCall.donationArgs := List.mem_filterMap.mpr ⟨_, hcall, rfl⟩
      obtain ⟨row, hrow, id, time, rfl⟩ := (exists_of_forall₂ h.donations).1 args' hmem
      exact ⟨_, hrow, LedgerId.donation.inj heq⟩

theorem Db.Took.ids_nodup (hnodup : (calls.map LedgerCall.key).Nodup) :
    (db.webhookEvents.map WebhookEvent.providerEventId).Nodup ∧
    (db.donations.map Donation.providerPaymentId).Nodup := by
  have hkeys := List.pairwise_map.mp hnodup
  constructor
  · have hids : (calls.filterMap LedgerCall.eventArgs).map EventArgs.providerEventId =
        db.webhookEvents.map fun row => .str row.providerEventId := by
      refine map_eq_of_forall₂ ?_ h.events
      rintro args row ⟨_, _, _, _, hid, -, rfl⟩
      exact hid
    have hpairwise : ((calls.filterMap LedgerCall.eventArgs).map EventArgs.providerEventId).Nodup := by
      refine List.pairwise_map.mpr (hkeys.filterMap _ fun call call' hne args hargs args' hargs' hsame => ?_)
      cases call <;> cases call' <;> simp_all [LedgerCall.eventArgs, LedgerCall.key]
    rw [hids] at hpairwise
    have hmap : ((db.webhookEvents.map WebhookEvent.providerEventId).map Json.str).Nodup := by
      rw [List.map_map]
      exact hpairwise
    exact hmap.of_map
  · have hids : (calls.filterMap LedgerCall.donationArgs).map DonationArgs.providerPaymentId =
        db.donations.map Donation.providerPaymentId := by
      refine map_eq_of_forall₂ ?_ h.donations
      rintro args row ⟨_, _, rfl⟩
      rfl
    rw [← hids]
    refine List.pairwise_map.mpr (hkeys.filterMap _ fun call call' hne args hargs args' hargs' hsame => ?_)
    cases call <;> cases call' <;> simp_all [LedgerCall.donationArgs, LedgerCall.key]

-- Stores that took the same calls, in whatever order, hold the same rows.
theorem Db.Took.sameRows (h' : start.Took calls' db') (hperm : calls.Perm calls') : db.SameRows db' where
  events := stored_perm WebhookEvent.plain EventArgs.Inserts.plain h.events h'.events (hperm.filterMap _)
  donations := stored_perm Donation.plain DonationArgs.Inserts.plain h.donations h'.donations
    (hperm.filterMap _)
  donors := h.donors.trans h'.donors.symm
  subscriptions := h.subscriptions.trans h'.subscriptions.symm
  dataRequests := h.dataRequests.trans h'.dataRequests.symm

end Took

-- What one call does to the store, and what it answers.
structure Answered (stored : List LedgerCall) (db db' : Db) (call : LedgerCall)
    (result : LedgerResult) : Prop where
  repeated : call.key ∈ stored.map LedgerCall.key → db' = db
  isNew : ∀ row isNew, result = .event row isNew → (isNew = true ↔ call.key ∉ stored.map LedgerCall.key)
  stands : result.Stands db' call

theorem Answered.mono {stored calls : List LedgerCall} {db db' : Db} {call : LedgerCall} {result : LedgerResult}
    (h : Answered stored db db' call result)
    (hkeys : call.key ∈ stored.map LedgerCall.key ↔ call.key ∈ calls.map LedgerCall.key) :
    Answered calls db db' call result where
  repeated hmem := h.repeated (hkeys.mpr hmem)
  isNew row isNew heq := (h.isNew row isNew heq).trans (not_congr hkeys)
  stands := h.stands

theorem took_start {start : Db} (hevents : start.webhookEvents = [])
    (hdonations : start.donations = []) : start.Took [] start where
  events := by simp [hevents]
  donations := by simp [hdonations]
  donors := rfl
  subscriptions := rfl
  dataRequests := rfl

section Logs

variable [Platform]

-- One call, from the store `db` to the store `db'`.
inductive LedgerCall.Makes (db db' : Db) : LedgerCall → LedgerResult → Prop
  | event {args : EventArgs} {row : WebhookEvent} {isNew : Bool}
      (h : Calls (Ledger.recordWebhookEvent args) db db' (row, isNew)) :
        Makes db db' (.event args) (.event row isNew)
  | donation {args : DonationArgs} {row : Donation} (h : Calls (Ledger.recordDonation args) db db' row) :
      Makes db db' (.donation args) (.donation row)

-- The calls of a log, none of which fails.
inductive Logs : List LedgerCall → Db → Db → List LedgerResult → Prop
  | nil (db : Db) : Logs [] db db []
  | cons {call : LedgerCall} {calls : List LedgerCall} {db mid db' : Db} {result : LedgerResult}
      {results : List LedgerResult} (hcall : call.Makes db mid result) (hrest : Logs calls mid db' results) :
      Logs (call :: calls) db db' (result :: results)

variable {start db db' mid : Db} {call : LedgerCall} {calls calls' stored : List LedgerCall}
  {result : LedgerResult} {results results' : List LedgerResult}

theorem Db.Took.answers_event (h : start.Took stored db) {args : EventArgs} {row : WebhookEvent} {isNew : Bool}
    (hcalls : Calls (Ledger.recordWebhookEvent args) db db' (row, isNew)) :
    Answered stored db db' (.event args) (.event row isNew) ∧
      ((LedgerCall.event args).key ∉ stored.map LedgerCall.key → start.Took (stored ++ [.event args]) db') := by
  cases calls_recordWebhookEvent.mp hcalls with
  | seen hid hrow =>
      have hkey : (LedgerCall.event args).key ∈ stored.map LedgerCall.key := by
        simp only [LedgerCall.key, hid]
        exact h.event_key hrow
      refine ⟨⟨fun _ => rfl, fun _ isNew heq => ?_, hrow, ?_⟩, fun hnew => absurd hkey hnew⟩
      · cases heq
        simp [hkey]
      · simp only [LedgerCall.key, hid]
  | @new providerEventId eventType id time hid htype hmissing htakes =>
      have hnew : (LedgerCall.event args).key ∉ stored.map LedgerCall.key := by
        intro hkey
        obtain ⟨row, hrow, hsame⟩ := h.event_row hkey
        cases hid.symm.trans hsame
        exact hmissing row hrow rfl
      refine ⟨⟨fun hkey => absurd hkey hnew, fun _ isNew heq => ?_, ?_, ?_⟩, fun _ => ?_⟩
      · cases heq
        simp [hnew]
      · exact List.mem_append_right _ (List.mem_singleton_self _)
      · simp only [LedgerCall.key, hid, EventArgs.row]
      · refine ⟨?_, ?_, h.donors, h.subscriptions, h.dataRequests⟩
        · rw [List.filterMap_append]
          exact List.rel_append h.events (.cons ⟨_, _, _, _, hid, htype, rfl⟩ .nil)
        · have hsame : (stored ++ [LedgerCall.event args]).filterMap LedgerCall.donationArgs =
              stored.filterMap LedgerCall.donationArgs := by
            simp [LedgerCall.donationArgs, List.filterMap_cons]
          rw [hsame]
          exact h.donations

theorem Db.Took.answers_donation (h : start.Took stored db) {args : DonationArgs} {row : Donation}
    (hcalls : Calls (Ledger.recordDonation args) db db' row) :
    Answered stored db db' (.donation args) (.donation row) ∧
      ((LedgerCall.donation args).key ∉ stored.map LedgerCall.key →
        start.Took (stored ++ [.donation args]) db') := by
  cases calls_recordDonation.mp hcalls with
  | seen hid hrow =>
      have hkey : (LedgerCall.donation args).key ∈ stored.map LedgerCall.key := by
        simp only [LedgerCall.key, ← hid]
        exact h.donation_key hrow
      refine ⟨⟨fun _ => rfl, fun _ isNew heq => ?_, hrow, ?_⟩, fun hnew => absurd hkey hnew⟩
      · cases heq
      · simp only [LedgerCall.key, hid]
  | @new id time hmissing htakes =>
      have hnew : (LedgerCall.donation args).key ∉ stored.map LedgerCall.key := by
        intro hkey
        obtain ⟨row, hrow, hsame⟩ := h.donation_row hkey
        exact hmissing row hrow hsame
      refine ⟨⟨fun hkey => absurd hkey hnew, fun _ isNew heq => ?_, ?_, ?_⟩, fun _ => ?_⟩
      · cases heq
      · exact List.mem_append_right _ (List.mem_singleton_self _)
      · simp only [LedgerCall.key, DonationArgs.row]
      · refine ⟨?_, ?_, h.donors, h.subscriptions, h.dataRequests⟩
        · have hsame : (stored ++ [LedgerCall.donation args]).filterMap LedgerCall.eventArgs =
              stored.filterMap LedgerCall.eventArgs := by
            simp [LedgerCall.eventArgs, List.filterMap_cons]
          rw [hsame]
          exact h.events
        · rw [List.filterMap_append]
          exact List.rel_append h.donations (.cons ⟨_, _, rfl⟩ .nil)

theorem Db.Took.answers (h : start.Took stored db) (hcall : call.Makes db db' result) :
    Answered stored db db' call result ∧
      (call.key ∉ stored.map LedgerCall.key → start.Took (stored ++ [call]) db') := by
  cases hcall with
  | event hcalls => exact h.answers_event hcalls
  | donation hcalls => exact h.answers_donation hcalls

-- A call whose id is known never fails.
theorem Db.Took.repeats (h : start.Took stored db) (hkey : call.key ∈ stored.map LedgerCall.key) :
    ∃ result, call.Makes db db result := by
  cases call with
  | event args =>
      obtain ⟨row, hrow, hid⟩ := h.event_row hkey
      exact ⟨_, .event (calls_recordWebhookEvent.mpr (.seen hid hrow))⟩
  | donation args =>
      obtain ⟨row, hrow, hid⟩ := h.donation_row hkey
      exact ⟨_, .donation (calls_recordDonation.mpr (.seen hid hrow))⟩

-- The store takes the new calls of a log, and the other ones may as well be left out.
theorem Logs.took (h : start.Took stored db) (hlogs : Logs calls db db' results) :
    start.Took (stored ++ news LedgerCall.key stored calls) db' ∧
      ∃ results', Logs (news LedgerCall.key stored calls) db db' results' := by
  induction hlogs generalizing stored with
  | nil db => exact ⟨by simpa [news] using h, [], .nil db⟩
  | @cons call calls db mid db' result results hcall hrest ih =>
      obtain ⟨hanswered, hnew⟩ := h.answers hcall
      by_cases hkey : call.key ∈ stored.map LedgerCall.key
      · rw [news_of_mem hkey]
        cases hanswered.repeated hkey
        exact ih h
      · obtain ⟨htook, results', hlogs'⟩ := ih (hnew hkey)
        rw [news_of_not_mem hkey]
        refine ⟨?_, _, .cons hcall hlogs'⟩
        simpa using htook

theorem Logs.split {before after : List LedgerCall} (h : Logs (before ++ call :: after) db db' results) :
    ∃ mid mid' earlier result later, results = earlier ++ result :: later ∧ Logs before db mid earlier ∧
      call.Makes mid mid' result ∧ Logs after mid' db' later := by
  induction before generalizing db results with
  | nil =>
      cases h with
      | cons hcall hrest => exact ⟨db, _, [], _, _, rfl, .nil db, hcall, hrest⟩
  | cons first before ih =>
      cases h with
      | cons hfirst hrest =>
          obtain ⟨mid, mid', earlier, result, later, rfl, hbefore, hcall, hafter⟩ := ih hrest
          exact ⟨mid, mid', _ :: earlier, result, later, rfl, .cons hfirst hbefore, hcall, hafter⟩

-- What stands in the store stays in it.
theorem LedgerCall.Makes.stands {call' : LedgerCall} {result' : LedgerResult} (hcall : call.Makes db db' result)
    (h : result'.Stands db call') : result'.Stands db' call' := by
  have hgrows : (∀ row ∈ db.webhookEvents, row ∈ db'.webhookEvents) ∧
      ∀ row ∈ db.donations, row ∈ db'.donations := by
    cases hcall with
    | event hcalls =>
        cases calls_recordWebhookEvent.mp hcalls with
        | seen _ _ => exact ⟨fun _ => id, fun _ => id⟩
        | new _ _ _ _ => exact ⟨fun _ => List.mem_append_left _, fun _ => id⟩
    | donation hcalls =>
        cases calls_recordDonation.mp hcalls with
        | seen _ _ => exact ⟨fun _ => id, fun _ => id⟩
        | new _ _ => exact ⟨fun _ => id, fun _ => List.mem_append_left _⟩
  cases result' with
  | event row isNew => exact ⟨hgrows.1 row h.1, h.2⟩
  | donation row => exact ⟨hgrows.2 row h.1, h.2⟩

theorem Logs.stands (hlogs : Logs calls db db' results) (h : result.Stands db call) :
    result.Stands db' call := by
  induction hlogs with
  | nil => exact h
  | cons hcall _ ih => exact ih (hcall.stands h)

theorem ledger_intake (hevents : start.webhookEvents = []) (hdonations : start.donations = [])
    (hlogs : Logs calls start db results) :
    start.Took (firsts LedgerCall.key calls) db ∧
    (db.webhookEvents.map WebhookEvent.providerEventId).Nodup ∧
    (db.donations.map Donation.providerPaymentId).Nodup ∧
    (∀ before call after, calls = before ++ call :: after → ∃ mid mid' earlier result later,
      results = earlier ++ result :: later ∧ Logs before start mid earlier ∧ call.Makes mid mid' result ∧
        Logs after mid' db later ∧ Answered before mid mid' call result ∧ result.Stands db call) ∧
    (∀ call : LedgerCall, call.key ∈ calls.map LedgerCall.key → ∃ result, call.Makes db db result) ∧
    (∃ results', Logs (firsts LedgerCall.key calls) start db results') ∧
    (∀ db' results', Logs (firsts LedgerCall.key calls) start db' results' → db.SameRows db') ∧
    ∀ calls' db' results', Logs calls' start db' results' → calls.Perm calls' →
      (∀ call ∈ calls, ∀ call' ∈ calls, call.key = call'.key → call = call') → db.SameRows db' := by
  have hstart := took_start hevents hdonations
  have htook {calls : List LedgerCall} {db : Db} {results : List LedgerResult}
      (hlogs : Logs calls start db results) :
      start.Took (firsts LedgerCall.key calls) db := (hlogs.took hstart).1
  obtain ⟨hevent, hdonation⟩ := (htook hlogs).ids_nodup (firsts_keys_nodup calls)
  refine ⟨htook hlogs, hevent, hdonation, ?_, fun call hkey => ?_, (hlogs.took hstart).2, ?_, ?_⟩
  · rintro before call after rfl
    obtain ⟨mid, mid', earlier, result, later, hresults, hbefore, hcall, hafter⟩ := hlogs.split
    have hanswered := ((htook hbefore).answers hcall).1.mono key_mem_firsts
    exact ⟨mid, mid', earlier, result, later, hresults, hbefore, hcall, hafter, hanswered,
      hafter.stands hanswered.stands⟩
  · exact (htook hlogs).repeats (key_mem_firsts.mpr hkey)
  · intro db' results' hlogs'
    have hagain : start.Took (firsts LedgerCall.key (firsts LedgerCall.key calls)) db' := htook hlogs'
    rw [firsts_firsts] at hagain
    exact (htook hlogs).sameRows hagain (.refl _)
  · intro calls' db' results' hlogs' hperm hcoherent
    exact (htook hlogs).sameRows (htook hlogs') (firsts_perm hperm hcoherent)

end Logs

open Trial

def eventCall : EventArgs :=
  ⟨"stripe", .str "evt_1RaBoh", .str "checkout.session.completed", eventJson, true⟩

def donationCall : DonationArgs :=
  ⟨amina.id, none, .test, "test_pay_1", 2500, "USD", false, .obj []⟩

-- An event that comes twice, around the donation or after it.
theorem ledger_intake_twice : ∃ db db' results results',
    Logs [.event eventCall, .donation donationCall, .event eventCall] { donors := [amina] } db results ∧
    Logs [.donation donationCall, .event eventCall, .event eventCall] { donors := [amina] } db' results' ∧
    db.webhookEvents.length = 1 ∧ db.SameRows db' := by
  let event : WebhookEvent := eventCall.row "evt_1RaBoh" "checkout.session.completed" (uuid 3) clock
  let donation : Donation := donationCall.row (uuid 4) clock
  have hnew (db : Db) (hmissing : ∀ row ∈ db.webhookEvents, row.providerEventId ≠ "evt_1RaBoh")
      (htakes : db.Takes (.insertWebhookEvent event)) :
      (LedgerCall.event eventCall).Makes db (db.apply (.insertWebhookEvent event)) (.event event true) :=
    .event (calls_recordWebhookEvent.mpr (.new rfl rfl hmissing htakes))
  have hseen (db : Db) (hmem : event ∈ db.webhookEvents) :
      (LedgerCall.event eventCall).Makes db db (.event event false) :=
    .event (calls_recordWebhookEvent.mpr (.seen rfl hmem))
  have hdonation (db : Db) (hmissing : ∀ row ∈ db.donations, row.providerPaymentId ≠ "test_pay_1")
      (htakes : db.Takes (.insertDonation donation)) :
      (LedgerCall.donation donationCall).Makes db (db.apply (.insertDonation donation)) (.donation donation) :=
    .donation (calls_recordDonation.mpr (.new hmissing htakes))
  have hlogs : Logs [.event eventCall, .donation donationCall, .event eventCall] { donors := [amina] } _ _ :=
    .cons (hnew _ (by decide) ⟨by decide +kernel, by decide +kernel, by decide +kernel⟩)
      (.cons (hdonation _ (by decide) ⟨by decide +kernel, by decide +kernel, by decide +kernel⟩)
        (.cons (hseen _ List.mem_cons_self) (.nil _)))
  have hlogs' : Logs [.donation donationCall, .event eventCall, .event eventCall] { donors := [amina] } _ _ :=
    .cons (hdonation _ (by decide) ⟨by decide +kernel, by decide +kernel, by decide +kernel⟩)
      (.cons (hnew _ (by decide) ⟨by decide +kernel, by decide +kernel, by decide +kernel⟩)
        (.cons (hseen _ List.mem_cons_self) (.nil _)))
  obtain ⟨-, -, -, -, -, -, -, hpermuted⟩ := ledger_intake rfl rfl hlogs
  refine ⟨_, _, _, _, hlogs, hlogs', rfl, hpermuted _ _ _ hlogs' (by decide +kernel) (by decide +kernel)⟩

end BridgeOfHope
