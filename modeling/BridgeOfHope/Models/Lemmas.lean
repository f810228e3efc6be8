import BridgeOfHope.Models
import Mathlib.Data.List.Induction

namespace BridgeOfHope

-- Assigning columns one after another. A column that no assignment names
-- keeps its value, whatever the assignments are.
theorem foldl_column {Row Column β : Type} {set : Row → Column → Row} (column : Row → β)
    (h : ∀ row c, column (set row c) = column row) (row : Row) (columns : List Column) :
    column (columns.foldl set row) = column row := by
  induction columns generalizing row with
  | nil => rfl
  | cons c columns ih => rw [List.foldl_cons, ih, h]

-- Else its value is the old one or one of those that were assigned.
theorem foldl_assigned {Row Column β : Type} (set : Row → Column → Row) (column : Row → β) (assign : β → Column)
    (h : ∀ row c, column (set row c) = column row ∨ c = assign (column (set row c))) (row : Row)
    (columns : List Column) : column (columns.foldl set row) = column row ∨
      assign (column (columns.foldl set row)) ∈ columns := by
  induction columns generalizing row with
  | nil => exact .inl rfl
  | cons c columns ih =>
      rcases ih (set row c) with hrest | hrest
      · rcases h row c with hsame | hassigned
        · exact .inl (hrest.trans hsame)
        · refine .inr (List.mem_cons.mpr (.inl ?_))
          rw [List.foldl_cons, hrest, ← hassigned]
      · exact .inr (List.mem_cons_of_mem _ hrest)

namespace Donor

@[simp] theorem setAll_nil (row : Donor) : row.setAll [] = row := rfl

@[simp] theorem setAll_cons (row : Donor) (c : DonorSet) (columns : List DonorSet) :
    row.setAll (c :: columns) = (row.set c).setAll columns := rfl

theorem setAll_append (row : Donor) (columns columns' : List DonorSet) :
    row.setAll (columns ++ columns') = (row.setAll columns).setAll columns' := List.foldl_append

@[simp] theorem setAll_id (row : Donor) (columns : List DonorSet) :
    (row.setAll columns).id = row.id :=
  foldl_column Donor.id (fun _ c => by cases c <;> rfl) row columns

@[simp] theorem setAll_email (row : Donor) (columns : List DonorSet) :
    (row.setAll columns).email = row.email :=
  foldl_column Donor.email (fun _ c => by cases c <;> rfl) row columns

-- No handler ever assigns a name.
@[simp] theorem setAll_firstName (row : Donor) (columns : List DonorSet) :
    (row.setAll columns).firstName = row.firstName :=
  foldl_column Donor.firstName (fun _ c => by cases c <;> rfl) row columns

@[simp] theorem setAll_lastName (row : Donor) (columns : List DonorSet) :
    (row.setAll columns).lastName = row.lastName :=
  foldl_column Donor.lastName (fun _ c => by cases c <;> rfl) row columns

@[simp] theorem setAll_countryCode (row : Donor) (columns : List DonorSet) :
    (row.setAll columns).countryCode = row.countryCode :=
  foldl_column Donor.countryCode (fun _ c => by cases c <;> rfl) row columns

end Donor

namespace Subscription

@[simp] theorem setAll_nil (row : Subscription) : row.setAll [] = row := rfl

@[simp] theorem setAll_cons (row : Subscription) (c : SubscriptionSet)
    (columns : List SubscriptionSet) : row.setAll (c :: columns) = (row.set c).setAll columns := rfl

theorem setAll_append (row : Subscription) (columns columns' : List SubscriptionSet) :
    row.setAll (columns ++ columns') = (row.setAll columns).setAll columns' := List.foldl_append

section

variable (row : Subscription) (columns : List SubscriptionSet)

@[simp] theorem setAll_id : (row.setAll columns).id = row.id :=
  foldl_column Subscription.id (fun _ c => by cases c <;> rfl) row columns

@[simp] theorem setAll_donorId : (row.setAll columns).donorId = row.donorId :=
  foldl_column Subscription.donorId (fun _ c => by cases c <;> rfl) row columns

@[simp] theorem setAll_provider : (row.setAll columns).provider = row.provider :=
  foldl_column Subscription.provider (fun _ c => by cases c <;> rfl) row columns

@[simp] theorem setAll_providerSubscriptionId :
    (row.setAll columns).providerSubscriptionId = row.providerSubscriptionId :=
  foldl_column Subscription.providerSubscriptionId (fun _ c => by cases c <;> rfl) row columns

@[simp] theorem setAll_currency : (row.setAll columns).currency = row.currency :=
  foldl_column Subscription.currency (fun _ c => by cases c <;> rfl) row columns

end

-- The last assignment of the status decides it.
theorem setAll_status_of_mem {row : Subscription} {columns : List SubscriptionSet}
    {status : SubscriptionStatus} (hmem : .status status ∈ columns)
    (hall : ∀ value, .status value ∈ columns → value = status) :
    (row.setAll columns).status = status := by
  induction columns using List.reverseRecOn with
  | nil => simp at hmem
  | append_singleton columns c ih =>
      rw [setAll_append]
      rcases List.mem_append.mp hmem with hmem | hmem
      · have hprev := ih hmem fun value hv => hall value (List.mem_append_left _ hv)
        cases c with
        | status value => exact hall value (by simp)
        | _ => exact hprev
      · rw [← List.mem_singleton.mp hmem]
        rfl

theorem setAll_status {row : Subscription} {columns : List SubscriptionSet}
    {status : SubscriptionStatus} (hrow : row.status = status)
    (hall : ∀ value, .status value ∈ columns → value = status) :
    (row.setAll columns).status = status := by
  by_cases hmem : .status status ∈ columns
  · exact setAll_status_of_mem hmem hall
  · have hnone : ∀ value, .status value ∉ columns := fun value hv => hmem (hall value hv ▸ hv)
    clear hall hmem
    induction columns generalizing row with
    | nil => exact hrow
    | cons c columns ih =>
        refine ih ?_ fun value hv => hnone value (List.mem_cons_of_mem _ hv)
        cases c with
        | status value => exact absurd List.mem_cons_self (hnone value)
        | _ => exact hrow

theorem setAll_status_mem (row : Subscription) (columns : List SubscriptionSet) :
    (row.setAll columns).status = row.status ∨ .status (row.setAll columns).status ∈ columns :=
  foldl_assigned Subscription.set Subscription.status .status (fun _ c => by cases c <;> simp [set]) row columns

-- The amount is the old one or one that was assigned.
theorem setAll_amountMinor (row : Subscription) (columns : List SubscriptionSet) :
    (row.setAll columns).amountMinor = row.amountMinor ∨
      .amountMinor (row.setAll columns).amountMinor ∈ columns :=
  foldl_assigned Subscription.set Subscription.amountMinor .amountMinor
    (fun _ c => by cases c <;> simp [set]) row columns

end Subscription

-- An event row as it is inserted.
structure WebhookEvent.Fresh (event : WebhookEvent) : Prop where
  status : event.status = .received
  attempts : event.attempts = 0
  error : event.error = none
  processedAt : event.processedAt = none

namespace WebhookEvent

@[simp] theorem setAll_nil (row : WebhookEvent) : row.setAll [] = row := rfl

@[simp] theorem setAll_cons (row : WebhookEvent) (c : WebhookEventSet)
    (columns : List WebhookEventSet) : row.setAll (c :: columns) = (row.set c).setAll columns := rfl

theorem setAll_append (row : WebhookEvent) (columns columns' : List WebhookEventSet) :
    row.setAll (columns ++ columns') = (row.setAll columns).setAll columns' := List.foldl_append

section

variable (row : WebhookEvent) (columns : List WebhookEventSet)

@[simp] theorem setAll_id : (row.setAll columns).id = row.id :=
  foldl_column WebhookEvent.id (fun _ c => by cases c <;> rfl) row columns

@[simp] theorem setAll_provider : (row.setAll columns).provider = row.provider :=
  foldl_column WebhookEvent.provider (fun _ c => by cases c <;> rfl) row columns

@[simp] theorem setAll_providerEventId :
    (row.setAll columns).providerEventId = row.providerEventId :=
  foldl_column WebhookEvent.providerEventId (fun _ c => by cases c <;> rfl) row columns

@[simp] theorem setAll_eventType : (row.setAll columns).eventType = row.eventType :=
  foldl_column WebhookEvent.eventType (fun _ c => by cases c <;> rfl) row columns

@[simp] theorem setAll_payload : (row.setAll columns).payload = row.payload :=
  foldl_column WebhookEvent.payload (fun _ c => by cases c <;> rfl) row columns

@[simp] theorem setAll_signatureValid : (row.setAll columns).signatureValid = row.signatureValid :=
  foldl_column WebhookEvent.signatureValid (fun _ c => by cases c <;> rfl) row columns

@[simp] theorem setAll_receivedAt : (row.setAll columns).receivedAt = row.receivedAt :=
  foldl_column WebhookEvent.receivedAt (fun _ c => by cases c <;> rfl) row columns

theorem setAll_status_mem :
    (row.setAll columns).status = row.status ∨ .status (row.setAll columns).status ∈ columns :=
  foldl_assigned WebhookEvent.set WebhookEvent.status .status (fun _ c => by cases c <;> simp [set]) row columns

end

-- A row still fits its columns after an assignment that sets the attempts to 1 at most.
theorem fits_setAll {row : WebhookEvent} {columns : List WebhookEventSet} (hrow : row.fits = true)
    (hattempts : ∀ value, .attempts value ∈ columns → value = 1) :
    (row.setAll columns).fits = true := by
  induction columns generalizing row with
  | nil => exact hrow
  | cons c columns ih =>
      refine ih ?_ fun value hv => hattempts value (List.mem_cons_of_mem _ hv)
      cases c with
      | attempts value =>
          rw [hattempts value List.mem_cons_self]
          simp only [fits, Bool.and_eq_true] at hrow ⊢
          exact ⟨hrow.1, show int32 (1 : ℕ) = true by decide⟩
      | _ => exact hrow

-- The attempts are the one column of a stored row that changes and has a limit.
theorem fits_of_attempts {row : WebhookEvent} {columns : List WebhookEventSet}
    (hrow : row.fits = true) (hattempts : (row.setAll columns).attempts ≤ 1) :
    (row.setAll columns).fits = true := by
  have hint : int32 (row.setAll columns).attempts = true := by
    simp only [int32, Bool.and_eq_true, decide_eq_true_eq]
    omega
  simp only [fits, Bool.and_eq_true, setAll_provider, setAll_providerEventId, setAll_eventType] at hrow ⊢
  exact ⟨hrow.1, hint⟩

end WebhookEvent

end BridgeOfHope
