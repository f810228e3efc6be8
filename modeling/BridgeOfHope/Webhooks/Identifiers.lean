import BridgeOfHope.Ledger.Calls
import BridgeOfHope.Payments.Lemmas
import BridgeOfHope.Service

namespace BridgeOfHope

open Process Payments

-- The ids under which webhook bodies are stored, and the ids that the rails gave them.

inductive Rail : Type
  | stripe
  | paypal
  | mpesa
  | btc
  | test
deriving DecidableEq

namespace Rail

def name : Rail → String
  | stripe => "stripe"
  | paypal => "paypal"
  | mpesa => "mpesa"
  | btc => "btc"
  | test => "test"

theorem name_injective {rail rail' : Rail} (h : rail.name = rail'.name) : rail = rail' := by
  cases rail <;> cases rail' <;> first | rfl | (revert h; decide)

-- The value under a key, when the object has one and it is not null.
def field (key : String) : Json → Option Json
  | .obj fields => (Json.lookup key fields).filter fun value => value ≠ .null
  | _ => none

-- The field in which the rail puts its id.
def identifier (rail : Rail) (payload : Json) : Option Json :=
  match rail with
  | stripe | paypal | btc => field "id" payload
  | test => field "event_id" payload
  | mpesa => (field "Body" payload).bind fun body =>
      (field "stkCallback" body).bind (field "CheckoutRequestID")

-- Whether the payload is of the shape that the parser of the rail reads: an object
-- with the fields that it indexes, or objects all along the path of its `get`.

def has (key : String) : Json → Bool
  | .obj fields => (Json.lookup key fields).isSome
  | _ => false

def isObject : Json → Bool
  | .obj _ => true
  | _ => false

def child (key : String) : Json → Json
  | .obj fields => (Json.lookup key fields).getD (.obj [])
  | _ => .null

def reads (rail : Rail) (payload : Json) : Bool :=
  match rail with
  | stripe => has "id" payload && has "type" payload
  | paypal => has "id" payload && has "event_type" payload
  | test => has "event_id" payload && has "event_type" payload
  | btc => isObject payload
  | mpesa => isObject payload && isObject (child "Body" payload) &&
      isObject (child "stkCallback" (child "Body" payload))

-- The rails whose parser makes up a text where the identifier is missing.
def defaults : Rail → Bool
  | mpesa | btc => true
  | stripe | paypal | test => false

theorem item_of_has {key : String} {data : Json} (h : has key data = true) :
    ∃ value, data.item key = .ok value := by
  cases data with
  | obj fields =>
      obtain ⟨value, hvalue⟩ := Option.isSome_iff_exists.mp h
      exact ⟨value, by simp only [Json.item, hvalue]⟩
  | _ => cases h

theorem get_of_isObject {data : Json} (h : isObject data = true) (key : String) (default : Json) :
    ∃ value, data.get key default = .ok value ∧ (default = .obj [] → value = child key data) := by
  cases data with
  | obj fields => exact ⟨_, rfl, by rintro rfl; rfl⟩
  | _ => cases h

theorem has_of_item {key : String} {data value : Json} (h : data.item key = .ok value) :
    has key data = true := by
  cases data with
  | obj fields =>
      unfold Json.item at h
      unfold has
      cases hlookup : Json.lookup key fields with
      | some value => simp [hlookup]
      | none => simp [hlookup] at h
  | _ => cases h

theorem isObject_of_get {key : String} {data value default : Json} (h : data.get key default = .ok value) :
    isObject data = true ∧ (default = .obj [] → value = child key data) := by
  cases data with
  | obj fields =>
      refine ⟨rfl, ?_⟩
      rintro rfl
      exact (Except.ok.inj h).symm
  | _ => cases h

theorem item_of_field {key : String} {data value : Json} (h : field key data = some value) :
    data.item key = .ok value := by
  cases data with
  | obj fields =>
      have hlookup := (Option.filter_eq_some_iff.mp h).1
      simp only [Json.item, hlookup]
  | _ => cases h

theorem get_of_field {key : String} {data value default : Json} (h : field key data = some value) :
    data.get key default = .ok value := by
  cases data with
  | obj fields =>
      have hlookup := (Option.filter_eq_some_iff.mp h).1
      simp only [Json.get, hlookup, Option.getD_some]
  | _ => cases h

variable [Platform]

def parseEvent : Rail → Bytes → Except Exn Payments.WebhookEvent
  | stripe => StripeProvider.parseEvent
  | paypal => PayPalProvider.parseEvent
  | mpesa => MpesaProvider.parseEvent
  | btc => BtcProvider.parseEvent
  | test => TestProvider.parseEvent

-- The rail that a name builds parses like that.
theorem getProvider_parseEvent {rail : Rail} {settings : Settings} {provider : Provider}
    (h : getProvider rail.name settings = .ok provider) : provider.parseEvent = rail.parseEvent := by
  have hsame (rail' : Rail) (hname : rail.name = rail'.name) (hparse : provider.parseEvent = rail'.parseEvent) :
      provider.parseEvent = rail.parseEvent := name_injective hname ▸ hparse
  rcases getProvider_cases h with ⟨hname, rfl⟩ | ⟨hname, rfl⟩ | ⟨hname, base, rfl⟩ | ⟨hname, host, rfl⟩ |
    ⟨hname, rfl⟩
  · exact hsame .test hname rfl
  · exact hsame .stripe hname rfl
  · exact hsame .paypal hname rfl
  · exact hsame .mpesa hname rfl
  · exact hsame .btc hname rfl

-- How the parser hands an identifier on.
def written (rail : Rail) (identifier : Json) : Json :=
  match rail with
  | mpesa | btc => .str identifier.toStr
  | stripe | paypal | test => identifier

-- A parser that reads two fields of an object, and fails where one is missing.
theorem parse_items {idKey typeKey : String} {valid : Bool} {rawBody : Bytes} {event : Payments.WebhookEvent}
    (h : (do let data ← Platform.loads rawBody
             return ⟨← data.item idKey, ← data.item typeKey, data, valid⟩ :
             Except Exn Payments.WebhookEvent) = .ok event) :
    Platform.loads rawBody = .ok event.payload ∧ event.payload.item idKey = .ok event.providerEventId ∧
      event.payload.item typeKey = .ok event.eventType := by
  cases hdata : Platform.loads rawBody with
  | error error => simp [hdata, bind, Except.bind] at h
  | ok data =>
      cases hid : data.item idKey with
      | error error => simp [hdata, hid, bind, Except.bind] at h
      | ok id =>
          cases htype : data.item typeKey with
          | error error => simp [hdata, hid, htype, bind, Except.bind] at h
          | ok type =>
              simp only [hdata, hid, htype, bind, Except.bind, pure, Except.pure, Except.ok.injEq] at h
              rw [← h]
              exact ⟨rfl, hid, htype⟩

theorem btc_parse {rawBody : Bytes} {event : Payments.WebhookEvent}
    (h : BtcProvider.parseEvent rawBody = .ok event) :
    Platform.loads rawBody = .ok event.payload ∧
      ∃ id, event.payload.get "id" .null = .ok id ∧ event.providerEventId = .str id.toStr := by
  unfold BtcProvider.parseEvent at h
  cases hdata : Platform.loads rawBody with
  | error error => simp [hdata, bind, Except.bind] at h
  | ok data =>
      cases hid : data.get "id" .null with
      | error error => simp [hdata, hid, bind, Except.bind] at h
      | ok id =>
          cases htype : data.get "type" .null with
          | error error => simp [hdata, hid, htype, bind, Except.bind] at h
          | ok type =>
              simp only [hdata, hid, htype, bind, Except.bind, pure, Except.pure, Except.ok.injEq] at h
              rw [← h]
              exact ⟨rfl, id, hid, rfl⟩

theorem mpesa_parse {rawBody : Bytes} {event : Payments.WebhookEvent}
    (h : MpesaProvider.parseEvent rawBody = .ok event) : Platform.loads rawBody = .ok event.payload ∧
      ∃ body callback id, event.payload.get "Body" (.obj []) = .ok body ∧
        body.get "stkCallback" (.obj []) = .ok callback ∧ callback.get "CheckoutRequestID" .null = .ok id ∧
        event.providerEventId = .str id.toStr := by
  unfold MpesaProvider.parseEvent at h
  cases hdata : Platform.loads rawBody with
  | error error => simp [hdata, bind, Except.bind] at h
  | ok data =>
      cases hbody : data.get "Body" (.obj []) with
      | error error => simp [hdata, hbody, bind, Except.bind] at h
      | ok body =>
          cases hcallback : body.get "stkCallback" (.obj []) with
          | error error => simp [hdata, hbody, hcallback, bind, Except.bind] at h
          | ok callback =>
              cases hid : callback.get "CheckoutRequestID" .null with
              | error error => simp [hdata, hbody, hcallback, hid, bind, Except.bind] at h
              | ok id =>
                  simp only [hdata, hbody, hcallback, hid, bind, Except.bind, pure, Except.pure,
                    Except.ok.injEq] at h
                  rw [← h]
                  exact ⟨rfl, body, callback, id, hbody, hcallback, hid, rfl⟩

-- Every body of that shape is parsed.
theorem parseEvent_of_reads {rail : Rail} {rawBody : Bytes} {payload : Json}
    (hpayload : Platform.loads rawBody = .ok payload) (h : rail.reads payload = true) :
    ∃ event, rail.parseEvent rawBody = .ok event := by
  have hitems (idKey typeKey : String) (valid : Bool) (h : (has idKey payload && has typeKey payload) = true) :
      ∃ event, (do let data ← Platform.loads rawBody
                   return ⟨← data.item idKey, ← data.item typeKey, data, valid⟩ :
                   Except Exn Payments.WebhookEvent) = .ok event := by
    obtain ⟨hid, htype⟩ := Bool.and_eq_true_iff.mp h
    obtain ⟨id, hid⟩ := item_of_has hid
    obtain ⟨type, htype⟩ := item_of_has htype
    exact ⟨⟨id, type, payload, valid⟩, by simp [hpayload, hid, htype, bind, Except.bind, pure, Except.pure]⟩
  cases rail with
  | stripe => exact hitems _ _ _ h
  | paypal => exact hitems _ _ _ h
  | test => exact hitems _ _ _ h
  | btc =>
      obtain ⟨id, hid, -⟩ := get_of_isObject h "id" .null
      obtain ⟨type, htype, -⟩ := get_of_isObject h "type" .null
      refine ⟨⟨.str id.toStr, .str type.toStr, payload, false⟩, ?_⟩
      simp [parseEvent, BtcProvider.parseEvent, hpayload, hid, htype, bind, Except.bind, pure, Except.pure]
  | mpesa =>
      simp only [reads, Bool.and_eq_true] at h
      obtain ⟨body, hbody, hchild⟩ := get_of_isObject h.1.1 "Body" (.obj [])
      obtain rfl := hchild rfl
      obtain ⟨callback, hcallback, hchild⟩ := get_of_isObject h.1.2 "stkCallback" (.obj [])
      obtain rfl := hchild rfl
      obtain ⟨id, hid, -⟩ := get_of_isObject h.2 "CheckoutRequestID" .null
      refine ⟨⟨.str id.toStr, .str "stk_callback", payload, false⟩, ?_⟩
      simp [parseEvent, MpesaProvider.parseEvent, hpayload, hbody, hcallback, hid, bind, Except.bind, pure,
        Except.pure]

-- And every body that is parsed is of that shape.
theorem reads_of_parseEvent {rail : Rail} {rawBody : Bytes} {event : Payments.WebhookEvent}
    (h : rail.parseEvent rawBody = .ok event) : rail.reads event.payload = true := by
  have hitems {idKey typeKey : String} {id type : Json} (hid : event.payload.item idKey = .ok id)
      (htype : event.payload.item typeKey = .ok type) :
      (has idKey event.payload && has typeKey event.payload) = true :=
    Bool.and_eq_true_iff.mpr ⟨has_of_item hid, has_of_item htype⟩
  cases rail with
  | stripe => exact hitems (parse_items h).2.1 (parse_items h).2.2
  | paypal => exact hitems (parse_items h).2.1 (parse_items h).2.2
  | test => exact hitems (parse_items h).2.1 (parse_items h).2.2
  | btc =>
      obtain ⟨-, id, hget, -⟩ := btc_parse h
      exact (isObject_of_get hget).1
  | mpesa =>
      obtain ⟨-, body, callback, id, hbody, hcallback, hget, -⟩ := mpesa_parse h
      obtain ⟨hpayload, hchild⟩ := isObject_of_get hbody
      obtain rfl := hchild rfl
      obtain ⟨hbody, hchild⟩ := isObject_of_get hcallback
      obtain rfl := hchild rfl
      simp [reads, hpayload, hbody, (isObject_of_get hget).1]

theorem parseEvent_payload {rail : Rail} {rawBody : Bytes} {event : Payments.WebhookEvent}
    (h : rail.parseEvent rawBody = .ok event) : Platform.loads rawBody = .ok event.payload := by
  cases rail with
  | stripe => exact (parse_items h).1
  | paypal => exact (parse_items h).1
  | mpesa => exact (mpesa_parse h).1
  | btc => exact (btc_parse h).1
  | test => exact (parse_items h).1

theorem parseEvent_written {rail : Rail} {rawBody : Bytes} {event : Payments.WebhookEvent} {identifier : Json}
    (h : rail.parseEvent rawBody = .ok event) (hid : rail.identifier event.payload = some identifier) :
    event.providerEventId = rail.written identifier := by
  cases rail with
  | stripe => exact Except.ok.inj ((parse_items h).2.1.symm.trans (item_of_field hid))
  | paypal => exact Except.ok.inj ((parse_items h).2.1.symm.trans (item_of_field hid))
  | test => exact Except.ok.inj ((parse_items h).2.1.symm.trans (item_of_field hid))
  | btc =>
      obtain ⟨-, id, hget, hwritten⟩ := btc_parse h
      cases hget.symm.trans (get_of_field hid)
      exact hwritten
  | mpesa =>
      obtain ⟨-, body, callback, id, hbody, hcallback, hget, hwritten⟩ := mpesa_parse h
      obtain ⟨body', hbody', hfields⟩ := Option.bind_eq_some_iff.mp hid
      obtain ⟨callback', hcallback', hid'⟩ := Option.bind_eq_some_iff.mp hfields
      cases hbody.symm.trans (get_of_field hbody')
      cases hcallback.symm.trans (get_of_field hcallback')
      cases hget.symm.trans (get_of_field hid')
      exact hwritten

-- A parser that indexes its id hands over no text that is not in the body.
theorem identifier_of_text {rail : Rail} {rawBody : Bytes} {event : Payments.WebhookEvent} {id : String}
    (hrail : rail.defaults = false) (h : rail.parseEvent rawBody = .ok event)
    (hid : event.providerEventId = .str id) : rail.identifier event.payload = some (.str id) := by
  have hfield {key : String} {data : Json} (h : data.item key = .ok event.providerEventId) :
      field key data = some (.str id) := by
    cases data with
    | obj fields =>
        unfold Json.item at h
        cases hlookup : Json.lookup key fields with
        | some value =>
            simp only [hlookup, Except.ok.injEq] at h
            simp [field, hlookup, h, hid]
        | none => simp [hlookup] at h
    | _ => cases h
  cases rail with
  | stripe => exact hfield (parse_items h).2.1
  | paypal => exact hfield (parse_items h).2.1
  | test => exact hfield (parse_items h).2.1
  | btc => cases hrail
  | mpesa => cases hrail

theorem text_of_defaults {rail : Rail} {rawBody : Bytes} {event : Payments.WebhookEvent}
    (hrail : rail.defaults = true) (h : rail.parseEvent rawBody = .ok event) :
    ∃ id, event.providerEventId = .str id := by
  cases rail with
  | btc =>
      obtain ⟨-, id, -, hwritten⟩ := btc_parse h
      exact ⟨_, hwritten⟩
  | mpesa =>
      obtain ⟨-, _, _, id, -, -, -, hwritten⟩ := mpesa_parse h
      exact ⟨_, hwritten⟩
  | stripe | paypal | test => cases hrail

end Rail

section Intakes

variable [Platform]

-- A body that arrives over a rail.
structure Intake where
  rail : Rail
  rawBody : Bytes

def Intake.perform (x : Intake) : Act (WebhookEvent × Bool) := do
  let event ← Prog.ofExcept (x.rail.parseEvent x.rawBody)
  Ledger.recordWebhookEvent {
    provider := x.rail.name
    providerEventId := event.providerEventId
    eventType := event.eventType
    payload := event.payload
    signatureValid := event.signatureValid }

-- The identifier that the body carries.
def Intake.identifier (x : Intake) : Option Json :=
  match Platform.loads x.rawBody with
  | .ok payload => x.rail.identifier payload
  | .error _ => none

-- The store after intakes one after another. One that fails leaves it as it was.
inductive Intakes (allow : Db → Intake → Prop) (db₀ : Db) : List Intake → Db → Prop
  | nil : Intakes allow db₀ [] db₀
  | snoc {log : List Intake} {db db' : Db} {x : Intake} {result : WebhookEvent × Bool}
      (hlog : Intakes allow db₀ log db) (hallow : allow db x) (hcalls : Calls x.perform db db' result) :
      Intakes allow db₀ (log ++ [x]) db'

-- Only what has been taken in before is suppressed, and nobody makes an id up.
structure Distinct (log : List Intake) (db : Db) (x : Intake) : Prop where
  suppressed : ∀ db' row, Calls x.perform db db' (row, false) →
    ∃ earlier ∈ log, earlier.rail = x.rail ∧ ∃ identifier, earlier.identifier = some identifier ∧
      x.identifier = some identifier
  rejected : x.identifier = none → ∀ event id, x.rail.parseEvent x.rawBody = .ok event →
    event.providerEventId ≠ .str id

-- The body is of the shape that the rail reads.
def Intake.Shaped (x : Intake) : Prop :=
  ∃ payload, Platform.loads x.rawBody = .ok payload ∧ x.rail.reads payload = true

-- A body that is read by a rail which makes up missing ids carries an identifier;
-- and what is stored under the text of the identifier that a body carries came over
-- the same rail with the same identifier.
structure Identified (db : Db) (x : Intake) : Prop where
  carried : x.Shaped → x.rail.defaults = true → x.identifier ≠ none
  own : x.Shaped → ∀ identifier, x.identifier = some identifier → ∀ row ∈ db.webhookEvents,
    .str row.providerEventId = x.rail.written identifier →
      row.provider = x.rail.name ∧ x.rail.identifier row.payload = some identifier

variable {log : List Intake} {db₀ db db' : Db} {x : Intake} {result : WebhookEvent × Bool}

theorem Intake.identifier_of_parse {event : Payments.WebhookEvent}
    (h : x.rail.parseEvent x.rawBody = .ok event) :
    x.identifier = x.rail.identifier event.payload := by
  unfold Intake.identifier
  rw [Rail.parseEvent_payload h]

theorem Intake.shaped_iff : x.Shaped ↔ ∃ event, x.rail.parseEvent x.rawBody = .ok event :=
  ⟨fun ⟨_, hpayload, hreads⟩ => Rail.parseEvent_of_reads hpayload hreads, fun ⟨event, hparse⟩ =>
    ⟨event.payload, Rail.parseEvent_payload hparse, Rail.reads_of_parseEvent hparse⟩⟩

-- What the condition says of the id that the parser hands over.
theorem Identified.parsed (h : Identified db x) {event : Payments.WebhookEvent} {id : String}
    (hparse : x.rail.parseEvent x.rawBody = .ok event) (hid : event.providerEventId = .str id) :
    ∃ identifier, x.identifier = some identifier ∧ ∀ row ∈ db.webhookEvents, row.providerEventId = id →
      row.provider = x.rail.name ∧ x.rail.identifier row.payload = some identifier := by
  have hshaped := Intake.shaped_iff.mpr ⟨event, hparse⟩
  have hidentifier := Intake.identifier_of_parse hparse
  obtain ⟨identifier, hcarried⟩ : ∃ identifier, x.identifier = some identifier := by
    cases hrail : x.rail.defaults with
    | true => exact Option.ne_none_iff_exists'.mp (h.carried hshaped hrail)
    | false => exact ⟨_, hidentifier.trans (Rail.identifier_of_text hrail hparse hid)⟩
  refine ⟨identifier, hcarried, fun row hrow hrowId => h.own hshaped identifier hcarried row hrow ?_⟩
  rw [← Rail.parseEvent_written hparse (hidentifier.symm.trans hcarried), hid, hrowId]

theorem calls_perform : Calls x.perform db db' result ↔ ∃ event, x.rail.parseEvent x.rawBody = .ok event ∧
    EventCall ⟨x.rail.name, event.providerEventId, event.eventType, event.payload, event.signatureValid⟩ db db'
      result :=
  calls_ofExcept.trans (exists_congr fun _ => and_congr_right' calls_recordWebhookEvent)

-- Every stored event comes from an intake, and every intake has its event.
structure Traced (log : List Intake) (db : Db) : Prop where
  rows : ∀ row ∈ db.webhookEvents, ∃ x ∈ log, x.rail.name = row.provider ∧
    x.identifier = x.rail.identifier row.payload
  intakes : ∀ x ∈ log, ∃ event id, x.rail.parseEvent x.rawBody = .ok event ∧ event.providerEventId = .str id ∧
    (∃ row ∈ db.webhookEvents, row.providerEventId = id) ∧
      ∀ row ∈ db.webhookEvents, row.providerEventId = id →
        row.provider = x.rail.name ∧ x.rail.identifier row.payload = x.identifier

theorem Traced.step (h : Traced log db) (hidentified : Identified db x)
    (hcalls : Calls x.perform db db' result) :
    Traced (log ++ [x]) db' := by
  obtain ⟨event, hparse, hcall⟩ := calls_perform.mp hcalls
  have hmember {y : Intake} (hy : y ∈ log) : y ∈ log ++ [x] := List.mem_append_left _ hy
  cases hcall with
  | @seen row hid hrow =>
      obtain ⟨identifier, hidentifier, hsame⟩ := hidentified.parsed hparse hid
      refine ⟨fun row hrow => ?_, fun y hy => ?_⟩
      · obtain ⟨y, hy, hfrom⟩ := h.rows row hrow
        exact ⟨y, hmember hy, hfrom⟩
      · rcases List.mem_append.mp hy with hold | hnew
        · exact h.intakes y hold
        · rw [List.mem_singleton.mp hnew]
          refine ⟨event, _, hparse, hid, ⟨row, hrow, rfl⟩, fun row' hrow' hid' => ?_⟩
          rw [hidentifier]
          exact hsame row' hrow' hid'
  | @new id eventType rowId receivedAt hid htype hmissing htakes =>
      have hidentifier := Intake.identifier_of_parse hparse
      refine ⟨fun row hrow => ?_, fun y hy => ?_⟩
      · rcases List.mem_append.mp hrow with hold | hnew
        · obtain ⟨y, hy, hfrom⟩ := h.rows row hold
          exact ⟨y, hmember hy, hfrom⟩
        · rw [List.mem_singleton.mp hnew]
          exact ⟨x, List.mem_append_right _ List.mem_cons_self, rfl, hidentifier⟩
      · rcases List.mem_append.mp hy with hold | hnew
        · -- the id of an earlier intake has its event, so the new one has another id
          obtain ⟨event', id', hparse', hid', ⟨row, hrow, hrowId⟩, hsame⟩ := h.intakes y hold
          refine ⟨event', id', hparse', hid', ⟨row, List.mem_append_left _ hrow, hrowId⟩,
            fun row' hrow' hrowId' => ?_⟩
          rcases List.mem_append.mp hrow' with hrow' | hrow'
          · exact hsame row' hrow' hrowId'
          · rw [List.mem_singleton.mp hrow'] at hrowId'
            exact absurd (hrowId.trans hrowId'.symm) (hmissing row hrow)
        · rw [List.mem_singleton.mp hnew]
          refine ⟨event, id, hparse, hid, ⟨_, List.mem_append_right _ List.mem_cons_self, rfl⟩,
            fun row' hrow' hrowId' => ?_⟩
          rcases List.mem_append.mp hrow' with hrow' | hrow'
          · exact absurd hrowId' (hmissing row' hrow')
          · rw [List.mem_singleton.mp hrow']
            exact ⟨rfl, hidentifier.symm⟩

theorem Intakes.traced (hlog : Intakes Identified db₀ log db) (hempty : db₀.webhookEvents = []) :
    Traced log db := by
  induction hlog with
  | nil => exact ⟨by simp [hempty], by simp⟩
  | snoc _ hidentified hcalls ih => exact ih.step hidentified hcalls

theorem intake_distinct (hlog : Intakes Identified db₀ log db) (hempty : db₀.webhookEvents = []) (x : Intake) :
    Distinct log db x ↔ Identified db x := by
  have htraced := hlog.traced hempty
  constructor
  · intro hdistinct
    refine ⟨fun hshaped hrail hnone => ?_, fun hshaped identifier hcarried row hrow hrowId => ?_⟩
    · obtain ⟨event, hparse⟩ := Intake.shaped_iff.mp hshaped
      obtain ⟨id, hid⟩ := Rail.text_of_defaults hrail hparse
      exact hdistinct.rejected hnone event id hparse hid
    · obtain ⟨event, hparse⟩ := Intake.shaped_iff.mp hshaped
      have hidentifier := Intake.identifier_of_parse hparse
      have hwritten := Rail.parseEvent_written hparse (hidentifier.symm.trans hcarried)
      have hseen : Calls x.perform db db (row, false) :=
        calls_perform.mpr ⟨event, hparse, .seen (hwritten.trans hrowId.symm) hrow⟩
      obtain ⟨earlier, hearlier, hrail, identifier', hsame, hsame'⟩ := hdistinct.suppressed db row hseen
      cases hcarried.symm.trans hsame'
      obtain ⟨event', id', hparse', hid', -, hrows⟩ := htraced.intakes earlier hearlier
      -- one rail writes one identifier in one way
      have hwritten' := Rail.parseEvent_written hparse'
        ((Intake.identifier_of_parse hparse').symm.trans hsame)
      rw [hrail] at hwritten'
      have hids : row.providerEventId = id' := Json.str.inj (hrowId.trans (hwritten'.symm.trans hid'))
      have hfrom := hrows row hrow hids
      rw [hrail, hsame] at hfrom
      exact hfrom
  · intro hidentified
    constructor
    · intro db' row hcalls
      obtain ⟨event, hparse, hcall⟩ := calls_perform.mp hcalls
      cases hcall with
      | seen hid hrow =>
          obtain ⟨identifier, hcarried, hrows⟩ := hidentified.parsed hparse hid
          obtain ⟨hprovider, hpayload⟩ := hrows row hrow rfl
          obtain ⟨earlier, hearlier, hname, hfrom⟩ := htraced.rows row hrow
          have hrail := Rail.name_injective (hname.trans hprovider)
          refine ⟨earlier, hearlier, hrail, identifier, ?_, hcarried⟩
          rw [hfrom, hrail, hpayload]
    · intro hnone event id hparse hid
      obtain ⟨identifier, hcarried, -⟩ := hidentified.parsed hparse hid
      cases hnone.symm.trans hcarried

end Intakes

open Trial

theorem loads_eventBody : Platform.loads eventBody = .ok eventJson := if_pos rfl

theorem stripe_parses : Rail.stripe.parseEvent eventBody =
    .ok ⟨.str "evt_1RaBoh", .str "checkout.session.completed", eventJson, true⟩ := by
  simp only [Rail.parseEvent, StripeProvider.parseEvent, loads_eventBody]
  rfl

def storedEvent : WebhookEvent :=
  (⟨"stripe", .str "evt_1RaBoh", .str "checkout.session.completed", eventJson, true⟩ : EventArgs).row
    "evt_1RaBoh" "checkout.session.completed" (uuid 0) clock

def stored : Db := { webhookEvents := [storedEvent] }

theorem calls_stored : Calls (Intake.perform ⟨.stripe, eventBody⟩) {} stored (storedEvent, true) :=
  calls_perform.mpr ⟨_, stripe_parses, .new rfl rfl (by simp) ⟨by decide, by decide, by decide⟩⟩

theorem intake_distinct_retry : Intakes Identified {} [⟨.stripe, eventBody⟩] stored ∧
    Distinct [⟨.stripe, eventBody⟩] stored ⟨.stripe, eventBody⟩ := by
  have hcarried : Intake.identifier ⟨.stripe, eventBody⟩ = some (.str "evt_1RaBoh") := by decide +kernel
  have hfirst : Identified {} ⟨.stripe, eventBody⟩ := ⟨by simp [Rail.defaults], by simp⟩
  have hlog : Intakes Identified {} [⟨.stripe, eventBody⟩] stored := .snoc .nil hfirst calls_stored
  refine ⟨hlog, (intake_distinct hlog rfl ⟨.stripe, eventBody⟩).mpr ⟨by simp [Rail.defaults], ?_⟩⟩
  intro _ identifier hidentifier row hrow _
  rw [List.mem_singleton.mp hrow]
  cases hcarried.symm.trans hidentifier
  exact ⟨rfl, by decide +kernel⟩

-- A body without an id of M-Pesa is stored as "None", and an event of Stripe
-- suppresses one of BTC.
theorem events_conflated : ¬ Distinct [] {} ⟨.mpesa, eventBody⟩ ∧
    Intakes (fun _ _ => True) {} [⟨.stripe, eventBody⟩] stored ∧
      ¬ Distinct [⟨.stripe, eventBody⟩] stored ⟨.btc, eventBody⟩ := by
  refine ⟨fun h => ?_, .snoc .nil trivial calls_stored, fun h => ?_⟩
  · have hnone : Intake.identifier ⟨.mpesa, eventBody⟩ = none := by decide +kernel
    have hparse : Rail.mpesa.parseEvent eventBody =
        .ok ⟨.str "None", .str "stk_callback", eventJson, false⟩ := by
      simp only [Rail.parseEvent, MpesaProvider.parseEvent, loads_eventBody]
      rfl
    exact h.rejected hnone _ "None" hparse rfl
  · have hparse : Rail.btc.parseEvent eventBody =
        .ok ⟨.str "evt_1RaBoh", .str "checkout.session.completed", eventJson, false⟩ := by
      simp only [Rail.parseEvent, BtcProvider.parseEvent, loads_eventBody]
      rfl
    have hseen : Calls (Intake.perform ⟨.btc, eventBody⟩) stored stored (storedEvent, false) :=
      calls_perform.mpr ⟨_, hparse, .seen rfl List.mem_cons_self⟩
    obtain ⟨earlier, hearlier, hrail, -⟩ := h.suppressed stored storedEvent hseen
    rw [List.mem_singleton.mp hearlier] at hrail
    cases hrail

end BridgeOfHope
