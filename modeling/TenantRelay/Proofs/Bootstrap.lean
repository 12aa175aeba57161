import TenantRelay.Multiplex.Reference
import TenantRelay.Proofs.Hop
import TenantRelay.Proofs.Reporting

/-!
A front starts with what a reference instance offers, and offers it on. What it offers is what
it takes, and a front that is started from another one offers the same again.
-/

namespace TenantRelay

open Document Decoder

/-! Names of a map. -/

namespace KeyMap

variable {α β : Type}

theorem pairwise_keys_of_increasing {entries : List (String × α)} (sorted : Increasing entries) :
    (entries.map (·.1)).Pairwise (· < ·) := by
  induction entries with
  | nil => exact List.Pairwise.nil
  | cons next rest ih =>
      obtain ⟨k, v⟩ := next
      obtain ⟨above, sorted⟩ := increasing_cons.mp sorted
      refine List.Pairwise.cons ?_ (ih sorted)
      intro key member
      obtain ⟨entry, own, rfl⟩ := List.mem_map.mp member
      exact above entry own

theorem pairwise_keys (m : KeyMap α) : m.keys.Pairwise (· < ·) :=
  pairwise_keys_of_increasing m.increasing

theorem mem_keys {m : KeyMap α} {key : String} : key ∈ m.keys ↔ (m.find? key).isSome = true := by
  unfold keys find?
  induction m.entries with
  | nil => simp [findEntry]
  | cons next rest ih =>
      obtain ⟨k, v⟩ := next
      by_cases same : key = k <;> simp_all [findEntry]

theorem find?_map (f : α → β) (m : KeyMap α) (key : String) :
    (m.map f).find? key = (m.find? key).map f := by
  show findEntry key (m.entries.map fun entry => (entry.1, f entry.2)) = (m.find? key).map f
  unfold find?
  induction m.entries with
  | nil => rfl
  | cons next rest ih =>
      obtain ⟨k, v⟩ := next
      by_cases same : key = k <;> simp_all [findEntry]

theorem keys_map (f : α → β) (m : KeyMap α) : (m.map f).keys = m.keys := by
  simp [keys, map, Function.comp_def]

theorem keys_eq_of_mem {m : KeyMap α} {n : KeyMap β} (same : ∀ key, key ∈ m.keys ↔ key ∈ n.keys) :
    m.keys = n.keys := by
  have bare : m.map (fun _ => ()) = n.map fun _ => () := by
    apply ext_find?
    intro key
    have known := same key
    rw [mem_keys, mem_keys] at known
    rw [find?_map, find?_map]
    cases own : m.find? key <;> cases other : n.find? key <;> simp_all
  have listed := congrArg KeyMap.keys bare
  rwa [keys_map, keys_map] at listed

section
variable {k k' : String} {v v' : α} {rest : List (String × α)}

theorem insertEntry_before (before : k < k') :
    insertEntry k v ((k', v') :: rest) = (k, v) :: (k', v') :: rest := if_pos before

theorem insertEntry_past (past : k' < k) :
    insertEntry k v ((k', v') :: rest) = (k', v') :: insertEntry k v rest := by
  have other : k ≠ k' := by
    rintro rfl
    exact String.lt_irrefl k past
  rw [insertEntry, if_neg (String.lt_asymm past), if_neg other]

end

end KeyMap

/-! What an offer is written as. -/

theorem Json.normalizeItems_eq {items : List Json} (sorted : ∀ v ∈ items, v.Sorted) :
    normalizeItems items = items := by
  induction items with
  | nil => rfl
  | cons item rest ih =>
      obtain ⟨own, others⟩ := List.forall_mem_cons.mp sorted
      rw [normalizeItems, ih others, show item.normalize = item from own]

theorem Json.normalizeMembers_eq {members : List (String × Json)}
    (sorted : ∀ e ∈ members, e.2.Sorted) : normalizeMembers members = members := by
  induction members with
  | nil => rfl
  | cons member rest ih =>
      obtain ⟨own, others⟩ := List.forall_mem_cons.mp sorted
      rw [normalizeMembers, ih others, show member.2.normalize = member.2 from own]

theorem Json.sorted_ofDict {d : Dict} (sorted : ∀ e ∈ d.entries, e.2.Sorted) :
    (ofDict d).Sorted := by
  unfold Sorted ofDict
  rw [normalize, normalizeMembers_eq sorted, ofPairs, KeyMap.ofList, KeyMap.insertAll_entries]
  rfl

theorem Json.sorted_ofStrings (texts : List String) : (ofStrings texts).Sorted := by
  unfold Sorted ofStrings
  rw [normalize, normalizeItems_eq]
  intro v member
  obtain ⟨text, _, rfl⟩ := List.mem_map.mp member
  rfl

namespace Schema

def listing (s : Schema) : Json :=
  .obj [("config", s.config), ("request", .ofDict s.request),
    ("required_events", .ofStrings s.requiredEvents), ("views", .arr s.views)]

variable {s : Schema}

theorem sorted_parts (sorted : s.Sorted) : ∀ e ∈ [("views", Json.arr s.views),
    ("config", s.config), ("request", .ofDict s.request),
    ("required_events", .ofStrings s.requiredEvents)], e.2.Sorted := by
  have views : (Json.arr s.views).Sorted := by
    rw [Json.Sorted, Json.normalize, Json.normalizeItems_eq sorted.views]
  simp only [List.forall_mem_cons]
  exact ⟨views, sorted.config, Json.sorted_ofDict sorted.request, Json.sorted_ofStrings _,
    List.forall_mem_nil _⟩

theorem normalize_toJson (sorted : s.Sorted) : s.toJson.normalize = s.listing := by
  have config_views : "config" < "views" := by decide
  have config_request : "config" < "request" := by decide
  have request_views : "request" < "views" := by decide
  have config_events : "config" < "required_events" := by decide
  have request_events : "request" < "required_events" := by decide
  have events_views : "required_events" < "views" := by decide
  rw [toJson, Json.normalize, Json.normalizeMembers_eq (sorted_parts sorted)]
  simp only [Json.ofPairs, Json.ofDict, KeyMap.ofList, KeyMap.insertAll, KeyMap.insert,
    KeyMap.empty, List.foldl_cons, List.foldl_nil]
  rw [KeyMap.insertEntry, KeyMap.insertEntry_before config_views,
    KeyMap.insertEntry_past config_request, KeyMap.insertEntry_before request_views,
    KeyMap.insertEntry_past config_events, KeyMap.insertEntry_past request_events,
    KeyMap.insertEntry_before events_views]
  rfl

theorem sorted_listing (sorted : s.Sorted) : s.listing.Sorted := by
  have increasing : Increasing [("config", s.config), ("request", .ofDict s.request),
      ("required_events", .ofStrings s.requiredEvents), ("views", .arr s.views)] :=
    ⟨by decide, by decide, by decide, trivial⟩
  apply Json.sorted_ofDict (d := ⟨_, increasing⟩)
  intro e member
  apply sorted_parts sorted
  simp only [List.mem_cons, List.not_mem_nil, or_false] at member ⊢
  rcases member with config | request | events | views
  · exact Or.inr (Or.inl config)
  · exact Or.inr (Or.inr (Or.inl request))
  · exact Or.inr (Or.inr (Or.inr events))
  · exact Or.inl views

theorem convert_listing (sorted : s.Sorted) : Json.convert decoder s.listing = .ok s := by
  have views : Decoder.list Decoder.json none (Tree.ofJson (.arr s.views)) = .ok s.views := by
    have kept : ∀ v ∈ s.views, Decoder.json none (Tree.ofJson (id v)) = .ok v :=
      fun v member => (fits_unbounded v).kept (sorted.views v member)
    have read : Decoder.list Decoder.json none (Tree.ofJson (.arr (s.views.map id))) =
        .ok s.views := list_ofItems rfl kept
    rwa [List.map_id] at read
  have config : Decoder.json none (Tree.ofJson s.config) = .ok s.config :=
    (fits_unbounded s.config).kept sorted.config
  have request : Decoder.map Decoder.json none (Tree.ofJson (.ofDict s.request)) = .ok s.request :=
    (fits_unbounded _).dict sorted.request
  have events : Decoder.list Decoder.text none (Tree.ofJson (.ofStrings s.requiredEvents)) =
      .ok s.requiredEvents :=
    list_ofItems (show enter none = .ok none from rfl) fun _ _ => rfl
  -- The members come in another order than the fields do, but each has its field.
  show (Record.members fields none (Tree.ofMembers [("config", s.config),
    ("request", .ofDict s.request), ("required_events", .ofStrings s.requiredEvents),
    ("views", .arr s.views)]) [] {} >>= _) = _
  simp only [Tree.ofMembers, Record.members, Key.read, mapError_ok, fields]
  simp [RecordField.of, config, request, events, views, Except.map, bind, Except.bind]
  rfl

/-- An offer that is given back by the text layer, also from within an answer. -/
structure Legible (s : Schema) : Prop where
  sorted : s.Sorted
  numbers : ∀ n ∈ s.toJson.numbers, n.ReadsBack
  low : s.toJson.height < 127

theorem numbers_listing (n : Json.Number) : n ∈ s.listing.numbers ↔ n ∈ s.toJson.numbers := by
  simp only [listing, toJson, Json.numbers, Json.memberNumbers, List.mem_append, List.not_mem_nil,
    or_false]
  rw [← or_assoc, ← or_assoc, or_comm, or_assoc]

theorem height_listing : s.listing.height = s.toJson.height := by
  simp only [listing, toJson, Json.height, Json.membersHeight]
  omega

def answer (s : Schema) : Response := Dispatcher.success { data := some s.toJson.normalize }

theorem toJson_answer (sorted : s.Sorted) : s.answer.toJson = .obj [("error", .str ""),
    ("version", .num (.nat protocolVersion)), ("data", s.listing)] := by
  rw [answer, normalize_toJson sorted]
  rfl

theorem readsBack_answer (sorted : s.Sorted) (readsBack : ∀ n ∈ s.toJson.numbers, n.ReadsBack) :
    ∀ n ∈ s.answer.toJson.numbers, n.ReadsBack := by
  rw [toJson_answer sorted]
  intro n member
  simp only [Json.numbers, Json.memberNumbers, List.mem_append, List.mem_singleton,
    List.not_mem_nil, false_or, or_false] at member
  rcases member with rfl | own
  · exact Json.Number.readsBack_nat protocolVersion
  · exact readsBack n ((numbers_listing n).mp own)

theorem Legible.restored_answer (legible : s.Legible) : s.answer.Restored where
  text := by
    apply Json.restored_of_height (readsBack_answer legible.sorted legible.numbers)
    have low := legible.low
    rw [toJson_answer legible.sorted]
    simp only [Json.height, Json.membersHeight, height_listing]
    omega
  data := by
    intro v present
    cases present
    rw [normalize_toJson legible.sorted]
    exact sorted_listing legible.sorted
  states := nofun

theorem Legible.readSchema_answer (legible : s.Legible) :
    ∃ r, Forward.readAnswer 200 s.answer.encode = .ok r ∧ Reference.readSchema r = .ok s := by
  refine ⟨_, Forward.readAnswer_success legible.restored_answer, ?_⟩
  have read := convert_listing legible.sorted
  rw [answer, normalize_toJson legible.sorted]
  show (Json.convert decoder s.listing).mapError MultiplexError.serialization = .ok s
  rw [read]
  rfl

end Schema

/-! Asking an instance. -/

def Parcel.call (parcel : Parcel) (path : String) (more : Http.Headers) : Http.Call :=
  { method := parcel.outgoing.method, path, body := parcel.outgoing.body
    headers := (parcel.outgoing.headers.map fun h => (h.1, Text.Utf8.encode h.2)) ++ more }

theorem Parcel.call_of (address secret : String) (message : Message) (path : String)
    (more : Http.Headers) : (Parcel.of address secret message).call path more =
      Dispatcher.signed (Text.Utf8.encode secret) ⟨"POST", path,
        ("content-type", Text.Utf8.encode "application/json") :: more, message.encode, none⟩ := by
  simp only [call, Parcel.of, outgoing, Dispatcher.signed, List.map_cons, List.map_nil,
    List.cons_append, List.nil_append]

/-- Whatever an instance answers on its own to what is posted to its address comes back. -/
def Surroundings.Hosts {σ : Type} {m : Type → Type} [Monad m] (s : Surroundings σ)
    (address : String) (d : Dispatcher m) : Prop :=
  ∀ parcel w, parcel.address = address → ∃ path more, more.get? "content-encoding" = none ∧
    ∀ h, d.handle (parcel.call path more) = pure h →
      (s.post parcel w).1 = .ok ⟨h.answer.status, h.answer.body⟩

namespace Reference

theorem schemaRequest_read :
    Json.parse Message.decoder schemaRequest.encode = .ok schemaRequest := by
  have sorted : schemaRequest.Sorted := ⟨nofun, nofun, nofun⟩
  apply (Message.comesBack sorted).text
  apply Json.restored_of_height
  · intro n member
    have all : schemaRequest.toJson.numbers = [.nat protocolVersion] := rfl
    rw [all] at member
    cases List.mem_singleton.mp member
    exact Json.Number.readsBack_nat protocolVersion
  · decide

end Reference

namespace Dispatcher

variable {m : Type → Type} [Monad m] [LawfulMonad m] {d : Dispatcher m}

omit [LawfulMonad m] in
theorem handle_of_long {call : Http.Call} {signature : String}
    (signed : signature? call = some signature) (long : d.maxBody < call.body.length) :
    d.handle call = pure (refused { cause := .bodyRead "length limit exceeded" }) := by
  simp only [handle, signed, admitted, readBody, long, ↓reduceIte]
  rfl

omit [Monad m] [LawfulMonad m] in
theorem answer_granted (kind : String) (r : Response) :
    (handled kind { result := .ok r }).answer = .json 200 r.toJson := rfl

theorem handle_schemaRequest {address path : String} {more : Http.Headers}
    (unpacked : more.get? "content-encoding" = none)
    (short : Reference.schemaRequest.encode.length ≤ d.maxBody) :
    d.handle ((Parcel.of address d.secret Reference.schemaRequest).call path more) =
      pure (handled "schema_request" { result := .ok d.schema.answer }) := by
  have still : Http.Headers.get? (("content-type", Text.Utf8.encode "application/json") :: more)
      "content-encoding" = none := by
    simpa [Http.Headers.get?] using unpacked
  have bears : d.message? ((Parcel.of address d.secret Reference.schemaRequest).call path more) =
      some Reference.schemaRequest := by
    rw [Parcel.call_of, message?_signed_unpacked still short, Reference.schemaRequest_read]
    rfl
  have planned : d.plan Reference.schemaRequest = .ok (.settled d.schema.answer []) := rfl
  rw [handle_of_message? bears, dispatch, planned, pure_bind]
  rfl

end Dispatcher

theorem Forward.parse_of_readAnswer {body : Bytes} {r : Response} (full : body ≠ [])
    (read : readAnswer 200 body = .ok r) : Json.parse Response.decoder body = .ok r := by
  have success : isSuccess 200 = true := rfl
  have some : body.isEmpty = false := List.isEmpty_eq_false_iff.mpr full
  simp only [readAnswer, success, some, Bool.false_eq_true, ↓reduceIte] at read
  cases parsed : Json.parse Response.decoder body with
  | error e =>
      rw [parsed] at read
      cases read
  | ok other =>
      rw [parsed] at read
      cases read
      rfl

theorem Forwarder.run_send {σ : Type} {s : Surroundings σ} (f : Forwarder)
    (address secret : String) (message : Message) (target : String) (site : Site σ) :
    (Site.run s (f.send address secret message target) site).1 =
      f.read (s.post (.of address secret message) site.outside).1 := rfl

namespace Reference

open Site

variable {σ : Type} {s : Surroundings σ} {address : String}

theorem run_fetchSchema {secret : String} {site : Site σ} {status : Nat} {body : Bytes}
    (answered : (s.post (.of address secret schemaRequest) site.outside).1 = .ok ⟨status, body⟩)
    (f : Forwarder) : (run s (fetchSchema f address secret) site).1 =
      match Forward.readAnswer status body with
      | .error e => .error (.forward e)
      | .ok r => readSchema r := by
  have sent : (run s (f.send address secret schemaRequest "schema_request") site).1 =
      Forward.readAnswer status body := by
    rw [f.run_send, answered]
    rfl
  unfold fetchSchema
  rw [run_bind, sent]
  cases Forward.readAnswer status body <;> rfl

section
variable {m : Type → Type} [Monad m] [LawfulMonad m] {d : Dispatcher m}
  (hosts : s.Hosts address d)

include hosts

theorem post_of_hosts (short : schemaRequest.encode.length ≤ d.maxBody) (w : σ) :
    (s.post (.of address d.secret schemaRequest) w).1 = .ok ⟨200, d.schema.answer.encode⟩ := by
  obtain ⟨path, more, unpacked, answers⟩ := hosts (.of address d.secret schemaRequest) w rfl
  have answered := answers _ (Dispatcher.handle_schemaRequest unpacked short)
  have status : (Http.Answer.json 200 d.schema.answer.toJson).status = 200 := rfl
  rwa [Dispatcher.answer_granted, Dispatcher.body_json, status] at answered

theorem fetchSchema_fetches (short : schemaRequest.encode.length ≤ d.maxBody)
    (legible : d.schema.Legible) (f : Forwarder) (site : Site σ) :
    (run s (fetchSchema f address d.secret) site).1 = .ok d.schema := by
  obtain ⟨r, read, told⟩ := legible.readSchema_answer
  rw [run_fetchSchema (post_of_hosts hosts short site.outside), read]
  exact told

omit [LawfulMonad m] in
theorem fetchSchema_of_long (long : d.maxBody < schemaRequest.encode.length) (f : Forwarder)
    (site : Site σ) : (run s (fetchSchema f address d.secret) site).1 =
      .error (.schema Forward.unread.error) := by
  obtain ⟨path, more, unpacked, answers⟩ :=
    hosts (.of address d.secret schemaRequest) site.outside rfl
  rw [Parcel.call_of] at answers
  rw [run_fetchSchema (answers _ (Dispatcher.handle_of_long Dispatcher.signature?_signed long))]
  rfl

end

end Reference

/-! What is offered and what is taken. -/

def Dispatched.RefusedFor (cause : Rejection.Cause) (d : Dispatched) : Prop :=
  ∃ rejection, d.result = .error rejection ∧ rejection.cause = cause

namespace Dispatcher

open Site

variable {σ : Type} (s : Surroundings σ) (site : Site σ) {d : Dispatcher Program}
  {message : Message}

theorem refusedFor_iff_plan {cause : Rejection.Cause} (unhandled : ∀ e, cause ≠ .handler e) :
    (run s (d.dispatch message) site).1.RefusedFor cause ↔
      ∃ rejection, d.plan message = .error rejection ∧ rejection.cause = cause := by
  cases planned : d.plan message with
  | error rejection =>
      have ended : (run s (d.dispatch message) site).1 = { result := .error rejection } := by
        simp only [dispatch, planned]
        rfl
      rw [ended]
      simp [Dispatched.RefusedFor]
  | ok plan =>
      constructor
      case mpr =>
        rintro ⟨_, refused, _⟩
        cases refused
      cases plan with
      | settled response reports =>
          have ended : (run s (d.dispatch message) site).1 = ⟨.ok response, reports⟩ := by
            simp only [dispatch, planned]
            rfl
          rw [ended]
          rintro ⟨_, refused, _⟩
          cases refused
      | handling kind tenant handler =>
          rw [dispatch_of_plan planned, run_bind]
          rintro ⟨rejection, refused, own⟩
          have concluded : Dispatcher.concluded kind tenant (run s handler site).1 =
              .error rejection := refused
          cases outcome : (run s handler site).1 with
          | ok reply =>
              rw [outcome] at concluded
              cases concluded
          | error e =>
              rw [outcome] at concluded
              cases concluded
              exact absurd own.symm (unhandled e)

/-- A request is refused for its action just when there is no route for it, whatever else there
is to say against it. -/
theorem refusedFor_unknownAction_iff {r : Request} (bears : message.payload = .ok (.request r)) :
    (run s (d.dispatch message) site).1.RefusedFor (.unknownAction r.action) ↔
      d.registry.requests.find? r.action = none := by
  rw [refusedFor_iff_plan s site (by rintro e ⟨⟩)]
  simp only [plan, bears, requestPlan]
  cases found : d.registry.requests.find? r.action with
  | none => exact ⟨fun _ => rfl, fun _ => ⟨_, rfl, rfl⟩⟩
  | some route =>
      refine ⟨?_, fun unrouted => by cases unrouted⟩
      rintro ⟨rejection, refused, own⟩
      unfold client at refused
      cases claimed : d.clients r.tenant with
      | error text =>
          rw [claimed] at refused
          cases refused
          cases own
      | ok client =>
          rw [claimed] at refused
          dsimp only [mapError_ok, mapError_error, bind, Except.bind] at refused
          split at refused
          case h_1 =>
            cases refused
            cases own
          case h_2 => cases refused

theorem refusedFor_unknownEvent_iff {e : Event} (bears : message.payload = .ok (.event e)) :
    (run s (d.dispatch message) site).1.RefusedFor (.unknownEvent e.name) ↔
      d.registry.events.find? e.name = none := by
  rw [refusedFor_iff_plan s site (by rintro e ⟨⟩)]
  simp only [plan, bears, eventPlan]
  cases found : d.registry.events.find? e.name with
  | none => exact ⟨fun _ => rfl, fun _ => ⟨_, rfl, rfl⟩⟩
  | some route =>
      refine ⟨?_, fun unrouted => by cases unrouted⟩
      rintro ⟨rejection, refused, own⟩
      unfold client at refused
      cases claimed : d.clients e.tenant with
      | error text =>
          rw [claimed] at refused
          cases refused
          cases own
      | ok client =>
          rw [claimed] at refused
          cases refused

end Dispatcher

/-! Fronts. -/

theorem Json.itemNumbers_strings (texts : List String) : itemNumbers (texts.map str) = [] := by
  induction texts with
  | nil => rfl
  | cons text rest ih => exact ih

theorem Json.itemsHeight_strings (texts : List String) : itemsHeight (texts.map str) = 0 := by
  induction texts with
  | nil => rfl
  | cons text rest ih =>
      rw [List.map_cons, itemsHeight, ih]
      rfl

theorem Schema.Legible.of_events {s : Schema} (legible : s.Legible) (names : List String) :
    ({ s with requiredEvents := names } : Schema).Legible where
  sorted := ⟨legible.sorted.views, legible.sorted.config, legible.sorted.request⟩
  numbers := by
    intro n member
    apply legible.numbers n
    simpa only [toJson, Json.numbers, Json.memberNumbers, Json.ofStrings,
      Json.itemNumbers_strings] using member
  low := by
    have low := legible.low
    simpa only [toJson, Json.height, Json.membersHeight, Json.ofStrings,
      Json.itemsHeight_strings] using low

namespace Multiplexer

open Site Dispatcher

/-- A front offers what it was started with, and the lifecycle, and takes just what it
offers. -/
structure Offers (schema : Schema) (front : Dispatcher Program) : Prop where
  views : front.schema.views = schema.views
  config : front.schema.config = schema.config
  request : front.schema.request = schema.request
  ordered : front.schema.requiredEvents.Pairwise (· < ·)
  events : ∀ name, name ∈ front.schema.requiredEvents ↔
    name ∈ schema.requiredEvents ∨ name = subscribeEvent ∨ name = unsubscribeEvent
  actionRefused : ∀ {σ : Type} (s : Surroundings σ) (site : Site σ) (message : Message)
    (r : Request), message.payload = .ok (.request r) →
    ((run s (front.dispatch message) site).1.RefusedFor (.unknownAction r.action) ↔
      r.action ∉ front.schema.actions)
  eventRefused : ∀ {σ : Type} (s : Surroundings σ) (site : Site σ) (message : Message)
    (e : Event), message.payload = .ok (.event e) →
    ((run s (front.dispatch message) site).1.RefusedFor (.unknownEvent e.name) ↔
      e.name ∉ front.schema.requiredEvents)

variable (x : Multiplexer) (name secret : String) (schema : Schema)

theorem mem_eventNames (event : String) :
    event ∈ (x.dispatcher name secret schema).schema.requiredEvents ↔ event ∈ events schema := by
  show event ∈ (x.registry schema).events.keys ↔ _
  rw [KeyMap.mem_keys, find?_event]
  by_cases known : event ∈ events schema <;> simp [known]

theorem mem_events (event : String) : event ∈ events schema ↔
    event ∈ schema.requiredEvents ∨ event = subscribeEvent ∨ event = unsubscribeEvent := by
  simp [events]

theorem dispatcher_offers : Offers schema (x.dispatcher name secret schema) where
  views := rfl
  config := rfl
  request := rfl
  ordered := KeyMap.pairwise_keys _
  events event := by rw [mem_eventNames, mem_events]
  actionRefused s site message r bears := by
    rw [refusedFor_unknownAction_iff s site bears]
    show (x.registry schema).requests.find? r.action = none ↔ r.action ∉ schema.actions
    rw [find?_request]
    by_cases known : r.action ∈ schema.actions <;> simp [known]
  eventRefused s site message e bears := by
    rw [refusedFor_unknownEvent_iff s site bears, mem_eventNames]
    show (x.registry schema).events.find? e.name = none ↔ _
    rw [find?_event]
    by_cases known : e.name ∈ events schema <;> simp [known]

/-- What a front offers settles at once: started from it, a front offers the same. -/
theorem schema_dispatcher_again (y : Multiplexer) (other key : String) :
    (y.dispatcher other key (x.dispatcher name secret schema).schema).schema =
      (x.dispatcher name secret schema).schema := by
  have names : (y.dispatcher other key
      (x.dispatcher name secret schema).schema).schema.requiredEvents =
      (x.dispatcher name secret schema).schema.requiredEvents := by
    apply KeyMap.keys_eq_of_mem
    intro event
    show event ∈ (y.dispatcher other key _).schema.requiredEvents ↔
      event ∈ (x.dispatcher name secret schema).schema.requiredEvents
    rw [mem_eventNames, mem_events, mem_eventNames, mem_events]
    constructor
    · rintro (known | lifecycle)
      · exact known
      · exact Or.inr lifecycle
    · exact Or.inl
  show (⟨_, _, _, (y.dispatcher other key _).schema.requiredEvents⟩ : Schema) = _
  rw [names]
  rfl

theorem legible_dispatcher (legible : schema.Legible) :
    (x.dispatcher name secret schema).schema.Legible :=
  legible.of_events _

/-- Whoever asks an instance is told what it offers. What a front offers is what it was started
with and the lifecycle, it takes just that, and a front that is started from it offers the
same. -/
theorem advertised_is_routable :
    (∀ {σ : Type} {m : Type → Type} [Monad m] [LawfulMonad m] (s : Surroundings σ)
      (address : String) (d : Dispatcher m) (f : Forwarder) (site : Site σ),
      s.Hosts address d → Reference.schemaRequest.encode.length ≤ d.maxBody → d.schema.Legible →
      (run s (Reference.fetchSchema f address d.secret) site).1 = .ok d.schema) ∧
    (∀ (x : Multiplexer) (name secret : String) (schema : Schema),
      Offers schema (x.dispatcher name secret schema)) ∧
    ∀ {σ : Type} (s : Surroundings σ) (address : String) (x : Multiplexer) (name secret : String)
      (schema : Schema) (f : Forwarder) (site : Site σ),
      s.Hosts address (x.dispatcher name secret schema) → schema.Legible →
      ∃ fetched, (run s (Reference.fetchSchema f address secret) site).1 = .ok fetched ∧
        ∀ (y : Multiplexer) (other key : String), (y.dispatcher other key fetched).schema =
          (x.dispatcher name secret schema).schema := by
  have short : Reference.schemaRequest.encode.length ≤ 33554432 := by decide +kernel
  refine ⟨?_, dispatcher_offers, ?_⟩
  · intro σ m _ _ s address d f site hosts short legible
    exact Reference.fetchSchema_fetches hosts short legible f site
  · intro σ s address x name secret schema f site hosts legible
    have told := Reference.fetchSchema_fetches hosts short
      (legible_dispatcher x name secret schema legible) f site
    exact ⟨_, told, schema_dispatcher_again x name secret schema⟩

def hosted (d : Dispatcher Program) : Surroundings FairWorld :=
  FairWorld.surroundings .passThrough fun parcel =>
    let site : Site FairWorld := { outside := .hosting FairWorld.former }
    let h := (run FairWorld.accepting (d.handle (parcel.call "/" [])) site).1
    .ok ⟨h.answer.status, h.answer.body⟩

theorem hosted_hosts (address : String) (d : Dispatcher Program) : (hosted d).Hosts address d := by
  intro parcel w own
  refine ⟨"/", [], rfl, ?_⟩
  intro h alone
  simp only [hosted, FairWorld.surroundings, alone]
  rfl

def reference : Dispatcher Program :=
  { name := "reference", secret := "key"
    registry := { events := .ofList [("update", fun _ => return .ok {})] }
    offer := { views := [.str "map"], request := .ofList [("scan", .null)] } }

theorem reference_legible : reference.schema.Legible where
  sorted :=
    { views := by
        intro v member
        cases List.mem_singleton.mp member
        rfl
      config := rfl
      request := by
        intro e member
        cases List.mem_singleton.mp member
        rfl }
  numbers := by
    intro n member
    have none : reference.schema.toJson.numbers = [] := rfl
    rw [none] at member
    cases member
  low := by decide

/-- A front that is started from the reference instance, and a second one from the first. -/
theorem advertised_is_routable_of_reference :
    let site : Site FairWorld := { outside := .hosting FairWorld.former }
    let front := dispatcher {} "front" "front key" reference.schema
    (run (hosted reference) (Reference.fetchSchema {} "http://reference" "key") site).1 =
      .ok reference.schema ∧
    subscribeEvent ∈ front.schema.requiredEvents ∧
    ∃ fetched,
      (run (hosted front) (Reference.fetchSchema {} "http://front" "front key") site).1 =
        .ok fetched ∧
      (dispatcher {} "second" "another key" fetched).schema = front.schema := by
  intro site front
  obtain ⟨fetches, offers, again⟩ := advertised_is_routable
  have first := fetches (hosted reference) "http://reference" reference {} site
    (hosted_hosts _ _) (by decide +kernel) reference_legible
  have taken := (offers {} "front" "front key" reference.schema).events subscribeEvent
  obtain ⟨fetched, told, same⟩ := again (hosted front) "http://front" {} "front" "front key"
    reference.schema {} site (hosted_hosts _ _) reference_legible
  exact ⟨first, taken.mpr (Or.inr (Or.inl rfl)), fetched, told, same {} "second" "another key"⟩

def tight : Dispatcher Program := { reference with maxBody := 16 }

def nested : Nat → Json
  | 0 => .null
  | n + 1 => .arr [nested n]

theorem numbers_nested (n : Nat) : (nested n).numbers = [] := by
  induction n with
  | zero => rfl
  | succ n ih => simp [nested, Json.numbers, Json.itemNumbers, ih]

theorem sorted_nested (n : Nat) : (nested n).Sorted := by
  induction n with
  | zero => rfl
  | succ n ih =>
      have own : (nested n).normalize = nested n := ih
      rw [Json.Sorted, nested, Json.normalize, Json.normalizeItems, Json.normalizeItems, own]

def deep : Dispatcher Program :=
  { name := "deep", secret := "key", offer := { config := nested 126 } }

theorem deep_sorted : deep.schema.Sorted where
  views := nofun
  config := sorted_nested 126
  request := nofun

theorem deep_unread (r : Response) :
    Json.parse Response.decoder deep.schema.answer.encode ≠ .ok r := by
  have none : deep.schema.toJson.numbers = [] := by
    have config : deep.schema.config.numbers = [] := numbers_nested 126
    simp only [Schema.toJson, Json.numbers, Json.memberNumbers, config]
    rfl
  have numbers : ∀ n ∈ deep.schema.answer.toJson.numbers, n.ReadsBack := by
    apply Schema.readsBack_answer deep_sorted
    rw [none]
    exact nofun
  have tree : Json.readTree deep.schema.answer.encode =
      (Tree.ofJson deep.schema.answer.toJson, false) := Json.readTree_written numbers
  have garbled : (Response.decoder textDepth
      (Tree.ofJson deep.schema.answer.toJson)).toOption.isNone = true := by
    decide +kernel
  intro parsed
  have decoded := (Json.parse_eq_ok_iff.mp parsed).1
  rw [tree] at decoded
  rw [decoded] at garbled
  cases garbled

/-- Neither of them tells what it offers. -/
theorem schema_withheld :
    let site : Site FairWorld := { outside := .hosting FairWorld.former }
    (tight.schema.Legible ∧ ∀ schema,
      (run (hosted tight) (Reference.fetchSchema {} "http://reference" "key") site).1 ≠
        .ok schema) ∧
    ∀ schema, (run (hosted deep) (Reference.fetchSchema {} "http://reference" "key") site).1 ≠
      .ok schema := by
  intro site
  have long : tight.maxBody < Reference.schemaRequest.encode.length := by decide +kernel
  have unread := Reference.fetchSchema_of_long (hosted_hosts "http://reference" tight) long {} site
  have short : Reference.schemaRequest.encode.length ≤ deep.maxBody := by decide +kernel
  have posted := Reference.post_of_hosts (hosted_hosts "http://reference" deep) short site.outside
  refine ⟨⟨reference_legible, ?_⟩, ?_⟩
  · intro schema told
    cases unread.symm.trans told
  · intro schema told
    rw [show "key" = deep.secret from rfl, Reference.run_fetchSchema posted] at told
    cases read : Forward.readAnswer 200 deep.schema.answer.encode with
    | error e =>
        rw [read] at told
        cases told
    | ok r => exact deep_unread r (Forward.parse_of_readAnswer (Response.encode_ne_nil _) read)

end Multiplexer
end TenantRelay
