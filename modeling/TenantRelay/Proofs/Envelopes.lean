import TenantRelay.Envelope.Message
import TenantRelay.Envelope.Response
import TenantRelay.Proofs.Dictionaries

/-!
Envelopes are decoded from what they are written as. A record is written with its fields in
their order, some of them left out, and storing what is written field by field has to lead
from the blank record to the one that was written.
-/

namespace TenantRelay

namespace Document

variable {σ : Type} {depth below : Depth}

/-- Members that stand for some of the fields, in their order, lead from one record to
another. -/
inductive Writes (below : Depth) : List (RecordField σ) → List (String × Json) → σ → σ → Prop where
  | done (r : σ) : Writes below [] [] r r
  | leave {field : RecordField σ} {fields members} {r r' : σ} : field.required = false →
      Writes below fields members r r' → Writes below (field :: fields) members r r'
  | put {field : RecordField σ} {fields} {v : Json} {members} {r r' r'' : σ} :
      field.store below (Tree.ofJson v) r = .ok r' → Writes below fields members r' r'' →
      Writes below (field :: fields) ((field.name, v) :: members) r r''

theorem find?_name {before fields : List (RecordField σ)} {field : RecordField σ}
    (distinct : ((before ++ field :: fields).map (·.name)).Nodup) :
    (before ++ field :: fields).find? (fun f => f.name == field.name) = some field := by
  induction before with
  | nil => simp
  | cons first before ih =>
      rw [List.cons_append, List.map_cons, List.nodup_cons] at distinct
      have other : (first.name == field.name) = false := by
        rw [beq_eq_false_iff_ne]
        intro same
        apply distinct.1
        rw [same]
        exact List.mem_map.mpr ⟨field, by simp, rfl⟩
      rw [List.cons_append, List.find?_cons_of_neg (by simp [other])]
      exact ih distinct.2

theorem members_of_writes {all before fields : List (RecordField σ)}
    {members : List (String × Json)} {r r' : σ} {seen : List String}
    (whole : all = before ++ fields) (distinct : (all.map (·.name)).Nodup)
    (writes : Writes below fields members r r')
    (earlier : ∀ name ∈ seen, name ∈ before.map (·.name))
    (complete : ∀ field ∈ before, field.required = true → field.name ∈ seen) :
    ∃ seen', Record.members all below (Tree.ofMembers members) seen r = .ok (seen', r') ∧
      ∀ field ∈ all, field.required = true → field.name ∈ seen' := by
  induction writes generalizing before seen with
  | done r =>
      rw [List.append_nil] at whole
      exact ⟨seen, rfl, whole ▸ complete⟩
  | @leave field fields members r r' optional writes ih =>
      apply ih (show all = (before ++ [field]) ++ fields by simp [whole])
      · intro name member
        simp [earlier name member]
      · intro f member required
        rcases List.mem_append.mp member with old | own
        · exact complete f old required
        · rw [List.mem_singleton.mp own, optional] at required
          cases required
  | @put field fields v members r r' r'' stored writes ih =>
      have found : all.find? (fun f => f.name == field.name) = some field := by
        rw [whole] at distinct ⊢
        exact find?_name distinct
      have fresh : field.name ∉ seen := by
        intro again
        rw [whole, List.map_append, List.map_cons, List.nodup_append] at distinct
        exact distinct.2.2 _ (earlier _ again) _ List.mem_cons_self rfl
      have earlier' : ∀ name ∈ field.name :: seen, name ∈ (before ++ [field]).map (·.name) := by
        intro name member
        rcases List.mem_cons.mp member with same | old
        · simp [same]
        · simp [earlier name old]
      have complete' : ∀ f ∈ before ++ [field], f.required = true → f.name ∈ field.name :: seen := by
        intro f member required
        rcases List.mem_append.mp member with old | own
        · exact List.mem_cons_of_mem _ (complete f old required)
        · exact List.mem_singleton.mp own ▸ List.mem_cons_self
      obtain ⟨seen', read, required⟩ := ih (by simp [whole]) earlier' complete'
      refine ⟨seen', ?_, required⟩
      rw [← read]
      simp only [Tree.ofMembers, Record.members, Key.read, mapError_ok, bind, Except.bind, found,
        stored]
      rw [if_neg (by simpa using fresh)]

theorem record_of_writes {what : String} {fields : List (RecordField σ)} {blank r : σ}
    {members : List (String × Json)} (entered : enter depth = .ok below)
    (distinct : (fields.map (·.name)).Nodup) (writes : Writes below fields members blank r) :
    record what fields blank depth (Tree.ofJson (.obj members)) = .ok r := by
  have none : ∀ name ∈ ([] : List String), name ∈ ([] : List (RecordField σ)).map (·.name) := by
    intro name absent
    cases absent
  have nothing : ∀ field ∈ ([] : List (RecordField σ)), field.required = true → field.name ∈ [] := by
    intro field absent
    cases absent
  obtain ⟨seen, read, required⟩ :=
    members_of_writes (List.nil_append fields).symm distinct writes none nothing
  have complete : Record.missing fields seen = .ok () := by
    have all : (fields.find? fun field => field.required && !seen.contains field.name) = .none := by
      rw [List.find?_eq_none]
      intro field member
      by_cases needed : field.required = true
      · simp [required field member needed]
      · simp [needed]
    rw [Record.missing, all]
  show (enter depth >>= _) = _
  rw [entered]
  show (Record.members fields below (Tree.ofMembers members) [] blank >>= _) = _
  rw [read]
  show (Record.missing fields seen >>= _) = _
  rw [complete]
  rfl

section
variable {α : Type} {name : String} {inner : Decoder α} {set : α → σ → σ}
  {fields : List (RecordField σ)} {members : List (String × Json)} {r r' : σ}

theorem store_of (name : String) {tree : Tree} {a : α} (read : inner below tree = .ok a) :
    (RecordField.of name inner set).store below tree r = .ok (set a r) := by
  simp only [RecordField.of, read, Except.map]

theorem Writes.of {v : Json} {a : α} (read : inner below (Tree.ofJson v) = .ok a)
    (writes : Writes below fields members (set a r) r') :
    Writes below (.of name inner set :: fields) ((name, v) :: members) r r' :=
  .put (store_of name read) writes

theorem Writes.must {v : Json} {a : α} (read : inner below (Tree.ofJson v) = .ok a)
    (writes : Writes below fields members (set a r) r') :
    Writes below (.must name inner set :: fields) ((name, v) :: members) r r' :=
  .put (store_of name read) writes

theorem Writes.ofOption {v : Option Json} {a : α} (same : v = none → set a r = r)
    (read : ∀ w, v = some w → inner below (Tree.ofJson w) = .ok a)
    (writes : Writes below fields members (set a r) r') :
    Writes below (.of name inner set :: fields) (Json.member? name v ++ members) r r' := by
  cases v with
  | none => exact .leave rfl (same rfl ▸ writes)
  | some w => exact .put (store_of name (read w rfl)) writes

theorem Writes.last {v : Option Json} {a : α} (same : v = none → set a r = r)
    (read : ∀ w, v = some w → inner below (Tree.ofJson w) = .ok a) :
    Writes below [.of name inner set] (Json.member? name v) r (set a r) := by
  rw [← List.append_nil (Json.member? name v)]
  exact .ofOption same read (.done _)

end

end Document

namespace Document.Decoder

variable {depth below : Depth}

theorem u64_nat (n : UInt64) : u64 depth (.num (.nat n)) = .ok n := by
  have small : n.toNat < 0x10000000000000000 := n.toNat_lt
  simp [u64, whole, small, Except.map]

/-- What is there is decoded as it is, unless it looks like nothing. -/
theorem option_of {α : Type} {inner : Decoder α} {tree : Tree} {a : α}
    (read : inner depth tree = .ok a) (present : tree ≠ .null) (quoted : ∀ s, tree ≠ .plain s) :
    option inner depth tree = .ok (some a) := by
  cases tree with
  | null => exact absurd rfl present
  | plain s => exact absurd rfl (quoted s)
  | _ => simp only [option, read, Except.map]

theorem items_ofItems {α : Type} {inner : Decoder α} {f : α → Json} {all : List α}
    (kept : ∀ a ∈ all, inner below (Tree.ofJson (f a)) = .ok a) :
    items inner below (Tree.ofItems (all.map f)) = .ok all := by
  induction all with
  | nil => rfl
  | cons first rest ih =>
      have own := kept first List.mem_cons_self
      have others := ih fun a member => kept a (List.mem_cons_of_mem _ member)
      show (inner below (Tree.ofJson (f first)) >>= _) = _
      rw [own]
      show (items inner below (Tree.ofItems (rest.map f)) >>= _) = _
      rw [others]
      rfl

theorem list_ofItems {α : Type} {inner : Decoder α} {f : α → Json} {all : List α}
    (entered : enter depth = .ok below)
    (kept : ∀ a ∈ all, inner below (Tree.ofJson (f a)) = .ok a) :
    list inner depth (Tree.ofJson (.arr (all.map f))) = .ok all := by
  show (enter depth >>= _) = _
  rw [entered]
  show (items inner below (Tree.ofItems (all.map f)) >>= _) = _
  rw [items_ofItems kept]
  rfl

end Document.Decoder

open Document Decoder

theorem option_text {depth : Depth} {text : Option String} (w : Json)
    (written : text.map Json.str = some w) :
    option Decoder.text depth (Tree.ofJson w) = .ok text := by
  cases text with
  | none => cases written
  | some s =>
      cases written
      rfl

def ResourceState.Kept (depth : Depth) (s : ResourceState) : Prop := Decoder.Kept depth s.state

section
variable {depth below : Depth} (entered : enter depth = .ok below)
include entered

theorem Tenant.decoder_toJson (t : Tenant) : decoder depth (Tree.ofJson t.toJson) = .ok t := by
  apply record_of_writes entered (by decide)
  apply Writes.of rfl
  apply Writes.of rfl
  apply Writes.last
  · intro absent
    have absent : t.ident = none := Option.map_eq_none_iff.mp absent
    rw [absent]
  · exact option_text

theorem ResourceState.decoder_toJson {s : ResourceState} (kept : s.Kept below) :
    decoder depth (Tree.ofJson s.toJson) = .ok s := by
  apply record_of_writes entered (by decide)
  apply Writes.of kept
  apply Writes.of (u64_nat s.updatedAt)
  exact .done _

end

theorem KeyMap.eq_empty {α : Type} {m : KeyMap α} (empty : m.isEmpty = true) : m = .empty := by
  obtain ⟨entries, increasing⟩ := m
  cases entries with
  | nil => rfl
  | cons first rest => cases empty

structure Request.Kept (depth : Depth) (r : Request) : Prop where
  data : dict depth (Tree.ofJson (.ofDict r.data)) = .ok r.data
  config : dict depth (Tree.ofJson (.ofDict r.config)) = .ok r.config
  states : Decoder.map ResourceState.decoder depth
    (Tree.ofJson (.ofDict (r.resourceState.map ResourceState.toJson))) = .ok r.resourceState

structure Event.Kept (depth : Depth) (e : Event) : Prop where
  data : dict depth (Tree.ofJson (.ofDict e.data)) = .ok e.data
  config : dict depth (Tree.ofJson (.ofDict e.config)) = .ok e.config

def ConfigValidation.Kept (depth : Depth) (c : ConfigValidation) : Prop :=
  dict depth (Tree.ofJson (.ofDict c.config)) = .ok c.config

theorem Request.decoder_toJson {depth below inner : Depth} {r : Request}
    (entered : enter depth = .ok below) (entered' : enter below = .ok inner)
    (kept : r.Kept below) : decoder depth (Tree.ofJson r.toJson) = .ok r := by
  have written : r.toJson = .obj (("org", r.tenant.toJson) :: ("action", .str r.action) ::
      ("data", .ofDict r.data) :: ("config", .ofDict r.config) ::
      (Json.member? "resource_state" (resourceJson r.resourceState) ++
        Json.member? "inv_id" (r.investigationId.map .str))) := rfl
  rw [written]
  apply record_of_writes entered (by decide)
  apply Writes.of (Tenant.decoder_toJson entered' r.tenant)
  apply Writes.of rfl
  apply Writes.of kept.data
  apply Writes.of kept.config
  apply Writes.ofOption (a := r.resourceState)
  · intro absent
    have empty : r.resourceState.isEmpty = true := by
      by_cases empty : r.resourceState.isEmpty = true
      · exact empty
      · simp [resourceJson, empty] at absent
    rw [KeyMap.eq_empty empty]
    rfl
  · intro w present
    have full : r.resourceState.isEmpty = false := by
      by_cases empty : r.resourceState.isEmpty = true
      · simp [resourceJson, empty] at present
      · exact eq_false_of_ne_true empty
    simp only [resourceJson, full, Bool.false_eq_true, ↓reduceIte, Option.some.injEq] at present
    exact present ▸ kept.states
  · apply Writes.last
    · intro absent
      have absent : r.investigationId = none := Option.map_eq_none_iff.mp absent
      rw [absent]
    · exact option_text

theorem Event.decoder_toJson {depth below inner : Depth} {e : Event}
    (entered : enter depth = .ok below) (entered' : enter below = .ok inner)
    (kept : e.Kept below) : decoder depth (Tree.ofJson e.toJson) = .ok e := by
  apply record_of_writes entered (by decide)
  apply Writes.of (Tenant.decoder_toJson entered' e.tenant)
  apply Writes.of rfl
  apply Writes.of kept.data
  apply Writes.of kept.config
  exact .done _

theorem ConfigValidation.decoder_toJson {depth below inner : Depth} {c : ConfigValidation}
    (entered : enter depth = .ok below) (entered' : enter below = .ok inner)
    (kept : c.Kept below) : decoder depth (Tree.ofJson c.toJson) = .ok c := by
  apply record_of_writes entered (by decide)
  apply Writes.of (Tenant.decoder_toJson entered' c.tenant)
  apply Writes.of kept
  exact .done _

theorem ErrorReport.decoder_toJson {depth below : Depth} (entered : enter depth = .ok below)
    (r : ErrorReport) : decoder depth (Tree.ofJson r.toJson) = .ok r := by
  apply record_of_writes entered (by decide)
  apply Writes.of rfl
  apply Writes.last (a := r.tenantId)
  · intro absent
    by_cases empty : r.tenantId = ""
    · rw [empty]
    · simp [empty] at absent
  · intro w present
    by_cases empty : r.tenantId = ""
    · simp [empty] at present
    · simp only [empty, ↓reduceIte, Option.some.injEq] at present
      exact present ▸ rfl

namespace Payload

def Kept (depth : Depth) : Payload → Prop
  | .configValidation c => c.Kept depth
  | .request r => r.Kept depth
  | .event e => e.Kept depth
  | .heartbeat => True
  | .errorReport _ => True
  | .schemaRequest => True

end Payload

theorem Document.Writes.payload {σ α : Type} {below : Depth} {name : String} {inner : Decoder α}
    {set : Option α → σ → σ} {fields : List (RecordField σ)} {members : List (String × Json)}
    {r r' : σ} {f : α → Json} {payload : Option α} (blank : set none r = r)
    (record : ∀ a, ∃ own, f a = .obj own)
    (read : ∀ a, payload = some a → inner below (Tree.ofJson (f a)) = .ok a)
    (writes : Writes below fields members (set payload r) r') :
    Writes below (.of name (option inner) set :: fields)
      (Json.member? name (payload.map f) ++ members) r r' := by
  cases payload with
  | none => exact .leave rfl (blank ▸ writes)
  | some a =>
      obtain ⟨own, object⟩ := record a
      have read := read a rfl
      rw [object] at read
      rw [Option.map_some, object]
      exact .of (option_of read nofun nofun) writes

namespace Message

variable {depth below inner : Depth}

theorem mark_read (what : String) {isSet : Bool} (w : Json)
    (entered : isSet = true → ∃ inner, enter below = .ok inner) (written : markJson isSet = some w) :
    mark what below (Tree.ofJson w) = .ok isSet := by
  cases isSet with
  | false => cases written
  | true =>
      cases written
      obtain ⟨inner, entered⟩ := entered rfl
      have empty : record what [] () below (Tree.ofJson (.obj [])) = .ok () :=
        record_of_writes entered List.nodup_nil (.done ())
      show (option (record what [] ()) below (Tree.ofJson (.obj []))).map _ = _
      rw [option_of empty nofun nofun]
      rfl

theorem eq_false_of_unmarked {isSet : Bool} (absent : markJson isSet = none) : isSet = false := by
  cases isSet with
  | false => rfl
  | true => cases absent

/-- What a message holds comes back from its places in it. -/
structure Reads (below : Depth) (m : Message) : Prop where
  marks : m.heartbeat = true ∨ m.schemaRequest = true → ∃ inner, enter below = .ok inner
  report : ∀ r, m.errorReport = some r →
    ErrorReport.decoder below (Tree.ofJson r.toJson) = .ok r
  validation : ∀ c, m.configValidation = some c →
    ConfigValidation.decoder below (Tree.ofJson c.toJson) = .ok c
  request : ∀ r, m.request = some r → Request.decoder below (Tree.ofJson r.toJson) = .ok r
  event : ∀ e, m.event = some e → Event.decoder below (Tree.ofJson e.toJson) = .ok e

theorem toJson_eq (m : Message) : m.toJson = .obj (("version", .num (.nat m.version)) ::
    ("idempotency_key", .str m.idempotencyKey) ::
    (Json.member? "heartbeat" (markJson m.heartbeat) ++
      (Json.member? "error_report" (m.errorReport.map ErrorReport.toJson) ++
        (Json.member? "conf_validation" (m.configValidation.map ConfigValidation.toJson) ++
          (Json.member? "schema_request" (markJson m.schemaRequest) ++
            (Json.member? "request" (m.request.map Request.toJson) ++
              (Json.member? "event" (m.event.map Event.toJson) ++ []))))))) := by
  simp [toJson]

theorem decoder_toJson {m : Message} (entered : enter depth = .ok below) (reads : m.Reads below) :
    decoder depth (Tree.ofJson m.toJson) = .ok m := by
  rw [toJson_eq]
  apply record_of_writes entered (by decide)
  apply Writes.of (u64_nat m.version)
  apply Writes.of rfl
  apply Writes.ofOption (a := m.heartbeat)
  · intro absent
    rw [eq_false_of_unmarked absent]
  · intro w present
    exact mark_read _ w (fun set => reads.marks (.inl set)) present
  · apply Writes.payload rfl (fun _ => ⟨_, rfl⟩) reads.report
    apply Writes.payload rfl (fun _ => ⟨_, rfl⟩) reads.validation
    apply Writes.ofOption (a := m.schemaRequest)
    · intro absent
      rw [eq_false_of_unmarked absent]
    · intro w present
      exact mark_read _ w (fun set => reads.marks (.inr set)) present
    · apply Writes.payload rfl (fun _ => ⟨_, rfl⟩) reads.request
      apply Writes.payload rfl (fun _ => ⟨_, rfl⟩) reads.event
      exact .done _

end Message

theorem Message.decoder_carrying (version : UInt64) (key : String) {payload : Payload}
    (kept : payload.Kept (some 126)) :
    decoder textDepth (Tree.ofJson (carrying version key payload).toJson) =
      .ok (carrying version key payload) := by
  have entered : enter (some 127) = .ok (some 126) := rfl
  have entered' : enter (some 126) = .ok (some 125) := rfl
  have reads : (carrying version key payload).Reads (some 127) := by
    refine ⟨fun _ => ⟨_, entered⟩, ?_, ?_, ?_, ?_⟩
    · intro r own
      cases payload with
      | errorReport report => cases own; exact ErrorReport.decoder_toJson entered r
      | _ => cases own
    · intro c own
      cases payload with
      | configValidation validation =>
          cases own
          exact ConfigValidation.decoder_toJson entered entered' kept
      | _ => cases own
    · intro r own
      cases payload with
      | request request => cases own; exact Request.decoder_toJson entered entered' kept
      | _ => cases own
    · intro e own
      cases payload with
      | event event => cases own; exact Event.decoder_toJson entered entered' kept
      | _ => cases own
  exact decoder_toJson rfl reads

/-! Answers. -/

theorem Continuation.decoder_toJson {depth below : Depth} {c : Continuation}
    (entered : enter depth = .ok below)
    (state : dict below (Tree.ofJson (.ofDict c.state)) = .ok c.state) :
    decoder depth (Tree.ofJson c.toJson) = .ok c := by
  apply record_of_writes entered (by decide)
  apply Writes.of (u64_nat c.delaySeconds)
  apply Writes.of rfl
  apply Writes.of state
  exact .done _

theorem Usage.decoder_toJson {depth below : Depth} (entered : enter depth = .ok below)
    (u : Usage) : decoder depth (Tree.ofJson u.toJson) = .ok u := by
  apply record_of_writes entered (by decide)
  apply Writes.must rfl
  apply Writes.must (u64_nat u.value)
  exact .done _

theorem UsageReport.decoder_toJson {depth below : Depth} {r : UsageReport}
    (entered : enter depth = .ok below)
    (metrics : Decoder.list Usage.decoder below
      (Tree.ofJson (.arr (r.metrics.map Usage.toJson))) = .ok r.metrics) :
    decoder depth (Tree.ofJson r.toJson) = .ok r := by
  apply record_of_writes entered (by decide)
  apply Writes.of rfl
  apply Writes.of metrics
  exact .done _

def Json.something : Option Json → Option Json
  | some .null => none
  | data => data

theorem Json.option_something {depth : Depth} {data : Option Json} {v : Json}
    (present : data = some v) (kept : Decoder.Kept depth v) :
    option Decoder.json depth (Tree.ofJson v) = .ok (something data) := by
  subst present
  cases v with
  | null => rfl
  | _ => exact option_of kept nofun nofun

theorem Response.decoder_toJson {depth below : Depth} {r : Response}
    (entered : enter depth = .ok below) (data : ∀ v, r.data = some v → Decoder.Kept below v)
    (continuations : ∀ w, continuationsJson r.continuations = some w →
      Decoder.list Continuation.decoder below (Tree.ofJson w) = .ok r.continuations)
    (metrics : ∀ m, r.metrics = some m →
      UsageReport.decoder below (Tree.ofJson m.toJson) = .ok m) :
    decoder depth (Tree.ofJson r.toJson) =
      .ok { r with data := Json.something r.data, retriable := none } := by
  have written : r.toJson = .obj (("error", .str r.error) :: ("version", .num (.nat r.version)) ::
      (Json.member? "data" r.data ++
        (Json.member? "continuations" (continuationsJson r.continuations) ++
          (Json.member? "metrics" (r.metrics.map UsageReport.toJson) ++ [])))) := by
    simp [toJson]
  rw [written]
  apply record_of_writes entered (by decide)
  apply Writes.of rfl
  apply Writes.of (u64_nat r.version)
  apply Writes.ofOption (a := Json.something r.data)
  · intro absent
    rw [absent]
    rfl
  · intro v present
    exact Json.option_something present (data v present)
  · apply Writes.ofOption (a := r.continuations)
    · intro absent
      cases asked : r.continuations with
      | nil => rfl
      | cons first rest => simp [continuationsJson, asked] at absent
    · exact continuations
    · apply Writes.payload rfl (fun _ => ⟨_, rfl⟩) metrics
      exact .done _

end TenantRelay
