import TenantRelay.Proofs.Envelopes
import TenantRelay.Proofs.WholeNumbers

/-!
A message that was read and is passed on is read the same where it comes to. What was found in
a document is found again as deep in another, and of its numbers only those with a fraction have
to be read back.
-/

namespace TenantRelay

open Document Decoder

theorem Document.Decoder.dict_of_dict {depth below : Depth} {tree : Tree} {d : Dict}
    (entered : enter depth = .ok below) (good : tree.Sound) (read : dict depth tree = .ok d) :
    dict depth (Tree.ofJson (.ofDict d)) = .ok d := by
  apply dict_ofDict entered
  apply holds_of_map (Decoder.Kept below) Tree.sound_inherited good _ read
  intro below' entered' tree v _ own
  cases entered.symm.trans entered'
  exact kept_of_json tree own

theorem Document.Decoder.some_of_option {α : Type} {inner : Decoder α} {depth : Depth}
    {tree : Tree} {a : α} (read : option inner depth tree = .ok (some a)) :
    inner depth tree = .ok a := by
  have mapped : (inner depth tree).map some = .ok (some a) → inner depth tree = .ok a := by
    intro found
    cases own : inner depth tree with
    | error e =>
        rw [own] at found
        cases found
    | ok b =>
        rw [own] at found
        cases found
        rfl
  cases tree with
  | null => cases read
  | plain s =>
      simp only [option] at read
      split at read
      case isTrue => cases read
      case isFalse => exact mapped read
  | _ => exact mapped read

/-- What stands in a message comes back from where it stands, and its numbers are sound. -/
structure Document.Decoder.Told (depth : Depth) (d : Dict) : Prop where
  kept : dict depth (Tree.ofJson (.ofDict d)) = .ok d
  sound : (Json.ofDict d).Sound

theorem Document.Decoder.told_of_dict {depth below : Depth} {tree : Tree} {d : Dict}
    (entered : enter depth = .ok below) (good : tree.Sound) (read : dict depth tree = .ok d) :
    Told depth d :=
  ⟨dict_of_dict entered good read, sound_of_dict good read⟩

theorem Json.sound_text (s : String) : (Json.str s).Sound :=
  List.forall_mem_nil _

theorem Json.sound_member {name : String} {value : Option Json}
    (sound : ∀ v, value = some v → v.Sound) : ∀ e ∈ Json.member? name value, e.2.Sound := by
  intro e member
  cases value with
  | none => cases member
  | some v =>
      cases List.mem_singleton.mp member
      exact sound v rfl

theorem Json.sound_text_option {name : String} (text : Option String) :
    ∀ e ∈ Json.member? name (text.map Json.str), e.2.Sound := by
  apply sound_member
  intro v present
  obtain ⟨s, _, rfl⟩ := Option.map_eq_some_iff.mp present
  exact sound_text s

theorem Tenant.sound_toJson (t : Tenant) : t.toJson.Sound := by
  apply Json.Sound.obj
  simp only [List.forall_mem_append, List.forall_mem_cons]
  exact ⟨⟨Json.sound_text t.id, Json.sound_text t.credential, List.forall_mem_nil _⟩,
    Json.sound_text_option t.ident⟩

theorem ErrorReport.sound_toJson (r : ErrorReport) : r.toJson.Sound := by
  apply Json.Sound.obj
  simp only [List.forall_mem_append, List.forall_mem_cons]
  refine ⟨⟨Json.sound_text r.error, List.forall_mem_nil _⟩, Json.sound_member ?_⟩
  intro v present
  split at present
  case isTrue => cases present
  case isFalse =>
    cases present
    exact Json.sound_text r.tenantId

structure ResourceState.Told (depth : Depth) (s : ResourceState) : Prop where
  kept : s.Kept depth
  sound : s.state.Sound

theorem ResourceState.told_of_decoder {tree : Tree} {s : ResourceState} (good : tree.Sound)
    (read : decoder (some 125) tree = .ok s) : s.Told (some 124) := by
  have start : ResourceState.Told (some 124) {} := ⟨rfl, nofun⟩
  apply holds_of_record_from Tree.sound_inherited good start _ read
  intro below entered field member
  cases entered
  simp only [fields, List.mem_cons, List.not_mem_nil, or_false] at member
  rcases member with rfl | rfl
  · exact .of fun tree v s good own _ => ⟨kept_of_json tree own, sound_of_json tree good own⟩
  · exact .of fun tree v s _ _ told => ⟨told.kept, told.sound⟩

theorem ResourceState.Told.sound_toJson {depth : Depth} {s : ResourceState} (told : s.Told depth) :
    s.toJson.Sound := by
  apply Json.Sound.obj
  simp only [List.forall_mem_cons]
  exact ⟨told.sound, Json.sound_nat s.updatedAt, List.forall_mem_nil _⟩

structure Request.Told (r : Request) : Prop where
  data : Decoder.Told (some 126) r.data
  config : Decoder.Told (some 126) r.config
  states : ∀ e ∈ r.resourceState.entries, e.2.Told (some 124)

namespace Request

theorem told_of_decoder {tree : Tree} {r : Request} (good : tree.Sound)
    (read : decoder (some 127) tree = .ok r) : r.Told := by
  have start : Request.Told {} := ⟨⟨rfl, nofun⟩, ⟨rfl, nofun⟩, nofun⟩
  apply holds_of_record_from Tree.sound_inherited good start _ read
  intro below entered field member
  cases entered
  simp only [fields, List.mem_cons, List.not_mem_nil, or_false] at member
  rcases member with rfl | rfl | rfl | rfl | rfl | rfl
  · exact .of fun tree v r _ _ told => { told with }
  · exact .of fun tree v r _ _ told => { told with }
  · exact .of fun tree v r good own told => { told with data := told_of_dict rfl good own }
  · exact .of fun tree v r good own told => { told with config := told_of_dict rfl good own }
  · apply RecordField.KeepsFrom.of
    intro tree states r good own told
    have states : ∀ e ∈ states.entries, e.2.Told (some 124) := by
      apply holds_of_map (ResourceState.Told (some 124)) Tree.sound_inherited good _ own
      intro below entered tree s good read
      cases entered
      exact ResourceState.told_of_decoder good read
    exact { told with states }
  · exact .of fun tree v r _ _ told => { told with }

variable {r : Request}

theorem Told.kept (told : r.Told) : r.Kept (some 126) where
  data := told.data.kept
  config := told.config.kept
  states := map_ofDict rfl fun e member =>
    ResourceState.decoder_toJson rfl (told.states e member).kept

theorem Told.sound_states (told : r.Told) :
    (Json.ofDict (r.resourceState.map ResourceState.toJson)).Sound := by
  apply Json.Sound.obj
  intro e member
  obtain ⟨state, known, rfl⟩ := List.mem_map.mp member
  exact (told.states state known).sound_toJson

theorem Told.sound_toJson (told : r.Told) : r.toJson.Sound := by
  have states : ∀ v, resourceJson r.resourceState = some v → v.Sound := by
    intro v present
    unfold resourceJson at present
    split at present
    case isTrue => cases present
    case isFalse =>
      cases present
      exact told.sound_states
  apply Json.Sound.obj
  simp only [List.forall_mem_append, List.forall_mem_cons]
  exact ⟨⟨⟨r.tenant.sound_toJson, Json.sound_text r.action, told.data.sound, told.config.sound,
    List.forall_mem_nil _⟩, Json.sound_member states⟩, Json.sound_text_option r.investigationId⟩

end Request

structure Event.Told (e : Event) : Prop where
  data : Decoder.Told (some 126) e.data
  config : Decoder.Told (some 126) e.config

theorem Event.told_of_decoder {tree : Tree} {e : Event} (good : tree.Sound)
    (read : decoder (some 127) tree = .ok e) : e.Told := by
  have start : Event.Told {} := ⟨⟨rfl, nofun⟩, ⟨rfl, nofun⟩⟩
  apply holds_of_record_from Tree.sound_inherited good start _ read
  intro below entered field member
  cases entered
  simp only [fields, List.mem_cons, List.not_mem_nil, or_false] at member
  rcases member with rfl | rfl | rfl | rfl
  · exact .of fun tree v e _ _ told => { told with }
  · exact .of fun tree v e _ _ told => { told with }
  · exact .of fun tree v e good own told => { told with data := told_of_dict rfl good own }
  · exact .of fun tree v e good own told => { told with config := told_of_dict rfl good own }

theorem Event.Told.sound_toJson {e : Event} (told : e.Told) : e.toJson.Sound := by
  apply Json.Sound.obj
  simp only [List.forall_mem_cons]
  exact ⟨e.tenant.sound_toJson, Json.sound_text e.name, told.data.sound, told.config.sound,
    List.forall_mem_nil _⟩

def ConfigValidation.Told (c : ConfigValidation) : Prop := Decoder.Told (some 126) c.config

theorem ConfigValidation.told_of_decoder {tree : Tree} {c : ConfigValidation} (good : tree.Sound)
    (read : decoder (some 127) tree = .ok c) : c.Told := by
  have start : ConfigValidation.Told {} := ⟨rfl, nofun⟩
  apply holds_of_record_from Tree.sound_inherited good start _ read
  intro below entered field member
  cases entered
  simp only [fields, List.mem_cons, List.not_mem_nil, or_false] at member
  rcases member with rfl | rfl
  · exact .of fun tree v c _ _ told => told
  · exact .of fun tree v c good own _ => told_of_dict rfl good own

theorem ConfigValidation.Told.sound_toJson {c : ConfigValidation} (told : c.Told) :
    c.toJson.Sound := by
  apply Json.Sound.obj
  simp only [List.forall_mem_cons]
  exact ⟨c.tenant.sound_toJson, told.sound, List.forall_mem_nil _⟩

namespace Payload

def Told : Payload → Prop
  | .configValidation c => c.Told
  | .request r => r.Told
  | .event e => e.Told
  | .heartbeat => True
  | .errorReport _ => True
  | .schemaRequest => True

theorem Told.kept {payload : Payload} (told : payload.Told) : payload.Kept (some 126) := by
  cases payload with
  | configValidation c => exact Decoder.Told.kept told
  | request r => exact Request.Told.kept told
  | event e => exact ⟨(Event.Told.data told).kept, (Event.Told.config told).kept⟩
  | _ => trivial

end Payload

namespace Message

structure Told (message : Message) : Prop where
  validation : ∀ c, message.configValidation = some c → c.Told
  request : ∀ r, message.request = some r → r.Told
  event : ∀ e, message.event = some e → e.Told

theorem told_of_decoder {tree : Tree} {message : Message} (good : tree.Sound)
    (read : decoder textDepth tree = .ok message) : message.Told := by
  have start : Message.Told {} := ⟨nofun, nofun, nofun⟩
  apply holds_of_record_from Tree.sound_inherited good start _ read
  intro below entered field member
  cases entered
  simp only [fields, List.mem_cons, List.not_mem_nil, or_false] at member
  rcases member with rfl | rfl | rfl | rfl | rfl | rfl | rfl | rfl
  · exact .of fun tree v message _ _ told => { told with }
  · exact .of fun tree v message _ _ told => { told with }
  · exact .of fun tree v message _ _ told => { told with }
  · exact .of fun tree v message _ _ told => { told with }
  · apply RecordField.KeepsFrom.of
    intro tree v message good own told
    have validation : ∀ c, v = some c → c.Told := by
      rintro c rfl
      exact ConfigValidation.told_of_decoder good (some_of_option own)
    exact { told with validation }
  · exact .of fun tree v message _ _ told => { told with }
  · apply RecordField.KeepsFrom.of
    intro tree v message good own told
    have request : ∀ r, v = some r → r.Told := by
      rintro r rfl
      exact Request.told_of_decoder good (some_of_option own)
    exact { told with request }
  · apply RecordField.KeepsFrom.of
    intro tree v message good own told
    have event : ∀ e, v = some e → e.Told := by
      rintro e rfl
      exact Event.told_of_decoder good (some_of_option own)
    exact { told with event }

variable {message : Message} {carried : Payload}

theorem mem_payloads (only : message.payload = .ok carried) : carried ∈ message.payloads := by
  unfold Message.payload at only
  split at only
  case h_1 => cases only
  case h_2 one all =>
    cases only
    rw [all]
    exact List.mem_singleton.mpr rfl
  case h_3 => cases only

theorem Told.payload (told : message.Told) (only : message.payload = .ok carried) :
    carried.Told := by
  have member := mem_payloads only
  simp only [payloads, List.mem_append, Option.mem_toList, Option.map_eq_some_iff] at member
  have marked : ∀ {set : Bool} {mark : Payload}, carried ∈ (if set = true then [mark] else []) →
      mark.Told → carried.Told := by
    intro set mark found own
    split at found
    case isTrue => exact List.mem_singleton.mp found ▸ own
    case isFalse => cases found
  rcases member with ((((mark | ⟨r, _, rfl⟩) | ⟨c, own, rfl⟩) | mark) | ⟨r, own, rfl⟩) | ⟨e, own, rfl⟩
  · exact marked mark trivial
  · trivial
  · exact told.validation c own
  · exact marked mark trivial
  · exact told.request r own
  · exact told.event e own

theorem Told.carrying (version : UInt64) (key : String) (told : carried.Told) :
    (Message.carrying version key carried).Told := by
  cases carried with
  | configValidation c => exact ⟨fun _ same => Option.some.inj same ▸ told, nofun, nofun⟩
  | request r => exact ⟨nofun, fun _ same => Option.some.inj same ▸ told, nofun⟩
  | event e => exact ⟨nofun, nofun, fun _ same => Option.some.inj same ▸ told⟩
  | _ => exact ⟨nofun, nofun, nofun⟩

theorem Told.sound_toJson (told : message.Told) : message.toJson.Sound := by
  have marked : ∀ set v, markJson set = some v → v.Sound := by
    intro set v present
    unfold markJson at present
    split at present
    case isTrue =>
      cases present
      exact List.forall_mem_nil _
    case isFalse => cases present
  have written : ∀ {α : Type} {part : Option α} {f : α → Json}, (∀ a, part = some a → (f a).Sound) →
      ∀ v, part.map f = some v → v.Sound := by
    intro α part f sound v present
    obtain ⟨a, own, rfl⟩ := Option.map_eq_some_iff.mp present
    exact sound a own
  apply Json.Sound.obj
  simp only [List.forall_mem_append, List.forall_mem_cons]
  refine ⟨⟨⟨⟨⟨⟨⟨Json.sound_nat message.version, Json.sound_text message.idempotencyKey,
    List.forall_mem_nil _⟩, ?heartbeat⟩, ?report⟩, ?validation⟩, ?schema⟩, ?request⟩, ?event⟩
  case heartbeat => exact Json.sound_member (marked _)
  case report => exact Json.sound_member (written fun r _ => r.sound_toJson)
  case validation =>
    exact Json.sound_member (written fun c own => (told.validation c own).sound_toJson)
  case schema => exact Json.sound_member (marked _)
  case request => exact Json.sound_member (written fun r own => (told.request r own).sound_toJson)
  case event => exact Json.sound_member (written fun e own => (told.event e own).sound_toJson)

/-- A message is read as it was written, if the numbers with a fraction in it are read back. -/
theorem parse_carrying (version : UInt64) (key : String) (told : carried.Told)
    (reals : ∀ x, .real x ∈ (carrying version key carried).toJson.numbers →
      (Json.Number.real x).ReadsBack) :
    Json.parse decoder (carrying version key carried).encode =
      .ok (carrying version key carried) := by
  have readsBack : ∀ n ∈ (carrying version key carried).toJson.numbers, n.ReadsBack := by
    intro n member
    apply ((Told.carrying version key told).sound_toJson n member).readsBack
    rintro x rfl
    exact reals x member
  have tree : Json.readTree (carrying version key carried).encode =
      (Tree.ofJson (carrying version key carried).toJson, false) := Json.readTree_written readsBack
  rw [Json.parse_eq_ok_iff, tree]
  exact ⟨decoder_carrying version key told.kept, rfl⟩

theorem told_of_parse {body : Bytes} (read : Json.parse decoder body = .ok message)
    (only : message.payload = .ok carried) : carried.Told := by
  have told := told_of_decoder (Json.readTree_sound body) (Json.parse_eq_ok_iff.mp read).1
  exact told.payload only

end Message

end TenantRelay
