import TenantRelay.Proofs.Codecs
import TenantRelay.Proofs.Retelling
import TenantRelay.Protocol

/-!
The two directions of every codec agree: what is encoded is decoded as itself, and what was
decoded once is decoded the same from what it is encoded as.
-/

namespace TenantRelay

open Document Decoder Json

theorem Message.Told.reads {m : Message} (told : m.Told) : m.Reads (some 127) := by
  have entered : enter (some 127) = .ok (some 126) := rfl
  have entered' : enter (some 126) = .ok (some 125) := rfl
  refine ⟨fun _ => ⟨_, entered⟩, ?_, ?_, ?_, ?_⟩
  · intro r _
    exact ErrorReport.decoder_toJson entered r
  · intro c own
    have kept := Decoder.Told.kept (told.validation c own)
    exact ConfigValidation.decoder_toJson entered entered' kept
  · intro r own
    exact Request.decoder_toJson entered entered' (told.request r own).kept
  · intro e own
    have kept := told.event e own
    exact Event.decoder_toJson entered entered' ⟨kept.data.kept, kept.config.kept⟩

/-- Whatever was read as a message is read as the same message from what it is written as,
if the text layer gives back the value that it printed. -/
theorem Message.reread {bytes : Bytes} {m : Message} (read : Json.parse decoder bytes = .ok m)
    (printed : Json.readTree m.encode = (Tree.ofJson m.toJson, false)) :
    Json.parse decoder m.encode = .ok m := by
  have told : m.Told :=
    told_of_decoder (Json.readTree_sound bytes) (Json.parse_eq_ok_iff.mp read).1
  rw [Json.parse_eq_ok_iff, printed]
  exact ⟨decoder_toJson rfl told.reads, rfl⟩

/-- Every envelope comes back from what it is written as. -/
theorem codecs_inverse :
    (∀ m : Message, m.Sorted → ComesBack Message.decoder m.toJson m) ∧
    (∀ s : Schema, s.Sorted → ComesBack Schema.decoder s.toJson s) ∧
    (∀ e : Entry, e.createdAt.Valid →
      ComesBack Entry.decoder e.toJson e ∧ e.toJson.Restored) ∧
    (∀ d : Definition, d.Counted →
      ComesBack Definition.decoder d.toJson d ∧ d.toJson.Restored) ∧
    (∀ s : InstanceSpec, s.Counted →
      ComesBack InstanceSpec.decoder s.toJson s ∧ s.toJson.Restored) ∧
    (∀ r : Response, r.Sorted → ComesBack Response.decoder r.toJson
      { r with data := Json.something r.data, retriable := none }) ∧
    ∀ bytes m, Json.parse Message.decoder bytes = .ok m →
      Json.readTree m.encode = (Tree.ofJson m.toJson, false) →
      Json.parse Message.decoder m.encode = .ok m := by
  refine ⟨fun m => Message.comesBack, fun s => Schema.comesBack, ?_, ?_, ?_,
    fun r => Response.comesBack, fun bytes m => Message.reread⟩
  · intro e valid
    exact ⟨Entry.comesBack valid, e.flat_toJson.restored (by decide)⟩
  · intro d counted
    exact ⟨Definition.comesBack counted, d.flat_toJson.restored (by decide)⟩
  · intro s counted
    exact ⟨InstanceSpec.comesBack counted, s.flat_toJson.restored (by decide)⟩

/-- A message that means nothing, since it has two payloads. It comes back all the same. -/
def crowded : Message :=
  { version := protocolVersion, idempotencyKey := "once", heartbeat := true
    request := some { action := "note", data := .ofList [("error", .str "late")] } }

theorem crowded_sorted : crowded.Sorted where
  validation := nofun
  request := by
    intro r own
    cases own
    refine ⟨?_, nofun, nofun⟩
    intro e member
    cases List.mem_singleton.mp member
    rfl
  event := nofun

theorem crowded_restored : crowded.toJson.Restored := by
  apply restored_of_height
  · intro n member
    have all : crowded.toJson.numbers = [.nat protocolVersion] := rfl
    rw [all] at member
    cases List.mem_singleton.mp member
    exact Number.readsBack_nat protocolVersion
  · decide

def offered : Schema := { views := [.str "map"] }

def fitted : Definition := { image := "relay", timeout := 30 }

def equipped : InstanceSpec := { env := [⟨"name", "value"⟩] }

def silent : Response := { data := some .null, retriable := some true }

theorem offered_sorted : offered.Sorted where
  views := by
    intro v member
    cases List.mem_singleton.mp member
    rfl
  config := rfl
  request := nofun

theorem silent_sorted : silent.Sorted where
  data := by
    intro v present
    cases present
    rfl
  states := nofun

theorem codecs_inverse_crowded :
    Json.parse Message.decoder crowded.encode = .ok crowded ∧
    Json.convert Schema.decoder offered.toJson = .ok offered ∧
    Json.convert Entry.decoder ({ tenant := "acme" } : Entry).toJson = .ok { tenant := "acme" } ∧
    Json.convert Definition.decoder fitted.toJson = .ok fitted ∧
    Json.convert InstanceSpec.decoder equipped.toJson = .ok equipped ∧
    Json.convert Response.decoder silent.toJson = .ok {} := by
  obtain ⟨messages, schemas, entries, definitions, specs, responses, again⟩ := codecs_inverse
  have first := (messages crowded crowded_sorted).text crowded_restored
  have epoch : ({ tenant := "acme" } : Entry).createdAt.Valid :=
    ⟨by decide, by decide, by decide, by decide, by decide⟩
  have few : fitted.Counted := ⟨by decide, by decide, by decide⟩
  have none : equipped.Counted := ⟨by decide, by decide, by decide⟩
  exact ⟨again _ _ first crowded_restored.tree, (schemas offered offered_sorted).value,
    (entries _ epoch).1.value, (definitions fitted few).1.value, (specs equipped none).1.value,
    (responses silent silent_sorted).value⟩

end TenantRelay
