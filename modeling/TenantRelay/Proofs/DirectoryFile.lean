import TenantRelay.Directory.Store
import TenantRelay.Proofs.Codecs

/-!
The file that holds a whole directory. Entries are read from it as they were saved, and nothing
is ever read from a file that could not be saved again.
-/

namespace TenantRelay

open Document Decoder Json

theorem Timestamp.valid_of_decoder {depth : Depth} {tree : Tree} {t : Timestamp}
    (read : decoder depth tree = .ok t) : t.Valid := by
  cases tree with
  | str s =>
      cases parsed : parse s with
      | error fault =>
          simp only [decoder, parsed] at read
          cases read
      | ok own =>
          simp only [decoder, parsed] at read
          cases read
          exact valid_of_parse parsed
  | _ => cases read

def Entry.Timely (e : Entry) : Prop := e.createdAt.Valid

theorem Entry.timely_of_decoder {depth : Depth} {tree : Tree} {e : Entry}
    (read : decoder depth tree = .ok e) : e.Timely := by
  have epoch : ({} : Entry).Timely := ⟨by decide, by decide, by decide, by decide, by decide⟩
  apply holds_of_record epoch _ read
  intro below _ field member
  simp only [fields, List.mem_cons, List.not_mem_nil, or_false] at member
  rcases member with rfl | rfl | rfl | rfl
  · exact .must fun _ _ _ _ timely => timely
  · exact .must fun _ _ _ _ timely => timely
  · exact .must fun _ _ _ _ timely => timely
  · exact .must fun _ _ _ read _ => Timestamp.valid_of_decoder read

namespace Entries

variable {entries : Entries}

def Timely (entries : Entries) : Prop := ∀ e ∈ entries.entries, e.2.Timely

theorem timely_empty : Timely ∅ := nofun

theorem Timely.insert (timely : entries.Timely) {entry : Entry} (own : entry.Timely)
    (tenant : String) : Timely (KeyMap.insert entries tenant entry) := by
  intro e member
  rcases KeyMap.mem_insertEntry member with rfl | old
  · exact own
  · exact timely e old

theorem Timely.erase (timely : entries.Timely) (tenant : String) :
    Timely (KeyMap.erase entries tenant) :=
  fun e member => timely e (List.mem_filter.mp member).1

theorem flat_toJson (entries : Entries) : entries.toJson.Flat 2 := by
  apply flat_obj
  intro e member
  obtain ⟨entry, _, rfl⟩ := List.mem_map.mp member
  exact entry.2.flat_toJson

theorem decoder_toJson (timely : entries.Timely) :
    decoder textDepth (Tree.ofJson entries.toJson) = .ok entries :=
  map_ofDict rfl fun e member => Entry.decoder_toJson rfl (timely e member)

theorem decode_encode (timely : entries.Timely) : decode entries.encode = .ok entries := by
  have readsBack := entries.flat_toJson.readsBack
  obtain ⟨b, bytes, front, _⟩ := opens_text lines 0 entries.toJson [] readsBack
  rw [text_lines, List.append_nil] at front
  have something : entries.encode.isEmpty = false := by
    rw [encode, pretty, front]
    rfl
  have read : Json.parse decoder entries.encode = .ok entries := by
    rw [parse_eq_ok_iff, encode, readTree_pretty readsBack]
    exact ⟨decoder_toJson timely, rfl⟩
  rw [decode, something, read]
  rfl

/-- Whatever is loaded can be saved. -/
theorem timely_of_decode {content : Bytes} (read : decode content = .ok entries) :
    entries.Timely := by
  unfold decode at read
  split at read
  case isTrue =>
    cases read
    exact timely_empty
  case isFalse =>
    cases parsed : Json.parse decoder content with
    | error e =>
        rw [parsed] at read
        cases read
    | ok loaded =>
        rw [parsed] at read
        cases read
        have each : ∀ below, enter textDepth = .ok below → ∀ tree (e : Entry), True →
            Entry.decoder below tree = .ok e → e.Timely :=
          fun _ _ _ _ _ => Entry.timely_of_decoder
        exact holds_of_map _ ⟨fun _ _ _ _ _ => trivial, fun _ _ _ _ _ => trivial⟩ trivial each
          (parse_eq_ok_iff.mp parsed).1

theorem store_of_decode {content : Bytes} {fault : DirectoryError}
    (failed : decode content = .error fault) : ∃ text, fault = .store text := by
  unfold decode at failed
  split at failed
  case isTrue => cases failed
  case isFalse =>
    cases parsed : Json.parse decoder content with
    | ok loaded =>
        rw [parsed] at failed
        cases failed
    | error e =>
        rw [parsed] at failed
        cases failed
        exact ⟨_, rfl⟩

end Entries
end TenantRelay
