import TenantRelay.Directory.Entry
import TenantRelay.Envelope.Schema
import TenantRelay.Instance.Spec
import TenantRelay.Proofs.Envelopes
import TenantRelay.Proofs.Fitting
import TenantRelay.Proofs.JsonLayouts
import TenantRelay.Proofs.Timestamps

/-!
Whatever is written comes back, be it from a value in memory or from a text. Of an envelope that
is known wherever its value is not too deep to be read, with what it holds sorted, as it is in
memory.
-/

namespace TenantRelay

open Document Decoder

/-- What is written as a value is decoded from the value, and from its text, if the text layer
gives back what it printed. -/
structure ComesBack {α : Type} (decoder : Decoder α) (v : Json) (a : α) : Prop where
  value : Json.convert decoder v = .ok a
  text : v.Restored → Json.parse decoder (Text.Utf8.encode v.compact) = .ok a

theorem comesBack_of_fits {α : Type} {decoder : Decoder α} {v : Json} {a : α}
    (read : ∀ depth, Fits depth v → decoder depth (Tree.ofJson v) = .ok a) :
    ComesBack decoder v a where
  value := read none (fits_unbounded v)
  text restored := by
    rw [Json.parse_eq_ok_iff, restored.tree]
    exact ⟨read textDepth restored.fits, rfl⟩

theorem Json.restored_of_height {v : Json} (readsBack : ∀ n ∈ v.numbers, n.ReadsBack)
    (low : v.height < 128) : v.Restored where
  tree := readTree_written readsBack
  value := json_of_holds v (by rintro _ ⟨⟩; exact low)

variable {depth : Depth}

theorem ErrorReport.decoder_of_fits {r : ErrorReport} (fits : Fits depth r.toJson) :
    decoder depth (Tree.ofJson r.toJson) = .ok r := by
  obtain ⟨below, entered, _⟩ := fits.members
  exact decoder_toJson entered r

theorem ResourceState.decoder_of_fits {s : ResourceState} (sorted : s.state.Sorted)
    (fits : Fits depth s.toJson) : decoder depth (Tree.ofJson s.toJson) = .ok s := by
  obtain ⟨below, entered, members⟩ := fits.members
  have state : Fits below s.state := members ("state", s.state) (by simp)
  exact decoder_toJson entered (state.kept sorted)

/-! Messages. -/

def ConfigValidation.Sorted (c : ConfigValidation) : Prop := ∀ e ∈ c.config.entries, e.2.Sorted

structure Event.Sorted (event : Event) : Prop where
  data : ∀ e ∈ event.data.entries, e.2.Sorted
  config : ∀ e ∈ event.config.entries, e.2.Sorted

structure Request.Sorted (r : Request) : Prop where
  data : ∀ e ∈ r.data.entries, e.2.Sorted
  config : ∀ e ∈ r.config.entries, e.2.Sorted
  states : ∀ e ∈ r.resourceState.entries, e.2.state.Sorted

structure Message.Sorted (m : Message) : Prop where
  validation : ∀ c, m.configValidation = some c → c.Sorted
  request : ∀ r, m.request = some r → r.Sorted
  event : ∀ e, m.event = some e → e.Sorted

theorem ConfigValidation.decoder_of_fits {c : ConfigValidation} (sorted : c.Sorted)
    (fits : Fits depth c.toJson) : decoder depth (Tree.ofJson c.toJson) = .ok c := by
  obtain ⟨below, entered, members⟩ := fits.members
  have tenant : Fits below c.tenant.toJson := members ("org", c.tenant.toJson) (by simp)
  have config : Fits below (.ofDict c.config) := members ("conf", .ofDict c.config) (by simp)
  obtain ⟨inner, entered', _⟩ := tenant.members
  exact decoder_toJson entered entered' (config.dict sorted)

theorem Event.decoder_of_fits {e : Event} (sorted : e.Sorted) (fits : Fits depth e.toJson) :
    decoder depth (Tree.ofJson e.toJson) = .ok e := by
  obtain ⟨below, entered, members⟩ := fits.members
  have tenant : Fits below e.tenant.toJson := members ("org", e.tenant.toJson) (by simp)
  have data : Fits below (.ofDict e.data) := members ("data", .ofDict e.data) (by simp)
  have config : Fits below (.ofDict e.config) := members ("config", .ofDict e.config) (by simp)
  obtain ⟨inner, entered', _⟩ := tenant.members
  exact decoder_toJson entered entered' ⟨data.dict sorted.data, config.dict sorted.config⟩

theorem Request.decoder_of_fits {r : Request} (sorted : r.Sorted) (fits : Fits depth r.toJson) :
    decoder depth (Tree.ofJson r.toJson) = .ok r := by
  obtain ⟨below, entered, members⟩ := fits.members
  have tenant : Fits below r.tenant.toJson := members ("org", r.tenant.toJson) (by simp)
  have data : Fits below (.ofDict r.data) := members ("data", .ofDict r.data) (by simp)
  have config : Fits below (.ofDict r.config) := members ("config", .ofDict r.config) (by simp)
  obtain ⟨inner, entered', _⟩ := tenant.members
  have states : ∀ e ∈ r.resourceState.entries,
      ResourceState.decoder inner (Tree.ofJson e.2.toJson) = .ok e.2 := by
    intro e known
    have present : ("resource_state", Json.ofDict (r.resourceState.map ResourceState.toJson)) ∈
        Json.member? "resource_state" (resourceJson r.resourceState) := by
      have some : r.resourceState.isEmpty = false := by
        cases all : r.resourceState.entries with
        | nil => simp [all] at known
        | cons first rest => simp [KeyMap.isEmpty, all]
      simp only [resourceJson, some, Bool.false_eq_true, ↓reduceIte]
      exact List.mem_cons_self
    have all : Fits below (.ofDict (r.resourceState.map ResourceState.toJson)) :=
      members _ (List.mem_append_left _ (List.mem_append_right _ present))
    obtain ⟨other, same, each⟩ := all.members
    cases entered'.symm.trans same
    have own : Fits inner e.2.toJson :=
      each (e.1, e.2.toJson) (List.mem_map.mpr ⟨e, known, rfl⟩)
    exact ResourceState.decoder_of_fits (sorted.states e known) own
  exact decoder_toJson entered entered'
    ⟨data.dict sorted.data, config.dict sorted.config, map_ofDict entered' states⟩

theorem Message.reads_of_fits {m : Message} (sorted : m.Sorted) {below : Depth}
    {members : List (String × Json)} (written : m.toJson = .obj members)
    (fits : ∀ e ∈ members, Fits below e.2) : m.Reads below := by
  rw [toJson_eq] at written
  cases written
  refine ⟨?_, ?_, ?_, ?_, ?_⟩
  · have entered : Fits below (.obj []) → ∃ inner, enter below = .ok inner := by
      intro mark
      obtain ⟨inner, entered, _⟩ := mark.members
      exact ⟨inner, entered⟩
    rintro (set | set)
    · exact entered (fits ("heartbeat", .obj []) (by simp [set, markJson, Json.member?]))
    · exact entered (fits ("schema_request", .obj []) (by simp [set, markJson, Json.member?]))
  · intro r own
    apply ErrorReport.decoder_of_fits
    exact fits ("error_report", r.toJson) (by simp [own, Json.member?])
  · intro c own
    apply ConfigValidation.decoder_of_fits (sorted.validation c own)
    exact fits ("conf_validation", c.toJson) (by simp [own, Json.member?])
  · intro r own
    apply Request.decoder_of_fits (sorted.request r own)
    exact fits ("request", r.toJson) (by simp [own, Json.member?])
  · intro e own
    apply Event.decoder_of_fits (sorted.event e own)
    exact fits ("event", e.toJson) (by simp [own, Json.member?])

theorem Message.comesBack {m : Message} (sorted : m.Sorted) : ComesBack decoder m.toJson m := by
  apply comesBack_of_fits
  intro depth fits
  rw [toJson_eq] at fits
  obtain ⟨below, entered, members⟩ := fits.members
  exact decoder_toJson entered (reads_of_fits sorted (toJson_eq m) members)

/-! Answers. -/

structure Response.Sorted (r : Response) : Prop where
  data : ∀ v, r.data = some v → v.Sorted
  states : ∀ c ∈ r.continuations, ∀ e ∈ c.state.entries, e.2.Sorted

theorem Continuation.decoder_of_fits {c : Continuation} (sorted : ∀ e ∈ c.state.entries, e.2.Sorted)
    (fits : Fits depth c.toJson) : decoder depth (Tree.ofJson c.toJson) = .ok c := by
  obtain ⟨below, entered, members⟩ := fits.members
  have state : Fits below (.ofDict c.state) := members ("state", .ofDict c.state) (by simp)
  exact decoder_toJson entered (state.dict sorted)

theorem Document.Decoder.Fits.list {α : Type} {inner : Decoder α} {f : α → Json} {all : List α}
    (fits : Fits depth (.arr (all.map f)))
    (each : ∀ below, ∀ a ∈ all, Fits below (f a) → inner below (Tree.ofJson (f a)) = .ok a) :
    Decoder.list inner depth (Tree.ofJson (.arr (all.map f))) = .ok all := by
  obtain ⟨below, entered, items⟩ := fits.items
  apply list_ofItems entered
  intro a member
  exact each below a member (items (f a) (List.mem_map_of_mem member))

theorem Usage.decoder_of_fits {u : Usage} (fits : Fits depth u.toJson) :
    decoder depth (Tree.ofJson u.toJson) = .ok u := by
  obtain ⟨below, entered, _⟩ := fits.members
  exact decoder_toJson entered u

theorem UsageReport.decoder_of_fits {r : UsageReport} (fits : Fits depth r.toJson) :
    decoder depth (Tree.ofJson r.toJson) = .ok r := by
  obtain ⟨below, entered, members⟩ := fits.members
  have metrics : Fits below (.arr (r.metrics.map Usage.toJson)) :=
    members ("metrics", .arr (r.metrics.map Usage.toJson)) (by simp)
  exact decoder_toJson entered (metrics.list fun _ _ _ => Usage.decoder_of_fits)

namespace Response

/-- An answer comes back without what it never tells: whether another try may help, and data
that is nothing. -/
theorem comesBack {r : Response} (sorted : r.Sorted) : ComesBack decoder r.toJson
    { r with data := Json.something r.data, retriable := none } := by
  apply comesBack_of_fits
  intro depth fits
  obtain ⟨below, entered, members⟩ := fits.members
  apply decoder_toJson entered
  · intro v present
    have own : Fits below v := members ("data", v) (by simp [present, Json.member?])
    exact own.kept (sorted.data v present)
  · intro w present
    have own : Fits below w := members ("continuations", w) (by simp [present, Json.member?])
    cases asked : r.continuations with
    | nil => simp [continuationsJson, asked] at present
    | cons first rest =>
        rw [continuationsJson, asked] at present
        cases present
        apply own.list
        intro inner c member fits
        exact Continuation.decoder_of_fits (sorted.states c (asked ▸ member)) fits
  · intro m present
    apply UsageReport.decoder_of_fits
    exact members ("metrics", m.toJson) (by simp [present, Json.member?])

end Response

/-! What an extension offers. -/

structure Schema.Sorted (s : Schema) : Prop where
  views : ∀ v ∈ s.views, v.Sorted
  config : s.config.Sorted
  request : ∀ e ∈ s.request.entries, e.2.Sorted

theorem Schema.comesBack {s : Schema} (sorted : s.Sorted) : ComesBack decoder s.toJson s := by
  apply comesBack_of_fits
  intro depth fits
  obtain ⟨below, entered, members⟩ := fits.members
  have views : Fits below (.arr (s.views.map id)) :=
    members ("views", .arr (s.views.map id)) (by simp)
  have config : Fits below s.config := members ("config", s.config) (by simp)
  have request : Fits below (.ofDict s.request) := members ("request", .ofDict s.request) (by simp)
  have events : Fits below (.ofStrings s.requiredEvents) :=
    members ("required_events", .ofStrings s.requiredEvents) (by simp)
  have viewed := views.list fun _ v member own => own.kept (sorted.views v member)
  rw [List.map_id] at viewed
  apply record_of_writes entered (by decide)
  apply Writes.of viewed
  apply Writes.of (config.kept sorted.config)
  apply Writes.of (request.dict sorted.request)
  apply Writes.of (events.list fun _ _ _ _ => rfl)
  exact .done _

/-! Entries and templates. -/

theorem Timestamp.decoder_render {t : Timestamp} (valid : t.Valid) :
    decoder depth (Tree.ofJson (.str t.render)) = .ok t := by
  simp only [Tree.ofJson, decoder, parse_render valid, mapError_ok]

theorem Entry.decoder_toJson {below : Depth} {e : Entry} (entered : enter depth = .ok below)
    (valid : e.createdAt.Valid) : decoder depth (Tree.ofJson e.toJson) = .ok e := by
  apply record_of_writes entered (by decide)
  apply Writes.must rfl
  apply Writes.must rfl
  apply Writes.must rfl
  apply Writes.must (Timestamp.decoder_render valid)
  exact .done _

theorem Entry.comesBack {e : Entry} (valid : e.createdAt.Valid) :
    ComesBack decoder e.toJson e := by
  apply comesBack_of_fits
  intro depth fits
  obtain ⟨below, entered, _⟩ := fits.members
  exact decoder_toJson entered valid

theorem count_ofNat {n : Nat} (small : n < 0x100000000) :
    Definition.count depth (Tree.ofJson (.ofNat n)) = .ok n := by
  have bounded : n < UInt64.size := Nat.lt_trans small (by decide)
  have same : (UInt64.ofNat n).toNat = n := UInt64.toNat_ofNat_of_lt' bounded
  simp only [Definition.count, Json.ofNat, Tree.ofJson, Decoder.whole, same, small, ↓reduceIte]

structure Definition.Counted (d : Definition) : Prop where
  minInstances : d.minInstances < 0x100000000
  maxInstances : d.maxInstances < 0x100000000
  timeout : d.timeout < 0x100000000

structure InstanceSpec.Counted (s : InstanceSpec) : Prop where
  minInstances : s.minInstances < 0x100000000
  maxInstances : s.maxInstances < 0x100000000
  timeout : s.timeout < 0x100000000

theorem labels_read {labels : KeyMap String} (fits : Fits depth (.ofDict (labels.map .str))) :
    Decoder.map Decoder.text depth (Tree.ofJson (.ofDict (labels.map .str))) = .ok labels := by
  obtain ⟨below, entered, _⟩ := fits.members
  exact map_ofDict entered fun _ _ => rfl

theorem Definition.comesBack {d : Definition} (counted : d.Counted) :
    ComesBack decoder d.toJson d := by
  apply comesBack_of_fits
  intro depth fits
  obtain ⟨below, entered, members⟩ := fits.members
  have env : Fits below (.ofStrings d.env) := members ("env", .ofStrings d.env) (by simp)
  have labels : Fits below (.ofDict (d.labels.map .str)) :=
    members ("labels", .ofDict (d.labels.map .str)) (by simp)
  apply record_of_writes entered (by decide)
  apply Writes.must rfl
  apply Writes.of (env.list fun _ _ _ _ => rfl)
  apply Writes.of rfl
  apply Writes.of rfl
  apply Writes.of (count_ofNat counted.minInstances)
  apply Writes.of (count_ofNat counted.maxInstances)
  apply Writes.of (count_ofNat counted.timeout)
  apply Writes.of rfl
  apply Writes.of (labels_read labels)
  exact .done _

theorem EnvVar.decoder_of_fits {e : EnvVar} (fits : Fits depth e.toJson) :
    decoder depth (Tree.ofJson e.toJson) = .ok e := by
  obtain ⟨below, entered, _⟩ := fits.members
  apply record_of_writes entered (by decide)
  apply Writes.must rfl
  apply Writes.must rfl
  exact .done _

theorem InstanceSpec.comesBack {s : InstanceSpec} (counted : s.Counted) :
    ComesBack decoder s.toJson s := by
  apply comesBack_of_fits
  intro depth fits
  obtain ⟨below, entered, members⟩ := fits.members
  have env : Fits below (.arr (s.env.map EnvVar.toJson)) :=
    members ("env", .arr (s.env.map EnvVar.toJson)) (by simp)
  have labels : Fits below (.ofDict (s.labels.map .str)) :=
    members ("labels", .ofDict (s.labels.map .str)) (by simp)
  apply record_of_writes entered (by decide)
  apply Writes.must rfl
  apply Writes.must rfl
  apply Writes.must (env.list fun _ _ _ => EnvVar.decoder_of_fits)
  apply Writes.must rfl
  apply Writes.must rfl
  apply Writes.must (count_ofNat counted.minInstances)
  apply Writes.must (count_ofNat counted.maxInstances)
  apply Writes.must (count_ofNat counted.timeout)
  apply Writes.must rfl
  apply Writes.must (labels_read labels)
  exact .done _

/-! Values that the text layer gives back whatever is in them: they are flat and have no
numbers but whole ones. -/

namespace Json

structure Flat (most : Nat) (v : Json) : Prop where
  whole : ∀ n ∈ v.numbers, ∃ k, n = .nat k
  low : v.height ≤ most

variable {most : Nat}

theorem Flat.readsBack {v : Json} (flat : v.Flat most) : ∀ n ∈ v.numbers, n.ReadsBack := by
  intro n member
  obtain ⟨k, rfl⟩ := flat.whole n member
  exact Number.readsBack_nat k

theorem Flat.restored {v : Json} (flat : v.Flat most) (low : most < 128) : v.Restored :=
  restored_of_height flat.readsBack (Nat.lt_of_le_of_lt flat.low low)

theorem flat_str (s : String) : (str s).Flat most :=
  ⟨List.forall_mem_nil _, Nat.zero_le most⟩

theorem flat_ofNat (n : Nat) : (ofNat n).Flat most :=
  ⟨fun _ member => ⟨_, List.mem_singleton.mp member⟩, Nat.zero_le most⟩

theorem flat_arr {items : List Json} (each : ∀ v ∈ items, v.Flat most) :
    (arr items).Flat (most + 1) where
  whole := by
    have all : ∀ n ∈ itemNumbers items, ∃ k, n = .nat k := by
      induction items with
      | nil => exact List.forall_mem_nil _
      | cons item rest ih =>
          obtain ⟨own, others⟩ := List.forall_mem_cons.mp each
          exact List.forall_mem_append.mpr ⟨own.whole, ih others⟩
    exact all
  low := Nat.succ_le_succ (itemsHeight_le fun v member => (each v member).low)

theorem flat_obj {members : List (String × Json)} (each : ∀ e ∈ members, e.2.Flat most) :
    (obj members).Flat (most + 1) where
  whole := by
    have all : ∀ n ∈ memberNumbers members, ∃ k, n = .nat k := by
      induction members with
      | nil => exact List.forall_mem_nil _
      | cons member rest ih =>
          obtain ⟨own, others⟩ := List.forall_mem_cons.mp each
          exact List.forall_mem_append.mpr ⟨own.whole, ih others⟩
    exact all
  low := Nat.succ_le_succ (membersHeight_le fun e member => (each e member).low)

theorem flat_ofStrings (texts : List String) : (ofStrings texts).Flat (most + 1) := by
  apply flat_arr
  intro v member
  obtain ⟨s, _, rfl⟩ := List.mem_map.mp member
  exact flat_str s

theorem flat_labels (labels : KeyMap String) : (ofDict (labels.map .str)).Flat (most + 1) := by
  apply flat_obj
  intro e member
  obtain ⟨label, _, rfl⟩ := List.mem_map.mp member
  exact flat_str label.2

end Json

open Json

theorem Entry.flat_toJson (e : Entry) : e.toJson.Flat 1 := by
  apply flat_obj
  simp only [List.forall_mem_cons]
  exact ⟨flat_str _, flat_str _, flat_str _, flat_str _, List.forall_mem_nil _⟩

theorem Definition.flat_toJson (d : Definition) : d.toJson.Flat 2 := by
  apply flat_obj
  simp only [List.forall_mem_cons]
  exact ⟨flat_str _, flat_ofStrings _, flat_str _, flat_str _, flat_ofNat _, flat_ofNat _,
    flat_ofNat _, flat_str _, flat_labels _, List.forall_mem_nil _⟩

theorem EnvVar.flat_toJson (e : EnvVar) : e.toJson.Flat 1 := by
  apply flat_obj
  simp only [List.forall_mem_cons]
  exact ⟨flat_str _, flat_str _, List.forall_mem_nil _⟩

theorem InstanceSpec.flat_toJson (s : InstanceSpec) : s.toJson.Flat 3 := by
  have env : (arr (s.env.map EnvVar.toJson)).Flat 2 := by
    apply flat_arr
    intro v member
    obtain ⟨e, _, rfl⟩ := List.mem_map.mp member
    exact e.flat_toJson
  apply flat_obj
  simp only [List.forall_mem_cons]
  exact ⟨flat_str _, flat_str _, env, flat_str _, flat_str _, flat_ofNat _, flat_ofNat _,
    flat_ofNat _, flat_str _, flat_labels _, List.forall_mem_nil _⟩

end TenantRelay
