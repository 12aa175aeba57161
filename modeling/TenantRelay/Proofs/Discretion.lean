import TenantRelay.Directory.Entry
import TenantRelay.Dispatch.Client
import TenantRelay.Envelope.Message
import TenantRelay.Instance.Spec
import TenantRelay.Proofs.Redaction

/-!
What diagnostics tell of values that hold a secret. Each is shown as if it held another secret, or
none, however deep in it the secret lies. All the same it is shown whom it is about.
-/

namespace TenantRelay

open Text Masking

/-! Values without their secrets. -/

def Tenant.disclosed (t : Tenant) : Tenant := { t with credential := "" }

def Client.disclosed (c : Client) : Client := ⟨c.access.disclosed⟩

def Entry.disclosed (e : Entry) : Entry := { e with secret := "" }

def Message.disclosed (m : Message) : Message :=
  { m with
    configValidation := m.configValidation.map fun c => { c with tenant := c.tenant.disclosed }
    request := m.request.map fun r => { r with tenant := r.tenant.disclosed }
    event := m.event.map fun e => { e with tenant := e.tenant.disclosed } }

theorem Message.shown_disclosed (listed : ResourceState.Listing) (m : Message) :
    m.disclosed.shown listed = m.shown listed := by
  simp only [shown, disclosed, Option.map_map]
  rfl

theorem Client.shown_disclosed (c : Client) : c.disclosed.shown = c.shown := rfl

theorem Entry.shown_disclosed (e : Entry) : e.disclosed.shown = e.shown := rfl

/-! Specs, of which the environment holds the secret, perhaps more than once. -/

namespace InstanceSpec

variable {β : Type} (tenant secret secret' entry : String) (env : List String)

theorem name_resolveEntry : (resolveEntry secret entry).map EnvVar.name =
    (resolveEntry secret' entry).map EnvVar.name := by
  unfold resolveEntry
  split
  case h_1 => rfl
  case h_2 => split <;> rfl

theorem shown_resolveEntry : (resolveEntry secret entry).map EnvVar.shown =
    (resolveEntry secret' entry).map EnvVar.shown := by
  unfold resolveEntry
  split
  case h_1 => rfl
  case h_2 name value _ =>
    split
    case isTrue => rfl
    case isFalse =>
      by_cases own : name = secretVariable <;> simp [EnvVar.shown, own]

theorem map_resolved {f : EnvVar → β}
    (same : ∀ entry, (resolveEntry secret entry).map f = (resolveEntry secret' entry).map f) :
    (env.filterMap (resolveEntry secret)).map f =
      (env.filterMap (resolveEntry secret')).map f := by
  rw [List.map_filterMap, List.map_filterMap]
  exact congrArg (env.filterMap ·) (funext same)

theorem shown_resolveEnv : (resolveEnv env tenant secret).map EnvVar.shown =
    (resolveEnv env tenant secret').map EnvVar.shown := by
  have kept := map_resolved secret secret' env (shown_resolveEntry secret secret')
  have names := map_resolved secret secret' env (name_resolveEntry secret secret')
  -- Whether the template has a place for the secret is a matter of names.
  have placed : (env.filterMap (resolveEntry secret)).any (·.name == secretVariable) =
      (env.filterMap (resolveEntry secret')).any (·.name == secretVariable) := by
    have listed := congrArg (List.any · (· == secretVariable)) names
    simpa only [List.any_map, Function.comp_def] using listed
  simp only [resolveEnv, List.map_append, kept, placed]
  split <;> simp [EnvVar.shown]

theorem shown_build (extension : String) (d : Definition) :
    (build extension tenant d secret).shown = (build extension tenant d secret').shown := by
  simp only [shown, build, shown_resolveEnv tenant secret secret']

end InstanceSpec

/-! Diagnostics at large. -/

/-- What a diagnostic text is put together from. -/
inductive Diagnostic where
  | words (text : String)
  | message (m : Message)
  | client (c : Client)
  | entry (e : Entry)
  | spec (extension tenant : String) (d : Definition) (secret : String)
  | beside (before after : Diagnostic)

namespace Diagnostic

def text (listed : ResourceState.Listing) : Diagnostic → String
  | words text => text
  | message m => m.shown listed
  | client c => c.shown
  | entry e => e.shown
  | spec extension tenant d secret => (InstanceSpec.build extension tenant d secret).shown
  | beside before after => text listed before ++ text listed after

def disclosed : Diagnostic → Diagnostic
  | words text => words text
  | message m => message m.disclosed
  | client c => client c.disclosed
  | entry e => entry e.disclosed
  | spec extension tenant d _ => spec extension tenant d ""
  | beside before after => beside before.disclosed after.disclosed

theorem text_disclosed (listed : ResourceState.Listing) (n : Diagnostic) :
    n.disclosed.text listed = n.text listed := by
  induction n with
  | words text => rfl
  | message m => exact m.shown_disclosed listed
  | client c => exact c.shown_disclosed
  | entry e => exact e.shown_disclosed
  | spec extension tenant d secret => exact InstanceSpec.shown_build tenant "" secret extension d
  | beside before after ih ih' => rw [disclosed, text, ih, ih', text]

end Diagnostic

/-! Texts within texts. -/

namespace Text

variable {part text name : String} {parts : List String} {fields : List (String × String)}

theorem occurs_between (before text after : String) : Occurs text (before ++ text ++ after) := by
  refine ⟨before.toList, after.toList, ?_⟩
  rw [String.toList_append, String.toList_append]

theorem occurs_intercalate (sep : String) (member : part ∈ parts) :
    Occurs part (sep.intercalate parts) := by
  induction parts with
  | nil => cases member
  | cons first rest ih =>
      cases rest with
      | nil =>
          rw [List.mem_singleton.mp member, String.intercalate_singleton]
          exact List.infix_rfl
      | cons next rest =>
          rw [String.intercalate_cons_cons]
          rcases List.mem_cons.mp member with rfl | later
          · have whole := occurs_between "" part (sep ++ sep.intercalate (next :: rest))
            rwa [String.empty_append, ← String.append_assoc] at whole
          · have whole := occurs_between (first ++ sep) (sep.intercalate (next :: rest)) ""
            rw [String.append_empty] at whole
            exact (ih later).trans whole

theorem occurs_shownRecord (field : String) (member : (field, text) ∈ fields) :
    Occurs text (shownRecord name fields) := by
  have own : Occurs text (field ++ ": " ++ text) := by
    have whole := occurs_between (field ++ ": ") text ""
    rwa [String.append_empty] at whole
  have listed : field ++ ": " ++ text ∈ shownFields fields :=
    List.mem_map.mpr ⟨(field, text), member, rfl⟩
  exact (own.trans (occurs_intercalate ", " listed)).trans (occurs_between _ _ _)

theorem occurs_shownOption (text : String) : Occurs text (shownOption (some text)) :=
  occurs_between "Some(" text ")"

theorem occurs_held (field : String) (member : (field, shownOption (some text)) ∈ fields) :
    Occurs text (shownRecord name fields) :=
  (occurs_shownOption text).trans (occurs_shownRecord field member)

end Text

theorem Tenant.occurs_id (t : Tenant) : Occurs (quoted t.id) t.shown :=
  occurs_shownRecord "id" List.mem_cons_self

theorem Client.occurs_id (c : Client) : Occurs (quoted c.access.id) c.shown :=
  c.access.occurs_id.trans (occurs_shownRecord "access" List.mem_cons_self)

theorem Entry.occurs_tenant (e : Entry) : Occurs (quoted e.tenant) e.shown :=
  occurs_shownRecord "tenant_id" List.mem_cons_self

theorem InstanceSpec.occurs_name (s : InstanceSpec) : Occurs (quoted s.name) s.shown :=
  occurs_shownRecord "name" List.mem_cons_self

theorem ConfigValidation.occurs_tenant (c : ConfigValidation) : Occurs c.tenant.shown c.shown :=
  occurs_shownRecord "tenant" List.mem_cons_self

theorem Request.occurs_tenant (listed : ResourceState.Listing) (r : Request) :
    Occurs r.tenant.shown (r.shown listed) :=
  occurs_shownRecord "tenant" List.mem_cons_self

theorem Event.occurs_tenant (e : Event) : Occurs e.tenant.shown e.shown :=
  occurs_shownRecord "tenant" List.mem_cons_self

theorem Message.occurs_id (listed : ResourceState.Listing) {m : Message} {p : Payload} {t : Tenant}
    (carried : p ∈ m.payloads) (bound : p.tenant? = some t) :
    Occurs (quoted t.id) (m.shown listed) := by
  refine t.occurs_id.trans ?_
  cases p with
  | configValidation c =>
      cases bound
      have there : m.configValidation = some c := by simpa [payloads] using carried
      exact c.occurs_tenant.trans (occurs_held "config_validation" (by simp [there]))
  | request r =>
      cases bound
      have there : m.request = some r := by simpa [payloads] using carried
      exact (r.occurs_tenant listed).trans (occurs_held "request" (by simp [there]))
  | event e =>
      cases bound
      have there : m.event = some e := by simpa [payloads] using carried
      exact e.occurs_tenant.trans (occurs_held "event" (by simp [there]))
  -- The other payloads are bound to nobody.
  | heartbeat => cases bound
  | errorReport => cases bound
  | schemaRequest => cases bound

/-- Values that differ in their secrets only are shown alike: messages that differ in the
credentials of their tenants, clients that differ in theirs, entries in the secret of the instance,
and the specs that one template makes for one tenant. So no text that is put together from them
tells of a secret. All the same each of them is shown with the name of whom it is about. -/
theorem shown_without_secrets (listed : ResourceState.Listing) :
    (∀ m m' : Message, m.disclosed = m'.disclosed → m.shown listed = m'.shown listed) ∧
    (∀ c c' : Client, c.disclosed = c'.disclosed → c.shown = c'.shown) ∧
    (∀ e e' : Entry, e.disclosed = e'.disclosed → e.shown = e'.shown) ∧
    (∀ (extension tenant : String) (d : Definition) (secret secret' : String),
      (InstanceSpec.build extension tenant d secret).shown =
        (InstanceSpec.build extension tenant d secret').shown) ∧
    (∀ n n' : Diagnostic, n.disclosed = n'.disclosed → n.text listed = n'.text listed) ∧
    (∀ (m : Message) (p : Payload) (t : Tenant), p ∈ m.payloads → p.tenant? = some t →
      Occurs (quoted t.id) (m.shown listed)) ∧
    (∀ c : Client, Occurs (quoted c.access.id) c.shown) ∧
    (∀ e : Entry, Occurs (quoted e.tenant) e.shown) ∧
    ∀ s : InstanceSpec, Occurs (quoted s.name) s.shown := by
  have alike : ∀ n n' : Diagnostic, n.disclosed = n'.disclosed →
      n.text listed = n'.text listed := by
    intro n n' same
    rw [← n.text_disclosed, same, n'.text_disclosed]
  refine ⟨?_, ?_, ?_, ?_, alike, ?_, Client.occurs_id, Entry.occurs_tenant,
    InstanceSpec.occurs_name⟩
  · intro m m' same
    exact alike (.message m) (.message m') (congrArg Diagnostic.message same)
  · intro c c' same
    exact alike (.client c) (.client c') (congrArg Diagnostic.client same)
  · intro e e' same
    exact alike (.entry e) (.entry e') (congrArg Diagnostic.entry same)
  · intro extension tenant d secret secret'
    exact InstanceSpec.shown_build tenant secret secret' extension d
  · intro m p t carried bound
    exact m.occurs_id listed carried bound

def overbound (credential : String) : Message :=
  let tenant : Tenant := { id := "acme", credential, ident := some "ann" }
  { configValidation := some { tenant }
    request := some { tenant, resourceState := .ofList [("disk", {}), ("port", {})] }
    event := some { tenant, name := "update" } }

/-- Other credentials, also within a longer text, and another secret that the template has two
places for. -/
theorem shown_without_secrets_of_overbound :
    let d : Definition := { env := ["LC_SHARED_SECRET=", "PLAN=big", "LC_SHARED_SECRET=x=y"] }
    let lost (credential : String) : Diagnostic :=
      .beside (.client ⟨{ id := "acme", credential }⟩) (.beside (.words ": lost ")
        (.message (overbound credential)))
    (overbound "red").disclosed = (overbound "blue").disclosed ∧
    (overbound "red").event.map (·.tenant.credential) ≠
      (overbound "blue").event.map (·.tenant.credential) ∧
    (overbound "red").shown KeyMap.entries = (overbound "blue").shown KeyMap.entries ∧
    (lost "red").text KeyMap.entries = (lost "blue").text KeyMap.entries ∧
    Occurs (quoted "acme") ((overbound "red").shown KeyMap.entries) ∧
    (InstanceSpec.build "scan" "acme" d "red").env ≠
      (InstanceSpec.build "scan" "acme" d "blue").env ∧
    (InstanceSpec.build "scan" "acme" d "red").shown =
      (InstanceSpec.build "scan" "acme" d "blue").shown := by
  intro d lost
  obtain ⟨messages, _, _, specs, texts, named, _⟩ := shown_without_secrets KeyMap.entries
  have other : (InstanceSpec.build "scan" "acme" d "red").env ≠
      (InstanceSpec.build "scan" "acme" d "blue").env := by decide +kernel
  refine ⟨rfl, by decide, messages _ _ rfl, texts _ _ rfl, ?_, other, specs _ _ _ _ _⟩
  let tenant : Tenant := { id := "acme", credential := "red", ident := some "ann" }
  have carried : Payload.event { tenant, name := "update" } ∈ (overbound "red").payloads := by
    simp [Message.payloads, overbound, tenant]
  exact named _ _ tenant carried rfl

end TenantRelay
