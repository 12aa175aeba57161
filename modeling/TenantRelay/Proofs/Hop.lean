import TenantRelay.Proofs.Codecs
import TenantRelay.Proofs.StatusRelay

/-!
One hop of an outcome: an instance tells what its handler came to by a status and an envelope,
and the front takes it from these. Nothing is lost of it but what was never told: the text of a
failure that has none, and the credential in it.
-/

namespace TenantRelay

open Document Decoder

/-- An envelope that the text layer gives back, with what is in memory in it. -/
structure Response.Restored (r : Response) : Prop where
  text : r.toJson.Restored
  data : ∀ v, r.data = some v → v.Sorted
  states : ∀ c ∈ r.continuations, ∀ e ∈ c.state.entries, e.2.Sorted

namespace Response

theorem Restored.sorted {r : Response} (restored : r.Restored) : r.Sorted :=
  ⟨restored.data, restored.states⟩

theorem Restored.parse {r : Response} (restored : r.Restored) :
    Json.parse decoder r.encode =
      .ok { r with data := Json.something r.data, retriable := none } :=
  (comesBack restored.sorted).text restored.text

end Response

/-! Texts of failures. -/

namespace Masking

theorem replace_ne_nil (c : Char) (pattern : List Char) {text : List Char} (full : text ≠ []) :
    replace c pattern redacted.toList text ≠ [] := by
  cases text with
  | nil => exact absurd rfl full
  | cons d text =>
      rw [replace]
      split
      · simp [redacted]
      · exact List.cons_ne_nil _ _

theorem mask_ne_empty (secrets : List String) {text : String} (full : text ≠ "") :
    mask secrets text ≠ "" := by
  induction secrets generalizing text with
  | nil => exact full
  | cons secret secrets ih =>
      apply ih
      have letters : text.toList ≠ [] := fun none => full (String.toList_eq_nil_iff.mp none)
      have left : maskChars text.toList secret.toList ≠ [] := by
        cases secret.toList with
        | nil => exact letters
        | cons c pattern => exact replace_ne_nil c pattern letters
      intro none
      apply left
      rw [← String.toList_ofList (l := maskChars text.toList secret.toList)]
      exact String.toList_eq_nil_iff.mpr none

end Masking

/-- What comes back of an outcome: a reply is the same but for data that is nothing, and a
failure is as much worth another try as it was, and has its text without the credential if it
has any. -/
def Outcome.Survives (tenant : Tenant) : Outcome → Outcome → Prop
  | .ok reply, back => back = .ok { reply with data := Json.something reply.data }
  | .error e, .error e' => e'.retriable = e.retriable ∧
      (e.text ≠ "" → e'.text = Masking.mask [tenant.credential] e.text)
  | .error _, .ok _ => False

namespace Dispatcher

def told (message : Message) (role : String) (tenant : Tenant) (outcome : Outcome) : Handled :=
  handled (kindOf message) { result := concluded role tenant outcome }

theorem status_told (message : Message) (role : String) (tenant : Tenant) (outcome : Outcome) :
    (told message role tenant outcome).answer.status = outcome.status :=
  status_of_concluded _ _ _ _

theorem body_json (status : Nat) (r : Response) :
    (Http.Answer.json status r.toJson).body = r.encode := by
  unfold Http.Answer.json Response.encode
  dsimp only

theorem told_ok (message : Message) (role : String) (tenant : Tenant) (reply : Reply) :
    (told message role tenant (.ok reply)).answer =
      .json 200 (success reply.toResponse).toJson := rfl

theorem told_error (message : Message) (role : String) (tenant : Tenant) (e : HandlerError) :
    (told message role tenant (.error e)).answer =
      .json (if e.retriable then 503 else 500)
        ({ error := Masking.mask [tenant.credential] e.text, version := protocolVersion :
          Response }).toJson := rfl

end Dispatcher

namespace Forward

open Dispatcher

theorem readAnswer_success {r : Response} (restored : r.Restored) :
    readAnswer 200 r.encode =
      .ok { r with data := Json.something r.data, retriable := none } := by
  have parsed := restored.parse
  have full : r.encode.isEmpty = false := by
    cases bytes : r.encode with
    | nil =>
        rw [bytes] at parsed
        cases parsed
    | cons b rest => rfl
  have success : isSuccess 200 = true := rfl
  simp only [readAnswer, success, full, parsed, mapError_ok]
  rfl

theorem outcomeOf_reply {reply : Reply} (restored : (success reply.toResponse).Restored) :
    outcomeOf 200 (success reply.toResponse).encode =
      .ok { reply with data := Json.something reply.data } := by
  rw [outcomeOf, readAnswer_success restored]
  rfl

theorem parse_failure (text : String) (version : UInt64) :
    Json.parse Response.decoder ({ error := text, version : Response }).encode =
      .ok { error := text, version } := by
  have numbers : ∀ n ∈ ({ error := text, version : Response }).toJson.numbers, n.ReadsBack := by
    intro n member
    cases List.mem_singleton.mp member
    exact Json.Number.readsBack_nat version
  have low : ({ error := text, version : Response }).toJson.height < 128 :=
    show 1 < 128 by decide
  have sorted : ({ error := text, version : Response }).Sorted := ⟨nofun, nofun⟩
  exact (Response.comesBack sorted).text (Json.restored_of_height numbers low)

theorem outcomeOf_failure (retriable : Bool) (text : String) :
    ∃ e, outcomeOf (if retriable then 503 else 500)
        ({ error := text, version := protocolVersion : Response }).encode = .error e ∧
      e.retriable = retriable ∧ (text ≠ "" → e.text = text) := by
  have parsed := parse_failure text protocolVersion
  generalize ({ error := text, version := protocolVersion : Response }).encode = body at parsed
  have failed : isSuccess (if retriable then 503 else 500) = false := by
    cases retriable <;> rfl
  by_cases silent : text = ""
  · -- An envelope without a text is none, and the status alone is left.
    have read : readAnswer (if retriable then 503 else 500) body =
        .error (.remote (if retriable then 503 else 500)
          (remoteText (if retriable then 503 else 500) body)) := by
      simp [readAnswer, failed, parsed, Response.isError, silent]
    rw [outcomeOf, read]
    refine ⟨_, rfl, ?_, fun loud => absurd silent loud⟩
    cases retriable <;> rfl
  · have read : readAnswer (if retriable then 503 else 500) body =
        .ok (judged (if retriable then 503 else 500)
          { error := text, version := protocolVersion }) := by
      simp [readAnswer, failed, parsed, Response.isError, silent]
    have error : (judged (if retriable then 503 else 500)
        { error := text, version := protocolVersion }).isError = true := by
      simp [Response.isError, judged_error, silent]
    rw [outcomeOf, read]
    simp only [mapError_ok, Multiplexer.outcomeOf, Outcome.ofResponse, error, ↓reduceIte]
    refine ⟨_, rfl, ?_, fun _ => judged_error _ _⟩
    cases retriable <;> rfl

end Forward

namespace Outcome

open Dispatcher

variable {outcome back : Outcome} {tenant : Tenant}

theorem survives_told (message : Message) (role : String) (tenant : Tenant)
    (restored : ∀ reply, outcome = .ok reply → (success reply.toResponse).Restored) :
    outcome.Survives tenant (Forward.outcomeOf (told message role tenant outcome).answer.status
      (told message role tenant outcome).answer.body) := by
  rw [status_told]
  cases outcome with
  | ok reply =>
      rw [told_ok, body_json]
      exact Forward.outcomeOf_reply (restored reply rfl)
  | error e =>
      obtain ⟨e', same, retriable, text⟩ :=
        Forward.outcomeOf_failure e.retriable (Masking.mask [tenant.credential] e.text)
      rw [told_error, body_json, Outcome.status, same]
      exact ⟨retriable, fun loud => text (Masking.mask_ne_empty _ loud)⟩

theorem Survives.status (survives : outcome.Survives tenant back) :
    back.status = outcome.status := by
  cases outcome with
  | ok reply =>
      have same : back = .ok _ := survives
      rw [same]
      rfl
  | error e =>
      cases back with
      | ok reply => cases survives
      | error e' => simp only [Outcome.status, survives.1]

end Outcome

namespace Multiplexer

open Dispatcher Directory Site

section
variable {m : Type → Type} [Monad m] [LawfulMonad m] {d : Dispatcher m} {inner : Http.Call}
  {received : Message} {role : String} {principal : Tenant} {handler : m Outcome}
  {outcome : Outcome}
variable {σ : Type} {s : Surroundings σ} {x : Multiplexer} {schema : Schema}
  {f : Dispatcher Program} {call : Http.Call} {message sent : Message} {tenant : Tenant}
  {target : String} {site : Site σ} {entry : Entry}

/-- Whatever the handler of an instance comes to, the front takes from the answer that the
instance tells it by, and answers with the instance's own status. -/
theorem outcome_survives_hop (taken : d.message? inner = some received)
    (planned : d.plan received = .ok (.handling role principal handler))
    (restored : ∀ reply, outcome = .ok reply → (success reply.toResponse).Restored)
    (passing : s.PassesThrough) (fronts : x.Fronts schema f)
    (bears : f.message? call = some message)
    (passes : Passes schema message tenant sent target) (valid : tenant.validate = .ok ())
    (registered : (run s (resolve tenant.id) site).1 = .ok entry)
    (answered : (s.post (.of entry.address entry.secret sent)
        (run s (resolve tenant.id) site).2.outside).1 =
      .ok ⟨(told received role principal outcome).answer.status,
        (told received role principal outcome).answer.body⟩) :
    d.handle inner = told received role principal <$> handler ∧
    let answer := (told received role principal outcome).answer
    let back := Forward.outcomeOf answer.status answer.body
    outcome.Survives principal back ∧
    (∃ kind, (run s (f.handle call) site).1 = told message kind tenant back) ∧
    (run s (f.handle call) site).1.answer.status = answer.status := by
  have survives := Outcome.survives_told received role principal restored
  obtain ⟨kind, handling⟩ := handle_of_relays fronts valid bears (.passed passes)
  have answer : (run s (f.handle call) site).1 = told message kind tenant
      (Forward.outcomeOf (told received role principal outcome).answer.status
        (told received role principal outcome).answer.body) := by
    rw [handling, run_bind, run_pure, run_forward passing registered, answered]
    rfl
  constructor
  · rw [handle_of_message? taken, dispatch_of_plan planned]
    simp only [bind_assoc, pure_bind, map_eq_pure_bind]
    rfl
  · refine ⟨survives, ⟨kind, answer⟩, ?_⟩
    rw [answer, status_told, survives.status, status_told]

end

def decided (outcome : Outcome) : Surroundings FairWorld :=
  FairWorld.surroundings .passThrough fun _ =>
    .ok ⟨(told {} "" {} outcome).answer.status, (told {} "" {} outcome).answer.body⟩

def measured : Reply := { data := some .null, metrics := some ⟨"once", [⟨"scan", 1⟩]⟩ }

def lenient : Dispatcher Id :=
  { name := "lenient", secret := "key"
    registry := { validator := some fun _ _ => (.ok measured : Outcome) } }

theorem measured_restored : (success measured.toResponse).Restored where
  text := by
    apply Json.restored_of_height
    · intro n member
      have all : (success measured.toResponse).toJson.numbers = [.nat protocolVersion, .nat 1] := rfl
      rw [all] at member
      simp only [List.mem_cons, List.not_mem_nil, or_false] at member
      rcases member with rfl | rfl <;> exact Json.Number.readsBack_nat _
    · decide
  data := by
    rintro v present
    cases present
    rfl
  states := nofun

/-- The front tells a success that came with nothing but what it took. -/
theorem outcome_survives_hop_measured :
    (run (decided (.ok measured)) (relay.handle inquiry)
      { outside := .hosting FairWorld.former }).1.answer.status = 200 := by
  obtain ⟨message, bears, asked⟩ := Option.bind_eq_some_iff.mp inquiry_bears
  unfold inquirer? at asked
  split at asked
  case h_1 c payload =>
    have own : c.tenant = ⟨"acme", "token", none⟩ := Option.some.inj asked
    have valid : c.tenant.validate = .ok () := by
      rw [own]
      rfl
    have registered : (run (decided (.ok measured)) (resolve c.tenant.id)
        { outside := .hosting FairWorld.former }).1 = .ok FairWorld.former := by
      rw [own]
      rfl
    have short : inquiryBody.length ≤ lenient.maxBody := by decide +kernel
    have taken : lenient.message? inquiry = some message := by
      rw [← bears, inquiry, message?_signed (f := relay) short]
      exact message?_signed (f := lenient) short
    have planned : lenient.plan message =
        .ok (.handling "config_validation" c.tenant (.ok measured : Outcome)) := by
      simp only [plan, payload, validationPlan, client_of_valid (f := lenient) rfl valid]
      rfl
    have restored : ∀ reply, (.ok measured : Outcome) = .ok reply →
        (success reply.toResponse).Restored := by
      intro reply same
      cases same
      exact measured_restored
    have passing : (decided (.ok measured)).PassesThrough := FairWorld.passesThrough _
    have hop := outcome_survives_hop taken planned restored passing relay_fronts bears
      (.validation payload) valid registered rfl
    obtain ⟨_, _, _, status⟩ := hop
    rw [status, status_told]
    rfl
  case h_2 => cases asked

end Multiplexer

end TenantRelay
