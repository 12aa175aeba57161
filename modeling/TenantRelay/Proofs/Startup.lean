import TenantRelay.Proofs.Bootstrap
import TenantRelay.Proofs.StatusRelay
import TenantRelay.Server.Setup
import TenantRelay.Server.Start

/-!
A configuration that was checked is one that a server starts with. What the parts of a server ask
of it when they are put together was asked before, so only the reference instance can still keep a
server from starting.
-/

namespace TenantRelay

/-! The check. -/

namespace ServerConfig

/-- All that a server needs. -/
structure Complete (c : ServerConfig) : Prop where
  extensionName : Text.blank c.extension.name = false
  extensionSecret : Text.blank c.extension.secret = false
  referenceUrl : Text.blank c.reference.url = false
  referenceSecret : Text.blank c.reference.secret = false
  baseUrl : Text.blank c.controlPlane.baseUrl = false
  definition : ∃ d, c.controlPlane.definition = some d ∧ d.validate = .ok ()
  database : c.directory.backend = .postgres → c.directory.databaseUrl ≠ none
  cacheTtl : 0 < c.directory.cacheTtlSeconds

variable {c : ServerConfig}

theorem checkRequired_eq_ok :
    c.checkRequired = .ok () ↔ ∀ r ∈ c.required, Text.blank r.2 = false := by
  unfold checkRequired
  cases missing : c.required.find? fun r => Text.blank r.2 with
  | none =>
      refine iff_of_true rfl fun r member => ?_
      exact Bool.eq_false_iff.mpr (List.find?_eq_none.mp missing r member)
  | some r =>
      refine iff_of_false nofun fun full => ?_
      have blank := List.find?_some missing
      rw [full r (List.mem_of_find?_eq_some missing)] at blank
      cases blank

theorem checkDefinition_eq_ok :
    c.checkDefinition = .ok () ↔
      ∃ d, c.controlPlane.definition = some d ∧ d.validate = .ok () := by
  unfold checkDefinition
  cases c.controlPlane.definition with
  | none => simp
  | some d => simp [mapError_eq_ok]

theorem checkDirectory_eq_ok :
    c.checkDirectory = .ok () ↔
      (c.directory.backend = .postgres → c.directory.databaseUrl ≠ none) ∧
        0 < c.directory.cacheTtlSeconds := by
  unfold checkDirectory
  split
  case isTrue unset => simp [unset]
  case isFalse set =>
    split
    case isTrue zero => simp [zero]
    case isFalse positive => simp_all [Nat.pos_iff_ne_zero]

theorem validate_eq_ok : c.validate = .ok () ↔ c.Complete := by
  have both : ∀ x y : Except ConfigError Unit,
      (x >>= fun _ => y) = .ok () ↔ x = .ok () ∧ y = .ok () := by
    intro x y
    cases x <;> simp [bind, Except.bind]
  have whole : c.validate = c.checkRequired >>= fun _ => c.checkDefinition >>= fun _ =>
      c.checkDirectory := rfl
  rw [whole, both, both, checkRequired_eq_ok, checkDefinition_eq_ok, checkDirectory_eq_ok]
  simp only [required, List.forall_mem_cons]
  constructor
  · rintro ⟨⟨name, secret, url, key, base, _⟩, definition, database, ttl⟩
    exact ⟨name, secret, url, key, base, definition, database, ttl⟩
  · rintro ⟨name, secret, url, key, base, definition, database, ttl⟩
    exact ⟨⟨name, secret, url, key, base, nofun⟩, definition, database, ttl⟩

end ServerConfig

/-! The question to the reference instance. -/

namespace Forward

/-- What is told without an error comes with a success. Any other status goes with an error, and
an answer without a body tells nothing. -/
theorem readAnswer_eq_ok {status : Nat} {body : Bytes} {r : Response} {data : Json}
    (clear : r.error = "") (told : r.data = some data) : readAnswer status body = .ok r ↔
      isSuccess status = true ∧ Json.parse Response.decoder body = .ok r := by
  unfold readAnswer
  cases success : isSuccess status with
  | true =>
      cases body with
      | nil =>
          -- The empty text is no document, and what stands for it has no data.
          refine iff_of_false (fun read => ?_) (fun parsed => by cases parsed.2)
          simp only [List.isEmpty_nil, ↓reduceIte, Except.ok.injEq] at read
          split at read
          all_goals
            subst read
            cases told
      | cons b rest =>
          simp only [List.isEmpty_cons, Bool.false_eq_true, ↓reduceIte, mapError_eq_ok, true_and]
  | false =>
      refine iff_of_false (fun read => ?_) (fun both => Bool.false_ne_true both.1)
      simp only [Bool.false_eq_true, ↓reduceIte] at read
      split at read
      case h_1 other _ =>
        split at read
        case isTrue error =>
          -- The status does not take away what the envelope complains of.
          cases read
          rw [judged_error] at clear
          rw [Response.isError, clear] at error
          cases error
        case isFalse => cases read
      case h_2 => cases read

end Forward

namespace Reference

open Site

/-- A success that brings an envelope without an error, in which an offer can be read. -/
def Tells (answer : Delivery) (schema : Schema) : Prop :=
  isSuccess answer.status = true ∧ ∃ r data, Json.parse Response.decoder answer.body = .ok r ∧
    r.error = "" ∧ r.data = some data ∧ Json.convert Schema.decoder data = .ok schema

theorem readSchema_eq_ok {r : Response} {schema : Schema} : readSchema r = .ok schema ↔
    r.error = "" ∧ ∃ data, r.data = some data ∧ Json.convert Schema.decoder data = .ok schema := by
  unfold readSchema Response.isError
  by_cases error : r.error = ""
  · cases r.data <;> simp [error, mapError_eq_ok]
  · simp [error]

variable {σ : Type} {s : Surroundings σ} {address secret : String}

theorem fetchSchema_eq_ok {f : Forwarder} {site : Site σ} {schema : Schema} :
    (run s (fetchSchema f address secret) site).1 = .ok schema ↔
      ∃ answer, (s.post (.of address secret schemaRequest) site.outside).1 = .ok answer ∧
        Tells answer schema := by
  cases posted : (s.post (.of address secret schemaRequest) site.outside).1 with
  | error failure =>
      have lost : (run s (f.send address secret schemaRequest "schema_request") site).1 =
          .error (f.transportError failure) := by
        rw [f.run_send, posted]
        rfl
      refine iff_of_false (fun fetched => ?_) nofun
      rw [fetchSchema, run_bind, lost] at fetched
      cases fetched
  | ok answer =>
      rw [run_fetchSchema posted f]
      constructor
      · intro fetched
        cases read : Forward.readAnswer answer.status answer.body with
        | error e =>
            rw [read] at fetched
            cases fetched
        | ok r =>
            rw [read] at fetched
            obtain ⟨clear, data, told, converted⟩ := readSchema_eq_ok.mp fetched
            obtain ⟨success, parsed⟩ := (Forward.readAnswer_eq_ok clear told).mp read
            exact ⟨answer, rfl, success, r, data, parsed, clear, told, converted⟩
      · rintro ⟨_, ⟨⟩, success, r, data, parsed, clear, told, converted⟩
        rw [(Forward.readAnswer_eq_ok clear told).mpr ⟨success, parsed⟩]
        exact readSchema_eq_ok.mpr ⟨clear, data, told, converted⟩

end Reference

/-! Putting the parts together. -/

/-- A server as its configuration has it: each part got what it asks for. -/
structure Assembly.Ready (c : ServerConfig) (schema : Schema) (a : Assembly) : Prop where
  definition : c.controlPlane.definition = some a.definition
  valid : a.definition.validate = .ok ()
  cacheTtl : 0 < a.cacheTtl
  controlPlane : a.controlPlane = ⟨c.controlPlane.baseUrl, c.controlPlane.token, c.extension.name⟩
  extension : Text.blank c.extension.name = false
  named : ∀ tenant secret, ∃ rest,
    (InstanceSpec.build a.controlPlane.extension tenant a.definition secret).name =
      c.extension.name ++ rest
  front : a.dispatcher = a.multiplexer.dispatcher c.extension.name c.extension.secret schema

namespace ServerConfig

open Site

variable {c : ServerConfig} {σ : Type} {s : Surroundings σ} {site : Site σ}

theorem Complete.assemble (complete : c.Complete) (schema : Schema) :
    ∃ a, c.assemble schema = .ok a ∧ a.Ready c schema := by
  obtain ⟨d, template, valid⟩ := complete.definition
  have plane : ControlPlane.create? c.controlPlane.baseUrl c.extension.name c.controlPlane.token =
      .ok ⟨c.controlPlane.baseUrl, c.controlPlane.token, c.extension.name⟩ := by
    simp only [ControlPlane.create?, complete.baseUrl, complete.extensionName, Bool.false_eq_true,
      ↓reduceIte]
  simp only [ServerConfig.assemble, template, plane]
  -- Of what the parts ask, the time of the cache and the names of instances are yet to be shown.
  refine ⟨_, rfl, ⟨template, valid, ?_, rfl, complete.extensionName, fun tenant _ => ?_, rfl⟩⟩
  · exact Nat.mul_pos complete.cacheTtl (by decide)
  · exact ⟨"-" ++ tenant, String.append_assoc⟩

theorem run_start : (run s c.start site).1 =
    match (run s (Reference.fetchSchema c.forwarder c.reference.url c.reference.secret) site).1 with
    | .error cause => .error (.schema c.reference.url cause)
    | .ok schema => c.assemble schema := by
  unfold start
  rw [run_bind]
  cases (run s (Reference.fetchSchema c.forwarder c.reference.url c.reference.secret) site).1 <;>
    rfl

/-- A server whose configuration was checked starts as soon as the reference instance tells what
it offers, wherever the entries are stored. If it does not start, it is for the reference instance
alone. -/
theorem starts_once_checked (s : Surroundings σ) (site : Site σ) (checked : c.validate = .ok ()) :
    (∀ answer schema,
      (s.post (.of c.reference.url c.reference.secret Reference.schemaRequest) site.outside).1 =
        .ok answer →
      Reference.Tells answer schema → ∃ a, (run s c.start site).1 = .ok a ∧ a.Ready c schema) ∧
    ∀ e, (run s c.start site).1 = .error e → ∃ cause, e = .schema c.reference.url cause ∧
      (run s (Reference.fetchSchema c.forwarder c.reference.url c.reference.secret) site).1 =
        .error cause := by
  have complete := validate_eq_ok.mp checked
  constructor
  · intro answer schema posted tells
    have fetched : (run s (Reference.fetchSchema c.forwarder c.reference.url c.reference.secret)
        site).1 = .ok schema := Reference.fetchSchema_eq_ok.mpr ⟨answer, posted, tells⟩
    rw [run_start, fetched]
    exact complete.assemble schema
  · intro e failed
    rw [run_start] at failed
    cases fetched : (run s (Reference.fetchSchema c.forwarder c.reference.url c.reference.secret)
        site).1 with
    | error cause =>
        rw [fetched] at failed
        cases failed
        exact ⟨cause, rfl, rfl⟩
    | ok schema =>
        obtain ⟨a, assembled, _⟩ := complete.assemble schema
        rw [fetched] at failed
        cases assembled.symm.trans failed

def sufficient : ServerConfig :=
  { extension := ⟨"scan", "front key"⟩
    reference := ⟨"http://reference", "key"⟩
    controlPlane := { baseUrl := "http://plane", definition := some { image := "scan:1" } } }

theorem starts_once_checked_sufficient :
    let site : Site FairWorld := { outside := .hosting FairWorld.former }
    let told := Multiplexer.hosted Multiplexer.reference
    let withheld := Multiplexer.hosted Multiplexer.tight
    sufficient.validate = .ok () ∧
    (∃ a, (run told sufficient.start site).1 = .ok a ∧
      a.Ready sufficient Multiplexer.reference.schema) ∧
    ∃ cause, (run withheld sufficient.start site).1 =
      .error (.schema "http://reference" cause) := by
  intro site told withheld
  have checked : sufficient.validate = .ok () := rfl
  have fetched : (run told (Reference.fetchSchema sufficient.forwarder sufficient.reference.url
      sufficient.reference.secret) site).1 = .ok Multiplexer.reference.schema :=
    Reference.fetchSchema_fetches (Multiplexer.hosted_hosts _ Multiplexer.reference)
      (by decide +kernel) Multiplexer.reference_legible _ site
  obtain ⟨answer, posted, tells⟩ := Reference.fetchSchema_eq_ok.mp fetched
  refine ⟨checked, (starts_once_checked _ site checked).1 answer _ posted tells, ?_⟩
  have long : Multiplexer.tight.maxBody < Reference.schemaRequest.encode.length := by
    decide +kernel
  have unread : (run withheld (Reference.fetchSchema sufficient.forwarder sufficient.reference.url
      sufficient.reference.secret) site).1 = .error (.schema Forward.unread.error) :=
    Reference.fetchSchema_of_long (Multiplexer.hosted_hosts _ Multiplexer.tight) long _ site
  cases started : (run withheld sufficient.start site).1 with
  | error e =>
      obtain ⟨cause, rfl, _⟩ := (starts_once_checked withheld site checked).2 e started
      exact ⟨cause, rfl⟩
  | ok a =>
      rw [run_start, unread] at started
      cases started

end ServerConfig
end TenantRelay
