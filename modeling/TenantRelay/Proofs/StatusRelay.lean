import TenantRelay.Proofs.Decoding
import TenantRelay.Proofs.FairWorld
import TenantRelay.Proofs.Passage
import TenantRelay.Proofs.Signing

/-!
What the answer of an instance does to the answer of the front. The front's status depends
on nothing but the status and the body that the instance sent: every pair of them leads to
one of three statuses.
-/

namespace TenantRelay

/-- A hook that changes nothing and stops nothing. -/
structure Surroundings.PassesThrough {σ : Type} (s : Surroundings σ) : Prop where
  outbound : ∀ tenant message w, s.outbound tenant message w = (.ok message, w)
  inbound : ∀ tenant message response w, s.inbound tenant message response w = (.ok response, w)

theorem Site.run_outbound {σ : Type} {s : Surroundings σ} (passing : s.PassesThrough)
    (tenant : Tenant) (message : Message) (site : Site σ) :
    run s (Program.call (.outbound tenant message)) site = (.ok message, site) := by
  have outward : site.answer s (.outbound tenant message) = (.ok message, site) := by
    simp only [Site.answer, passing.outbound]
    rfl
  exact outward

theorem FairWorld.passesThrough (reply : Parcel → Except TransportFailure Delivery) :
    (surroundings .passThrough reply).PassesThrough :=
  ⟨fun _ _ _ => rfl, fun _ _ _ _ => rfl⟩

def Forward.Agreeing (body : Bytes) : Prop :=
  ∃ r : Response, Json.parse Response.decoder body = .ok r ∧ r.error = ""

def Forward.Objecting (body : Bytes) : Prop :=
  ∃ r : Response, Json.parse Response.decoder body = .ok r ∧ r.error ≠ ""

def Outcome.status : Outcome → Nat
  | .ok _ => 200
  | .error e => if e.retriable then 503 else 500

theorem Dispatcher.status_of_concluded (kind role : String) (tenant : Tenant) (outcome : Outcome) :
    (handled kind { result := concluded role tenant outcome }).answer.status = outcome.status := by
  cases outcome with
  | ok reply => rfl
  | error e => rw [concluded, status_refused]; rfl

namespace Forward

variable {status : Nat} {body : Bytes}

theorem not_objecting_nil : ¬Objecting [] := by
  rintro ⟨r, parsed, _⟩
  cases parsed

theorem isPassing_of_isSuccess (success : isSuccess status = true) :
    ForwardError.isPassing status = false := by
  simp only [isSuccess, Bool.and_eq_true, decide_eq_true_eq] at success
  simp only [ForwardError.isPassing, Bool.or_eq_false_iff, beq_eq_false_iff_ne]
  omega

theorem ne_of_isSuccess (success : isSuccess status = true) : status ≠ 500 := by
  rintro rfl
  cases success

def outcomeOf (status : Nat) (body : Bytes) : Outcome :=
  Multiplexer.outcomeOf ((readAnswer status body).mapError .forward)

theorem status_of_ok {r : Response} (read : readAnswer status body = .ok r) :
    (outcomeOf status body).status =
      if r.error = "" then 200 else if r.isRetriable then 503 else 500 := by
  simp only [outcomeOf, read, mapError_ok, Multiplexer.outcomeOf, Outcome.ofResponse,
    Response.isError, bne_iff_ne]
  by_cases silent : r.error = "" <;> simp [silent, Outcome.status]

theorem status_of_error {e : ForwardError} (read : readAnswer status body = .error e) :
    (outcomeOf status body).status = if e.isRetriable then 503 else 500 := by
  simp only [outcomeOf, read]
  rfl

theorem judged_error (status : Nat) (r : Response) : (judged status r).error = r.error := by
  unfold judged
  split
  · rfl
  · split <;> rfl

/-- The status only decides where it says by itself whether to try again. -/
theorem isRetriable_judged (r : Response) (unsaid : r.retriable = none) :
    (judged status r).isRetriable = (status != 500) := by
  by_cases unavailable : status = 503
  · subst unavailable
    rfl
  · by_cases failed : status = 500
    · subst failed
      rfl
    · simp [judged, unavailable, failed, Response.isRetriable, unsaid]

theorem retriable_of_parse {r : Response} (parsed : Json.parse Response.decoder body = .ok r) :
    r.retriable = none := by
  obtain ⟨decoded, _⟩ := Json.parse_eq_ok_iff.mp parsed
  let Unsaid (r : Response) : Prop := r.retriable = none
  have kept : ∀ below, Document.enter Document.textDepth = .ok below →
      ∀ field ∈ Response.fields, field.Keeps Unsaid below := by
    intro below _
    simp only [Response.fields, List.forall_mem_cons]
    exact ⟨.of fun _ _ _ _ kept => kept, .of fun _ _ _ _ kept => kept,
      .of fun _ _ _ _ kept => kept, .of fun _ _ _ _ kept => kept,
      .of fun _ _ _ _ kept => kept, List.forall_mem_nil _⟩
  have unsaid : Unsaid r := Document.holds_of_record rfl kept decoded
  exact unsaid

theorem status_of_agreeing (agreeing : Agreeing body) :
    (outcomeOf status body).status =
      if isSuccess status then 200 else if ForwardError.isPassing status then 503 else 500 := by
  obtain ⟨r, parsed, silent⟩ := agreeing
  have full : body.isEmpty = false := by
    cases body with
    | nil => cases parsed
    | cons b rest => rfl
  cases success : isSuccess status with
  | true =>
      have read : readAnswer status body = .ok r := by
        simp [readAnswer, success, full, parsed, mapError_ok]
      simp [status_of_ok read, silent]
  | false =>
      have read : readAnswer status body = .error (.remote status (remoteText status body)) := by
        simp [readAnswer, success, parsed, Response.isError, silent]
      rw [status_of_error read]
      rfl

theorem status_of_objecting (objecting : Objecting body) :
    (outcomeOf status body).status = if status = 500 then 500 else 503 := by
  obtain ⟨r, parsed, loud⟩ := objecting
  have unsaid := retriable_of_parse parsed
  have full : body.isEmpty = false := by
    cases body with
    | nil => cases parsed
    | cons b rest => rfl
  cases success : isSuccess status with
  | true =>
      have read : readAnswer status body = .ok r := by
        simp [readAnswer, success, full, parsed, mapError_ok]
      have other := ne_of_isSuccess success
      simp [status_of_ok read, loud, Response.isRetriable, unsaid, other]
  | false =>
      have read : readAnswer status body = .ok (judged status r) := by
        simp [readAnswer, success, parsed, Response.isError, loud]
      simp [status_of_ok read, judged_error, loud, isRetriable_judged r unsaid]

theorem status_of_unread {e : Document.DecodeError}
    (unread : Json.parse Response.decoder body = .error e) :
    (outcomeOf status body).status =
      if isSuccess status then
        if body = [] then if status = 204 then 503 else 200 else 500
      else if ForwardError.isPassing status then 503 else 500 := by
  cases success : isSuccess status with
  | true =>
      cases body with
      | nil =>
          have read : readAnswer status [] = .ok (if status = 204 then Forward.unread else {}) := by
            simp [readAnswer, success]
          rw [status_of_ok read]
          by_cases empty : status = 204 <;> simp [empty, Forward.unread, Response.isRetriable]
      | cons b rest =>
          have read : readAnswer status (b :: rest) = .error (.unreadable e.message) := by
            simp [readAnswer, success, unread, mapError_error]
          simp [status_of_error read, ForwardError.isRetriable]
  | false =>
      have read : readAnswer status body = .error (.remote status (remoteText status body)) := by
        simp [readAnswer, success, unread]
      rw [status_of_error read]
      rfl

theorem status_cases (status : Nat) (body : Bytes) :
    ((outcomeOf status body).status = 200 ↔ isSuccess status = true ∧
      (body = [] ∧ status ≠ 204 ∨ Agreeing body)) ∧
    ((outcomeOf status body).status = 503 ↔ status = 204 ∧ body = [] ∨
      (Objecting body ∧ status ≠ 500) ∨
      (ForwardError.isPassing status = true ∧ ¬Objecting body)) ∧
    ((outcomeOf status body).status = 200 ∨ (outcomeOf status body).status = 503 ∨
      (outcomeOf status body).status = 500) := by
  have passing := @isPassing_of_isSuccess status
  cases parsed : Json.parse Response.decoder body with
  | ok r =>
      have full : body ≠ [] := by
        rintro rfl
        cases parsed
      by_cases silent : r.error = ""
      · have agreeing : Agreeing body := ⟨r, parsed, silent⟩
        have content : ¬Objecting body := by
          rintro ⟨_, again, loud⟩
          cases parsed.symm.trans again
          exact loud silent
        rw [status_of_agreeing agreeing]
        cases success : isSuccess status with
        | true => simp [agreeing, content, full, passing success]
        | false => by_cases busy : ForwardError.isPassing status = true <;> simp [content, full, busy]
      · have objecting : Objecting body := ⟨r, parsed, silent⟩
        have opposed : ¬Agreeing body := by
          rintro ⟨_, again, agreed⟩
          cases parsed.symm.trans again
          exact silent agreed
        rw [status_of_objecting objecting]
        by_cases failed : status = 500 <;> simp [objecting, opposed, full, failed]
  | error e =>
      have opposed : ¬Agreeing body := by
        rintro ⟨_, again, _⟩
        cases parsed.symm.trans again
      have content : ¬Objecting body := by
        rintro ⟨_, again, _⟩
        cases parsed.symm.trans again
      rw [status_of_unread parsed]
      cases success : isSuccess status with
      | true =>
          have steady := passing success
          simp only [opposed, content, steady]
          by_cases empty : body = [] <;> by_cases silent : status = 204 <;> simp [empty, silent]
      | false =>
          have loud : status ≠ 204 := by
            rintro rfl
            cases success
          by_cases busy : ForwardError.isPassing status = true <;> simp [content, busy, loud]

end Forward

namespace Multiplexer

open Site Directory

section
variable {σ : Type} {s : Surroundings σ} {x : Multiplexer} {schema : Schema}
  {f : Dispatcher Program} {call : Http.Call} {message sent : Message} {tenant : Tenant}
  {target : String} {site : Site σ} {entry : Entry} {status : Nat} {body : Bytes}

theorem run_forward (passing : s.PassesThrough)
    (registered : (run s (resolve tenant.id) site).1 = .ok entry) :
    (run s (x.forward tenant sent target) site).1 =
      (x.forwarder.read (s.post (.of entry.address entry.secret sent)
        (run s (resolve tenant.id) site).2.outside).1).mapError .forward := by
  unfold forward
  rw [run_bind, registered]
  generalize (run s (resolve tenant.id) site).2 = found
  show (run s (x.sendTo entry tenant sent target) found).1 = _
  unfold sendTo
  rw [run_bind, run_outbound passing]
  show (run s (x.forwarder.send entry.address entry.secret sent target >>= _) found).1 = _
  rw [run_bind]
  generalize read : x.forwarder.read _ = result
  have sending : (run s (x.forwarder.send entry.address entry.secret sent target) found).1 =
      result := read
  rw [sending]
  cases result with
  | error e => rfl
  | ok r => exact congrArg Prod.fst (passing.inbound tenant sent r _)

/-- The front's answer to a call that it passes on depends on the status and the body of the
instance's answer, and on nothing else. -/
theorem relayed_status (passing : s.PassesThrough) (fronts : x.Fronts schema f)
    (bears : f.message? call = some message)
    (passes : Passes schema message tenant sent target) (valid : tenant.validate = .ok ())
    (registered : (run s (resolve tenant.id) site).1 = .ok entry)
    (answered : (s.post (.of entry.address entry.secret sent)
      (run s (resolve tenant.id) site).2.outside).1 = .ok ⟨status, body⟩) :
    ((run s (f.handle call) site).1.answer.status = 200 ↔ isSuccess status = true ∧
      (body = [] ∧ status ≠ 204 ∨ Forward.Agreeing body)) ∧
    ((run s (f.handle call) site).1.answer.status = 503 ↔ status = 204 ∧ body = [] ∨
      (Forward.Objecting body ∧ status ≠ 500) ∨
      (ForwardError.isPassing status = true ∧ ¬Forward.Objecting body)) ∧
    ((run s (f.handle call) site).1.answer.status = 200 ∨
      (run s (f.handle call) site).1.answer.status = 503 ∨
      (run s (f.handle call) site).1.answer.status = 500) := by
  obtain ⟨kind, handling⟩ := handle_of_relays fronts valid bears (.passed passes)
  have told : (run s (f.handle call) site).1.answer.status =
      (Forward.outcomeOf status body).status := by
    rw [handling, run_bind, run_pure, Dispatcher.status_of_concluded, run_forward passing registered,
      answered]
    rfl
  rw [told]
  exact Forward.status_cases status body

end

def crowded : Surroundings FairWorld := FairWorld.surroundings .passThrough fun _ => .ok ⟨429, []⟩

def inquiryBody : Bytes :=
  (Message.carrying protocolVersion "once"
    (.configValidation { tenant := ⟨"acme", "token", none⟩ })).encode

def inquiry : Http.Call :=
  Dispatcher.signed (Text.Utf8.encode relay.secret) ⟨"POST", "/", [], inquiryBody, none⟩

def inquirer? (message : Message) : Option Tenant :=
  match message.payload with
  | .ok (.configValidation c) => some c.tenant
  | _ => none

theorem inquiry_bears :
    (relay.message? inquiry).bind inquirer? = some ⟨"acme", "token", none⟩ := by
  have short : inquiryBody.length ≤ relay.maxBody := by decide +kernel
  rw [inquiry, Dispatcher.message?_signed short]
  decide +kernel

/-- The instance says by its status alone that it is busy, and the front says so too. -/
theorem relayed_status_when_crowded :
    (run crowded (relay.handle inquiry) { outside := .hosting FairWorld.former }).1.answer.status =
      503 := by
  obtain ⟨message, bears, asked⟩ := Option.bind_eq_some_iff.mp inquiry_bears
  unfold inquirer? at asked
  split at asked
  case h_1 c payload =>
    have own : c.tenant = ⟨"acme", "token", none⟩ := Option.some.inj asked
    have valid : c.tenant.validate = .ok () := by
      rw [own]
      rfl
    have registered : (run crowded (resolve c.tenant.id)
        { outside := .hosting FairWorld.former }).1 = .ok FairWorld.former := by
      rw [own]
      rfl
    have passing : crowded.PassesThrough := FairWorld.passesThrough _
    have status := relayed_status passing relay_fronts bears (.validation payload) valid
      registered rfl
    exact status.2.1.mpr (Or.inr (Or.inr ⟨rfl, Forward.not_objecting_nil⟩))
  case h_2 => cases asked

end Multiplexer
end TenantRelay
