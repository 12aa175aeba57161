import TenantRelay.Proofs.Posting
import TenantRelay.Proofs.Retelling

/-!
What an instance is told by a front is what the front was told. Over all that a front serves
the cache stays what the store says, so every message that is relayed goes to the entry that
its tenant has just then, and with it goes all that the message bears.
-/

namespace TenantRelay

/-- Whom the instance of is to be told by a message, and what, in the front's own version. -/
def Message.onward? (message : Message) : Option (Tenant × Message) :=
  match message.payload with
  | .ok (.request r) =>
      some (r.tenant, .carrying protocolVersion message.idempotencyKey (.request r))
  | .ok (.event e) => some (e.tenant, .carrying protocolVersion message.idempotencyKey (.event e))
  | .ok (.configValidation c) => some (c.tenant, .carrying protocolVersion "" (.configValidation c))
  | _ => none

/-- A message that makes an instance or takes one down. -/
def Message.Lifecycle (message : Message) : Prop :=
  ∃ e, message.payload = .ok (.event e) ∧
    (e.name = subscribeEvent ∨ e.name = unsubscribeEvent)

open Site Directory Multiplexer

variable {σ : Type} {s : Surroundings σ} {view : σ → Estate} {x : Multiplexer} {schema : Schema}
  {f : Dispatcher Program} {message sent : Message} {tenant : Tenant} {work : Relayed}
  {call : Http.Call} {site : Site σ}

namespace Multiplexer.Relays

theorem onward?_eq_some (relays : x.Relays schema message tenant sent work) :
    message.onward? = some (tenant, sent) := by
  cases relays with
  | passed passes =>
      cases passes with
      | request bears _ => simp only [Message.onward?, bears]
      | event bears _ _ _ => simp only [Message.onward?, bears]
      | validation bears => simp only [Message.onward?, bears]
  | subscribe bears _ => simp only [Message.onward?, bears]
  | unsubscribe bears _ => simp only [Message.onward?, bears]

theorem transparent (d : Dependable s view (·.isOfStore))
    (relays : x.Relays schema message tenant sent work)
    (transparent : (site.scene view).Transparent) :
    ((run s work site).2.scene view).Transparent := by
  cases relays with
  | @passed _ _ target _ =>
      have forwarding := x.forward_forwards d tenant sent target site
      exact Forwarding.transparent forwarding transparent
  | @subscribe e _ _ =>
      generalize Message.carrying _ _ _ = sent
      have subscribing := x.subscribe_subscribes d e.tenant sent site
      exact Subscribing.transparent subscribing transparent
  | @unsubscribe e _ _ =>
      generalize Message.carrying _ _ _ = sent
      have forwarding := x.forward_forwards d e.tenant sent unsubscribeEvent site
      have told := Forwarding.transparent forwarding transparent
      rw [unsubscribe_run]
      obtain ⟨hs, _, unregistration⟩ := deprovision_unregisters d e.tenant.id
        (run s (x.forward e.tenant sent unsubscribeEvent) site).2
      exact told.of_unregistration unregistration

theorem delivers (d : Dependable s view (·.isOfStore)) (passing : s.PassesThrough)
    (relays : x.Relays schema message tenant sent work)
    (transparent : (site.scene view).Transparent) :
    Delivers s view tenant.id sent work site := by
  cases relays with
  | passed _ => exact forward_delivers d passing x tenant sent _ site transparent
  | @subscribe e _ _ => exact subscribe_delivers d passing x e.tenant _ site transparent
  | @unsubscribe e _ _ => exact unsubscribe_delivers d passing x e.tenant _ site transparent

theorem alters_nothing (d : Dependable s view (·.isOfStore))
    (relays : x.Relays schema message tenant sent work) (other : ¬message.Lifecycle) :
    ∀ h ∈ calls s work site, h.access.alters = false := by
  cases relays with
  | @passed _ _ target _ =>
      have forwarding := x.forward_forwards d tenant sent target site
      exact Forwarding.alters_nothing forwarding
  | @subscribe e bears joins => exact absurd ⟨e, bears, Or.inl joins⟩ other
  | @unsubscribe e bears leaves => exact absurd ⟨e, bears, Or.inr leaves⟩ other

end Multiplexer.Relays

namespace Dispatcher

/-- Serving one call after another. In between time goes by, the cache may be cleared, and
anything may happen that leaves the estate alone. -/
inductive Served (f : Dispatcher Program) (s : Surroundings σ) (view : σ → Estate)
    (start : Site σ) : Site σ → Prop where
  | start : Served f s view start start
  | handled {site : Site σ} (call : Http.Call) : Served f s view start site →
      Served f s view start (run s (f.handle call) site).2
  | waited {site : Site σ} {w : σ} : view w = view site.outside → Served f s view start site →
      Served f s view start { site with outside := w }
  | cleared {site : Site σ} : Served f s view start site →
      Served f s view start { site with cache := site.cache.clear }

theorem transparent_of_handled (d : Dependable s view (·.isOfStore)) (fronts : x.Fronts schema f)
    (transparent : (site.scene view).Transparent) :
    ((run s (f.handle call) site).2.scene view).Transparent := by
  rcases handle_cases fronts call with
    ⟨h, alone⟩ | ⟨message, tenant, sent, work, kind, _, relays, same⟩
  · rw [alone]
    exact transparent
  · rw [same, run_bind]
    exact relays.transparent d transparent

theorem Served.transparent (d : Dependable s view (·.isOfStore)) (fronts : x.Fronts schema f)
    {start : Site σ} (initial : (start.scene view).Transparent)
    (served : f.Served s view start site) : (site.scene view).Transparent := by
  induction served with
  | start => exact initial
  | handled call _ ih => exact transparent_of_handled d fronts ih
  | @waited site w same _ ih =>
      have unchanged : Site.scene view { site with outside := w } = site.scene view :=
        congrArg (Scene.mk site.cache) same
      rw [unchanged]
      exact ih
  | cleared _ ih => exact ih.of_cleared

theorem parsed_of_message? (bears : f.message? call = some message) :
    ∃ plain, Json.parse Message.decoder plain = .ok message := by
  obtain ⟨signature, _, admitted⟩ := message?_eq_some bears
  obtain ⟨raw, _, admitted⟩ := Document.ok_of_bind admitted
  split at admitted
  case isFalse => cases admitted
  case isTrue =>
    obtain ⟨plain, _, admitted⟩ := Document.ok_of_bind admitted
    refine ⟨plain, ?_⟩
    cases parsed : Json.parse Message.decoder plain with
    | error e =>
        rw [parsed] at admitted
        cases admitted
    | ok received =>
        rw [parsed] at admitted
        cases admitted
        rfl

end Dispatcher

theorem Message.parse_onward {body : Bytes} (read : Json.parse decoder body = .ok message)
    (onward : message.onward? = some (tenant, sent))
    (reals : ∀ r, .real r ∈ sent.toJson.numbers → (Json.Number.real r).ReadsBack) :
    Json.parse decoder sent.encode = .ok sent := by
  unfold onward? at onward
  split at onward
  case h_1 r bears =>
    cases onward
    exact parse_carrying protocolVersion message.idempotencyKey (told_of_parse read bears) reals
  case h_2 e bears =>
    cases onward
    exact parse_carrying protocolVersion message.idempotencyKey (told_of_parse read bears) reals
  case h_3 c bears =>
    cases onward
    exact parse_carrying protocolVersion "" (told_of_parse read bears) reals
  case h_4 => cases onward

namespace Multiplexer

/-- Whatever a front has served since it started with nothing, a call makes it post one parcel
at most. That goes, signed with the secret, to the entry which is stored just then for the
tenant whom the call bears a message about, and is read there as that message in the front's
own version, if the fractions in it are read back as they are written. Only the messages of a
subscription make or take down anything. -/
theorem relayed_faithfully (d : Dependable s view (·.isOfStore)) (passing : s.PassesThrough)
    (fronts : x.Fronts schema f) {start : Site σ} (cold : start.cache.entries = ∅)
    (empty : view start.outside = .empty) (served : f.Served s view start site) (call : Http.Call) :
    (posted (calls s (f.handle call) site)).length ≤ 1 ∧
    (∀ m ∈ trace s (f.handle call) site, ∀ parcel, m.happening.access = .post parcel →
      ∃ message tenant sent entry, f.message? call = some message ∧
        message.onward? = some (tenant, sent) ∧
        (view m.after.outside).stored tenant.id = some entry ∧
        parcel.address = entry.address ∧
        Signature.verify parcel.body parcel.signature (Text.Utf8.encode entry.secret) = true ∧
        parcel.body = sent.encode ∧
        ((∀ r, .real r ∈ sent.toJson.numbers → (Json.Number.real r).ReadsBack) →
          Json.parse Message.decoder parcel.body = .ok sent)) ∧
    ((∀ message, f.message? call = some message → ¬message.Lifecycle) →
      ∀ h ∈ calls s (f.handle call) site, h.access.alters = false) := by
  have initial : (start.scene view).Transparent := by
    constructor
    · intro tenant entry held
      rw [show (start.scene view).estate = .empty from empty] at held
      cases held
    · intro tenant entry cached
      rw [show (start.scene view).cache.entries = ∅ from cold] at cached
      cases cached
  have transparent := served.transparent d fronts initial
  -- A call that is answered by the front itself makes no access at all.
  rcases handle_cases fronts call with
    ⟨h, alone⟩ | ⟨message, tenant, sent, work, kind, bears, relays, same⟩
  · rw [alone]
    refine ⟨Nat.zero_le 1, ?_, ?_⟩
    · intro m member
      cases member
    · intro _ h member
      cases member
  · have delivered := relays.delivers d passing transparent
    have delivered : Delivers s view tenant.id sent (f.handle call) site := by
      rw [same]
      exact delivered.after rfl
    refine ⟨delivered.once, ?_, ?_⟩
    · intro m member parcel posted
      obtain ⟨entry, stored, rfl⟩ := delivered.each m member parcel posted
      have onward := relays.onward?_eq_some
      -- What was read once is read again: this is where the fractions matter.
      obtain ⟨plain, parsed⟩ := Dispatcher.parsed_of_message? bears
      obtain ⟨address, verified, body⟩ := Parcel.of_spec entry.address entry.secret sent
      rw [body] at verified ⊢
      have read := Message.parse_onward parsed onward
      exact ⟨message, tenant, sent, entry, bears, onward, stored, address, verified, rfl, read⟩
    · intro other h member
      rw [same, calls_bind] at member
      rcases List.mem_append.mp member with own | after
      · exact relays.alters_nothing d (other message bears) h own
      · cases after

/-! A front that one tenant has joined. -/

def sealed (body : Bytes) : Http.Call :=
  Dispatcher.signed (Text.Utf8.encode relay.secret) ⟨"POST", "/", [], body, none⟩

theorem sealed_bears {body : Bytes} (short : body.length ≤ relay.maxBody)
    (read : Json.parse Message.decoder body = .ok message) :
    relay.message? (sealed body) = some message := by
  unfold sealed
  rw [Dispatcher.message?_signed short, read]
  rfl

def acme : Tenant := ⟨"acme", "token", none⟩

def greeting : Message :=
  .carrying protocolVersion "once" (.event { tenant := acme, name := subscribeEvent })

def checking (limit : Json.Number) : Message :=
  .carrying protocolVersion ""
    (.configValidation { tenant := acme, config := .ofList [("limit", .num limit)] })

theorem greeting_read : Json.parse Message.decoder greeting.encode = .ok greeting := by
  have told : Event.Told { tenant := acme, name := subscribeEvent } := ⟨⟨rfl, nofun⟩, ⟨rfl, nofun⟩⟩
  have numbers : greeting.toJson.numbers = [.nat protocolVersion] := rfl
  apply Message.parse_carrying protocolVersion "once" (show Payload.Told (.event _) from told)
  intro r member
  have member : .real r ∈ greeting.toJson.numbers := member
  rw [numbers] at member
  cases List.mem_singleton.mp member

theorem fair_without_faults :
    World.Fair { address := fun tenant => "http://" ++ tenant, faults := {} } where
  get := by simp [Script.Holds]
  put := by simp [Script.Holds]
  delete := by simp [Script.Holds]
  destroy := by simp [Script.Holds]

def vacant : FairWorld := .facing {} fair_without_faults

theorem exists_joined : ∃ site : Site FairWorld,
    relay.Served FairWorld.accepting FairWorld.estate { outside := vacant } site ∧
      (run FairWorld.accepting (resolve acme.id) site).1 = .ok FairWorld.latter := by
  have short : greeting.encode.length ≤ relay.maxBody := by decide +kernel
  have bears := sealed_bears short greeting_read
  have valid : acme.validate = .ok () := rfl
  have relays : Relays {} {} greeting acme greeting (subscribe {} acme greeting) := by
    apply Relays.subscribe (e := { tenant := acme, name := subscribeEvent }) <;> rfl
  obtain ⟨kind, handling⟩ := handle_of_relays relay_fronts valid bears relays
  have found : (run FairWorld.accepting (resolve acme.id)
      (run FairWorld.accepting (subscribe {} acme greeting)
        { outside := vacant }).2).1.toOption = some FairWorld.latter := by
    decide +kernel
  refine ⟨_, .handled (sealed greeting.encode) .start, ?_⟩
  rw [handling, run_bind, run_pure]
  exact Document.ok_of_toOption found

def half : Json.Number := .real 0.5

theorem half_readsBack : half.ReadsBack := by
  have text : Text.Utf8.encode half.text = [0x30, 0x2e, 0x35] := by decide +kernel
  unfold Json.Number.ReadsBack
  rw [text]
  rfl

theorem checking_numbers (limit : Json.Number) :
    (checking limit).toJson.numbers = [.nat protocolVersion, limit] := rfl

theorem checking_told (limit : Json.Number) (sound : limit.Sound) :
    Payload.Told (.configValidation
      { tenant := acme, config := .ofList [("limit", .num limit)] }) := by
  have numbers : Json.Sound (.ofDict (.ofList [("limit", .num limit)])) := by
    apply Json.Sound.obj
    intro e member
    cases List.mem_singleton.mp member
    intro n own
    exact List.mem_singleton.mp own ▸ sound
  exact ⟨rfl, numbers⟩

/-- A tenant joins, and what it then has looked at is posted to its new instance. -/
theorem relayed_faithfully_once_joined : ∃ site,
    relay.Served FairWorld.accepting FairWorld.estate { outside := vacant } site ∧
    ∃ m ∈ trace FairWorld.accepting (relay.handle (sealed (checking half).encode)) site,
      ∃ parcel entry, m.happening.access = .post parcel ∧
        (FairWorld.estate m.after.outside).stored acme.id = some entry ∧
        parcel.address = entry.address ∧
        Signature.verify parcel.body parcel.signature (Text.Utf8.encode entry.secret) = true ∧
        Json.parse Message.decoder parcel.body = .ok (checking half) := by
  obtain ⟨site, served, found⟩ := exists_joined
  have reals : ∀ r, .real r ∈ (checking half).toJson.numbers → (Json.Number.real r).ReadsBack := by
    intro r member
    rw [checking_numbers, List.mem_cons, List.mem_singleton] at member
    rcases member with whole | own
    · cases whole
    · exact own ▸ half_readsBack
  have read : Json.parse Message.decoder (checking half).encode = .ok (checking half) :=
    Message.parse_carrying protocolVersion "" (checking_told half trivial) reals
  have short : (checking half).encode.length ≤ relay.maxBody := by decide +kernel
  have bears := sealed_bears short read
  have passing : FairWorld.accepting.PassesThrough := FairWorld.passesThrough _
  have passes : Passes {} (checking half) acme (checking half) "config_validation" :=
    Passes.validation (c := { tenant := acme, config := .ofList [("limit", .num half)] }) rfl
  have posted := posted_of_passes passing relay_fronts bears passes rfl found
  obtain ⟨m, member, post⟩ := exists_moment posted
  have faithful := relayed_faithfully FairWorld.accepting_dependable passing relay_fronts rfl rfl
    served (sealed (checking half).encode)
  obtain ⟨message, tenant, sent, entry, own, onward, stored, address, verified, _, told⟩ :=
    faithful.2.1 m member _ post
  cases bears.symm.trans own
  cases onward
  exact ⟨site, served, m, member, _, entry, post, stored, address, verified, told reals⟩

def limit? (message : Message) : Option UInt64 := do
  let c ← message.configValidation
  match c.config.find? "limit" with
  | some (.num (.real limit)) => some limit.toBits
  | _ => none

def retold? (message : Message) : Option (Tenant × Option UInt64 × Option UInt64) :=
  match message.payload with
  | .ok (.configValidation c) =>
      let sent := Message.carrying protocolVersion "" (.configValidation c)
      some (c.tenant, limit? sent, (Json.parse Message.decoder sent.encode).toOption.bind limit?)
  | _ => none

/-- A fraction that is read inexactly, and written exactly, is not what the front was told any
more when it is read once again. -/
theorem fraction_altered : ∃ site,
    relay.Served FairWorld.accepting FairWorld.estate { outside := vacant } site ∧
    ∃ m ∈ trace FairWorld.accepting (relay.handle (sealed (checking (.real 3e-36)).encode)) site,
      ∃ parcel message tenant sent, m.happening.access = .post parcel ∧
        relay.message? (sealed (checking (.real 3e-36)).encode) = some message ∧
        message.onward? = some (tenant, sent) ∧
        Json.parse Message.decoder parcel.body ≠ .ok sent := by
  obtain ⟨site, served, found⟩ := exists_joined
  have altered : (Json.parse Message.decoder
      (checking (.real 3e-36)).encode).toOption.bind retold? =
      some (acme, some 4075729929575318955, some 4075729929575318956) := by
    decide +kernel
  have short : (checking (.real 3e-36)).encode.length ≤ relay.maxBody := by decide +kernel
  obtain ⟨message, read, retold⟩ := Option.bind_eq_some_iff.mp altered
  have bears := sealed_bears short (Document.ok_of_toOption read)
  have passing : FairWorld.accepting.PassesThrough := FairWorld.passesThrough _
  unfold retold? at retold
  split at retold
  case h_1 c payload =>
    simp only [Option.some.injEq, Prod.mk.injEq] at retold
    obtain ⟨own, before, after⟩ := retold
    have valid : c.tenant.validate = .ok () := by
      rw [own]
      rfl
    have posted := posted_of_passes passing relay_fronts bears (.validation payload) valid
      (own ▸ found)
    obtain ⟨m, member, post⟩ := exists_moment posted
    have onward : message.onward? =
        some (c.tenant, .carrying protocolVersion "" (.configValidation c)) := by
      simp only [Message.onward?, payload]
    refine ⟨site, served, m, member, _, message, c.tenant, _, post, bears, onward, ?_⟩
    intro same
    rw [(Parcel.of_spec _ _ _).2.2] at same
    rw [same] at after
    cases before.symm.trans after
  case h_2 => cases retold

end Multiplexer
end TenantRelay
