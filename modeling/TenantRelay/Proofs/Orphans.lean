import TenantRelay.Proofs.ProvisionOutcomes
import TenantRelay.Proofs.ServicePaths

/-!
Services that nobody knows of. A control plane runs a service from its reply to the posting on, but
the relay needs an address as well. If the reply tells none, making the instance fails, and nothing
is sent after it: the service goes on running, and no entry and no error leads to it. This is the
only way to leave one. Whatever goes wrong after the address was told is undone, or the error says
that it was not.
-/

namespace TenantRelay

open Site

def Arrival.Tells (arrival : Arrival) (address : String) : Prop :=
  address ≠ "" ∧ ∃ body, arrival.body = .ok body ∧
    Json.parse ControlPlane.addressDecoder body = .ok address

/-- A reply says that the instance was made, and not where it is. -/
def Arrival.Untold (arrival : Arrival) : Prop :=
  isSuccess arrival.status = true ∧ ∀ address, ¬ arrival.Tells address

namespace ControlPlane

variable {π : Type}

/-- A control plane at the other end of a network, and the services that it runs. It answers as its
interface says: a posted service runs if the reply is a success, and none was changed if it is not;
a service does not run any more once it was deleted or not found. -/
structure Governs (base : Url) (above : List (List Char)) (network : Network (StateM π))
    (running : π → String → Prop) : Prop where
  posted : ∀ request spec p arrival p', request.method = "POST" →
    request.target = .ok { base with path := .segments (above ++ ["services".toList]) } →
    Json.parse InstanceSpec.decoder request.body = .ok spec →
    (network request).run p = (.ok arrival, p') →
    if isSuccess arrival.status then running p' spec.name else running p' = running p
  deleted : ∀ request name p arrival p', request.method = "DELETE" →
    Addresses base above name [] request → (network request).run p = (.ok arrival, p') →
    isSuccess arrival.status = true ∨ arrival.status = 404 → ¬ running p' name

def posting (c : ControlPlane) (tenant : String) (definition : Definition) (secret : String) :
    Outgoing :=
  c.createRequest (InstanceSpec.build c.extension tenant definition secret)

variable {c : ControlPlane} {base : Url} {above : List (List Char)}
  {network : Network (StateM π)} {running : π → String → Prop} {request : Outgoing}
  {arrival : Arrival} {reply : Except TransportFailure Arrival} {p p' : π}
  {tenant secret name url address : String} {definition : Definition}

theorem network_of_send (sent : (c.send network request).run p = (.ok arrival, p')) :
    (network request).run p = (.ok arrival, p') := by
  unfold send at sent
  split at sent
  case h_1 => cases sent
  case h_2 =>
    split at sent
    case isTrue => exact sent
    case isFalse => cases sent

theorem readAddress_eq_ok_iff : readAddress url name arrival = .ok address ↔
    arrival.Tells address := by
  unfold readAddress Arrival.Tells
  cases arrival.body with
  | error failure =>
      constructor
      · intro read
        cases read
      · rintro ⟨_, _, none, _⟩
        cases none
  | ok body =>
      simp only [mapError_ok, Document.ok_bind, Except.ok.injEq, exists_eq_left']
      cases Json.parse addressDecoder body with
      | error fault =>
          constructor
          · intro read
            cases read
          · rintro ⟨_, none⟩
            cases none
      | ok told =>
          split
          case h_1 same => cases same
          case h_2 same =>
            cases same
            constructor
            · intro read
              cases read
            · rintro ⟨full, ⟨⟩⟩
              exact absurd rfl full
          case h_3 other full same =>
            cases same
            constructor
            · rintro ⟨⟩
              exact ⟨full, rfl⟩
            · rintro ⟨_, ⟨⟩⟩
              rfl

/-- What comes of a reply to the posting. -/
def told (c : ControlPlane) (tenant : String) (definition : Definition) (secret : String)
    (reply : Except TransportFailure Arrival) : Except ProvisionError String :=
  let name := InstanceSpec.instanceName c.extension tenant
  (checked name reply).bind (readAddress (targetText (c.posting tenant definition secret)) name)

theorem told_eq_ok_iff : c.told tenant definition secret (.ok arrival) = .ok address ↔
    isSuccess arrival.status = true ∧ arrival.Tells address := by
  unfold told checked
  dsimp only
  split
  case isTrue good =>
    constructor
    · intro read
      exact ⟨good, readAddress_eq_ok_iff.mp read⟩
    · rintro ⟨_, tells⟩
      exact readAddress_eq_ok_iff.mpr tells
  case isFalse bad =>
    have refused : ∀ address, ¬ (isSuccess arrival.status = true ∧ arrival.Tells address) :=
      fun _ good => bad good.1
    split <;> exact ⟨nofun, fun good => absurd good (refused _)⟩

theorem untold_iff : arrival.Untold ↔
    isSuccess arrival.status = true ∧
      ∃ e, c.told tenant definition secret (.ok arrival) = .error e := by
  refine and_congr_right fun good => ?_
  cases made : c.told tenant definition secret (.ok arrival) with
  | error e =>
      refine ⟨fun _ => ⟨e, rfl⟩, fun _ address tells => ?_⟩
      have read : c.told tenant definition secret (.ok arrival) = .ok address :=
        told_eq_ok_iff.mpr ⟨good, tells⟩
      rw [made] at read
      cases read
  | ok address =>
      refine ⟨fun none => absurd (told_eq_ok_iff.mp made).2 (none address), ?_⟩
      rintro ⟨e, ⟨⟩⟩

theorem run_create
    (sent : (c.send network (c.posting tenant definition secret)).run p = (reply, p')) :
    (c.create network tenant definition secret).run p =
      (c.told tenant definition secret reply, p') := by
  have first : (c.send network (c.createRequest
      (InstanceSpec.build c.extension tenant definition secret))).run p = (reply, p') := sent
  unfold create
  simp only [StateT.run_bind, first]
  rfl

theorem run_destroy (sent : (c.send network (c.destroyRequest tenant)).run p = (reply, p')) :
    (c.destroy network tenant).run p =
      ((checked (InstanceSpec.instanceName c.extension tenant) reply).map fun _ => (), p') := by
  unfold destroy
  simp only [StateT.run_bind, sent]
  rfl

theorem Governs.destroyed (governs : Governs base above network running)
    (addressed : Addresses base above (InstanceSpec.instanceName c.extension tenant) []
      (c.destroyRequest tenant)) {result : Except ProvisionError Unit}
    (destroyed : (c.destroy network tenant).run p = (result, p'))
    (gone : ∀ e, result = .error e → e.isNotFound = true) :
    ¬ running p' (InstanceSpec.instanceName c.extension tenant) := by
  cases sent : (c.send network (c.destroyRequest tenant)).run p with
  | mk reply after =>
      rw [run_destroy sent] at destroyed
      cases destroyed
      cases reply with
      | error failure => cases gone _ rfl
      | ok arrival =>
          apply governs.deleted _ _ _ _ _ rfl addressed (network_of_send sent)
          by_cases good : isSuccess arrival.status = true
          · exact .inl good
          · refine .inr ?_
            by_cases missing : arrival.status = 404
            · exact missing
            · simp only [checked, good, missing] at gone
              cases gone _ rfl

theorem Governs.created (governs : Governs base above network running)
    (leads : c.Leads base above) (asked : base.query = none) (marked : base.fragment = none)
    (counted : definition.Counted)
    (sent : (c.send network (c.posting tenant definition secret)).run p = (.ok arrival, p')) :
    if isSuccess arrival.status then running p' (InstanceSpec.instanceName c.extension tenant)
    else running p' = running p := by
  have spec : (InstanceSpec.build c.extension tenant definition secret).Counted :=
    ⟨counted.minInstances, counted.maxInstances, counted.timeout⟩
  exact governs.posted _ _ _ _ _ rfl (leads.create asked marked _) (createRequest_read spec)
    (network_of_send sent)

end ControlPlane

def Surroundings.governed {τ π : Type} (s : Surroundings τ) (c : ControlPlane)
    (definition : Definition) (network : Network (StateM π)) : Surroundings (τ × π) :=
  let beside {α : Type} (w : τ × π) (result : α × τ) : α × τ × π := (result.1, result.2, w.2)
  let within {α : Type} (w : τ × π) (result : α × π) : α × τ × π := (result.1, w.1, result.2)
  { clock := fun w => s.clock w.1
    today := fun w => s.today w.1
    secret := fun w => beside w (s.secret w.1)
    find := fun tenant w => beside w (s.find tenant w.1)
    put := fun entry w => beside w (s.put entry w.1)
    delete := fun tenant w => beside w (s.delete tenant w.1)
    create := fun tenant secret w =>
      within w ((c.create network tenant definition secret).run w.2)
    reach := fun tenant _ w => within w ((c.reach network tenant).run w.2)
    destroy := fun tenant w => within w ((c.destroy network tenant).run w.2)
    post := fun parcel w => beside w (s.post parcel w.1)
    outbound := fun tenant message w => beside w (s.outbound tenant message w.1)
    inbound := fun tenant message response w => beside w (s.inbound tenant message response w.1) }

namespace Directory

open ControlPlane

variable {τ π : Type} {s : Surroundings τ} {c : ControlPlane} {definition : Definition}
  {network : Network (StateM π)} {base : Url} {above : List (List Char)}
  {running : π → String → Prop} {tenant : String}

section
variable (governs : Governs base above network running)
  (addressed : Addresses base above (InstanceSpec.instanceName c.extension tenant) []
    (c.destroyRequest tenant)) (site : Site (τ × π))
include governs addressed

theorem undoCreate_stops (failure : DirectoryError) :
    Ensures (s.governed c definition network) (undoCreate tenant failure) site
      fun result _ after => ∀ e, result = .error e → e.isCompensation = false →
        ¬ running after.outside.2 (InstanceSpec.instanceName c.extension tenant) := by
  unfold undoCreate
  apply ensures_call
  cases destroyed : (c.destroy network tenant).run site.outside.2 with
  | mk result p' =>
      have answered : site.answer (s.governed c definition network) (.destroy tenant) =
          (result, { site with outside := (site.outside.1, p') }) := by
        simp only [Site.answer, Surroundings.governed, destroyed, withOutside]
      rw [answered]
      cases result with
      | ok _ =>
          apply ensures_pure
          intro _ _ _
          apply governs.destroyed addressed destroyed
          rintro _ ⟨⟩
      | error e =>
          dsimp only
          split
          case isTrue missing =>
            apply ensures_pure
            intro _ _ _
            apply governs.destroyed addressed destroyed
            rintro _ ⟨⟩
            exact missing
          case isFalse =>
            apply ensures_pure
            rintro _ ⟨⟩ plain
            cases plain

variable {reply : Except TransportFailure Arrival} {p' : π}
  (sent : (c.send network (c.posting tenant definition (s.secret site.outside.1).1)).run
    site.outside.2 = (reply, p'))
include sent

/-- A reply of which no address comes ends it all. After any other one the instance does not run if
registering it fails, or the error says that it may. -/
theorem register_stops :
    Ensures (s.governed c definition network) (register tenant) site fun result _ after =>
      match c.told tenant definition (s.secret site.outside.1).1 reply with
      | .error e => result = .error (.provision e) ∧
          after.outside = ((s.secret site.outside.1).2, p')
      | .ok _ => ∀ e, result = .error e → e.isCompensation = false →
          ¬ running after.outside.2 (InstanceSpec.instanceName c.extension tenant) := by
  unfold register
  apply ensures_call
  apply ensures_call
  have answered : ({ site with outside := ((s.secret site.outside.1).2, site.outside.2) } :
      Site (τ × π)).answer (s.governed c definition network)
        (.create tenant (s.secret site.outside.1).1) =
      (c.told tenant definition (s.secret site.outside.1).1 reply,
        { site with outside := ((s.secret site.outside.1).2, p') }) := by
    simp only [Site.answer, Surroundings.governed, run_create sent, withOutside]
  rw [show site.answer (s.governed c definition network) .secret = ((s.secret site.outside.1).1,
    { site with outside := ((s.secret site.outside.1).2, site.outside.2) }) from rfl, answered]
  cases c.told tenant definition (s.secret site.outside.1).1 reply with
  | error e =>
      apply ensures_pure
      exact ⟨rfl, rfl⟩
  | ok address =>
      apply ensures_call
      apply ensures_call
      generalize Site.answer (s.governed c definition network) (.put _) _ = put
      obtain ⟨stored, after⟩ := put
      cases stored with
      | error e => exact undoCreate_stops governs addressed after e
      | ok _ =>
          apply ensures_call
          generalize Site.answer (s.governed c definition network) (.reach tenant address) _ = reach
          obtain ⟨opened, after⟩ := reach
          cases opened with
          | error e =>
              apply ensures_call
              generalize Site.answer (s.governed c definition network) (.delete tenant) _ = delete
              obtain ⟨deleted, after⟩ := delete
              cases deleted with
              | error cleanup =>
                  apply ensures_pure
                  rintro _ ⟨⟩ plain
                  cases plain
              | ok _ => exact undoCreate_stops governs addressed after _
          | ok _ =>
              apply ensures_call
              apply ensures_call
              apply ensures_call
              apply ensures_pure
              rintro _ ⟨⟩

end

theorem run_provision {σ : Type} (s : Surroundings σ) (tenant : String) (site : Site σ) :
    (run s (provision tenant) site).1 = (run s (register tenant) site).1 ∧
      (run s (provision tenant) site).2.outside = (run s (register tenant) site).2.outside := by
  unfold provision counted
  rw [run_bind]
  exact ⟨rfl, rfl⟩

end Directory

namespace ControlPlane

variable {c : ControlPlane} {base : Url}

/-- An instance is left behind if and only if the reply to its posting is a success that tells no
address. Making it then fails, nothing is sent after the posting, and whoever makes an instance for
a tenant neither stores anything nor says that something may be left. -/
theorem orphaned_iff_untold (based : c.Based base) :
    ∃ above j, base.path = .segments (above ++ List.replicate j []) ∧
      ∀ (π : Type) (network : Network (StateM π)) (running : π → String → Prop),
      Governs base above network running → ∀ tenant definition, definition.Counted →
      let name := InstanceSpec.instanceName c.extension tenant
      (∀ secret answer, sentBy (c.create (noting answer) tenant definition secret) =
        c.allowed (c.posting tenant definition secret)) ∧
      (∀ secret p arrival p',
        (c.send network (c.posting tenant definition secret)).run p = (.ok arrival, p') →
        let made := (c.create network tenant definition secret).run p
        made.2 = p' ∧
        (if isSuccess arrival.status then running p' name else running p' = running p) ∧
        ((∃ e, made.1 = .error e) ∧ isSuccess arrival.status = true ↔ arrival.Untold)) ∧
      (Literal name.toList → ∀ (τ : Type) (s : Surroundings τ) (site : Site (τ × π)) arrival p',
        (c.send network (c.posting tenant definition (s.secret site.outside.1).1)).run
          site.outside.2 = (.ok arrival, p') →
        let ended := run (s.governed c definition network) (Directory.provision tenant) site
        ((∃ e, ended.1 = .error e ∧ e.isCompensation = false) ∧
          isSuccess arrival.status = true ∧ running ended.2.outside.2 name ↔ arrival.Untold) ∧
        (arrival.Untold → ended.2.outside = ((s.secret site.outside.1).2, p'))) := by
  obtain ⟨above, j, path, leads⟩ := based.leads
  have asked := based.asked
  have marked := based.marked
  refine ⟨above, j, path, fun π network running governs tenant definition counted => ?_⟩
  dsimp only
  refine ⟨fun secret answer => sentBy_send (leads.create asked marked _) _, ?_, ?_⟩
  · intro secret p arrival p' sent
    rw [run_create sent]
    refine ⟨rfl, governs.created leads asked marked counted sent, ?_⟩
    rw [and_comm]
    exact untold_iff.symm
  · intro literal τ s site arrival p' sent
    have addressed := (leads.destroy asked marked tenant).mpr literal
    have started := governs.created leads asked marked counted sent
    have stops := Directory.register_stops governs addressed site sent
    obtain ⟨result, outside⟩ :=
      Directory.run_provision (s.governed c definition network) tenant site
    unfold Ensures at stops
    rw [← result, ← outside] at stops
    generalize run (s.governed c definition network) (Directory.provision tenant) site = ended
      at stops ⊢
    cases made : c.told tenant definition (s.secret site.outside.1).1 (.ok arrival) with
    | error e =>
        rw [made] at stops
        obtain ⟨failed, left⟩ := stops
        refine ⟨⟨?_, ?_⟩, fun _ => left⟩
        · rintro ⟨_, good, _⟩
          exact untold_iff.mpr ⟨good, e, made⟩
        · intro untold
          rw [if_pos untold.1] at started
          rw [left]
          exact ⟨⟨_, failed, rfl⟩, untold.1, started⟩
    | ok address =>
        rw [made] at stops
        have tells := (told_eq_ok_iff.mp made).2
        refine ⟨⟨?_, fun untold => absurd tells (untold.2 address)⟩,
          fun untold => absurd tells (untold.2 address)⟩
        rintro ⟨⟨e, failed, plain⟩, _, runs⟩
        exact absurd runs (stops e failed plain)

/-! A control plane that keeps a list of its services, and answers every posting alike. -/

def target? (request : Outgoing) : Option Bytes :=
  match request.target with
  | .ok { path := .segments parts, .. } => parts.getLast?.map Url.unescape
  | _ => none

def listing (reply : Arrival) : Network (StateM (List String)) := fun request names =>
  if request.method = "DELETE" then
    (.ok ⟨200, .ok []⟩, names.filter fun name => target? request ≠ some (Text.Utf8.encode name))
  else
    match Json.parse InstanceSpec.decoder request.body with
    | .ok spec => (.ok reply, if isSuccess reply.status then spec.name :: names else names)
    | .error _ => (.ok ⟨400, .ok []⟩, names)

theorem listing_posted {request : Outgoing} {spec : InstanceSpec} (reply : Arrival)
    (names : List String) (post : request.method = "POST")
    (parsed : Json.parse InstanceSpec.decoder request.body = .ok spec) :
    (listing reply request).run names =
      (.ok reply, if isSuccess reply.status then spec.name :: names else names) := by
  have other : request.method ≠ "DELETE" := by
    rw [post]
    decide
  simp only [listing, StateT.run, if_neg other, parsed]

theorem listing_governs (base : Url) (above : List (List Char)) (reply : Arrival) :
    Governs base above (listing reply) fun names name => name ∈ names where
  posted request spec names arrival after post _ parsed answered := by
    rw [listing_posted reply names post parsed] at answered
    cases answered
    split
    case isTrue => exact List.mem_cons_self
    case isFalse => rfl
  deleted request name names arrival after delete addressed answered _ := by
    obtain ⟨segment, target, stands⟩ := addressed
    simp only [listing, StateT.run, if_pos delete] at answered
    cases answered
    have own : target? request = some (Text.Utf8.encode name) := by
      unfold target?
      rw [target]
      simp [stands]
    simp [own]

def bare : Arrival := ⟨200, .ok [0x7b, 0x7d]⟩

theorem bare_parsed : Json.parse addressDecoder [0x7b, 0x7d] = .ok "" := by
  have parsed : (Json.parse addressDecoder [0x7b, 0x7d]).toOption = some "" := by decide +kernel
  cases read : Json.parse addressDecoder [0x7b, 0x7d] with
  | error fault =>
      rw [read] at parsed
      cases parsed
  | ok address =>
      rw [read] at parsed
      cases parsed
      rfl

theorem bare_untold : bare.Untold := by
  refine ⟨rfl, ?_⟩
  rintro address ⟨full, body, ⟨⟩, parsed⟩
  rw [bare_parsed] at parsed
  cases parsed
  exact full rfl

theorem plain_counted : ({} : Definition).Counted := ⟨by decide, by decide, by decide⟩

theorem reference_sent (secret : String) :
    (reference.send (listing bare) (reference.posting "abc" {} secret)).run [] =
      (.ok bare, ["ext-abc"]) := by
  obtain ⟨above, _, _, leads⟩ := reference_based.leads
  have counted : (InstanceSpec.build reference.extension "abc" {} secret).Counted :=
    ⟨plain_counted.minInstances, plain_counted.maxInstances, plain_counted.timeout⟩
  have usable : reference.hasUsableToken = true := rfl
  unfold send
  rw [posting, leads.create rfl rfl _]
  dsimp only
  rw [if_pos usable, listing_posted bare [] rfl (createRequest_read counted)]
  rfl

theorem bare_told (c : ControlPlane) (tenant secret : String) (definition : Definition) :
    c.told tenant definition secret (.ok bare) = .error (.invalidResponse
      ("no address returned for " ++ InstanceSpec.instanceName c.extension tenant)) := by
  have good : isSuccess bare.status = true := rfl
  have parsed : bare.body = .ok [0x7b, 0x7d] := rfl
  simp only [told, checked, if_pos good, Except.bind, readAddress, parsed, mapError_ok,
    Document.ok_bind, bare_parsed]
  rfl

theorem abc_name : InstanceSpec.instanceName reference.extension "abc" = "ext-abc" := by decide

theorem abc_literal : Literal (InstanceSpec.instanceName reference.extension "abc").toList := by
  have front : ∀ c ∈ "ext-abc".toList, isNameChar c = true := forall_of_all (by decide)
  have none : Literal [] := by
    refine ⟨nofun, nofun, nofun, nofun, ?_⟩
    intro front rest same
    cases front <;> cases same
  have literal := (literal_append front).mpr none
  rw [List.append_nil] at literal
  rw [abc_name]
  exact literal

def outskirts : Surroundings World :=
  World.surroundings .passThrough fun _ w => (.ok ⟨200, []⟩, w)

def vacant : Site (World × List String) := { outside := ({ address := id }, []) }

def fruitless : Except DirectoryError Entry × Site (World × List String) :=
  run (outskirts.governed reference {} (listing bare)) (Directory.provision "abc") vacant

theorem orphaned_iff_untold_of_bare :
    bare.Untold ∧ (∃ e, fruitless.1 = .error e ∧ e.isCompensation = false) ∧
      "ext-abc" ∈ fruitless.2.outside.2 ∧
      fruitless.2.outside.1.entries.find? "abc" = none := by
  obtain ⟨above, _, _, governed⟩ := orphaned_iff_untold reference_based
  obtain ⟨_, _, provisioned⟩ :=
    governed _ _ _ (listing_governs referenceUrl above bare) "abc" {} plain_counted
  have ends :=
    provisioned abc_literal _ outskirts vacant bare ["ext-abc"] (reference_sent _)
  dsimp only at ends
  rw [abc_name] at ends
  change ((∃ e, fruitless.1 = .error e ∧ e.isCompensation = false) ∧ _ ∧
    "ext-abc" ∈ fruitless.2.outside.2 ↔ _) ∧ (_ → fruitless.2.outside = _) at ends
  obtain ⟨left, known⟩ := ends
  obtain ⟨failed, _, runs⟩ := left.mpr bare_untold
  refine ⟨bare_untold, failed, runs, ?_⟩
  rw [known bare_untold]
  rfl

theorem service_orphaned :
    bare.status = 200 ∧
      (reference.create (listing bare) "abc" {} "key").run [] =
        (.error (.invalidResponse "no address returned for ext-abc"), ["ext-abc"]) ∧
      sentBy (reference.create (noting fun _ => .ok bare) "abc" {} "key") =
        [reference.posting "abc" {} "key"] ∧
      fruitless.1 = .error (.provision (.invalidResponse "no address returned for ext-abc")) ∧
      fruitless.2.outside.2 = ["ext-abc"] := by
  obtain ⟨above, _, _, leads⟩ := reference_based.leads
  have addressed := (leads.destroy rfl rfl "abc").mpr abc_literal
  have ends := Directory.register_stops (listing_governs referenceUrl above bare) addressed vacant
    (reference_sent (outskirts.secret vacant.outside.1).1)
  obtain ⟨result, outside⟩ :=
    Directory.run_provision (outskirts.governed reference {} (listing bare)) "abc" vacant
  unfold Ensures at ends
  rw [bare_told, abc_name, ← result, ← outside] at ends
  have said : "no address returned for " ++ "ext-abc" = "no address returned for ext-abc" := by
    decide
  change fruitless.1 = _ ∧ fruitless.2.outside = _ at ends
  refine ⟨rfl, ?_, ?_, ?_, ?_⟩
  · rw [run_create (reference_sent "key"), bare_told, abc_name, said]
  · exact sentBy_send (leads.create rfl rfl _) _
  · rw [ends.1, said]
  · rw [ends.2]

end ControlPlane
end TenantRelay
