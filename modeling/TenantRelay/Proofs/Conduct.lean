import TenantRelay.Proofs.Registration
import TenantRelay.Proofs.Traffic

/-!
What a call may do next, given what it has done, and what it has done when it returns. An
activity obeys such a rule if it does whatever it is answered; so does then every call of
a run, whatever the others do in between.
-/

namespace TenantRelay

namespace Program

variable {α β : Type} {next : List Happening → Access → Prop}

/-- An activity that, whatever it is answered, makes only accesses that may come after
what was done before, and ends only as it may. -/
def Obeys (next : List Happening → Access → Prop) (ends : List Happening → α → Prop) :
    Program α → List Happening → Prop
  | .done a, past => ends past a
  | .step access rest, past =>
      next past access ∧ ∀ answer, Obeys next ends (rest answer) (past ++ [⟨access, answer⟩])

theorem obeys_call {ends : List Happening → β → Prop} {access : Access}
    {f : access.Answer → Program β} {past : List Happening} (allowed : next past access)
    (rest : ∀ answer, (f answer).Obeys next ends (past ++ [⟨access, answer⟩])) :
    (call access >>= f).Obeys next ends past :=
  ⟨allowed, rest⟩

theorem obeys_bind {middle : List Happening → α → Prop} {ends : List Happening → β → Prop}
    {p : Program α} {f : α → Program β} {past : List Happening}
    (first : p.Obeys next middle past)
    (rest : ∀ past a, middle past a → (f a).Obeys next ends past) :
    (p >>= f).Obeys next ends past := by
  induction p generalizing past with
  | done a => exact rest past a first
  | step access next ih => exact ⟨first.1, fun answer => ih answer (first.2 answer)⟩

end Program

namespace Directory

open Program

inductive Resolving (tenant : String) : List Happening → Access → Prop where
  | lookup : Resolving tenant [] (.lookup tenant)
  | generation {past : List Happening} : Resolving tenant past .generation
  | find {past : List Happening} {generation : UInt64} :
      Resolving tenant (past ++ [⟨.generation, generation⟩]) (.find tenant)
  -- What is filled in was read just before, at the generation that is given.
  | fill {past : List Happening} {entry : Entry} {generation : UInt64} {measure : Measure} :
      Resolving tenant (past ++ [⟨.generation, generation⟩] ++
        [⟨.find tenant, .ok (some entry)⟩] ++ [⟨.count measure, ()⟩]) (.fill entry generation)
  | cachedCount {past : List Happening} : Resolving tenant past .cachedCount
  | count {past : List Happening} {measure : Measure} : Resolving tenant past (.count measure)

inductive Resolved (tenant : String) :
    List Happening → Except DirectoryError Entry → Prop where
  | hit {past : List Happening} {entry : Entry} : ⟨.lookup tenant, .hit entry⟩ ∈ past →
      Resolved tenant past (.ok entry)
  | read {past : List Happening} {entry : Entry} :
      ⟨.find tenant, .ok (some entry)⟩ ∈ past → Resolved tenant past (.ok entry)
  | absent {past : List Happening} : ⟨.find tenant, .ok none⟩ ∈ past →
      Resolved tenant past (.error (.notFound tenant))
  | failed {past : List Happening} {e : DirectoryError} : ⟨.find tenant, .error e⟩ ∈ past →
      Resolved tenant past (.error e)

inductive Provisioning (tenant : String) : List Happening → Access → Prop where
  | secret : Provisioning tenant [] .secret
  | create {secret : String} :
      Provisioning tenant [⟨.secret, secret⟩] (.create tenant secret)
  | now {secret address : String} :
      Provisioning tenant [⟨.secret, secret⟩, ⟨.create tenant secret, .ok address⟩] .now
  | put (entry : Entry) : entry.tenant = tenant →
      Provisioning tenant (creation entry) (.put entry)
  | undoUnstored (entry : Entry) {e : DirectoryError} :
      Provisioning tenant (creation entry ++ [⟨.put entry, .error e⟩]) (.destroy tenant)
  | reach (entry : Entry) :
      Provisioning tenant (creation entry ++ [⟨.put entry, .ok ()⟩])
        (.reach tenant entry.address)
  | delete (entry : Entry) {e : ProvisionError} : entry.tenant = tenant →
      Provisioning tenant (creation entry ++ [⟨.put entry, .ok ()⟩,
        ⟨.reach tenant entry.address, .error e⟩]) (.delete tenant)
  | undoUnopened (entry : Entry) {e : ProvisionError} {had : Bool} :
      Provisioning tenant (creation entry ++ [⟨.put entry, .ok ()⟩,
        ⟨.reach tenant entry.address, .error e⟩, ⟨.delete tenant, .ok had⟩]) (.destroy tenant)
  | keep (entry : Entry) : entry.tenant = tenant →
      Provisioning tenant (creation entry ++ [⟨.put entry, .ok ()⟩,
        ⟨.reach tenant entry.address, .ok ()⟩]) (.keep entry)
  | cachedCount {past : List Happening} : Provisioning tenant past .cachedCount
  | count {past : List Happening} {measure : Measure} :
      Provisioning tenant past (.count measure)

inductive Provisioned (tenant : String) :
    List Happening → Except DirectoryError Entry → Prop where
  | registered (entry : Entry) {rest : List Happening} : entry.tenant = tenant →
      Provisioned tenant (creation entry ++ [⟨.put entry, .ok ()⟩,
        ⟨.reach tenant entry.address, .ok ()⟩, ⟨.keep entry, ()⟩] ++ rest) (.ok entry)
  | unstored {past : List Happening} {failure : DirectoryError} :
      (∀ entry, ⟨.put entry, .ok ()⟩ ∉ past) → Provisioned tenant past (.error failure)
  | withdrawn (entry : Entry) {e : ProvisionError} {had : Bool} {rest : List Happening}
      {failure : DirectoryError} : entry.tenant = tenant →
      Provisioned tenant (creation entry ++ [⟨.put entry, .ok ()⟩,
        ⟨.reach tenant entry.address, .error e⟩, ⟨.delete tenant, .ok had⟩] ++ rest)
        (.error failure)
  | stuck {past : List Happening} {whose failure cause : String} :
      Provisioned tenant past (.error (.compensation whose failure cause))

def Gone (answer : Except ProvisionError Unit) : Prop :=
  answer = .ok () ∨ ∃ e, answer = .error e ∧ e.isNotFound = true

inductive Deprovisioning (tenant : String) : List Happening → Access → Prop where
  | destroy : Deprovisioning tenant [] (.destroy tenant)
  | delete {gone : Except ProvisionError Unit} : Gone gone →
      Deprovisioning tenant [⟨.destroy tenant, gone⟩] (.delete tenant)
  | forget {gone : Except ProvisionError Unit} {had : Bool} :
      Deprovisioning tenant [⟨.destroy tenant, gone⟩, ⟨.delete tenant, .ok had⟩]
        (.forget tenant)
  | cachedCount {past : List Happening} : Deprovisioning tenant past .cachedCount
  | count {past : List Happening} {measure : Measure} :
      Deprovisioning tenant past (.count measure)

inductive Deprovisioned (tenant : String) :
    List Happening → Except DirectoryError Unit → Prop where
  | unregistered {gone : Except ProvisionError Unit} {had forgotten : Bool}
      {rest : List Happening} : Gone gone →
      Deprovisioned tenant ([⟨.destroy tenant, gone⟩, ⟨.delete tenant, .ok had⟩,
        ⟨.forget tenant, forgotten⟩] ++ rest) (.ok ())
  | failed {past : List Happening} {e : DirectoryError} : Deprovisioned tenant past (.error e)

namespace Operation

def Next : Operation → List Happening → Access → Prop
  | resolve tenant => Resolving tenant
  | provision tenant => Provisioning tenant
  | deprovision tenant => Deprovisioning tenant

def Ends : (o : Operation) → List Happening → Except DirectoryError o.Result → Prop
  | resolve tenant => Resolved tenant
  | provision tenant => Provisioned tenant
  | deprovision tenant => Deprovisioned tenant

end Operation

variable {tenant : String}

theorem readStore_obeys (past : List Happening) :
    (readStore tenant).Obeys (Resolving tenant) (Resolved tenant) past := by
  unfold readStore
  refine obeys_call .generation fun generation => ?_
  refine obeys_call .find fun found => ?_
  cases found with
  | error e => exact .failed (by simp)
  | ok found =>
      cases found with
      | none => exact obeys_call .count fun _ => .absent (by simp)
      | some entry =>
          refine obeys_call .count fun _ => ?_
          refine obeys_call .fill fun kept => ?_
          cases kept with
          | false => exact .read (by simp)
          | true =>
              refine obeys_call .cachedCount fun size => ?_
              refine obeys_call .count fun _ => ?_
              exact .read (by simp)

theorem resolve_obeys : (resolve tenant).Obeys (Resolving tenant) (Resolved tenant) [] := by
  unfold resolve
  refine obeys_call .lookup fun found => ?_
  cases found with
  | hit entry => exact obeys_call .count fun _ => .hit (by simp)
  | miss => exact readStore_obeys _
  | expired => exact obeys_call .count fun _ => readStore_obeys _

theorem counted_obeys {α : Type} {next : List Happening → Access → Prop}
    {ends : List Happening → Except DirectoryError α → Prop} {operation : String}
    {work : Program (Except DirectoryError α)} {past : List Happening}
    (counts : ∀ past measure, next past (.count measure))
    (lasts : ∀ past result measure,
      ends past result → ends (past ++ [⟨.count measure, ()⟩]) result)
    (worked : work.Obeys next ends past) : (counted operation work).Obeys next ends past := by
  unfold counted
  refine obeys_bind worked fun past result ended => ?_
  exact obeys_call (counts _ _) fun _ => lasts _ _ _ ended

theorem undoCreate_obeys {failure : DirectoryError} {past : List Happening}
    (allowed : Provisioning tenant past (.destroy tenant))
    (undone : ∀ gone, Provisioned tenant (past ++ [⟨.destroy tenant, gone⟩]) (.error failure)) :
    (undoCreate tenant failure).Obeys (Provisioning tenant) (Provisioned tenant) past := by
  unfold undoCreate
  refine obeys_call allowed fun gone => ?_
  cases gone with
  | ok _ => exact undone _
  | error e =>
      cases known : e.isNotFound with
      | true =>
          simp only [known, ↓reduceIte]
          exact undone _
      | false =>
          simp only [known, Bool.false_eq_true, ↓reduceIte]
          exact .stuck

theorem register_obeys : (register tenant).Obeys (Provisioning tenant) (Provisioned tenant) [] := by
  unfold register
  refine obeys_call .secret fun secret => ?_
  refine obeys_call .create fun created => ?_
  cases created with
  | error e => exact .unstored (by simp)
  | ok address =>
      refine obeys_call .now fun now => ?_
      -- From here on the past is that of an entry.
      let entry : Entry := ⟨tenant, address, secret, now⟩
      refine obeys_call (.put entry rfl) fun stored => ?_
      cases stored with
      | error e =>
          exact undoCreate_obeys (.undoUnstored entry) fun gone => .unstored (by simp)
      | ok _ =>
          refine obeys_call (.reach entry) fun reached => ?_
          cases reached with
          | error e =>
              refine obeys_call (.delete entry rfl) fun deleted => ?_
              cases deleted with
              | error cleanup => exact .stuck
              | ok had =>
                  exact undoCreate_obeys (.undoUnopened entry) fun gone =>
                    .withdrawn entry rfl
          | ok _ =>
              refine obeys_call (.keep entry rfl) fun _ => ?_
              refine obeys_call .cachedCount fun size => ?_
              refine obeys_call .count fun _ => ?_
              exact .registered entry rfl

theorem forget_obeys {gone : Except ProvisionError Unit} (known : Gone gone) :
    (forget tenant).Obeys (Deprovisioning tenant) (Deprovisioned tenant)
      [⟨.destroy tenant, gone⟩] := by
  unfold forget
  refine obeys_call (.delete known) fun deleted => ?_
  cases deleted with
  | error e => exact .failed
  | ok had =>
      refine obeys_call .forget fun forgotten => ?_
      refine obeys_call .cachedCount fun size => ?_
      refine obeys_call .count fun _ => ?_
      exact .unregistered known

theorem unregister_obeys :
    (unregister tenant).Obeys (Deprovisioning tenant) (Deprovisioned tenant) [] := by
  unfold unregister
  refine obeys_call .destroy fun gone => ?_
  cases gone with
  | ok _ => exact forget_obeys (Or.inl rfl)
  | error e =>
      cases known : e.isNotFound with
      | true =>
          simp only [known, ↓reduceIte]
          exact forget_obeys (Or.inr ⟨e, rfl, known⟩)
      | false =>
          simp only [known, Bool.false_eq_true, ↓reduceIte]
          exact .failed

theorem Provisioned.append {past : List Happening} {result : Except DirectoryError Entry}
    (provisioned : Provisioned tenant past result) {measure : Measure} :
    Provisioned tenant (past ++ [⟨.count measure, ()⟩]) result := by
  cases provisioned with
  | registered entry own => rw [List.append_assoc]; exact .registered entry own
  | unstored none => exact .unstored fun entry => by simp [none entry]
  | withdrawn entry own => rw [List.append_assoc]; exact .withdrawn entry own
  | stuck => exact .stuck

theorem Deprovisioned.append {past : List Happening} {result : Except DirectoryError Unit}
    (deprovisioned : Deprovisioned tenant past result) {measure : Measure} :
    Deprovisioned tenant (past ++ [⟨.count measure, ()⟩]) result := by
  cases deprovisioned with
  | unregistered known => rw [List.append_assoc]; exact .unregistered known
  | failed => exact .failed

theorem Provisioned.enrolled {past : List Happening} {entry : Entry}
    (provisioned : Provisioned tenant past (.ok entry)) : entry.tenant = tenant ∧
      ∃ rest, past = creation entry ++ [⟨.put entry, .ok ()⟩,
        ⟨.reach tenant entry.address, .ok ()⟩, ⟨.keep entry, ()⟩] ++ rest := by
  cases provisioned with
  | registered _ own => exact ⟨own, _, rfl⟩

theorem Provisioned.undone {past : List Happening} {failure : DirectoryError}
    (provisioned : Provisioned tenant past (.error failure))
    (clean : ∀ whose original cause, failure ≠ .compensation whose original cause) :
    (∀ entry, ⟨.put entry, .ok ()⟩ ∉ past) ∨
      ∃ entry e had rest, past = creation entry ++ [⟨.put entry, .ok ()⟩,
        ⟨.reach tenant entry.address, .error e⟩, ⟨.delete tenant, .ok had⟩] ++ rest := by
  cases provisioned with
  | unstored none => exact Or.inl none
  | withdrawn entry _ => exact Or.inr ⟨entry, _, _, _, rfl⟩
  | stuck => exact absurd rfl (clean _ _ _)

theorem Deprovisioned.forgotten {past : List Happening}
    (deprovisioned : Deprovisioned tenant past (.ok ())) :
    ∃ gone had forgotten rest, Gone gone ∧ past = [⟨.destroy tenant, gone⟩,
      ⟨.delete tenant, .ok had⟩, ⟨.forget tenant, forgotten⟩] ++ rest := by
  cases deprovisioned with
  | unregistered known => exact ⟨_, _, _, _, known, rfl⟩

theorem eq_of_creation {a b : Entry} {past : List Happening} (first : creation a <+: past)
    (second : creation b <+: past) : a = b := by
  have same : creation a = creation b :=
    (List.prefix_of_prefix_length_le first second (Nat.le_refl _)).eq_of_length rfl
  simp only [creation, List.cons.injEq, Happening.mk.injEq, Access.create.injEq] at same
  obtain ⟨⟨_, secret⟩, ⟨⟨tenant, _⟩, address⟩, ⟨_, created⟩, _⟩ := same
  obtain ⟨tenant', address', secret', created'⟩ := a
  simp_all

theorem Call.opening_obeys (o : Operation) : o.program.Obeys o.Next o.Ends [] := by
  cases o with
  | resolve tenant => exact resolve_obeys
  | provision tenant =>
      exact counted_obeys (fun _ _ => .count) (fun _ _ _ ended => ended.append) register_obeys
  | deprovision tenant =>
      exact counted_obeys (fun _ _ => .count) (fun _ _ _ ended => ended.append) unregister_obeys

/-! Who may do what, and after what. -/

namespace Operation.Next

variable {o : Operation} {past : List Happening} {entry : Entry}

theorem fill {generation : UInt64} (next : o.Next past (.fill entry generation)) :
    ∃ tenant first measure, o = .resolve tenant ∧
      past = first ++ [⟨.generation, generation⟩] ++ [⟨.find tenant, .ok (some entry)⟩] ++
        [⟨.count measure, ()⟩] := by
  cases o with
  | resolve tenant => cases next with | fill => exact ⟨tenant, _, _, rfl, rfl⟩
  | provision tenant => cases next
  | deprovision tenant => cases next

theorem create {secret : String} (next : o.Next past (.create tenant secret)) :
    o = .provision tenant ∧ past = [⟨.secret, secret⟩] := by
  cases o with
  | resolve tenant => cases next
  | provision tenant => cases next with | create => exact ⟨rfl, rfl⟩
  | deprovision tenant => cases next

theorem put (next : o.Next past (.put entry)) :
    o = .provision entry.tenant ∧ past = creation entry := by
  cases o with
  | resolve tenant => cases next
  | provision tenant => cases next with | put _ own => exact ⟨own ▸ rfl, rfl⟩
  | deprovision tenant => cases next

theorem keep (next : o.Next past (.keep entry)) :
    o = .provision entry.tenant ∧ past = creation entry ++ [⟨.put entry, .ok ()⟩,
      ⟨.reach entry.tenant entry.address, .ok ()⟩] := by
  cases o with
  | resolve tenant => cases next
  | provision tenant => cases next with | keep _ own => subst own; exact ⟨rfl, rfl⟩
  | deprovision tenant => cases next

theorem delete (next : o.Next past (.delete tenant)) :
    (o = .deprovision tenant ∧ ∃ gone, Gone gone ∧ past = [⟨.destroy tenant, gone⟩]) ∨
    o = .provision tenant ∧ ∃ entry e, entry.tenant = tenant ∧
      past = creation entry ++ [⟨.put entry, .ok ()⟩,
        ⟨.reach tenant entry.address, .error e⟩] := by
  cases o with
  | resolve tenant => cases next
  | provision tenant => cases next with | delete _ own => exact Or.inr ⟨rfl, _, _, own, rfl⟩
  | deprovision tenant => cases next with | delete known => exact Or.inl ⟨rfl, _, known, rfl⟩

end Operation.Next

/-! Calls of a run. -/

namespace Traffic

variable {σ : Type} {s : Surroundings σ} {view : σ → Estate} {opens : Operation → Prop}
  {start x : Traffic σ} {turns earlier later : List Turn} {t : Turn}

theorem Run.obeys (fresh : start.Fresh) (run : Run s view opens start turns x) {call : Nat}
    {c : Call} (there : x.calls[call]? = some c) :
    c.rest.Obeys c.operation.Next c.operation.Ends (past turns call) := by
  induction run generalizing c with
  | start =>
      obtain ⟨o, rfl⟩ := fresh c (List.mem_of_getElem? there)
      exact Call.opening_obeys o
  | @opening turns y o _ run ih =>
      by_cases within : call < y.calls.length
      · rw [List.getElem?_append_left within] at there
        exact ih there
      · have opened : c = .opening o := by
          rw [List.getElem?_append_right (Nat.le_of_not_lt within)] at there
          simpa using List.mem_of_getElem? there
        rw [run.past_eq_nil (Nat.le_of_not_lt within), opened]
        exact Call.opening_obeys o
  | @turn turns y z t run turned ih =>
      cases turned with
      | @turn o next ready answered =>
          rw [past_append]
          by_cases own : t.call = call
          · -- The rule says of every answer what comes after it, so of the one that was given.
            subst own
            have within := (List.getElem?_eq_some_iff.mp ready).1
            rw [List.getElem?_set_self within] at there
            cases there
            rw [past_own]
            exact (ih ready).2 t.happening.answer
          · rw [List.getElem?_set_ne own] at there
            rw [past_other own, List.append_nil]
            exact ih there
  | wait _ _ ih => exact ih there
  | clear _ ih => exact ih there

theorem Run.ended (fresh : start.Fresh) (run : Run s view opens start turns x) {call : Nat}
    {o : Operation} {result : Except DirectoryError o.Result}
    (returned : x.calls[call]? = some ⟨o, .done result⟩) : o.Ends (past turns call) result :=
  run.obeys fresh returned

/-- A deprovision that ended well has deleted what was stored before it let the cache
forget the tenant. -/
theorem Logged.exists_forget (fresh : start.Fresh) {log : List Stage}
    (logged : Logged s view opens start log x) {call : Nat}
    (returned : x.calls[call]? = some ⟨.deprovision tenant, .done (.ok ())⟩) :
    ∃ earlier later known had, log = earlier ++ .turn ⟨call, ⟨.forget tenant, known⟩⟩ :: later ∧
      ⟨call, ⟨.delete tenant, .ok had⟩⟩ ∈ turnsOf earlier := by
  have ended : Deprovisioned tenant (past (turnsOf log) call) (.ok ()) :=
    logged.run.ended fresh returned
  obtain ⟨gone, had, known, rest, _, did⟩ := ended.forgotten
  have split : past (turnsOf log) call = [⟨.destroy tenant, gone⟩, ⟨.delete tenant, .ok had⟩] ++
      ⟨.forget tenant, known⟩ :: rest := did
  obtain ⟨_, _, turns, first, _⟩ := exists_split split
  obtain ⟨earlier, later, rfl, rfl, rfl⟩ := turnsOf_split turns
  refine ⟨earlier, later, known, had, rfl, ?_⟩
  rw [← mem_past, first]
  simp

theorem Run.exists_keep (fresh : start.Fresh) (run : Run s view opens start turns x)
    {call : Nat} {entry : Entry}
    (returned : x.calls[call]? = some ⟨.provision tenant, .done (.ok entry)⟩) :
    entry.tenant = tenant ∧ ∃ first between rest, turns =
      first ++ ⟨call, ⟨.put entry, .ok ()⟩⟩ :: (between ++ ⟨call, ⟨.keep entry, ()⟩⟩ :: rest) := by
  have ended : Provisioned tenant (past turns call) (.ok entry) := run.ended fresh returned
  obtain ⟨own, rest, did⟩ := ended.enrolled
  have split : past turns call = creation entry ++ ⟨.put entry, .ok ()⟩ ::
      ([⟨.reach tenant entry.address, .ok ()⟩] ++ ⟨.keep entry, ()⟩ :: rest) := by
    simpa using did
  obtain ⟨first, later, rfl, _, did⟩ := exists_split split
  obtain ⟨between, rest, rfl, _, _⟩ := exists_split did
  exact ⟨own, first, between, rest, rfl⟩

/-- A turn that is taken is one that may come after what its call did before. -/
theorem Run.allows (fresh : start.Fresh) (run : Run s view opens start turns x)
    {y : Traffic σ} (turned : x.Turns s t y) :
    ∃ o, (start.operation? t.call = some o ∨ start.calls.length ≤ t.call ∧ opens o) ∧
      o.Next (past turns t.call) t.happening.access := by
  cases turned with
  | @turn o next ready _ =>
      have known : x.operation? t.call = some o := by simp [Traffic.operation?, ready]
      exact ⟨o, run.operation? known, (run.obeys fresh ready).1⟩

theorem Run.conducted (fresh : start.Fresh)
    (run : Run s view opens start (earlier ++ t :: later) x) :
    ∃ o, (start.operation? t.call = some o ∨ start.calls.length ≤ t.call ∧ opens o) ∧
      o.Next (past earlier t.call) t.happening.access := by
  obtain ⟨y, z, before, turned, _⟩ := run.cut
  exact before.allows fresh turned

/-! Of a tenant whom no call is for that is opened later. -/

section
variable {call : Nat} {entry : Entry} (fresh : start.Fresh)
include fresh

theorem Run.of_create {secret : String} {answer : Except ProvisionError String}
    (closed : ¬opens (.provision tenant))
    (run : Run s view opens start
      (earlier ++ ⟨call, ⟨.create tenant secret, answer⟩⟩ :: later) x) :
    start.operation? call = some (.provision tenant) ∧
      past earlier call = [⟨.secret, secret⟩] := by
  obtain ⟨o, known, next⟩ := run.conducted fresh
  obtain ⟨rfl, done⟩ := next.create
  exact ⟨known.resolve_right fun opened => closed opened.2, done⟩

theorem Run.of_put {answer : Except DirectoryError Unit}
    (closed : ¬opens (.provision entry.tenant))
    (run : Run s view opens start (earlier ++ ⟨call, ⟨.put entry, answer⟩⟩ :: later) x) :
    start.operation? call = some (.provision entry.tenant) ∧
      past earlier call = creation entry := by
  obtain ⟨o, known, next⟩ := run.conducted fresh
  obtain ⟨rfl, done⟩ := next.put
  exact ⟨known.resolve_right fun opened => closed opened.2, done⟩

theorem Run.of_keep (closed : ¬opens (.provision entry.tenant))
    (run : Run s view opens start (earlier ++ ⟨call, ⟨.keep entry, ()⟩⟩ :: later) x) :
    start.operation? call = some (.provision entry.tenant) ∧
      past earlier call = creation entry ++ [⟨.put entry, .ok ()⟩,
        ⟨.reach entry.tenant entry.address, .ok ()⟩] := by
  obtain ⟨o, known, next⟩ := run.conducted fresh
  obtain ⟨rfl, done⟩ := next.keep
  exact ⟨known.resolve_right fun opened => closed opened.2, done⟩

theorem Run.of_delete {answer : Except DirectoryError Bool}
    (closed : ¬opens (.provision tenant)) (shut : ¬opens (.deprovision tenant))
    (run : Run s view opens start (earlier ++ ⟨call, ⟨.delete tenant, answer⟩⟩ :: later) x) :
    (start.operation? call = some (.deprovision tenant) ∧
      ∃ gone, Gone gone ∧ past earlier call = [⟨.destroy tenant, gone⟩]) ∨
    start.operation? call = some (.provision tenant) ∧
      ∃ entry e, entry.tenant = tenant ∧ past earlier call = creation entry ++
        [⟨.put entry, .ok ()⟩, ⟨.reach tenant entry.address, .error e⟩] := by
  obtain ⟨o, known, next⟩ := run.conducted fresh
  rcases next.delete with ⟨rfl, done⟩ | ⟨rfl, done⟩
  · exact Or.inl ⟨known.resolve_right fun opened => shut opened.2, done⟩
  · exact Or.inr ⟨known.resolve_right fun opened => closed opened.2, done⟩

end

end Traffic

end Directory
end TenantRelay
