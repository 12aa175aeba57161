import TenantRelay.Proofs.Traffic
import TenantRelay.Proofs.Transparency

/-!
How the calls of one tenant look to this tenant. Between two accesses of a call others may
have made the cache drop the tenant's entry, but nobody else puts one there, and nobody else
changes what is stored of the tenant. So a call comes to what it would come to alone and
without a cache, if it is answered alike outside.
-/

namespace TenantRelay

def Entry.undated (entry : Entry) : Entry := { entry with createdAt := ({} : Entry).createdAt }

def Access.undated : Access → Access
  | put entry => put entry.undated
  | access => access

def Happening.undated : Happening → Happening
  | ⟨.put entry, answer⟩ => ⟨.put entry.undated, answer⟩
  | h => h

def Access.isDealing : Access → Bool
  | secret => true
  | put _ => true
  | delete _ => true
  | create _ _ => true
  | reach _ _ => true
  | destroy _ => true
  | _ => false

abbrev Answers := List Happening → (access : Access) → access.Answer

/-- What a tenant's calls have come to so far. -/
structure Ledger where
  cached : Option Entry := none
  stored : Option Entry
  dealt : List Happening := []

namespace Ledger

def cachedAfter : Happening → Option Entry → Option Entry
  | ⟨.keep entry, _⟩, _ => some entry
  | ⟨.fill entry _, true⟩, _ => some entry
  | ⟨.forget _, _⟩, _ => none
  | _, cached => cached

def storedAfter : Happening → Option Entry → Option Entry
  | ⟨.put entry, .ok _⟩, _ => some entry
  | ⟨.delete _, .ok _⟩, _ => none
  | _, stored => stored

def after (l : Ledger) (h : Happening) : Ledger :=
  { cached := cachedAfter h l.cached
    stored := storedAfter h l.stored
    dealt := if h.access.isDealing then l.dealt ++ [h.undated] else l.dealt }

structure Allows (answers : Answers) (l : Ledger) (h : Happening) : Prop where
  answered : h.access.isDealing = true →
    h.undated = ⟨h.access.undated, answers l.dealt h.access.undated⟩
  found : ∀ tenant result, h = ⟨.find tenant, result⟩ → result = .ok l.stored
  hit : ∀ tenant entry, h = ⟨.lookup tenant, .hit entry⟩ → l.cached = some entry

def reply (answers : Answers) (l : Ledger) : (access : Access) → access.Answer
  | .lookup _ => .miss
  | .generation => 0
  | .fill _ _ => false
  | .keep _ => ()
  | .forget _ => false
  | .cachedCount => 0
  | .find _ => .ok l.stored
  | .put entry => answers l.dealt (.put entry.undated)
  | .delete tenant => answers l.dealt (.delete tenant)
  | .secret => answers l.dealt .secret
  | .now => ({} : Entry).createdAt
  | .create tenant secret => answers l.dealt (.create tenant secret)
  | .reach tenant address => answers l.dealt (.reach tenant address)
  | .destroy tenant => answers l.dealt (.destroy tenant)
  | .post _ => .ok ⟨200, []⟩
  | .outbound _ message => .ok message
  | .inbound _ _ response => .ok response
  | .count _ => ()

theorem allows_reply (answers : Answers) (l : Ledger) (access : Access) :
    l.Allows answers ⟨access, l.reply answers access⟩ := by
  constructor
  · intro dealing
    cases access with
    | secret => rfl
    | put entry => rfl
    | delete tenant => rfl
    | create tenant secret => rfl
    | reach tenant address => rfl
    | destroy tenant => rfl
    | _ => cases dealing
  · rintro tenant result same
    cases same
    rfl
  · rintro tenant entry same
    cases same

theorem Allows.eq_reply {answers : Answers} {l : Ledger} {access : Access}
    {answer : access.Answer} (allowed : l.Allows answers ⟨access, answer⟩)
    (dealing : access.isDealing = true) : answer = l.reply answers access := by
  have told := allowed.answered dealing
  cases access with
  | secret => exact eq_of_heq (Happening.mk.inj told).2
  | put entry => exact eq_of_heq (Happening.mk.inj told).2
  | delete tenant => exact eq_of_heq (Happening.mk.inj told).2
  | create tenant secret => exact eq_of_heq (Happening.mk.inj told).2
  | reach tenant address => exact eq_of_heq (Happening.mk.inj told).2
  | destroy tenant => exact eq_of_heq (Happening.mk.inj told).2
  | _ => cases dealing

/-- The cache holds nothing of the tenant that is not stored. -/
def Faithful (l : Ledger) : Prop := ∀ entry, l.cached = some entry → l.stored = some entry

/-- The same is stored and the same was dealt, creation times aside. -/
structure Twin (l k : Ledger) : Prop where
  stored : l.stored.map Entry.undated = k.stored.map Entry.undated
  dealt : l.dealt = k.dealt

theorem faithful_of_uncached {l : Ledger} (uncached : l.cached = none) : l.Faithful := by
  intro entry cached
  rw [uncached] at cached
  cases cached

theorem stored_after {l : Ledger} {h : Happening} (plain : h.access.isDealing = false) :
    (l.after h).stored = l.stored := by
  obtain ⟨access, answer⟩ := h
  cases access with
  | put entry => cases plain
  | delete tenant => cases plain
  | _ => rfl

namespace Twin

variable {answers : Answers} {l k : Ledger} (twin : l.Twin k)
include twin

theorem reply {access : Access} (dealing : access.isDealing = true) :
    l.reply answers access = k.reply answers access := by
  cases access with
  | secret => exact congrArg (answers · .secret) twin.dealt
  | put entry => exact congrArg (answers · (.put entry.undated)) twin.dealt
  | delete tenant => exact congrArg (answers · (.delete tenant)) twin.dealt
  | create tenant secret => exact congrArg (answers · (.create tenant secret)) twin.dealt
  | reach tenant address => exact congrArg (answers · (.reach tenant address)) twin.dealt
  | destroy tenant => exact congrArg (answers · (.destroy tenant)) twin.dealt
  | _ => cases dealing

theorem after (h : Happening) : (l.after h).Twin (k.after h) := by
  obtain ⟨access, answer⟩ := h
  constructor
  · cases access with
    | put entry =>
        cases answer with
        | error e => exact twin.stored
        | ok _ => rfl
    | delete tenant =>
        cases answer with
        | error e => exact twin.stored
        | ok _ => rfl
    | _ => exact twin.stored
  · simp only [Ledger.after, twin.dealt]

theorem reply_put {entry other : Entry} (alike : entry.undated = other.undated) :
    l.reply answers (.put entry) = k.reply answers (.put other) := by
  show answers l.dealt (.put entry.undated) = answers k.dealt (.put other.undated)
  rw [alike, twin.dealt]

theorem put {entry other : Entry} (alike : entry.undated = other.undated)
    (answer : Except DirectoryError Unit) :
    (l.after ⟨.put entry, answer⟩).Twin (k.after ⟨.put other, answer⟩) := by
  constructor
  · cases answer with
    | error e => exact twin.stored
    | ok _ => exact congrArg some alike
  · simp only [Ledger.after, twin.dealt, Happening.undated]
    rw [alike]
    rfl

theorem aside {h g : Happening} (plain : h.access.isDealing = false)
    (other : g.access.isDealing = false) : (l.after h).Twin (k.after g) := by
  constructor
  · rw [stored_after plain, stored_after other]
    exact twin.stored
  · simp only [Ledger.after, plain, other, Bool.false_eq_true, ↓reduceIte, twin.dealt]

end Twin

end Ledger

namespace Program

variable {α β : Type} (answers : Answers)

/-- An activity that ends as it should if it is answered as it may be. -/
def Comes (ends : α → Ledger → Prop) : Program α → Ledger → Prop
  | .done a, l => ends a l
  | .step access next, l => ∀ answer, l.Allows answers ⟨access, answer⟩ →
      Comes ends (next answer) (l.after ⟨access, answer⟩)

/-- What comes of an activity that is alone and has no cache. -/
def alone : Program α → Ledger → α × Ledger
  | .done a, l => (a, l)
  | .step access next, l =>
    alone (next (l.reply answers access)) (l.after ⟨access, l.reply answers access⟩)

variable {answers}

theorem comes_call {ends : β → Ledger → Prop} {access : Access} {f : access.Answer → Program β}
    {l : Ledger} (comes : ∀ answer, l.Allows answers ⟨access, answer⟩ →
      (f answer).Comes answers ends (l.after ⟨access, answer⟩)) :
    (call access >>= f).Comes answers ends l :=
  comes

theorem comes_bind {ends : β → Ledger → Prop} {p : Program α} {f : α → Program β} {l : Ledger}
    (comes : p.Comes answers (fun a k => (f a).Comes answers ends k) l) :
    (p >>= f).Comes answers ends l := by
  induction p generalizing l with
  | done a => exact comes
  | step access next ih => exact fun answer allowed => ih answer (comes answer allowed)

theorem Comes.mono {ends wide : α → Ledger → Prop} {p : Program α} {l : Ledger}
    (comes : p.Comes answers ends l) (wider : ∀ a k, ends a k → wide a k) :
    p.Comes answers wide l := by
  induction p generalizing l with
  | done a => exact wider a l comes
  | step access next ih => exact fun answer allowed => ih answer (comes answer allowed)

theorem Comes.and {ends also : α → Ledger → Prop} {p : Program α} {l : Ledger}
    (first : p.Comes answers ends l) (second : p.Comes answers also l) :
    p.Comes answers (fun a k => ends a k ∧ also a k) l := by
  induction p generalizing l with
  | done a => exact ⟨first, second⟩
  | step access next ih =>
      exact fun answer allowed => ih answer (first answer allowed) (second answer allowed)

theorem Comes.alone {ends : α → Ledger → Prop} {p : Program α} {l : Ledger}
    (comes : p.Comes answers ends l) : ends (p.alone answers l).1 (p.alone answers l).2 := by
  induction p generalizing l with
  | done a => exact comes
  | step access next ih => exact ih _ (comes _ (l.allows_reply answers access))

theorem dealt_alone {p : Program α} {l : Ledger} : l.dealt <+: (p.alone answers l).2.dealt := by
  induction p generalizing l with
  | done a => exact List.prefix_refl _
  | step access next ih =>
      refine List.IsPrefix.trans ?_ (ih _)
      simp only [Ledger.after]
      split
      · exact List.prefix_append _ _
      · exact List.prefix_refl _

/-- Two activities that deal alike, creation times aside, as long as they are answered
alike, and that take no notice of any other answer. -/
inductive InStep (alike : α → α → Prop) : Program α → Program α → Prop where
  | done {a b : α} : alike a b → InStep alike (.done a) (.done b)
  | deal {access : Access} {f g : access.Answer → Program α} : access.isDealing = true →
      (∀ answer, InStep alike (f answer) (g answer)) →
      InStep alike (.step access f) (.step access g)
  | put {entry other : Entry} {f g : Except DirectoryError Unit → Program α} :
      entry.undated = other.undated → (∀ answer, InStep alike (f answer) (g answer)) →
      InStep alike (.step (.put entry) f) (.step (.put other) g)
  | aside {access other : Access} {f : access.Answer → Program α}
      {g : other.Answer → Program α} : access.isDealing = false → other.isDealing = false →
      (∀ answer answer', InStep alike (f answer) (g answer')) →
      InStep alike (.step access f) (.step other g)

theorem InStep.comes {alike : α → α → Prop} {p q : Program α} {l k : Ledger}
    (inStep : InStep alike p q) (twin : l.Twin k) :
    p.Comes answers (fun a last => alike a (q.alone answers k).1 ∧
      last.Twin (q.alone answers k).2) l := by
  induction inStep generalizing l k with
  | done related => exact ⟨related, twin⟩
  | deal dealing _ ih =>
      intro answer allowed
      obtain rfl := (allowed.eq_reply dealing).trans (twin.reply dealing)
      exact ih _ (twin.after _)
  | @put entry other f g related _ ih =>
      intro answer allowed
      have same : answer = k.reply answers (.put other) :=
        (allowed.eq_reply rfl).trans (twin.reply_put related)
      rw [same]
      exact ih _ (twin.put related _)
  | aside plain other _ ih => exact fun answer _ => ih answer _ (twin.aside plain other)

theorem inStep_deal {alike : β → β → Prop} {access : Access}
    {f g : access.Answer → Program β} (dealing : access.isDealing = true)
    (rest : ∀ answer, InStep alike (f answer) (g answer)) :
    InStep alike (call access >>= f) (call access >>= g) :=
  .deal dealing rest

theorem inStep_put {alike : β → β → Prop} {entry other : Entry}
    {f g : Except DirectoryError Unit → Program β} (related : entry.undated = other.undated)
    (rest : ∀ answer, InStep alike (f answer) (g answer)) :
    InStep alike (call (.put entry) >>= f) (call (.put other) >>= g) :=
  .put related rest

theorem inStep_aside {alike : β → β → Prop} {access other : Access}
    {f : access.Answer → Program β} {g : other.Answer → Program β}
    (plain : access.isDealing = false) (plain' : other.isDealing = false)
    (rest : ∀ answer answer', InStep alike (f answer) (g answer')) :
    InStep alike (call access >>= f) (call other >>= g) :=
  .aside plain plain' rest

theorem inStep_bind {middle : α → α → Prop} {alike : β → β → Prop} {p q : Program α}
    {f g : α → Program β} (first : InStep middle p q)
    (rest : ∀ a b, middle a b → InStep alike (f a) (g b)) :
    InStep alike (p >>= f) (q >>= g) := by
  induction first with
  | done related => exact rest _ _ related
  | deal dealing _ ih => exact .deal dealing ih
  | put related _ ih => exact .put related ih
  | aside plain plain' _ ih => exact .aside plain plain' ih

end Program

namespace Directory

open Program

namespace Operation

def tenant : Operation → String
  | resolve tenant => tenant
  | provision tenant => tenant
  | deprovision tenant => tenant

def told : (o : Operation) → Except DirectoryError o.Result →
    Except DirectoryError (Option Entry)
  | resolve _, result => result.map fun entry => some entry.undated
  | provision _, result => result.map fun entry => some entry.undated
  | deprovision _, result => result.map fun _ => none

/-- Two results of an operation that are the same, creation times aside. -/
def Alike (o : Operation) (a b : Except DirectoryError o.Result) : Prop := o.told a = o.told b

structure Matches (o : Operation) (alone : Except DirectoryError o.Result × Ledger)
    (result : Except DirectoryError o.Result) (l : Ledger) : Prop where
  told : o.Alike result alone.1
  twin : l.Twin alone.2
  faithful : l.Faithful

end Operation

variable {answers : Answers} {tenant : String} {l k : Ledger}

/-! Each operation comes to what it would come to alone and without a cache. -/

theorem alone_resolve : (resolve tenant).alone answers k =
    (registered tenant k.stored, k) := by
  obtain ⟨cached, stored | entry, dealt⟩ := k <;> rfl

theorem alike_registered (twin : l.Twin k) :
    (Operation.resolve tenant).Alike (registered tenant l.stored) (registered tenant k.stored) := by
  have same := twin.stored
  cases stored : l.stored with
  | none =>
      rw [stored] at same
      rw [Option.map_eq_none_iff.mp same.symm]
      rfl
  | some entry =>
      rw [stored] at same
      obtain ⟨other, stored', alike⟩ := Option.map_eq_some_iff.mp same.symm
      rw [stored']
      exact congrArg (fun e => Except.ok (some e)) alike.symm

theorem readStore_comes (faithful : l.Faithful) :
    (readStore tenant).Comes answers (fun result last =>
      result = registered tenant l.stored ∧ last.Twin l ∧ last.Faithful ∧
        last.stored = l.stored) l := by
  unfold readStore
  refine comes_call fun generation _ => ?_
  refine comes_call fun found allowed => ?_
  obtain rfl := allowed.found _ _ rfl
  obtain ⟨cached, stored | entry, dealt⟩ := l
  · exact comes_call fun _ _ => ⟨rfl, ⟨rfl, rfl⟩, faithful, rfl⟩
  · refine comes_call fun _ _ => ?_
    refine comes_call fun kept _ => ?_
    cases kept with
    | false => exact ⟨rfl, ⟨rfl, rfl⟩, faithful, rfl⟩
    | true =>
        -- What is filled in is what was found, so it is what is stored.
        refine comes_call fun size _ => ?_
        exact comes_call fun _ _ => ⟨rfl, ⟨rfl, rfl⟩, fun _ same => same, rfl⟩

theorem resolve_comes (faithful : l.Faithful) :
    (resolve tenant).Comes answers (fun result last =>
      result = registered tenant l.stored ∧ last.Twin l ∧ last.Faithful ∧
        last.stored = l.stored) l := by
  unfold resolve
  refine comes_call fun found allowed => ?_
  cases found with
  | hit entry =>
      have stored : l.stored = some entry := faithful entry (allowed.hit _ _ rfl)
      refine comes_call fun _ _ => ⟨?_, ⟨rfl, rfl⟩, faithful, rfl⟩
      rw [stored]
      rfl
  | miss => exact readStore_comes faithful
  | expired => exact comes_call fun _ _ => readStore_comes faithful

theorem undoCreate_inStep {failure : DirectoryError} :
    InStep (Operation.provision tenant).Alike (undoCreate tenant failure)
      (undoCreate tenant failure) := by
  unfold undoCreate
  refine inStep_deal rfl fun gone => ?_
  cases gone with
  | ok _ => exact .done rfl
  | error e =>
      cases known : e.isNotFound with
      | true =>
          simp only [known, ↓reduceIte]
          exact .done rfl
      | false =>
          simp only [known, Bool.false_eq_true, ↓reduceIte]
          exact .done rfl

theorem register_inStep :
    InStep (Operation.provision tenant).Alike (register tenant) (register tenant) := by
  unfold register
  refine inStep_deal rfl fun secret => ?_
  refine inStep_deal rfl fun created => ?_
  cases created with
  | error e => exact .done rfl
  | ok address =>
      -- From here on the entries of the two differ in nothing but their times.
      refine inStep_aside rfl rfl fun now then_ => ?_
      refine inStep_put rfl fun stored => ?_
      cases stored with
      | error e => exact undoCreate_inStep
      | ok _ =>
          refine inStep_deal rfl fun reached => ?_
          cases reached with
          | error e =>
              refine inStep_deal rfl fun deleted => ?_
              cases deleted with
              | error cleanup => exact .done rfl
              | ok had => exact undoCreate_inStep
          | ok _ =>
              refine inStep_aside rfl rfl fun _ _ => ?_
              refine inStep_aside rfl rfl fun _ _ => ?_
              refine inStep_aside rfl rfl fun _ _ => ?_
              exact .done rfl

theorem forget_inStep :
    InStep (Operation.deprovision tenant).Alike (forget tenant) (forget tenant) := by
  unfold forget
  refine inStep_deal rfl fun deleted => ?_
  cases deleted with
  | error e => exact .done rfl
  | ok had =>
      refine inStep_aside rfl rfl fun _ _ => ?_
      refine inStep_aside rfl rfl fun _ _ => ?_
      refine inStep_aside rfl rfl fun _ _ => ?_
      exact .done rfl

theorem unregister_inStep :
    InStep (Operation.deprovision tenant).Alike (unregister tenant) (unregister tenant) := by
  unfold unregister
  refine inStep_deal rfl fun gone => ?_
  cases gone with
  | ok _ => exact forget_inStep
  | error e =>
      cases known : e.isNotFound with
      | true =>
          simp only [known, ↓reduceIte]
          exact forget_inStep
      | false =>
          simp only [known, Bool.false_eq_true, ↓reduceIte]
          exact .done rfl

theorem counted_inStep {α : Type} {operation : String}
    {alike : Except DirectoryError α → Except DirectoryError α → Prop}
    {work : Program (Except DirectoryError α)} (inStep : InStep alike work work) :
    InStep alike (counted operation work) (counted operation work) := by
  unfold counted
  refine inStep_bind inStep fun a b related => ?_
  exact inStep_aside rfl rfl fun _ _ => .done related

/-! What they leave in the cache is what they leave in the store. -/

theorem undoCreate_faithful {failure : DirectoryError} (uncached : l.cached = none) :
    (undoCreate tenant failure).Comes answers (fun _ last => last.Faithful) l := by
  have faithful := Ledger.faithful_of_uncached uncached
  unfold undoCreate
  refine comes_call fun gone _ => ?_
  cases gone with
  | ok _ => exact faithful
  | error e =>
      cases known : e.isNotFound with
      | true =>
          simp only [known, ↓reduceIte]
          exact faithful
      | false =>
          simp only [known, Bool.false_eq_true, ↓reduceIte]
          exact faithful

theorem register_faithful (uncached : l.cached = none) :
    (register tenant).Comes answers (fun _ last => last.Faithful) l := by
  unfold register
  refine comes_call fun secret _ => ?_
  refine comes_call fun created _ => ?_
  cases created with
  | error e => exact Ledger.faithful_of_uncached uncached
  | ok address =>
      refine comes_call fun now _ => ?_
      refine comes_call fun stored _ => ?_
      cases stored with
      | error e => exact undoCreate_faithful uncached
      | ok _ =>
          refine comes_call fun reached _ => ?_
          cases reached with
          | error e =>
              refine comes_call fun deleted _ => ?_
              cases deleted with
              | error cleanup => exact Ledger.faithful_of_uncached uncached
              | ok had => exact undoCreate_faithful uncached
          | ok _ =>
              refine comes_call fun _ _ => ?_
              refine comes_call fun _ _ => ?_
              refine comes_call fun _ _ => ?_
              exact fun entry cached => cached

theorem forget_faithful (faithful : l.Faithful) :
    (forget tenant).Comes answers (fun _ last => last.Faithful) l := by
  unfold forget
  refine comes_call fun deleted _ => ?_
  cases deleted with
  | error e => exact faithful
  | ok had =>
      refine comes_call fun forgotten _ => ?_
      refine comes_call fun _ _ => ?_
      refine comes_call fun _ _ => ?_
      exact Ledger.faithful_of_uncached rfl

theorem unregister_faithful (faithful : l.Faithful) :
    (unregister tenant).Comes answers (fun _ last => last.Faithful) l := by
  unfold unregister
  refine comes_call fun gone _ => ?_
  cases gone with
  | ok _ => exact forget_faithful faithful
  | error e =>
      cases known : e.isNotFound with
      | true =>
          simp only [known, ↓reduceIte]
          exact forget_faithful faithful
      | false =>
          simp only [known, Bool.false_eq_true, ↓reduceIte]
          exact faithful

theorem counted_faithful {α : Type} {operation : String}
    {work : Program (Except DirectoryError α)}
    (faithful : work.Comes answers (fun _ last => last.Faithful) l) :
    (counted operation work).Comes answers (fun _ last => last.Faithful) l := by
  unfold counted
  apply comes_bind
  refine faithful.mono fun result last kept => ?_
  exact comes_call fun _ _ => kept

/-- A call of the tenant's, begun when nothing is cached that is not stored, comes to what
it would come to alone. A provision needs that nothing is stored. -/
theorem Operation.comes (o : Operation) (twin : l.Twin k) (faithful : l.Faithful)
    (absent : o = .provision o.tenant → l.stored = none) :
    o.program.Comes answers (o.Matches (o.program.alone answers k)) l := by
  cases o with
  | resolve tenant =>
      refine (resolve_comes faithful).mono ?_
      rintro result last ⟨rfl, same, kept, _⟩
      have told : (Operation.resolve tenant).Alike (registered tenant l.stored) _ :=
        alike_registered twin
      have alone : (Operation.resolve tenant).program.alone answers k =
        (registered tenant k.stored, k) := alone_resolve
      rw [alone]
      exact ⟨told, ⟨same.stored.trans twin.stored, same.dealt.trans twin.dealt⟩, kept⟩
  | provision tenant =>
      have uncached : l.cached = none := by
        have unstored := absent rfl
        cases cached : l.cached with
        | none => rfl
        | some entry => rw [faithful entry cached] at unstored; cases unstored
      have inStep : InStep (Operation.provision tenant).Alike (Directory.provision tenant)
        (Directory.provision tenant) := counted_inStep register_inStep
      refine ((inStep.comes twin).and (counted_faithful (register_faithful uncached))).mono ?_
      rintro result last ⟨⟨told, same⟩, kept⟩
      exact ⟨told, same, kept⟩
  | deprovision tenant =>
      have inStep : InStep (Operation.deprovision tenant).Alike (Directory.deprovision tenant)
        (Directory.deprovision tenant) := counted_inStep unregister_inStep
      refine ((inStep.comes twin).and (counted_faithful (unregister_faithful faithful))).mono ?_
      rintro result last ⟨⟨told, same⟩, kept⟩
      exact ⟨told, same, kept⟩

end Directory
end TenantRelay
