import TenantRelay.Directory.Cache
import TenantRelay.Directory.Error
import TenantRelay.Envelope.Message
import TenantRelay.Envelope.Response
import TenantRelay.Forward.Error
import TenantRelay.Metrics.Measure
import TenantRelay.Multiplex.Error

/-!
Activities of the relay as sequences of single accesses to what lies around them:
the cache, the store, the control plane, the instances, the clock. Between two
accesses of one activity those of others may come, so an activity is a value that
can be run step by step.
-/

namespace TenantRelay

/-- A signed message on its way to an instance. -/
structure Parcel where
  address : String
  signature : String
  body : Bytes
deriving DecidableEq

structure Delivery where
  status : Nat
  body : Bytes
deriving DecidableEq

inductive Access where
  | lookup (tenant : String)
  | generation
  | fill (entry : Entry) (generation : UInt64)
  | keep (entry : Entry)
  | forget (tenant : String)
  | cachedCount
  | find (tenant : String)
  | put (entry : Entry)
  | delete (tenant : String)
  | secret
  | now
  | create (tenant secret : String)
  | reach (tenant address : String)
  | destroy (tenant : String)
  | post (parcel : Parcel)
  | outbound (tenant : Tenant) (message : Message)
  | inbound (tenant : Tenant) (message : Message) (response : Response)
  | count (measure : Measure)

abbrev Access.Answer : Access → Type
  | lookup _ => Lookup
  | generation => UInt64
  | fill _ _ => Bool
  | keep _ => Unit
  | forget _ => Bool
  | cachedCount => Nat
  | find _ => Except DirectoryError (Option Entry)
  | put _ => Except DirectoryError Unit
  | delete _ => Except DirectoryError Bool
  | secret => String
  | now => Timestamp
  | create _ _ => Except ProvisionError String
  | reach _ _ => Except ProvisionError Unit
  | destroy _ => Except ProvisionError Unit
  | post _ => Except TransportFailure Delivery
  | outbound _ _ => Except MultiplexError Message
  | inbound _ _ _ => Except MultiplexError Response
  | count _ => Unit

inductive Program (α : Type) where
  | done (value : α)
  | step (access : Access) (next : access.Answer → Program α)

namespace Program

variable {α β : Type}

def bind : Program α → (α → Program β) → Program β
  | done a, f => f a
  | step access next, f => step access fun answer => bind (next answer) f

instance : Monad Program where
  pure := done
  bind := bind

def call (access : Access) : Program access.Answer := step access done

theorem bind_done (x : Program α) : bind x done = x := by
  induction x with
  | done a => rfl
  | step access next ih => exact congrArg (step access) (funext ih)

theorem bind_bind {γ : Type} (x : Program α) (f : α → Program β) (g : β → Program γ) :
    bind (bind x f) g = bind x fun a => bind (f a) g := by
  induction x with
  | done a => rfl
  | step access next ih => exact congrArg (step access) (funext ih)

instance : LawfulMonad Program :=
  LawfulMonad.mk' Program bind_done (fun _ _ => rfl) bind_bind

end Program
end TenantRelay
