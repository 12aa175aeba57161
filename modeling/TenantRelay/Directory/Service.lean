import TenantRelay.Program

/-!
The directory of instances. The store is what counts; the cache only spares asking
it. An instance is reachable only after its entry is stored, and it is destroyed
before its entry is removed, so no running instance is without a record.
-/

namespace TenantRelay.Directory

open Program

def readStore (tenant : String) : Program (Except DirectoryError Entry) := do
  let generation ← call .generation
  match ← call (.find tenant) with
  | .error e => return .error e
  | .ok none =>
    call (.count (.lookup "not_found"))
    return .error (.notFound tenant)
  | .ok (some entry) =>
    call (.count (.lookup "miss"))
    if ← call (.fill entry generation) then
      call (.count (.cached (← call .cachedCount)))
    return .ok entry

def resolve (tenant : String) : Program (Except DirectoryError Entry) := do
  match ← call (.lookup tenant) with
  | .hit entry =>
    call (.count (.lookup "hit"))
    return .ok entry
  | .expired =>
    call (.count (.refresh "ttl_expired" 0))
    readStore tenant
  | .miss => readStore tenant

def compensation (tenant : String) (failure : DirectoryError) (cause : String) : DirectoryError :=
  .compensation tenant failure.message cause

/-- Destroys an instance whose registration went wrong. The error is the one that is
to be reported. -/
def undoCreate (tenant : String) (failure : DirectoryError) :
    Program (Except DirectoryError Entry) := do
  match ← call (.destroy tenant) with
  | .ok () => return .error failure
  | .error e =>
    if e.isNotFound then return .error failure
    else return .error (compensation tenant failure e.message)

/-- Creates an instance and registers it, without counting it. It goes on to its end
also when nobody waits for it any more. -/
def register (tenant : String) : Program (Except DirectoryError Entry) := do
  let secret ← call .secret
  match ← call (.create tenant secret) with
  | .error e => return .error (.provision e)
  | .ok address =>
    let entry : Entry := ⟨tenant, address, secret, ← call .now⟩
    match ← call (.put entry) with
    | .error e => undoCreate tenant e
    | .ok () =>
      match ← call (.reach tenant address) with
      | .error e =>
        match ← call (.delete tenant) with
        | .error cleanup => return .error (compensation tenant (.provision e) cleanup.message)
        | .ok _ => undoCreate tenant (.provision e)
      | .ok () =>
        call (.keep entry)
        call (.count (.cached (← call .cachedCount)))
        return .ok entry

def forget (tenant : String) : Program (Except DirectoryError Unit) := do
  match ← call (.delete tenant) with
  | .error e => return .error e
  | .ok _ =>
    let _ ← call (.forget tenant)
    call (.count (.cached (← call .cachedCount)))
    return .ok ()

def unregister (tenant : String) : Program (Except DirectoryError Unit) := do
  -- One that is gone already counts as destroyed.
  match ← call (.destroy tenant) with
  | .ok () => forget tenant
  | .error e => if e.isNotFound then forget tenant else return .error (.provision e)

def outcomeOf {α : Type} : Except DirectoryError α → String
  | .ok _ => "success"
  | .error (.compensation _ _ _) => "compensation_failed"
  | .error _ => "failure"

/-- Whoever waits for an operation counts how it ended. -/
def counted {α : Type} (operation : String) (work : Program (Except DirectoryError α)) :
    Program (Except DirectoryError α) := do
  let result ← work
  call (.count (.provisioning operation (outcomeOf result)))
  return result

def provision (tenant : String) : Program (Except DirectoryError Entry) :=
  counted "provision" (register tenant)

def deprovision (tenant : String) : Program (Except DirectoryError Unit) :=
  counted "deprovision" (unregister tenant)

def shown (image : String) (cache : Cache) : String :=
  Text.shownPartly "ServiceDirectory" [("image", Text.quoted image), ("cache", cache.shown)]

end TenantRelay.Directory
