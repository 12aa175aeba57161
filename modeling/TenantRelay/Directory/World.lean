import TenantRelay.Site

/-! A world whose store and control plane fail by a script. A call that fails changes
nothing, and destroying what is not there is the one failure that needs no script. -/

namespace TenantRelay

/-- Failures of one kind of call: the same each time, or one after another. -/
inductive Script (ε : Type) where
  | standing (fault : Option ε)
  | queued (faults : List (Option ε))

def Script.next {ε : Type} : Script ε → Option ε × Script ε
  | standing fault => (fault, standing fault)
  | queued [] => (none, queued [])
  | queued (fault :: rest) => (fault, queued rest)

structure Faults where
  create : Script ProvisionError := .standing none
  reach : Script ProvisionError := .standing none
  destroy : Script ProvisionError := .standing none
  put : Script DirectoryError := .standing none
  get : Script DirectoryError := .standing none
  delete : Script DirectoryError := .standing none

structure World where
  clock : Nat := 0
  today : Timestamp := ⟨⟨2024, 1, 2⟩, 3, 4, 5, 0⟩
  image : String := "img"
  address : String → String
  entries : KeyMap Entry := ∅
  instances : List String := []
  faults : Faults := {}
  secrets : Nat := 0
  log : List String := []

namespace World

variable (w : World)

def note (line : String) : World := { w with log := w.log ++ [line] }

def secretName (n : Nat) : String := "<secret-" ++ toString n ++ ">"

def secret : String × World :=
  (secretName (w.secrets + 1), { w with secrets := w.secrets + 1 })

def find (tenant : String) : Except DirectoryError (Option Entry) × World :=
  let w := w.note ("get " ++ tenant)
  let (fault, get) := w.faults.get.next
  let w := { w with faults := { w.faults with get } }
  match fault with
  | some e => (.error e, w)
  | none => (.ok (w.entries.find? tenant), w)

def put (entry : Entry) : Except DirectoryError Unit × World :=
  let w := w.note ("put " ++ entry.tenant)
  let (fault, put) := w.faults.put.next
  let w := { w with faults := { w.faults with put } }
  match fault with
  | some e => (.error e, w)
  | none => (.ok (), { w with entries := w.entries.insert entry.tenant entry })

def delete (tenant : String) : Except DirectoryError Bool × World :=
  let w := w.note ("delete " ++ tenant)
  let (fault, delete) := w.faults.delete.next
  let w := { w with faults := { w.faults with delete } }
  match fault with
  | some e => (.error e, w)
  | none => (.ok (w.entries.contains tenant), { w with entries := w.entries.erase tenant })

def create (tenant secret : String) : Except ProvisionError String × World :=
  let w := w.note ("create " ++ tenant ++ " image=" ++ w.image ++ " secret=" ++ secret)
  let (fault, create) := w.faults.create.next
  let w := { w with faults := { w.faults with create } }
  match fault with
  | some e => (.error e, w)
  | none =>
    (.ok (w.address tenant),
      { w with instances := if w.instances.contains tenant then w.instances
          else w.instances ++ [tenant] })

def reach (tenant address : String) : Except ProvisionError Unit × World :=
  let w := w.note ("reach " ++ tenant ++ " " ++ address)
  let (fault, reach) := w.faults.reach.next
  let w := { w with faults := { w.faults with reach } }
  match fault with
  | some e => (.error e, w)
  | none => (.ok (), w)

def destroy (tenant : String) : Except ProvisionError Unit × World :=
  let w := w.note ("destroy " ++ tenant)
  let (fault, destroy) := w.faults.destroy.next
  let w := { w with faults := { w.faults with destroy } }
  match fault with
  | some e => (.error e, w)
  | none =>
    if w.instances.contains tenant then
      (.ok (), { w with instances := w.instances.filter (· != tenant) })
    else (.error (.notFound tenant), w)

end World

structure Hook where
  outbound : Tenant → Message → Except MultiplexError Message
  inbound : Tenant → Message → Response → Except MultiplexError Response

def Hook.passThrough : Hook := ⟨fun _ m => .ok m, fun _ _ r => .ok r⟩

def World.surroundings (hook : Hook)
    (post : Parcel → World → Except TransportFailure Delivery × World) : Surroundings World :=
  { clock := World.clock
    today := World.today
    secret := World.secret
    find := fun tenant w => w.find tenant
    put := fun entry w => w.put entry
    delete := fun tenant w => w.delete tenant
    create := fun tenant secret w => w.create tenant secret
    reach := fun tenant address w => w.reach tenant address
    destroy := fun tenant w => w.destroy tenant
    post
    outbound := fun tenant message w => (hook.outbound tenant message, w)
    inbound := fun tenant message response w => (hook.inbound tenant message response, w) }

end TenantRelay
