import TenantRelay.Directory.World
import TenantRelay.Proofs.Estate

/-!
The scripted world is dependable as long as its scripts are fair: the store fails only
in the ways of a store, and no script says that an instance is not there.
-/

namespace TenantRelay

def Script.Holds {ε : Type} (p : ε → Prop) : Script ε → Prop
  | standing fault => ∀ e, fault = some e → p e
  | queued faults => ∀ e, some e ∈ faults → p e

theorem Script.holds_next {ε : Type} {p : ε → Prop} {script : Script ε} (holds : script.Holds p) :
    (∀ e, script.next.1 = some e → p e) ∧ script.next.2.Holds p := by
  cases script with
  | standing fault => exact ⟨holds, holds⟩
  | queued faults =>
      cases faults with
      | nil => exact ⟨by simp [next], holds⟩
      | cons fault rest =>
          constructor
          · intro e same
            exact holds e (List.mem_cons.mpr (Or.inl same.symm))
          · intro e member
            exact holds e (List.mem_cons_of_mem fault member)

structure World.Fair (w : World) : Prop where
  get : w.faults.get.Holds (·.isOfStore = true)
  put : w.faults.put.Holds (·.isOfStore = true)
  delete : w.faults.delete.Holds (·.isOfStore = true)
  destroy : w.faults.destroy.Holds (·.isNotFound = false)

abbrev FairWorld := { w : World // w.Fair }

namespace World

variable {w : World}

def estate (w : World) : Estate := ⟨w.entries.find?, w.instances.contains⟩

theorem Fair.after_find (fair : w.Fair) (tenant : String) : (w.find tenant).2.Fair := by
  have rest := (Script.holds_next fair.get).2
  simp only [World.find, note]
  split <;> exact ⟨rest, fair.put, fair.delete, fair.destroy⟩

theorem Fair.after_put (fair : w.Fair) (entry : Entry) : (w.put entry).2.Fair := by
  have rest := (Script.holds_next fair.put).2
  simp only [World.put, note]
  split <;> exact ⟨fair.get, rest, fair.delete, fair.destroy⟩

theorem Fair.after_delete (fair : w.Fair) (tenant : String) : (w.delete tenant).2.Fair := by
  have rest := (Script.holds_next fair.delete).2
  simp only [World.delete, note]
  split <;> exact ⟨fair.get, fair.put, rest, fair.destroy⟩

theorem Fair.after_create (fair : w.Fair) (tenant secret : String) :
    (w.create tenant secret).2.Fair := by
  simp only [World.create, note]
  split <;> exact ⟨fair.get, fair.put, fair.delete, fair.destroy⟩

theorem Fair.after_reach (fair : w.Fair) (tenant address : String) :
    (w.reach tenant address).2.Fair := by
  simp only [World.reach, note]
  split <;> exact ⟨fair.get, fair.put, fair.delete, fair.destroy⟩

theorem Fair.after_destroy (fair : w.Fair) (tenant : String) : (w.destroy tenant).2.Fair := by
  have rest := (Script.holds_next fair.destroy).2
  simp only [World.destroy, note]
  split
  · exact ⟨fair.get, fair.put, fair.delete, rest⟩
  · by_cases present : w.instances.contains tenant = true <;>
      simp only [present, Bool.false_eq_true, ↓reduceIte] <;>
      exact ⟨fair.get, fair.put, fair.delete, rest⟩

/-! What each call of a fair world comes to. -/

theorem find_settles (fair : w.Fair) (tenant : String) :
    Settles estate w (fun found after => found = w.estate.stored tenant ∧ after = w.estate)
      (·.isOfStore = true) (w.find tenant) := by
  have storage := (Script.holds_next fair.get).1
  simp only [World.find, note]
  split
  case h_1 e fault => exact ⟨storage e fault, rfl⟩
  case h_2 => exact ⟨rfl, rfl⟩

theorem put_settles (fair : w.Fair) (entry : Entry) :
    Settles estate w (fun _ after => after = w.estate.put entry)
      (·.isOfStore = true) (w.put entry) := by
  have storage := (Script.holds_next fair.put).1
  simp only [World.put, note]
  split
  case h_1 e fault => exact ⟨storage e fault, rfl⟩
  case h_2 =>
    simp only [Settles, estate, Estate.put, Estate.mk.injEq, and_true]
    funext t
    exact KeyMap.find?_insert w.entries entry.tenant t entry

theorem delete_settles (fair : w.Fair) (tenant : String) :
    Settles estate w (fun _ after => after = w.estate.delete tenant)
      (·.isOfStore = true) (w.delete tenant) := by
  have storage := (Script.holds_next fair.delete).1
  simp only [World.delete, note]
  split
  case h_1 e fault => exact ⟨storage e fault, rfl⟩
  case h_2 =>
    simp only [Settles, estate, Estate.delete, Estate.mk.injEq, and_true]
    funext t
    exact KeyMap.find?_erase w.entries tenant t

theorem create_settles (w : World) (tenant secret : String) :
    Settles estate w (fun _ after => after = w.estate.start tenant) (fun _ => True)
      (w.create tenant secret) := by
  simp only [World.create, note]
  split
  case h_1 e fault => exact ⟨trivial, rfl⟩
  case h_2 =>
    simp only [Settles, estate, Estate.start, Estate.mk.injEq, true_and]
    funext t
    by_cases present : w.instances.contains tenant = true <;> by_cases same : t = tenant <;>
      simp_all

theorem reach_settles (w : World) (tenant address : String) :
    Settles estate w (fun _ after => after = w.estate) (fun _ => True)
      (w.reach tenant address) := by
  simp only [World.reach, note]
  split
  case h_1 e fault => exact ⟨trivial, rfl⟩
  case h_2 => rfl

theorem destroy_settles (fair : w.Fair) (tenant : String) :
    Settles estate w (fun _ after => after = w.estate.stop tenant)
      (fun e => e.isNotFound = true → w.estate.running tenant = false) (w.destroy tenant) := by
  have known := (Script.holds_next fair.destroy).1
  simp only [World.destroy, note]
  split
  case h_1 e fault => exact ⟨fun missing => by simp [known e fault] at missing, rfl⟩
  case h_2 =>
    -- The one failure that stands in no script: there is no such instance.
    by_cases present : w.instances.contains tenant = true
    · simp only [present, ↓reduceIte, Settles, estate, Estate.stop, Estate.mk.injEq, true_and]
      funext t
      by_cases same : t = tenant <;> simp [same]
    · simp only [present, Bool.false_eq_true, ↓reduceIte]
      exact ⟨fun _ => by simpa [estate] using present, rfl⟩

end World

namespace FairWorld

def estate (w : FairWorld) : Estate := w.1.estate

def facing (faults : Faults)
    (fair : World.Fair { address := fun tenant => "http://" ++ tenant, faults }) : FairWorld :=
  ⟨_, fair⟩

theorem facing_files (faults : Faults)
    (fair : World.Fair { address := fun tenant => "http://" ++ tenant, faults })
    (tenant : String) : (estate (facing faults fair)).Files tenant := by
  intro key entry held
  cases held

def former : Entry := { tenant := "acme", address := "http://acme", secret := "former" }

def latter : Entry :=
  { tenant := "acme", address := "http://acme", secret := World.secretName 1
    createdAt := ⟨⟨2024, 1, 2⟩, 3, 4, 5, 0⟩ }

def filing (key : String) (entry : Entry) : FairWorld :=
  ⟨{ address := fun tenant => "http://" ++ tenant
     entries := (∅ : KeyMap Entry).insert key entry
     instances := [key] },
   { get := by simp [Script.Holds]
     put := by simp [Script.Holds]
     delete := by simp [Script.Holds]
     destroy := by simp [Script.Holds] }⟩

def hosting (entry : Entry) : FairWorld := filing entry.tenant entry

theorem hosting_files (entry : Entry) (tenant : String) :
    (estate (hosting entry)).Files tenant := by
  intro key other held own
  have found : ((∅ : KeyMap Entry).insert entry.tenant entry).find? key = some other := held
  rw [KeyMap.find?_insert] at found
  split at found
  case isTrue same =>
    cases found
    exact same.trans own
  case isFalse => cases found

def surroundings (hook : Hook) (reply : Parcel → Except TransportFailure Delivery) :
    Surroundings FairWorld :=
  { clock := fun w => w.1.clock
    today := fun w => w.1.today
    secret := fun w => (w.1.secret.1, ⟨w.1.secret.2, w.2.get, w.2.put, w.2.delete, w.2.destroy⟩)
    find := fun tenant w => ((w.1.find tenant).1, ⟨_, w.2.after_find tenant⟩)
    put := fun entry w => ((w.1.put entry).1, ⟨_, w.2.after_put entry⟩)
    delete := fun tenant w => ((w.1.delete tenant).1, ⟨_, w.2.after_delete tenant⟩)
    create := fun tenant secret w =>
      ((w.1.create tenant secret).1, ⟨_, w.2.after_create tenant secret⟩)
    reach := fun tenant address w =>
      ((w.1.reach tenant address).1, ⟨_, w.2.after_reach tenant address⟩)
    destroy := fun tenant w => ((w.1.destroy tenant).1, ⟨_, w.2.after_destroy tenant⟩)
    post := fun parcel w => (reply parcel, w)
    outbound := fun tenant message w => (hook.outbound tenant message, w)
    inbound := fun tenant message response w => (hook.inbound tenant message response, w) }

theorem settles_of_settles {α ε : Type} {w : FairWorld} {done : α → Estate → Prop}
    {failing : ε → Prop} {result : Except ε α × World} (fair : result.2.Fair)
    (settles : Settles World.estate w.1 done failing result) :
    Settles estate w done failing (result.1, ⟨result.2, fair⟩) := by
  rcases result with ⟨e | a, after⟩ <;> exact settles

theorem dependable (hook : Hook) (reply : Parcel → Except TransportFailure Delivery) :
    Dependable (surroundings hook reply) estate (·.isOfStore) where
  find tenant w := settles_of_settles _ (World.find_settles w.2 tenant)
  put entry w := settles_of_settles _ (World.put_settles w.2 entry)
  delete tenant w := settles_of_settles _ (World.delete_settles w.2 tenant)
  create tenant secret w := settles_of_settles _ (w.1.create_settles tenant secret)
  reach tenant address w := settles_of_settles _ (w.1.reach_settles tenant address)
  destroy tenant w := settles_of_settles _ (World.destroy_settles w.2 tenant)
  secret _ := rfl
  post _ _ := rfl
  outbound _ _ _ := rfl
  inbound _ _ _ _ := rfl

/-- No hook, and instances that accept whatever they are told. -/
def accepting : Surroundings FairWorld := surroundings .passThrough fun _ => .ok ⟨200, []⟩

theorem accepting_dependable : Dependable accepting estate (·.isOfStore) := dependable _ _

end FairWorld
end TenantRelay
