import Mathlib.Data.List.Nodup
import TenantRelay.Server.Setup

/-!
What an environment makes of a configuration. Each setting has a place of its own, which no other
one writes. An older name of a variable counts only where the newer one is not set, what is not set
leaves its place alone, and reading stops at the first value that is of no use.
-/

namespace TenantRelay

inductive Place where
  | host
  | tcpPort
  | extensionName
  | extensionSecret
  | referenceUrl
  | referenceSecret
  | backend
  | path
  | databaseUrl
  | cacheTtl
  | baseUrl
  | token
  | definition
  | forwardTimeout
  | logLevel
  | logJson
deriving DecidableEq

namespace Place

abbrev Value : Place → Type
  | tcpPort => Nat
  | backend => Backend
  | databaseUrl => Option String
  | cacheTtl => Nat
  | token => Option String
  | definition => Option Definition
  | forwardTimeout => Nat
  | logJson => Bool
  | _ => String

def get : (p : Place) → ServerConfig → p.Value
  | host, c => c.host
  | tcpPort, c => c.tcpPort
  | extensionName, c => c.extension.name
  | extensionSecret, c => c.extension.secret
  | referenceUrl, c => c.reference.url
  | referenceSecret, c => c.reference.secret
  | backend, c => c.directory.backend
  | path, c => c.directory.path
  | databaseUrl, c => c.directory.databaseUrl
  | cacheTtl, c => c.directory.cacheTtlSeconds
  | baseUrl, c => c.controlPlane.baseUrl
  | token, c => c.controlPlane.token
  | definition, c => c.controlPlane.definition
  | forwardTimeout, c => c.forwarding.timeoutSeconds
  | logLevel, c => c.logging.level
  | logJson, c => c.logging.json

def put : (p : Place) → p.Value → ServerConfig → ServerConfig
  | host, v, c => { c with host := v }
  | tcpPort, v, c => { c with tcpPort := v }
  | extensionName, v, c => { c with extension.name := v }
  | extensionSecret, v, c => { c with extension.secret := v }
  | referenceUrl, v, c => { c with reference.url := v }
  | referenceSecret, v, c => { c with reference.secret := v }
  | backend, v, c => { c with directory.backend := v }
  | path, v, c => { c with directory.path := v }
  | databaseUrl, v, c => { c with directory.databaseUrl := v }
  | cacheTtl, v, c => { c with directory.cacheTtlSeconds := v }
  | baseUrl, v, c => { c with controlPlane.baseUrl := v }
  | token, v, c => { c with controlPlane.token := v }
  | definition, v, c => { c with controlPlane.definition := v }
  | forwardTimeout, v, c => { c with forwarding.timeoutSeconds := v }
  | logLevel, v, c => { c with logging.level := v }
  | logJson, v, c => { c with logging.json := v }

def all : List Place :=
  [host, tcpPort, extensionName, extensionSecret, referenceUrl, referenceSecret, backend, path,
    databaseUrl, cacheTtl, baseUrl, token, definition, forwardTimeout, logLevel, logJson]

variable (p q : Place) (c : ServerConfig)

theorem get_put (v : p.Value) : p.get (p.put v c) = v := by cases p <;> rfl

theorem put_get : p.put (p.get c) c = c := by cases p <;> rfl

theorem get_put_of_ne {p q : Place} (other : p ≠ q) (v : q.Value) :
    p.get (q.put v c) = p.get c := by
  cases p <;> cases q <;> first | rfl | exact absurd rfl other

theorem nodup_all : all.Nodup := by decide

theorem connectTimeout_put (v : p.Value) :
    (p.put v c).forwarding.connectTimeoutSeconds = c.forwarding.connectTimeoutSeconds := by
  cases p <;> rfl

end Place

namespace Setting

/-- What a setting makes of a configuration is to put something in the place, and what it puts
there is for its value to say. -/
def Governs (s : Setting) (p : Place) : Prop :=
  ∀ value set, s.read value = .ok set → ∃ v, set = p.put v

def places : List (Setting × Place) := all.zip Place.all

theorem map_fst_places : places.map Prod.fst = all := rfl

theorem map_snd_places : places.map Prod.snd = Place.all := rfl

section
variable {name what : String} {olderName : Option String} {limit : Nat} {p : Place}

theorem governs_text {set : String → ServerConfig → ServerConfig} {f : String → p.Value}
    (puts : ∀ v, set v = p.put (f v)) : Governs (text name set olderName) p := by
  intro value other read
  cases read
  exact ⟨f value, puts value⟩

theorem governs_number {set : Nat → ServerConfig → ServerConfig} {f : Nat → p.Value}
    (puts : ∀ v, set v = p.put (f v)) : Governs ⟨name, olderName, number what limit set⟩ p := by
  intro value other read
  simp only [number] at read
  split at read
  case h_1 n _ =>
    split at read
    case isTrue =>
      cases read
      exact ⟨f n, puts n⟩
    case isFalse => cases read
  case h_2 => cases read

theorem governs_truth {set : Bool → ServerConfig → ServerConfig} {f : Bool → p.Value}
    (puts : ∀ v, set v = p.put (f v)) : Governs ⟨name, olderName, truth what set⟩ p := by
  intro value other read
  simp only [truth] at read
  split at read
  case isTrue =>
    cases read
    exact ⟨f true, puts true⟩
  case isFalse =>
    split at read
    case isTrue =>
      cases read
      exact ⟨f false, puts false⟩
    case isFalse => cases read

theorem governs_backend : Governs ⟨name, olderName, backend⟩ .backend := by
  intro value other read
  simp only [backend] at read
  split at read
  case h_1 b _ =>
    cases read
    exact ⟨b, rfl⟩
  case h_2 => cases read

theorem governs_definition : Governs ⟨name, olderName, definition⟩ .definition := by
  intro value other read
  simp only [definition] at read
  split at read
  case h_1 d _ =>
    cases read
    exact ⟨some d, rfl⟩
  case h_2 => cases read

end

theorem governs_places : ∀ r ∈ places, Governs r.1 r.2 := by
  simp only [places, all, Place.all, List.zip_cons_cons, List.zip_nil_left, List.forall_mem_cons]
  exact ⟨governs_text fun _ => rfl, governs_number fun _ => rfl, governs_text fun _ => rfl,
    governs_text fun _ => rfl, governs_text fun _ => rfl, governs_text fun _ => rfl,
    governs_backend, governs_text fun _ => rfl, governs_text fun _ => rfl,
    governs_number fun _ => rfl, governs_text fun _ => rfl, governs_text fun _ => rfl,
    governs_definition, governs_number fun _ => rfl, governs_text fun _ => rfl,
    governs_truth fun _ => rfl, nofun⟩

/-! Reading a list of settings. -/

variable {env env' : Environment} {base c : ServerConfig} {settings : List Setting}
  {rows : List (Setting × Place)}

theorem merge_congr (same : ∀ s ∈ settings, s.value? env = s.value? env') :
    merge env settings base = merge env' settings base := by
  induction settings generalizing base with
  | nil => rfl
  | cons s rest ih =>
      -- What a value is read as does not hang on the environment.
      obtain ⟨first, later⟩ := List.forall_mem_cons.mp same
      simp only [merge, first]
      cases s.value? env' with
      | none => exact ih later
      | some value =>
          cases read : s.read value with
          | ok set => simpa only [read] using ih later
          | error e => simp only [read]

theorem merge_keeps {β : Type} {f : ServerConfig → β} (governs : ∀ r ∈ rows, Governs r.1 r.2)
    (keeps : ∀ r ∈ rows, ∀ v c, f (r.2.put v c) = f c) :
    f (merge env (rows.map Prod.fst) base).2 = f base := by
  induction rows generalizing base with
  | nil => rfl
  | cons r rest ih =>
      obtain ⟨own, governs⟩ := List.forall_mem_cons.mp governs
      obtain ⟨kept, keeps⟩ := List.forall_mem_cons.mp keeps
      simp only [List.map_cons, merge]
      cases r.1.value? env with
      | none => exact ih governs keeps
      | some value =>
          cases read : r.1.read value with
          | ok set =>
              obtain ⟨v, rfl⟩ := own value set read
              simp only [read]
              exact (ih governs keeps).trans (kept v base)
          | error e => simp only [read]

/-- The place holds what is said by the value, and by nothing else, if there is one; and what it
held before otherwise. -/
def Applied (env : Environment) (base c : ServerConfig) (r : Setting × Place) : Prop :=
  match r.1.value? env with
  | none => r.2.get c = r.2.get base
  | some value => ∃ set, r.1.read value = .ok set ∧ ∀ other, r.2.get c = r.2.get (set other)

theorem Applied.get_of_unset {r : Setting × Place} (applied : Applied env base c r)
    (unset : r.1.value? env = none) : r.2.get c = r.2.get base := by
  rwa [Applied, unset] at applied

theorem Applied.of_base {r : Setting × Place} {base' : ServerConfig}
    (applied : Applied env base c r) (same : r.2.get base = r.2.get base') :
    Applied env base' c r := by
  unfold Applied at applied ⊢
  split
  case h_1 none =>
    rw [none] at applied
    exact applied.trans same
  case h_2 value some =>
    rw [some] at applied
    exact applied

theorem applied_merge (governs : ∀ r ∈ rows, Governs r.1 r.2)
    (distinct : (rows.map Prod.snd).Nodup)
    (merged : merge env (rows.map Prod.fst) base = (.ok (), c)) :
    ∀ r ∈ rows, Applied env base c r := by
  induction rows generalizing base with
  | nil => nofun
  | cons r rest ih =>
      obtain ⟨own, governs⟩ := List.forall_mem_cons.mp governs
      obtain ⟨fresh, distinct⟩ := List.nodup_cons.mp distinct
      have apart : ∀ other ∈ rest, r.2 ≠ other.2 := by
        intro other member same
        exact fresh (same ▸ List.mem_map_of_mem member)
      -- What comes later leaves this place alone.
      have stays : ∀ base', merge env (rest.map Prod.fst) base' = (.ok (), c) →
          r.2.get c = r.2.get base' := by
        intro base' merged
        have kept : r.2.get (merge env (rest.map Prod.fst) base').2 = r.2.get base' :=
          merge_keeps governs fun other member v c => Place.get_put_of_ne c (apart other member) v
        rwa [merged] at kept
      simp only [List.map_cons, merge] at merged
      cases value : r.1.value? env with
      | none =>
          rw [value] at merged
          refine List.forall_mem_cons.mpr ⟨?_, ih governs distinct merged⟩
          rw [Applied, value]
          exact stays base merged
      | some text =>
          simp only [value] at merged
          cases read : r.1.read text with
          | error e =>
              rw [read] at merged
              cases merged
          | ok set =>
              simp only [read] at merged
              obtain ⟨v, rfl⟩ := own text set read
              refine List.forall_mem_cons.mpr ⟨?_, fun other member => ?_⟩
              · rw [Applied, value]
                refine ⟨_, read, fun other => ?_⟩
                rw [stays _ merged, r.2.get_put, r.2.get_put]
              · refine (ih governs distinct merged other member).of_base ?_
                exact Place.get_put_of_ne base (apart other member).symm v

theorem merge_of_applied (governs : ∀ r ∈ rows, Governs r.1 r.2)
    (applied : ∀ r ∈ rows, Applied env base c r) :
    merge env (rows.map Prod.fst) c = (.ok (), c) := by
  induction rows with
  | nil => rfl
  | cons r rest ih =>
      -- What is put is what is there, so the configuration is the same at each step.
      obtain ⟨own, governs⟩ := List.forall_mem_cons.mp governs
      obtain ⟨first, applied⟩ := List.forall_mem_cons.mp applied
      rw [Applied] at first
      simp only [List.map_cons, merge]
      cases value : r.1.value? env with
      | none => exact ih governs applied
      | some text =>
          rw [value] at first
          obtain ⟨set, read, there⟩ := first
          obtain ⟨v, rfl⟩ := own text set read
          have still : r.2.put v c = c := by
            rw [← r.2.get_put c v, ← there c, r.2.put_get]
          simp only [read, still]
          exact ih governs applied

theorem merge_eq_error {e : ConfigError}
    (failed : merge env (rows.map Prod.fst) base = (.error e, c)) :
    ∃ before r after value, rows = before ++ r :: after ∧ r.1.value? env = some value ∧
      r.1.read value = .error e ∧ merge env (before.map Prod.fst) base = (.ok (), c) := by
  induction rows generalizing base with
  | nil => cases failed
  | cons r rest ih =>
      -- A value that can be read is one more of those before.
      have later : ∀ base', merge env (rest.map Prod.fst) base' = (.error e, c) →
          (∀ before, merge env (r.1 :: before) base = merge env before base') →
          ∃ before r' after value, r :: rest = before ++ r' :: after ∧
            r'.1.value? env = some value ∧ r'.1.read value = .error e ∧
            merge env (before.map Prod.fst) base = (.ok (), c) := by
        intro base' failed first
        obtain ⟨before, r', after, value, rfl, set, unread, merged⟩ := ih failed
        exact ⟨r :: before, r', after, value, rfl, set, unread, (first _).trans merged⟩
      cases value : r.1.value? env with
      | none =>
          have first : ∀ before, merge env (r.1 :: before) base = merge env before base := by
            intro before
            simp only [merge, value]
          exact later base ((first _).symm.trans failed) first
      | some text =>
          cases read : r.1.read text with
          | ok set =>
              have first : ∀ before, merge env (r.1 :: before) base =
                  merge env before (set base) := by
                intro before
                simp only [merge, value, read]
              exact later _ ((first _).symm.trans failed) first
          | error e' =>
              simp only [List.map_cons, merge, value, read] at failed
              cases failed
              exact ⟨[], r, rest, text, rfl, value, read, rfl⟩

/-! Names of variables. -/

/-- The older names that still count, each after the newer one that it gives way to. -/
def olderNames : List (String × String) :=
  [("EXTMUX_PORT", "PORT"), ("EXTMUX_EXTENSION_NAME", "LC_EXTENSION_NAME"),
   ("EXTMUX_SHARED_SECRET", "LC_SHARED_SECRET"),
   ("EXTMUX_REFERENCE_URL", "LC_REFERENCE_SERVICE_URL"),
   ("EXTMUX_REFERENCE_SECRET", "LC_REFERENCE_SHARED_SECRET"),
   ("EXTMUX_SERVICE_DEFINITION", "SERVICE_DEFINITION")]

/-- Environments that differ only in older names that have given way. -/
structure Agree (env env' : Environment) : Prop where
  newer : ∀ name : String, "EXTMUX_".toList <+: name.toList → env name = env' name
  older : ∀ names ∈ olderNames, env names.1 = none → env names.2 = env' names.2

theorem newer_prefixed : ∀ s ∈ all, "EXTMUX_".toList <+: s.name.toList := by decide

theorem older_listed : all.filterMap (fun s => s.olderName.map (s.name, ·)) = olderNames := rfl

theorem Agree.value? (agree : Agree env env') {s : Setting} (member : s ∈ all) :
    s.value? env = s.value? env' := by
  have newer := agree.newer s.name (newer_prefixed s member)
  unfold Setting.value?
  rw [← newer]
  cases unset : env s.name with
  | some value => rfl
  | none =>
      -- Only here does an older name count, and here they agree on it.
      cases older : s.olderName with
      | none => rfl
      | some name =>
          have listed : (s.name, name) ∈ olderNames := by
            rw [← older_listed]
            exact List.mem_filterMap.mpr ⟨s, member, by rw [older]; rfl⟩
          exact agree.older _ listed unset

theorem value?_eq_none {s : Setting} (newer : env s.name = none)
    (older : ∀ name, s.olderName = some name → env name = none) : s.value? env = none := by
  unfold value?
  rw [newer]
  cases named : s.olderName with
  | none => rfl
  | some name => exact older name named

end Setting

namespace ServerConfig

open Setting

variable {env env' : Environment} {base c : ServerConfig}

theorem applied_mergeVariables (merged : base.mergeVariables env = (.ok (), c)) :
    ∀ r ∈ places, Applied env base c r :=
  applied_merge governs_places Place.nodup_all merged

theorem mergeVariables_eq_error {e : ConfigError}
    (failed : base.mergeVariables env = (.error e, c)) :
    ∃ before r after value, places = before ++ r :: after ∧ r.1.value? env = some value ∧
      r.1.read value = .error e ∧ (∀ done ∈ before, Applied env base c done) ∧
      ∀ left ∈ r :: after, left.2.get c = left.2.get base := by
  have stopped : merge env (places.map Prod.fst) base = (.error e, c) := failed
  obtain ⟨before, r, after, value, whole, set, unread, merged⟩ := merge_eq_error stopped
  have governs : ∀ done ∈ before, Governs done.1 done.2 := by
    intro done member
    exact governs_places done (whole ▸ List.mem_append_left _ member)
  have distinct : (before.map Prod.snd ++ (r :: after).map Prod.snd).Nodup := by
    rw [← List.map_append, ← whole]
    exact Place.nodup_all
  obtain ⟨own, _, apart⟩ := List.nodup_append.mp distinct
  refine ⟨before, r, after, value, whole, set, unread, applied_merge governs own merged, ?_⟩
  intro left member
  -- All that was read is for other places than what is left.
  have kept : left.2.get (merge env (before.map Prod.fst) base).2 = left.2.get base := by
    apply merge_keeps governs
    intro done earlier v c
    apply Place.get_put_of_ne
    exact (apart _ (List.mem_map_of_mem earlier) _ (List.mem_map_of_mem member)).symm
  rwa [merged] at kept

theorem get_mergeVariables_of_unset {r : Setting × Place} (member : r ∈ places)
    (unset : r.1.value? env = none) :
    r.2.get (base.mergeVariables env).2 = r.2.get base := by
  cases merged : base.mergeVariables env with
  | mk result c =>
      cases result with
      | ok done => exact (applied_mergeVariables merged r member).get_of_unset unset
      | error e =>
          obtain ⟨before, stop, after, value, whole, _, _, done, left⟩ :=
            mergeVariables_eq_error merged
          rw [whole] at member
          rcases List.mem_append.mp member with earlier | later
          · exact (done r earlier).get_of_unset unset
          · exact left r later

/-- An older name counts only where the newer one is not set: environments that agree on what
counts come to the same configuration and the same failure. What is not set leaves its place as it
was. What is set is read by its value alone, so to merge again changes nothing; and a merge that
fails has done just what comes before the first value that is of no use. -/
theorem older_names_give_way (base : ServerConfig) :
    (∀ env env', Agree env env' → base.mergeVariables env = base.mergeVariables env') ∧
    (∀ env, ∀ r ∈ places, env r.1.name = none →
      (∀ name, r.1.olderName = some name → env name = none) →
      r.2.get (base.mergeVariables env).2 = r.2.get base) ∧
    (∀ env c, base.mergeVariables env = (.ok (), c) →
      (∀ r ∈ places, Applied env base c r) ∧ c.mergeVariables env = (.ok (), c)) ∧
    (∀ env e c, base.mergeVariables env = (.error e, c) →
      ∃ before r after value, places = before ++ r :: after ∧ r.1.value? env = some value ∧
        r.1.read value = .error e ∧ (∀ done ∈ before, Applied env base c done) ∧
        ∀ left ∈ r :: after, left.2.get c = left.2.get base) ∧
    ∀ env, (base.mergeVariables env).2.forwarding.connectTimeoutSeconds =
      base.forwarding.connectTimeoutSeconds := by
  refine ⟨?_, ?_, ?_, fun _ _ _ => mergeVariables_eq_error, ?_⟩
  · intro env env' agree
    exact merge_congr fun s member => agree.value? member
  · intro env r member newer older
    exact get_mergeVariables_of_unset member (value?_eq_none newer older)
  · intro env c merged
    have applied := applied_mergeVariables merged
    exact ⟨applied, merge_of_applied governs_places applied⟩
  · intro env
    exact merge_keeps (f := fun c => c.forwarding.connectTimeoutSeconds) governs_places
      fun r _ v c => r.2.connectTimeout_put c v

def holding (set : List (String × String)) : Environment := fun name => KeyMap.findEntry name set

def sparse : List (String × String) :=
  [("EXTMUX_HOST", ""), ("EXTMUX_PORT", " +9100 "), ("LC_EXTENSION_NAME", "scan")]

theorem agree_of_port : Agree (holding (("PORT", "eighty") :: sparse)) (holding sparse) where
  newer := by
    intro name newer
    have other : name ≠ "PORT" := by
      rintro rfl
      exact absurd newer (by decide)
    exact if_neg other
  older := by decide

/-- A port that cannot be read does not count where the newer name says another one. A last value
that is of no use undoes nothing, and what is not set is as it was. -/
theorem older_names_give_way_of_port :
    let shadowed := holding (("PORT", "eighty") :: sparse)
    let spoiled := holding (("EXTMUX_LOG_JSON", "yes") :: sparse)
    (∃ c, mergeVariables shadowed {} = (.ok (), c) ∧
      mergeVariables (holding sparse) {} = (.ok (), c) ∧
      c.mergeVariables shadowed = (.ok (), c) ∧ c.host = "" ∧ c.tcpPort = 9100) ∧
    ∃ e c, mergeVariables spoiled {} = (.error e, c) ∧ c.extension.name = "scan" ∧
      c.controlPlane.token = none ∧
      ∃ before r after value, places = before ++ r :: after ∧ r.1.value? spoiled = some value ∧
        r.1.read value = .error e ∧ ∀ left ∈ r :: after, left.2.get c = left.2.get {} := by
  intro shadowed spoiled
  obtain ⟨same, unset, again, stops, _⟩ := older_names_give_way {}
  constructor
  · have agreed := same shadowed (holding sparse) agree_of_port
    have read : (mergeVariables shadowed {}).1.toOption = some () := by decide +kernel
    have told : (mergeVariables shadowed {}).2.host = "" ∧
        (mergeVariables shadowed {}).2.tcpPort = 9100 := by decide +kernel
    cases merged : mergeVariables shadowed {} with
    | mk result c =>
        rw [merged] at read told agreed
        cases result with
        | error e => cases read
        | ok done => exact ⟨c, rfl, agreed.symm, (again _ _ merged).2, told⟩
  · have unread : (mergeVariables spoiled {}).1.toOption = none := by decide +kernel
    have named : (mergeVariables spoiled {}).2.extension.name = "scan" := by decide +kernel
    have listed : ((all[11], .token) : Setting × Place) ∈ places :=
      List.mem_of_getElem (i := 11) (h := by decide) rfl
    have token : (mergeVariables spoiled {}).2.controlPlane.token = none :=
      unset spoiled _ listed rfl nofun
    cases merged : mergeVariables spoiled {} with
    | mk result c =>
        rw [merged] at unread named token
        cases result with
        | ok done => cases unread
        | error e =>
            obtain ⟨before, r, after, value, whole, set, bad, _, left⟩ := stops _ _ _ merged
            exact ⟨e, c, rfl, named, token, before, r, after, value, whole, set, bad, left⟩

end ServerConfig
end TenantRelay
