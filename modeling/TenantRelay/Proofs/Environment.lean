import Mathlib.Data.List.TakeWhile
import TenantRelay.Instance.Spec

/-!
What a template can say about the environment of an instance, and what it cannot. Of the two
variables that the relay sets itself no entry of a template counts, however often or badly it
names them; all others are passed on as they stand, in their order.
-/

namespace TenantRelay

/-- An entry spells a variable. Its name ends at the first equals sign of the entry, so there may
be more of them in its value. -/
def EnvVar.WrittenAs (v : EnvVar) (entry : String) : Prop :=
  '=' ∉ v.name.toList ∧ entry = v.name ++ "=" ++ v.value

def Reserved (name : String) : Prop := name = "LC_SHARED_SECRET" ∨ name = "FROM_LC_OID"

instance (name : String) : Decidable (Reserved name) := inferInstanceAs (Decidable (_ ∨ _))

/-- The variables that a template sets apart from the reserved ones, in its order. -/
inductive Passed : List String → List EnvVar → Prop where
  | nil : Passed [] []
  | malformed {entry : String} {env : List String} {vars : List EnvVar} :
      '=' ∉ entry.toList → Passed env vars → Passed (entry :: env) vars
  | reserved {entry : String} {env : List String} {v : EnvVar} {vars : List EnvVar} :
      v.WrittenAs entry → Reserved v.name → Passed env vars → Passed (entry :: env) vars
  | passed {entry : String} {env : List String} {v : EnvVar} {vars : List EnvVar} :
      v.WrittenAs entry → ¬Reserved v.name → Passed env vars → Passed (entry :: env) (v :: vars)

namespace InstanceSpec

variable {entry name value secret tenant : String} {env : List String}

theorem splitEntry_eq_none_iff : splitEntry entry = none ↔ '=' ∉ entry.toList := by
  unfold splitEntry
  constructor
  · intro unsplit member
    split at unsplit
    case h_1 nothing =>
      have passed := List.dropWhile_eq_nil_iff.mp nothing '=' member
      simp at passed
    case h_2 => cases unsplit
  · intro unmarked
    have nothing : entry.toList.dropWhile (· != '=') = [] := by
      apply List.dropWhile_eq_nil_iff.mpr
      intro c member
      exact bne_iff_ne.mpr fun same => unmarked (same ▸ member)
    rw [nothing]

theorem splitEntry_eq_some_iff :
    splitEntry entry = some (name, value) ↔ EnvVar.WrittenAs ⟨name, value⟩ entry := by
  constructor
  · intro split
    unfold splitEntry at split
    split at split
    case h_1 => cases split
    case h_2 mark rest tail =>
      cases split
      constructor
      · intro member
        rw [String.toList_ofList] at member
        have before := List.mem_takeWhile_imp member
        simp at before
      · -- What is dropped begins with the mark, as that is what the dropping stops at.
        have marked : mark = '=' := by
          have stops := List.head?_dropWhile_not (· != '=') entry.toList
          rw [tail] at stops
          simpa using stops
        rw [← String.toList_inj]
        have whole := List.takeWhile_append_dropWhile (p := (· != '=')) (l := entry.toList)
        rw [tail, marked] at whole
        simpa using whole.symm
  · rintro ⟨unmarked, rfl⟩
    have before : ∀ c ∈ name.toList, (c != '=') = true := by
      intro c member
      exact bne_iff_ne.mpr fun same => unmarked (same ▸ member)
    have whole : (name ++ "=" ++ value).toList = name.toList ++ '=' :: value.toList := by
      simp
    unfold splitEntry
    rw [whole, List.dropWhile_append_of_pos before, List.takeWhile_append_of_pos before,
      List.dropWhile_cons_of_neg (by simp), List.takeWhile_cons_of_neg (by simp)]
    simp

/-- A template says for each entry what is passed on of it, so it says it of the whole. -/
theorem passed_unique {vars others : List EnvVar} (one : Passed env vars)
    (other : Passed env others) : vars = others := by
  have marked : ∀ {v : EnvVar} {entry : String}, v.WrittenAs entry → '=' ∈ entry.toList := by
    rintro v entry ⟨_, rfl⟩
    simp
  have unique : ∀ {v w : EnvVar} {entry : String}, v.WrittenAs entry → w.WrittenAs entry →
      v = w := by
    intro v w entry first second
    have same := (splitEntry_eq_some_iff.mpr first).symm.trans (splitEntry_eq_some_iff.mpr second)
    cases v
    cases w
    cases same
    rfl
  induction one generalizing others with
  | nil =>
      cases other
      rfl
  | malformed unmarked _ ih =>
      cases other with
      | malformed _ rest => exact ih rest
      | reserved written _ _ => exact absurd (marked written) unmarked
      | passed written _ _ => exact absurd (marked written) unmarked
  | reserved written own _ ih =>
      cases other with
      | malformed unmarked _ => exact absurd (marked written) unmarked
      | reserved _ _ rest => exact ih rest
      | passed written' foreign _ => exact absurd (unique written written' ▸ own) foreign
  | passed written foreign _ ih =>
      cases other with
      | malformed unmarked _ => exact absurd (marked written) unmarked
      | reserved written' own _ => exact absurd (unique written' written ▸ own) foreign
      | passed written' _ rest => rw [unique written written', ih rest]

theorem resolveEntry_cases (secret entry : String) :
    ('=' ∉ entry.toList ∧ resolveEntry secret entry = none) ∨
    ∃ v : EnvVar, v.WrittenAs entry ∧
      resolveEntry secret entry =
        if v.name = "FROM_LC_OID" then none
        else some ⟨v.name, if v.name = "LC_SHARED_SECRET" then secret else v.value⟩ := by
  cases found : splitEntry entry with
  | none => exact Or.inl ⟨splitEntry_eq_none_iff.mp found, by rw [resolveEntry, found]⟩
  | some parts =>
      obtain ⟨name, value⟩ := parts
      exact Or.inr ⟨⟨name, value⟩, splitEntry_eq_some_iff.mp found, by rw [resolveEntry, found]; rfl⟩

theorem name_ne_of_kept {v : EnvVar} (kept : v ∈ env.filterMap (resolveEntry secret)) :
    v.name ≠ "FROM_LC_OID" := by
  obtain ⟨entry, _, resolved⟩ := List.mem_filterMap.mp kept
  rcases resolveEntry_cases secret entry with ⟨_, none⟩ | ⟨w, _, whole⟩
  · cases none.symm.trans resolved
  · rw [whole] at resolved
    split at resolved
    case isTrue => cases resolved
    case isFalse other =>
      cases resolved
      exact other

theorem value_of_kept {v : EnvVar} (kept : v ∈ env.filterMap (resolveEntry secret))
    (own : v.name = "LC_SHARED_SECRET") : v.value = secret := by
  obtain ⟨entry, _, resolved⟩ := List.mem_filterMap.mp kept
  rcases resolveEntry_cases secret entry with ⟨_, none⟩ | ⟨w, _, whole⟩
  · cases none.symm.trans resolved
  · rw [whole] at resolved
    split at resolved
    case isTrue => cases resolved
    case isFalse =>
      cases resolved
      exact if_pos own

theorem passed_of_kept (env : List String) (secret : String) :
    Passed env ((env.filterMap (resolveEntry secret)).filter fun v => ¬Reserved v.name) := by
  induction env with
  | nil => exact .nil
  | cons entry env ih =>
      rcases resolveEntry_cases secret entry with ⟨unmarked, none⟩ | ⟨v, written, whole⟩
      · rw [List.filterMap_cons_none none]
        exact .malformed unmarked ih
      · by_cases tenantName : v.name = "FROM_LC_OID"
        · rw [if_pos tenantName] at whole
          rw [List.filterMap_cons_none whole]
          exact .reserved written (Or.inr tenantName) ih
        · rw [if_neg tenantName] at whole
          rw [List.filterMap_cons_some whole]
          by_cases secretName : v.name = "LC_SHARED_SECRET"
          · have dropped : Reserved v.name := Or.inl secretName
            rw [List.filter_cons_of_neg (by simpa using dropped)]
            exact .reserved written dropped ih
          · have foreign : ¬Reserved v.name := by
              rintro (own | own)
              · exact secretName own
              · exact tenantName own
            rw [if_neg secretName, List.filter_cons_of_pos (by simpa using foreign)]
            exact .passed written foreign ih

theorem resolveEnv_parts (env : List String) (tenant secret : String) :
    ∃ own : List EnvVar, resolveEnv env tenant secret =
        env.filterMap (resolveEntry secret) ++ own ++ [⟨"FROM_LC_OID", tenant⟩] ∧
      (∀ v ∈ own, v = ⟨"LC_SHARED_SECRET", secret⟩) ∧
      ∃ v ∈ env.filterMap (resolveEntry secret) ++ own, v.name = "LC_SHARED_SECRET" := by
  refine ⟨_, rfl, ?_⟩
  by_cases placed : (env.filterMap (resolveEntry secret)).any (·.name == secretVariable) = true
  · rw [if_pos placed]
    obtain ⟨v, member, own⟩ := List.any_eq_true.mp placed
    constructor
    · intro v none
      cases none
    · exact ⟨v, List.mem_append_left _ member, beq_iff_eq.mp own⟩
  · rw [if_neg placed]
    constructor
    · intro v added
      exact List.mem_singleton.mp added
    · exact ⟨⟨"LC_SHARED_SECRET", secret⟩, List.mem_append_right _ List.mem_cons_self, rfl⟩

theorem env_build (extension tenant : String) (d : Definition) (secret : String) :
    (build extension tenant d secret).env = resolveEnv d.env tenant secret := rfl

theorem value_of_secret (extension tenant : String) (d : Definition) (secret : String) :
    ∀ v ∈ (build extension tenant d secret).env, v.name = "LC_SHARED_SECRET" →
      v.value = secret := by
  obtain ⟨own, whole, secrets, _⟩ := resolveEnv_parts d.env tenant secret
  intro v member secretName
  rw [env_build, whole] at member
  rcases List.mem_append.mp member with front | last
  · rcases List.mem_append.mp front with kept | added
    · exact value_of_kept kept secretName
    · rw [secrets v added]
  · rw [List.mem_singleton.mp last] at secretName
    exact absurd secretName (by decide : "FROM_LC_OID" ≠ "LC_SHARED_SECRET")

theorem tenant_last (extension tenant : String) (d : Definition) (secret : String) :
    ∃ front, (build extension tenant d secret).env = front ++ [⟨"FROM_LC_OID", tenant⟩] ∧
      ∀ v ∈ front, v.name ≠ "FROM_LC_OID" := by
  obtain ⟨own, whole, secrets, _⟩ := resolveEnv_parts d.env tenant secret
  refine ⟨_, whole, ?_⟩
  intro v front
  rcases List.mem_append.mp front with kept | added
  · exact name_ne_of_kept kept
  · rw [secrets v added]
    exact (by decide : "LC_SHARED_SECRET" ≠ "FROM_LC_OID")

theorem passed_build (extension tenant : String) (d : Definition) (secret : String) :
    Passed d.env
      ((build extension tenant d secret).env.filter fun v => ¬Reserved v.name) := by
  obtain ⟨own, whole, secrets, _⟩ := resolveEnv_parts d.env tenant secret
  have unseen : own.filter (fun v => ¬Reserved v.name) = [] := by
    apply List.filter_eq_nil_iff.mpr
    intro v added
    rw [secrets v added]
    simp [Reserved]
  have last : [EnvVar.mk "FROM_LC_OID" tenant].filter (fun v => ¬Reserved v.name) = [] := rfl
  rw [env_build, whole, List.filter_append, List.filter_append, unseen, last, List.append_nil,
    List.append_nil]
  exact passed_of_kept d.env secret

theorem envValue_eq_some {s : InstanceSpec} (there : ∃ v ∈ s.env, v.name = name)
    (one : ∀ v ∈ s.env, v.name = name → v.value = value) : s.envValue name = some value := by
  unfold envValue
  cases found : s.env.find? (·.name == name) with
  | none =>
      obtain ⟨v, member, named⟩ := there
      exact absurd (beq_iff_eq.mpr named) (List.find?_eq_none.mp found v member)
  | some v =>
      have named := List.find?_some found
      exact congrArg some (one v (List.mem_of_find?_eq_some found) (beq_iff_eq.mp named))

/-- Whatever the template says, an instance gets the secret that it was made with, and no other
under that name; it is told whose it is once, at the end; all other variables are those of the
template in their order; and its labels are those of the template but for the two of the relay. -/
theorem environment_unspoofed (extension tenant : String) (d : Definition) (secret : String) :
    (∃ v ∈ (build extension tenant d secret).env, v.name = "LC_SHARED_SECRET") ∧
    (∀ v ∈ (build extension tenant d secret).env, v.name = "LC_SHARED_SECRET" →
      v.value = secret) ∧
    (∃ front, (build extension tenant d secret).env = front ++ [⟨"FROM_LC_OID", tenant⟩] ∧
      ∀ v ∈ front, v.name ≠ "FROM_LC_OID") ∧
    (∀ vars, Passed d.env vars ↔
      vars = (build extension tenant d secret).env.filter fun v => ¬Reserved v.name) ∧
    (build extension tenant d secret).envValue "LC_SHARED_SECRET" = some secret ∧
    (build extension tenant d secret).envValue "FROM_LC_OID" = some tenant ∧
    ∀ label, (build extension tenant d secret).labels.find? label =
      if label = "lc-extension" then some extension
      else if label = "lc-oid" then some tenant
      else d.labels.find? label := by
  have placed : ∃ v ∈ (build extension tenant d secret).env, v.name = "LC_SHARED_SECRET" := by
    obtain ⟨own, whole, _, v, member, named⟩ := resolveEnv_parts d.env tenant secret
    refine ⟨v, ?_, named⟩
    rw [env_build, whole]
    exact List.mem_append_left _ member
  have secrets := value_of_secret extension tenant d secret
  obtain ⟨front, whole, others⟩ := tenant_last extension tenant d secret
  refine ⟨placed, secrets, ⟨front, whole, others⟩, ?_, envValue_eq_some placed secrets,
    envValue_eq_some ?_ ?_, ?_⟩
  · intro vars
    constructor
    · intro passed
      exact passed_unique passed (passed_build extension tenant d secret)
    · rintro rfl
      exact passed_build extension tenant d secret
  · rw [whole]
    exact ⟨_, List.mem_append_right _ List.mem_cons_self, rfl⟩
  · intro v member tenantName
    rw [whole] at member
    rcases List.mem_append.mp member with earlier | last
    · exact absurd tenantName (others v earlier)
    · rw [List.mem_singleton.mp last]
  · intro label
    rw [build, KeyMap.find?_insert, KeyMap.find?_insert]
    rfl

end InstanceSpec
end TenantRelay
