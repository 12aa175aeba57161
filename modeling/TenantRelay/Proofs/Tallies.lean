import Mathlib.Data.List.Forall2
import TenantRelay.Directory.World
import TenantRelay.Proofs.Errands

/-!
The metrics of the directory. Calls are under way side by side and give way to each other where
they wait. However they do, each that has ended is counted once as what became of it, each lookup
that emptied the cache is counted, and the number of cached entries that is shown is the one that
there is.
-/

namespace TenantRelay

namespace Metrics

variable (m : Metrics) (ms : List Measure)

theorem count_counting {family : Metrics → Counts} {labels : List String}
    {counted : Measure → Bool}
    (step : ∀ m measure, (family (Measure.apply measure m)).count labels =
      (family m).count labels + if counted measure then 1 else 0) :
    (family (m.counting ms)).count labels = (family m).count labels + ms.countP counted := by
  induction ms generalizing m with
  | nil => rfl
  | cons measure rest ih =>
      simp only [counting, List.foldl_cons, List.countP_cons] at ih ⊢
      rw [ih, step]
      omega

theorem count_lookups (result : String) :
    (m.counting ms).lookups.count [result] =
      m.lookups.count [result] + ms.count (.lookup result) := by
  apply count_counting m ms
  intro m measure
  cases measure with
  | lookup other => simp [Measure.apply, recordLookup, Counts.count_add, eq_comm (a := result)]
  | _ => rfl

theorem count_provisioning (operation outcome : String) :
    (m.counting ms).provisioning.count [operation, outcome] =
      m.provisioning.count [operation, outcome] + ms.count (.provisioning operation outcome) := by
  apply count_counting m ms
  intro m measure
  cases measure with
  | provisioning other ending =>
      simp [Measure.apply, recordProvisioning, Counts.count_add, eq_comm (a := operation),
        eq_comm (a := outcome)]
  | _ => rfl

theorem count_refreshes (reason : String) :
    (m.counting ms).refreshes.count [reason] =
      m.refreshes.count [reason] + (ms.filterMap Measure.reason?).count reason := by
  rw [List.count_filterMap]
  apply count_counting m ms
  intro m measure
  cases measure with
  | refresh other cached =>
      simp [Measure.apply, recordRefresh, Counts.count_add, Measure.reason?, eq_comm (a := reason)]
  | _ => rfl

end Metrics

namespace Directory

structure Workload (σ : Type) where
  site : Site σ
  jobs : List Job := []

namespace Workload

variable {σ : Type} (s : Surroundings σ)

/-- What may come of a workload: calls are opened, one call at a time goes on from one wait to
the next, and the world around changes as it likes. Nobody else clears the cache. -/
inductive Progress (start : Workload σ) : Workload σ → Prop where
  | start : Progress start start
  | opening {x : Workload σ} (errand : Errand) : Progress start x →
      Progress start { x with jobs := x.jobs ++ [.opening errand] }
  | goOn {x : Workload σ} {before after : List Job} {job : Job} : Progress start x →
      x.jobs = before ++ job :: after →
      Progress start ⟨(job.goOn s x.site).2, before ++ (job.goOn s x.site).1 :: after⟩
  | world {x : Workload σ} (w : σ) : Progress start x →
      Progress start { x with site := { x.site with outside := w } }

/-- What holds of a workload that began with these metrics. -/
structure Kept (m : Metrics) (x : Workload σ) : Prop where
  sound : ∀ job ∈ x.jobs, job.Sound s
  gauged : x.site.Gauged
  counted : ∃ ms, x.site.metrics = some (m.counting ms) ∧
    ms.Perm (x.jobs.flatMap fun job => measures job.did)

variable {s} {m : Metrics} {start x : Workload σ}

theorem Kept.goOn {before after : List Job} {job : Job} (kept : x.Kept s m)
    (there : x.jobs = before ++ job :: after) :
    Kept s m ⟨(job.goOn s x.site).2, before ++ (job.goOn s x.site).1 :: after⟩ := by
  have sound : ∀ other ∈ before ++ job :: after, other.Sound s := there ▸ kept.sound
  have went := (sound job (by simp)).goOn kept.gauged
  constructor
  · intro other member
    simp only [List.mem_append, List.mem_cons] at member sound
    rcases member with earlier | rfl | later
    · exact sound other (.inl earlier)
    · exact went.1
    · exact sound other (.inr (.inr later))
  · exact went.2
  · obtain ⟨ms, metered, same⟩ := kept.counted
    refine ⟨ms ++ measures (x.site.during s job.rest), ?_, ?_⟩
    · show (x.site.stretch s job.rest).2.metrics = _
      rw [Site.metrics_stretch, metered]
      simp [Metrics.counting]
    · -- What was counted in this stretch moves to the end of the call that counted it.
      rw [there] at same
      simp only [Job.goOn, List.flatMap_append, List.flatMap_cons, measures_append] at same ⊢
      refine (same.append_right _).trans ?_
      simp only [List.append_assoc]
      exact ((List.perm_append_comm).append_left _).append_left _

theorem Progress.kept (idle : start.jobs = []) (metered : start.site.metrics = some m)
    (level : m.cached = start.site.cache.size) (run : Progress s start x) : x.Kept s m := by
  induction run with
  | start =>
      constructor
      · intro job member
        rw [idle] at member
        cases member
      · exact ⟨m, metered, level⟩
      · exact ⟨[], metered, by simp [idle]⟩
  | opening errand _ ih =>
      constructor
      · intro job member
        rcases List.mem_append.mp member with earlier | last
        · exact ih.sound job earlier
        · rw [List.mem_singleton.mp last]
          exact Job.sound_opening errand
      · exact ih.gauged
      · obtain ⟨ms, metered, same⟩ := ih.counted
        exact ⟨ms, metered, by simpa [Job.opening, measures] using same⟩
  | goOn _ there ih => exact ih.goOn there
  | world w _ ih => exact ⟨ih.sound, ih.gauged, ih.counted⟩

/-! Workloads by a schedule. -/

inductive Move (σ : Type) where
  | opening (errand : Errand)
  | goOn (call : Nat)
  | world (change : σ → σ)

def move (s : Surroundings σ) (x : Workload σ) : Move σ → Workload σ
  | .opening errand => { x with jobs := x.jobs ++ [.opening errand] }
  | .goOn call =>
    match x.jobs.drop call with
    | [] => x
    | job :: after =>
      ⟨(job.goOn s x.site).2, x.jobs.take call ++ (job.goOn s x.site).1 :: after⟩
  | .world change => { x with site := { x.site with outside := change x.site.outside } }

def play (s : Surroundings σ) (moves : List (Move σ)) (x : Workload σ) : Workload σ :=
  moves.foldl (move s) x

theorem Progress.play (run : Progress s start x) (moves : List (Move σ)) :
    Progress s start (x.play s moves) := by
  induction moves generalizing x with
  | nil => exact run
  | cons next rest ih =>
      apply ih
      cases next with
      | opening errand => exact .opening errand run
      | goOn call =>
          simp only [move]
          split
          · exact run
          · rename_i job after left
            apply run.goOn
            rw [← left, List.take_append_drop]
      | world change => exact .world _ run

/-! The metrics of a workload, by what its calls are entered under. -/

/-- Each call is entered under its own measure, in the order of the calls. -/
def Books (jobs : List Job) (entries : List (Option Measure)) : Prop :=
  List.Forall₂ (fun job entry => job.Booked entry ∧ Fits job.did entry) jobs entries

theorem exists_books {jobs : List Job} (sound : ∀ job ∈ jobs, job.Sound s) :
    ∃ entries, Books jobs entries := by
  induction jobs with
  | nil => exact ⟨[], .nil⟩
  | cons job rest ih =>
      obtain ⟨entry, booked⟩ := (sound job List.mem_cons_self).exists_booked
      obtain ⟨entries, books⟩ := ih fun other member => sound other (List.mem_cons_of_mem _ member)
      exact ⟨entry :: entries, .cons booked books⟩

theorem Books.calls {jobs : List Job} {entries : List (Option Measure)}
    (books : Books jobs entries) :
    (jobs.flatMap fun job => measures job.did).filter Measure.entersCall =
      entries.filterMap id := by
  induction books with
  | nil => rfl
  | @cons job entry jobs entries head _ ih =>
      rw [List.flatMap_cons, List.filter_append, head.2.calls, ih]
      cases entry <;> rfl

theorem Books.refreshes {jobs : List Job} {entries : List (Option Measure)}
    (books : Books jobs entries) :
    (jobs.flatMap fun job => measures job.did).filterMap Measure.reason? =
      List.replicate ((jobs.flatMap Job.did).countP Happening.emptied) "ttl_expired" := by
  induction books with
  | nil => rfl
  | cons head _ ih =>
      rw [List.flatMap_cons, List.filterMap_append, head.2.refreshes, ih, List.flatMap_cons,
        List.countP_append, List.replicate_add]

theorem Books.count {jobs : List Job} {entries : List (Option Measure)} {measure : Measure}
    (books : Books jobs entries) (enters : measure.entersCall = true) :
    (jobs.flatMap fun job => measures job.did).count measure = entries.count (some measure) := by
  -- Of all that was counted only what enters calls can be this measure.
  rw [← List.count_filter enters, books.calls, List.count_filterMap]
  rfl

/-- The metrics add up. Whatever calls are under way and however far they have come, the number of
cached entries that is shown is the number that there is, each resolve that ended is counted once
under where its answer came from unless the store failed it, each operation that somebody waited
for is counted once under its result, and a refresh is counted for each lookup that emptied the
cache. Nothing else is counted there. -/
theorem metrics_add_up (idle : start.jobs = []) (metered : start.site.metrics = some m)
    (level : m.cached = start.site.cache.size) (run : Progress s start x) :
    (∃ after entries, x.site.metrics = some after ∧
      after.cached = x.site.cache.size ∧
      List.Forall₂ Job.Booked x.jobs entries ∧
      (∀ result, after.lookups.count [result] =
        m.lookups.count [result] + entries.count (some (.lookup result))) ∧
      (∀ operation outcome, after.provisioning.count [operation, outcome] =
        m.provisioning.count [operation, outcome] +
          entries.count (some (.provisioning operation outcome))) ∧
      ∀ reason, after.refreshes.count [reason] = m.refreshes.count [reason] +
        if reason = "ttl_expired" then (x.jobs.flatMap Job.did).countP Happening.emptied else 0) ∧
    ∀ (site : Site σ) tenant, (site.answer s (.lookup tenant)).1 = .expired ↔
      (site.answer s (.lookup tenant)).2.cache = site.cache.clear := by
  constructor
  · have kept := run.kept idle metered level
    obtain ⟨ms, counted, same⟩ := kept.counted
    obtain ⟨entries, books⟩ := exists_books kept.sound
    obtain ⟨after, shown, gauge⟩ := kept.gauged
    obtain rfl : after = m.counting ms := Option.some.inj (shown.symm.trans counted)
    refine ⟨_, entries, shown, gauge, books.imp fun _ _ both => both.1, ?_, ?_, ?_⟩
    · intro result
      rw [Metrics.count_lookups, same.count_eq, books.count rfl]
    · intro operation outcome
      rw [Metrics.count_provisioning, same.count_eq, books.count rfl]
    · intro reason
      rw [Metrics.count_refreshes, (same.filterMap _).count_eq, books.refreshes,
        List.count_replicate]
      simp only [beq_iff_eq, eq_comm (a := reason)]
  · exact fun site tenant => Cache.lookup_eq_expired_iff _ _ _

def fresh : Workload World :=
  ⟨{ metrics := some {}, outside := { address := fun tenant => "http://" ++ tenant } }, []⟩

def troubled : Workload World :=
  -- An instance is made, its entry grows too old, and it is removed while somebody has just read
  -- the entry in the store. Then the store and the control plane fail.
  fresh.play (World.surroundings .passThrough fun _ w => (.ok ⟨200, []⟩, w))
    [.opening (.provision "acme" true), .goOn 0, .goOn 0, .goOn 0, .goOn 0,
     .world fun w => { w with clock := 20000 },
     .opening (.resolve "acme"), .goOn 1,
     .opening (.deprovision "acme" true), .goOn 2, .goOn 2, .goOn 2,
     .goOn 1, .opening (.resolve "acme"), .goOn 3, .goOn 3,
     .world fun w =>
       { w with
         faults :=
           { get := .standing (some (.store "down"))
             reach := .standing (some (.api 500 ""))
             destroy := .standing (some (.api 500 "")) } },
     .opening (.resolve "acme"), .goOn 4, .goOn 4,
     .opening (.provision "acme" true), .goOn 5, .goOn 5, .goOn 5, .goOn 5, .goOn 5, .goOn 5]

theorem metrics_add_up_troubled :
    troubled.site.metrics.map (fun m => (m.cached, m.lookups, m.refreshes, m.provisioning)) =
      some (0, [(["miss"], 1), (["not_found"], 1)], [(["ttl_expired"], 1)],
        [(["provision", "success"], 1), (["deprovision", "success"], 1),
         (["provision", "compensation_failed"], 1)]) ∧
    ∃ after entries, troubled.site.metrics = some after ∧
      after.cached = troubled.site.cache.size ∧
      List.Forall₂ Job.Booked troubled.jobs entries ∧
      ∀ result, after.lookups.count [result] = entries.count (some (.lookup result)) := by
  have run : Progress _ fresh troubled := Progress.play .start _
  obtain ⟨⟨after, entries, shown, gauge, booked, lookups, _⟩, _⟩ :=
    metrics_add_up (m := {}) rfl rfl rfl run
  refine ⟨rfl, after, entries, shown, gauge, booked, fun result => ?_⟩
  rw [lookups]
  simp [Counts.count]

end Workload

end Directory
end TenantRelay
