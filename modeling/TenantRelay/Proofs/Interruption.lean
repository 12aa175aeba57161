import TenantRelay.Proofs.DiskPaths
import TenantRelay.Proofs.Durability

/-!
Updates that do not come to their end. Until the draft takes the name of the file, the file holds
what it held, and it takes it at once. So nobody ever finds a part of a content, as long as the
draft is a file of its own. It is, unless the name of the file ends like that of a draft. Then the
file itself is written over, and a call that stops leaves it spoilt.
-/

namespace TenantRelay

open Document

namespace Entries

theorem encode_front (entries : Entries) : ∃ b rest, entries.encode = 0x7b :: b :: rest := by
  have text : entries.encode = Json.lines.text 0 entries.toJson [] := by
    rw [Json.text_lines, List.append_nil]
    rfl
  have gap : Json.lines.gap 1 = [0x0a, 0x20, 0x20] := by decide
  rw [text, toJson, Json.ofDict]
  cases (KeyMap.map Entry.toJson entries).entries with
  | nil => exact ⟨_, _, rfl⟩
  | cons first others =>
      rw [Json.Spacing.text, gap]
      exact ⟨_, _, rfl⟩

end Entries

namespace FileStore

open DirectoryStore

variable {store : FileStore} {call : StoreCall} {disk left : Disk} {u : Update}

/-- The draft and the file are two files. -/
def Apart (store : FileStore) (disk : Disk) : Prop :=
  ∀ place goal, disk.locate store.draft = .ok place → disk.locate store.path = .ok goal →
    Disk.key goal ≠ Disk.key place

def Drafts (store : FileStore) (disk : Disk) : Prop :=
  ∃ blank, disk.write store.draft [] = .ok blank

/-- Where a call may stop: before it writes anything, or with some of its draft written, up to all
of it. -/
inductive Stopped (store : FileStore) (call : StoreCall) (disk : Disk) : Disk → Prop where
  | unwritten : Stopped store call disk disk
  | drafting {u : Update} {cut : Disk} (n : Nat) :
      call.plan (store.load disk) = .save u →
      disk.write store.draft (u.entries.encode.take n) = .ok cut → Stopped store call disk cut

theorem serve_stops (store : FileStore) (call : StoreCall) (h : Holdings) :
    Stopped store call h.disk ((file store).serve [call] h).2.disk ∨
    ∃ u, call.plan (store.load h.disk) = .save u ∧
      ((file store).serve [call] h).1 = [u.answered] ∧ u.answered.fault? = none ∧
      ((file store).serve [call] h).2.disk.read store.path = .ok u.entries.encode := by
  rw [serve_file]
  split
  case h_1 a planned => exact .inl .unwritten
  case h_2 u planned =>
    unfold save
    cases wrote : h.disk.write store.draft u.entries.encode with
    | error fault => exact .inl .unwritten
    | ok written =>
        dsimp only
        cases moved : written.rename store.draft store.path with
        | error fault =>
            have whole := wrote
            rw [← List.take_length (l := u.entries.encode)] at whole
            exact .inl (.drafting _ planned whole)
        | ok renamed =>
            have read := (Disk.rename_changes moved).2 _ (Disk.read_write wrote)
            obtain ⟨_, _, entries, loaded⟩ := StoreCall.update_of_save planned
            have same := loaded ▸ planned
            exact .inr ⟨u, planned, rfl, StoreCall.fault?_of_save same, read⟩

theorem missing_of_load {entries : Entries} {fault : DiskFault}
    (loaded : store.load disk = .ok entries) (failed : disk.read store.path = .error fault) :
    fault = .noEntry := by
  simp only [load, failed] at loaded
  split at loaded
  case h_1 same => cases same
  case h_2 same =>
    cases same
    rfl
  case h_3 => cases loaded

theorem draft_ending : Disk.Ending "tmp" := ⟨by decide, by decide⟩

/-- If the draft is a file of its own, the file holds what it held wherever a call stops. -/
theorem Stopped.read (stopped : Stopped store call disk left) (apart : store.Apart disk) :
    left.read store.path = disk.read store.path := by
  cases stopped with
  | unwritten => rfl
  | drafting n planned wrote =>
      obtain ⟨place, located, _⟩ := Disk.write_gives wrote
      obtain ⟨_, _, entries, loaded⟩ := StoreCall.update_of_save planned
      cases reached : disk.locate store.path with
      | ok goal => exact Disk.read_write_other wrote located reached (apart _ _ located reached)
      | error fault =>
          -- Only what is missing is loaded without a place, and then the draft has none either.
          have failed : disk.read store.path = .error fault := by
            rw [Disk.read, reached]
            rfl
          cases missing_of_load loaded failed
          exact absurd located (Disk.beside_of_missing draft_ending reached)

theorem Stopped.eq (stopped : Stopped store call disk left) (barred : ¬ store.Drafts disk) :
    left = disk := by
  cases stopped with
  | unwritten => rfl
  | drafting n planned wrote => exact absurd (Disk.write_of_write wrote []) barred

theorem get_of_read (same : left.read store.path = disk.read store.path) (tenant : String) :
    store.get tenant left = store.get tenant disk := by
  simp only [get, load, same]

/-- What a stopped call can leave of a file: neither what was there nor what was to be there, and
nothing to be loaded. -/
structure Lost (store : FileStore) (call : StoreCall) (disk left : Disk) : Prop where
  stopped : Stopped store call disk left
  old : left.read store.path ≠ disk.read store.path
  new : ∀ u, call.plan (store.load disk) = .save u → left.read store.path ≠ .ok u.entries.encode
  unloaded : ∀ entries, store.load left ≠ .ok entries

theorem read_brace (together : ¬ store.Apart disk)
    (wrote : disk.write store.draft [0x7b] = .ok left) :
    left.read store.path = .ok [0x7b] ∨ left.read store.path = .error .notDirectory := by
  simp only [Apart, not_forall, ne_eq, not_not] at together
  obtain ⟨place, goal, located, reached, same⟩ := together
  cases plain : Disk.wantsDirectory store.path with
  | false => exact .inl (Disk.read_write_same wrote located reached same plain)
  | true =>
      have alike := Disk.alike_write wrote
      obtain ⟨own, leads, free, _, rfl⟩ := Disk.write_gives wrote
      cases leads.symm.trans located
      rw [Disk.read_of_located (alike.locate.mpr reached),
        Disk.node?_setNode_same (Disk.inside_of_node? free) same, plain]
      exact .inr rfl

theorem not_load_of_brace
    (read : left.read store.path = .ok [0x7b] ∨ left.read store.path = .error .notDirectory)
    (entries : Entries) : store.load left ≠ .ok entries := by
  rcases read with brace | fault
  · have unread : (Entries.decode [0x7b]).isOk = false := by decide +kernel
    rw [load_of_read brace]
    intro loaded
    rw [loaded] at unread
    cases unread
  · simp only [load, fault]
    intro loaded
    cases loaded

theorem lost_of_together (together : ¬ store.Apart disk) (drafts : store.Drafts disk)
    (planned : call.plan (store.load disk) = .save u) : ∃ left, Lost store call disk left := by
  obtain ⟨blank, wrote⟩ := drafts
  obtain ⟨left, wrote⟩ := Disk.write_of_write wrote [0x7b]
  obtain ⟨b, rest, front⟩ := u.entries.encode_front
  obtain ⟨_, _, entries, loaded⟩ := StoreCall.update_of_save planned
  have read := read_brace together wrote
  have unloaded := not_load_of_brace read
  refine ⟨left, .drafting 1 planned (by rw [front]; exact wrote), ?_, ?_, unloaded⟩
  · intro same
    apply unloaded entries
    rw [load, same]
    exact loaded
  · intro other own whole
    cases planned.symm.trans own
    rw [whole, front] at read
    rcases read with brace | fault
    · cases brace
    · cases fault

theorem apart_iff {goal : List String} (reached : disk.locate store.path = .ok goal) :
    store.Apart disk ↔
      Disk.Named store.path ∧ Disk.extension? store.path ≠ some "tmp" := by
  constructor
  · intro apart
    have named : Disk.Named store.path := by
      by_contra unnamed
      have same : store.draft = store.path := Disk.withExtension_of_not_named unnamed
      exact apart goal goal (same ▸ reached) reached rfl
    refine ⟨named, fun same => ?_⟩
    exact apart goal goal (named.together draft_ending same reached) reached rfl
  · rintro ⟨named, other⟩ place own located reached
    exact named.apart draft_ending other located reached

/-- An update replaces the file as a whole. A call that does not come to its end has stopped before
it touched the file, and whoever looks finds what was there before. This is so exactly where the
draft is a file of its own: otherwise every update that stops early can lose all there was. -/
theorem replaced_whole (store : FileStore) :
    (∀ call h, Stopped store call h.disk ((file store).serve [call] h).2.disk ∨
      ∃ u, call.plan (store.load h.disk) = .save u ∧
        ((file store).serve [call] h).1 = [u.answered] ∧ u.answered.fault? = none ∧
        ((file store).serve [call] h).2.disk.read store.path = .ok u.entries.encode) ∧
    (∀ disk, store.Apart disk → ∀ call left, Stopped store call disk left →
      left.read store.path = disk.read store.path ∧
        ∀ tenant, store.get tenant left = store.get tenant disk) ∧
    (∀ disk, ¬ store.Apart disk → store.Drafts disk →
      ∀ call u, call.plan (store.load disk) = .save u → ∃ left, Lost store call disk left) ∧
    (∀ disk, ¬ store.Drafts disk → ∀ call left, Stopped store call disk left → left = disk) ∧
    ∀ disk goal, disk.locate store.path = .ok goal →
      (store.Apart disk ↔ Disk.Named store.path ∧ Disk.extension? store.path ≠ some "tmp") := by
  refine ⟨serve_stops store, fun disk apart call left stopped => ?_,
    fun disk together drafts call u planned => lost_of_together together drafts planned,
    fun disk barred call left stopped => stopped.eq barred, fun disk goal => apart_iff⟩
  have same := stopped.read apart
  exact ⟨same, get_of_read same⟩

/-! A store whose draft is a file of its own, and two whose draft is not. -/

def scratch : FileStore := ⟨"/d/e.tmp"⟩

def folder : FileStore := ⟨"/d/e.tmp/"⟩

def ended : Update := ⟨.delete "acme", KeyMap.erase filed.entries "acme", .ok true⟩

theorem shelved_write (content : Bytes) : shelved.write "/d/e.tmp" content =
    .ok (shelved.setNode ["d", "e.tmp"] (.file content)) := by
  have located : shelved.locate "/d/e.tmp" = .ok ["d", "e.tmp"] := by decide +kernel
  have free : shelved.node? ["d", "e.tmp"] = none := by decide +kernel
  have above : shelved.node? ["d"] = some .directory := by decide +kernel
  have plain : Disk.wantsDirectory "/d/e.tmp" = false := by decide +kernel
  simp only [Disk.write, located, ok_bind, free, List.dropLast, above, plain, Bool.false_eq_true,
    ↓reduceIte]
  rfl

theorem drafted_read : drafted.read scratch.path = .ok filed.entries.encode :=
  Disk.read_write (shelved_write _)

theorem drafts_tmp : shelf.draft = "/d/e.tmp" ∧ scratch.draft = "/d/e.tmp" ∧
    folder.draft = "/d/e.tmp" := by
  decide +kernel

theorem shelf_planned : (StoreCall.put acme).plan (shelf.load shelved) = .save filed := by
  have read : shelved.read shelf.path = .error .noEntry := by decide +kernel
  simp only [load, read]
  rfl

theorem scratch_planned : (StoreCall.delete "acme").plan (scratch.load drafted) = .save ended := by
  have empty : (StoreCall.put acme).plan (.ok ∅) = .save filed := rfl
  have timely := StoreCall.timely_of_save Entries.timely_empty acme_timely empty
  rw [load_of_saved timely drafted_read]
  rfl

theorem scratch_drafts : scratch.Drafts drafted := by
  have admits : drafted.Admits scratch.draft :=
    ⟨⟨["d", "e.tmp"], by decide +kernel⟩, by decide +kernel⟩
  exact admits.write []

theorem replaced_whole_on_shelf :
    (∃ left, Stopped shelf (.put acme) shelved left ∧ left ≠ shelved ∧
      left.read shelf.path = shelved.read shelf.path ∧
      shelf.get "acme" left = shelf.get "acme" shelved) ∧
    ∃ left, Lost scratch (.delete "acme") drafted left := by
  obtain ⟨_, whole, _, _, shelfApart⟩ := replaced_whole shelf
  obtain ⟨_, _, lost, _, scratchApart⟩ := replaced_whole scratch
  refine ⟨?_, ?_⟩
  · have reached : shelved.locate shelf.path = .ok ["d", "e"] := by decide +kernel
    have named : Disk.Named shelf.path := ⟨by decide +kernel, by decide +kernel, by decide +kernel⟩
    have other : Disk.extension? shelf.path ≠ some "tmp" := by decide +kernel
    have apart := (shelfApart _ _ reached).mpr ⟨named, other⟩
    obtain ⟨b, rest, front⟩ := filed.entries.encode_front
    have cut : shelved.write shelf.draft (filed.entries.encode.take 1) =
        .ok (shelved.setNode ["d", "e.tmp"] (.file [0x7b])) := by
      rw [drafts_tmp.1, front]
      exact shelved_write [0x7b]
    have stopped : Stopped shelf (.put acme) shelved _ := .drafting 1 shelf_planned cut
    have same := whole _ apart _ _ stopped
    exact ⟨_, stopped, by decide +kernel, same.1, same.2 "acme"⟩
  · have reached : drafted.locate scratch.path = .ok ["d", "e.tmp"] := by decide +kernel
    have own : Disk.extension? scratch.path = some "tmp" := by decide +kernel
    have together : ¬ scratch.Apart drafted := by
      intro apart
      exact ((scratchApart _ _ reached).mp apart).2 own
    exact lost drafted together scratch_drafts _ ended scratch_planned

theorem folder_put : folder.put acme shelved =
    (.error (.io DiskFault.notDirectory.message), drafted) := by
  have missing : shelved.read folder.path = .error .noEntry := by decide +kernel
  have wrote : shelved.write folder.draft (Entries.encode (KeyMap.insert ∅ acme.tenant acme)) =
      .ok drafted := by
    rw [drafts_tmp.2.2]
    exact shelved_write _
  have kept : drafted.rename folder.draft folder.path = .error .notDirectory := by decide +kernel
  simp only [put, load, missing, save, wrote, kept]
  rfl

/-- A delete that stops after one byte leaves just that of the file, which is neither what was there
nor what was to be there. A put that is refused leaves its draft where there was nothing, and the
next lookup fails. -/
theorem draft_in_place :
    (∃ left, Stopped scratch (.delete "acme") drafted left ∧
      left.read scratch.path = .ok [0x7b] ∧
      drafted.read scratch.path ≠ .ok [0x7b] ∧ ended.entries.encode ≠ [0x7b]) ∧
    (folder.put acme shelved).1 = .error (.io DiskFault.notDirectory.message) ∧
    folder.get "acme" shelved = .ok none ∧
    folder.get "acme" (folder.put acme shelved).2 =
      .error (.io DiskFault.notDirectory.message) := by
  have missing : shelved.read folder.path = .error .noEntry := by decide +kernel
  have spoilt : drafted.read folder.path = .error .notDirectory := by decide +kernel
  obtain ⟨b, rest, front⟩ := ended.entries.encode_front
  obtain ⟨first, others, old⟩ := filed.entries.encode_front
  refine ⟨?_, ?_⟩
  · obtain ⟨blank, wrote⟩ := scratch_drafts
    obtain ⟨left, wrote⟩ := Disk.write_of_write wrote [0x7b]
    have cut : drafted.write scratch.draft (ended.entries.encode.take 1) = .ok left := by
      rw [front]
      exact wrote
    refine ⟨left, .drafting 1 scratch_planned cut, ?_, ?_, ?_⟩
    · rw [drafts_tmp.2.1] at wrote
      exact Disk.read_write wrote
    · rw [drafted_read, old]
      simp
    · rw [front]
      simp
  · rw [folder_put]
    refine ⟨rfl, ?_, ?_⟩
    · simp only [get, load, missing]
      rfl
    · simp only [get, load, spoilt]
      rfl

end FileStore
end TenantRelay
