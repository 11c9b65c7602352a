import Mathlib
import JobFlow.Proofs.System.Runners

/-!
# Both copies of a master link

A child's master is kept twice: in the child's row, where the master's query for its children
finds it, and at `generic/master_id` in the child's record, where the child reads it to tell
its master it ended.
-/

open Std.Do

set_option mvcgen.warning false

namespace JobFlow

namespace Layout

open RecordPath

/-- The segments of the input's path. -/
def inputAt : List String := ["input"]

/-- The segments of the server settings' path. -/
def serverAt : List String := ["generic", "server"]

/-- The segments of the master link's path. -/
def masterIdAt : List String := ["generic", "master_id"]

theorem valid_inputAt : Valid inputAt := by unfold Valid; decide

theorem valid_serverAt : Valid serverAt := by unfold Valid; decide

theorem valid_masterIdAt : Valid masterIdAt := by unfold Valid; decide

theorem normalize_input : normalize input = .ok (ofSegments inputAt) := by
  have spelled : input = ofSegments inputAt := by decide +kernel
  rw [spelled]
  exact normalize_ofSegments valid_inputAt

theorem normalize_server : normalize server = .ok (ofSegments serverAt) := by
  have spelled : server = ofSegments serverAt := by decide +kernel
  rw [spelled]
  exact normalize_ofSegments valid_serverAt

theorem normalize_masterId : normalize masterId = .ok (ofSegments masterIdAt) := by
  have spelled : masterId = ofSegments masterIdAt := by decide +kernel
  rw [spelled]
  exact normalize_ofSegments valid_masterIdAt

end Layout

theorem Json.ofOptNat_ne_obj (o : Option Nat) (fs : List (String × Json)) : Json.ofOptNat o ≠ .obj fs := by
  cases o <;> simp [Json.ofOptNat, Json.ofNat]

theorem Json.ofOptString_ne_obj (o : Option String) (fs : List (String × Json)) : Json.ofOptString o ≠ .obj fs := by
  cases o <;> simp [Json.ofOptString]

theorem ServerConfig.toJson_sorted (s : ServerConfig) : s.toJson.Sorted := by
  -- the extra arguments are an object of strings; every other setting is a leaf
  have arguments : (Json.mkObj (s.additionalArguments.map fun kv => (kv.1, Json.str kv.2))).Sorted :=
    Json.sorted_mkObj fun kv mem => by
      obtain ⟨arg, -, rfl⟩ := List.mem_map.1 mem
      exact Json.Sorted.of_not_obj (by simp)
  refine Json.sorted_mkObj fun kv mem => ?_
  simp only [List.mem_cons, List.not_mem_nil, or_false] at mem
  rcases mem with rfl | rfl | rfl | rfl | rfl | rfl | rfl | rfl | rfl | rfl <;>
    first
    | exact arguments
    | exact Json.Sorted.of_not_obj fun fs => by simp [Json.ofOptNat_ne_obj, Json.ofOptString_ne_obj, Json.ofNat]

namespace RecordTree

theorem write_eq_setAt {t v t' : Json} {p : List String} (ne : p ≠ []) (ok : write t p v = .ok t') :
    t' = t.setAt p v := by
  unfold write at ok
  simp only [ne, ↓reduceIte] at ok
  split at ok
  · cases ok
  · split at ok
    · cases ok
    · cases ok
      rfl

end RecordTree

variable (c : JobContext) (t : Json) (st : Status)

/-- A handle on the job opens the job's record. -/
theorem Job.record_shows (j : Job) (path : j.identity.storagePath = c.storagePath) :
    ⦃fun s => ⌜c.Shows t st s⌝⦄ j.record
    ⦃post⟨fun r s => ⌜c.Shows t st s ∧ c.Stored s r ∧ RecordTree.Holds t r ∧ r.checkFormat = .ok ()⌝,
      fun _ _ => ⌜False⌝⟩⦄ := by
  have same : j.record = c.record := by simp [Job.record, JobContext.record, path]
  rw [same]
  exact JobContext.record_shows c t st

/-- Writes in a scope on the job's record: when they go through, the record holds the tree the
same writes make of its tree. -/
theorem Sys.writeScoped_shows {r : Record} (ws : List (String × Json)) (sorted : ∀ kv ∈ ws, kv.2.Sorted)
    (named : ∀ kv ∈ ws, ∃ n, RecordPath.normalize kv.1 = .ok n ∧ n ≠ "") :
    ⦃fun s => ⌜c.Shows t st s ∧ c.Stored s r ∧ RecordTree.Holds t r ∧ r.checkFormat = .ok ()⌝⦄
    Sys.writeScoped r ws
    ⦃post⟨fun _ s => ⌜∃ t', ws.foldlM (fun t kv => (RecordTree.ScopedCall.write kv.1 kv.2).apply [] t) t = .ok t' ∧
        c.Shows t' st s⌝, fun _ _ => ⌜True⌝⟩⦄ := by
  -- the held-row specs of the runners would be taken for these calls: they are set aside here
  mvcgen [Sys.writeScoped, Sys.saveRecord, -Sys.writeScoped_keepsHeld, -Sys.saveRecord_keepsHeld]
  rename_i mine _ committed _
  obtain ⟨shows, stored, holds, format⟩ := mine
  have written := Record.writes_spec holds format ws sorted named
  cases applied : ws.foldlM (fun t kv => (RecordTree.ScopedCall.write kv.1 kv.2).apply [] t) t with
  | error e =>
    simp only [applied] at written
    rw [written] at committed
    cases committed
  | ok t' =>
    simp only [applied] at written
    obtain ⟨r', write, holds', path, config, format'⟩ := written
    rw [write] at committed
    cases committed
    exact ⟨t', rfl, shows.save (path.trans stored.path) (config.trans stored.config) holds' format'⟩

/-- The writes of a save are of sorted values, when the handle's input is. -/
theorem saveWrites_sorted {input : List (String × Json)} (inputSorted : ∀ kv ∈ input, kv.2.Sorted)
    (server : ServerConfig) (m : Option Nat) :
    ∀ kv ∈ [(Layout.input, Json.mkObj input), (Layout.server, server.toJson), (Layout.masterId, Json.ofOptNat m)],
      kv.2.Sorted := by
  intro kv mem
  simp only [List.mem_cons, List.not_mem_nil, or_false] at mem
  rcases mem with rfl | rfl | rfl
  · exact Json.sorted_mkObj inputSorted
  · exact server.toJson_sorted
  · exact Json.Sorted.of_not_obj (Json.ofOptNat_ne_obj m)

/-- The writes of a save go below the root. -/
theorem saveWrites_named (input server v : Json) :
    ∀ kv ∈ [(Layout.input, input), (Layout.server, server), (Layout.masterId, v)],
      ∃ n, RecordPath.normalize kv.1 = .ok n ∧ n ≠ "" := by
  intro kv mem
  simp only [List.mem_cons, List.not_mem_nil, or_false] at mem
  rcases mem with rfl | rfl | rfl
  · exact ⟨_, Layout.normalize_input, Record.full_of_valid Layout.valid_inputAt (by decide)⟩
  · exact ⟨_, Layout.normalize_server, Record.full_of_valid Layout.valid_serverAt (by decide)⟩
  · exact ⟨_, Layout.normalize_masterId, Record.full_of_valid Layout.valid_masterIdAt (by decide)⟩

/-- The writes of a save end with the master link: when they all go through, the tree holds the
link written. -/
theorem saveWrites_masterId {t t' input server : Json} {m : Option Nat}
    (ok : [(Layout.input, input), (Layout.server, server), (Layout.masterId, Json.ofOptNat m)].foldlM
      (fun t kv => (RecordTree.ScopedCall.write kv.1 kv.2).apply [] t) t = .ok t') :
    t'.at? Layout.masterIdAt = some (.ofOptNat m) := by
  simp only [List.foldlM_cons, List.foldlM_nil] at ok
  obtain ⟨t₁, -, rest⟩ := Disk.bind_eq_ok.1 ok
  obtain ⟨t₂, -, last⟩ := Disk.bind_eq_ok.1 rest
  obtain ⟨t₃, wrote, done⟩ := Disk.bind_eq_ok.1 last
  cases done
  rw [RecordTree.apply_write Layout.normalize_masterId Layout.valid_masterIdAt] at wrote
  rw [RecordTree.write_eq_setAt (by decide) wrote]
  exact Json.at?_setAt_self _ _ _

/-- Saving a handle on a saved job whose record is still editable writes the handle's master
link into the record. -/
theorem Job.save_writes_master {x : Status} (found : t.at? Layout.statusAt = some (.str x.name))
    (editable : x = .initialized ∨ x = .created) (j₀ : Job) (saved : j₀.identity.jobId = some c.jobId)
    (path : j₀.identity.storagePath = c.storagePath) (inputSorted : ∀ kv ∈ j₀.input, kv.2.Sorted) :
    ⦃fun j s => ⌜j = j₀ ∧ c.Shows t st s⌝⦄ Job.save
    ⦃post⟨fun id _ s => ⌜id = c.jobId ∧ ∃ t', c.Shows t' st s ∧ t'.at? Layout.masterIdAt = some (.ofOptNat j₀.masterId)⌝,
      fun _ _ _ => ⌜True⌝⟩⦄ := by
  -- the save reads the handle first; from there on it is the handle given, which has an id
  unfold Job.save
  refine Triple.bind _ _ (Q := fun j _ s => ⌜j = j₀ ∧ c.Shows t st s⌝) (by mvcgen) fun j => ?_
  by_cases same : j = j₀
  · subst same
    simp only [saved]
    have opens := Job.record_shows c t st j path
    have reads := fun r => JobContext.storedStatus_holds c t st (r := r) found
    have writes := fun r => Sys.writeScoped_shows c t st (r := r)
      [(Layout.input, Json.mkObj j.input), (Layout.server, j.server.toJson), (Layout.masterId, Json.ofOptNat j.masterId)]
      (saveWrites_sorted inputSorted _ _) (saveWrites_named _ _ _)
    mvcgen -trivial [opens, reads, writes, -Job.record_keepsHeld, -Sys.storedStatus_keepsHeld, -Sys.writeScoped_keepsHeld]
    case pre => exact ‹True ∧ c.Shows t st _›.2
    case isTrue =>
      -- the record says the job is editable, so the save goes on to write
      obtain ⟨rfl, -⟩ := ‹_ = x ∧ _›
      have locked := ‹(!decide _) = true›
      rcases editable with same | same <;> simp [same] at locked
    case isFalse.post.success =>
      rename_i wrote
      obtain ⟨t', applied, shows⟩ := wrote
      exact ⟨trivial, t', shows, saveWrites_masterId applied⟩
    case isFalse.pre => exact ‹_ = x ∧ _›.2
    all_goals exact ‹_›
  · -- another handle is not the one the save starts from
    intro j' s pre
    exact absurd pre.1 same

/-- An update that sets the master link of a row that is there leaves the row naming that
master. -/
theorem JobIndex.update_masterId {ix ix' : JobIndex} {i : Nat} {u : IndexUpdate} {m : Option Nat}
    (sets : u.masterId = some m) (present : ix.get? i ≠ none) (ok : ix.update i u = .ok ix') :
    (ix'.get? i).map (·.masterId) = some m := by
  unfold JobIndex.update at ok
  have notEmpty : u.isEmpty = false := by simp [IndexUpdate.isEmpty, sets]
  simp only [notEmpty, Bool.false_eq_true, ↓reduceIte] at ok
  split at ok
  · contradiction
  · cases ok
    rw [JobIndex.get?_modify]
    swap
    · intro r
      split <;> split <;> split <;> rfl
    obtain ⟨r, found⟩ := Option.ne_none_iff_exists'.1 present
    rw [if_pos rfl, found, Option.map_some, Option.map_some]
    congr 1
    -- the master is set first; the queue job and the reason leave it as set
    rw [sets]
    split <;> split <;> rfl

/-- Linking the job's row to a master: the row names it afterwards, and the record is as it was. -/
theorem Sys.updateRow_links (v : Json) (i m : Nat) :
    ⦃fun s => ⌜i = c.jobId ∧ ∃ t', c.Shows t' st s ∧ t'.at? Layout.masterIdAt = some v⌝⦄
    Sys.updateRow i { masterId := some (some m) }
    ⦃post⟨fun _ s => ⌜(s.index.get? c.jobId).map (·.masterId) = some (some m) ∧
        ∃ t', c.Shows t' st s ∧ t'.at? Layout.masterIdAt = some v⌝, fun _ _ => ⌜False⌝⟩⦄ := by
  mvcgen [Sys.updateRow, -Sys.updateRow_keepsHeld]
  · rename_i linked _ updated _
    obtain ⟨rfl, t', shows, holds⟩ := linked
    exact ⟨JobIndex.update_masterId rfl shows.present updated,
      t', shows.setIndex (JobIndex.update_status updated c.jobId), holds⟩
  · rename_i linked _ failed
    obtain ⟨rfl, t', shows, -⟩ := linked
    exact JobIndex.update_ne_error shows.present _ failed

theorem Job.jobId_of_saved {j : Job} {m a : Nat} (saved : j.identity.jobId = some m) (ok : j.jobId = .ok a) : a = m := by
  simp only [Job.jobId, saved] at ok
  exact (Except.ok.inj ok).symm

/-- Linking a saved child whose record is still editable: when `addChild` returns, the child's
row and its record both name the master. -/
theorem Master.addChild_agrees {x : Status} (found : t.at? Layout.statusAt = some (.str x.name))
    (editable : x = .initialized ∨ x = .created) (master child : Job) {m : Nat}
    (masterSaved : master.identity.jobId = some m) (saved : child.identity.jobId = some c.jobId)
    (path : child.identity.storagePath = c.storagePath) (inputSorted : ∀ kv ∈ child.input, kv.2.Sorted) :
    ⦃fun j s => ⌜j = child ∧ c.Shows t st s⌝⦄ Master.addChild master
    ⦃post⟨fun id _ s => ⌜id = c.jobId ∧ (s.index.get? c.jobId).map (·.masterId) = some (some m) ∧
        ∃ t', c.Shows t' st s ∧ t'.at? Layout.masterIdAt = some (.ofNat m)⌝, fun _ _ _ => ⌜True⌝⟩⦄ := by
  have saves := Job.save_writes_master c t st found editable { child with masterId := some m } saved path inputSorted
  have links := Sys.updateRow_links c st (.ofNat m)
  mvcgen -trivial [Master.addChild, saves, links, -Job.save_keepsHeld, -Sys.updateRow_keepsHeld]
  -- the master's id is the one its handle carries
  all_goals obtain rfl := Job.jobId_of_saved masterSaved ‹master.jobId = .ok _›
  case isFalse.pre =>
    obtain ⟨rfl, shows⟩ := ‹_ = child ∧ _›
    exact ⟨rfl, shows⟩
  case post.success.pre => exact ‹_ = c.jobId ∧ _›
  case post.success.post.success =>
    exact ⟨‹_ = c.jobId ∧ _›.1, ‹Option.map _ _ = _ ∧ _›⟩

end JobFlow
