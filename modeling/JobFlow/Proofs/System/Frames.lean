import Mathlib
import JobFlow.System.Dispatch
import JobFlow.Proofs.System.JobRecord

/-!
# A held row under the system's primitive actions

`Sys.KeepsHeld job x` says that a run of `x` from any state in which the row of `job` is
held ends in a state in which it is still held, whether `x` returns or fails.
-/

open Std.Do

set_option mvcgen.warning false

namespace JobFlow

/-- A run of `x` from a state in which the row of `job` is held ends in one in which it
is still held, whether `x` returns or fails. -/
abbrev Sys.KeepsHeld {α : Type} (job : Nat) (x : Sys α) : Prop :=
  ⦃fun s => ⌜s.index.Held job⌝⦄ x ⦃post⟨fun _ s => ⌜s.index.Held job⌝, fun _ s => ⌜s.index.Held job⌝⟩⦄

/-- The same for an action on a handle, whatever the handle. -/
abbrev JobAct.KeepsHeld {α : Type} (job : Nat) (x : JobAct α) : Prop :=
  ⦃fun _ s => ⌜s.index.Held job⌝⦄ x ⦃post⟨fun _ _ s => ⌜s.index.Held job⌝, fun _ _ s => ⌜s.index.Held job⌝⟩⦄

theorem Sys.held_after {α : Type} {job : Nat} {x : Sys α} (keeps : Sys.KeepsHeld job x) {s : JobSystem}
    (held : s.index.Held job) : (x.run.run s).2.index.Held job := by
  have := Sys.of_triple keeps s held
  revert this
  rcases x.run.run s with ⟨_ | _, s'⟩ <;> exact fun after => after

/-- Postconditions of the actions on a handle. -/
abbrev JobAct.Post (α : Type) := PostCond α (.except Stop (.arg Job (.arg JobSystem .pure)))

@[spec] theorem JobAct.monadLift_spec {α : Type} (x : Sys α) (Q : JobAct.Post α) :
    ⦃fun j s => wp⟦x⟧ (fun a s => Q.1 a j s, fun e s => Q.2.1 e j s, ()) s⦄ (MonadLift.monadLift x : JobAct α) ⦃Q⦄ := by
  intro j s pre
  simp [wp, ExceptT.run, StateT.run, MonadLift.monadLift, ExceptT.mk, StateT.lift, Functor.map, StateT.map,
    Id.run] at pre ⊢
  generalize x s = result at pre ⊢
  rcases result with ⟨_ | a, s'⟩ <;> exact pre

theorem JobAct.held_after {α : Type} {job : Nat} {x : JobAct α} (keeps : JobAct.KeepsHeld job x) (j : Job)
    {s : JobSystem} (held : s.index.Held job) : (x.run j s).2.index.Held job := by
  have := keeps j s held
  simp [wp, ExceptT.run, StateT.run, Id.run] at this
  simp only [ExceptT.run]
  revert this
  generalize x j s = result
  rcases result with ⟨⟨_ | a, j'⟩, s'⟩ <;> exact fun after => after

theorem JobAct.held_of_run {α : Type} {job : Nat} {x : JobAct α} (keeps : JobAct.KeepsHeld job x) {j j' : Job}
    {s s' : JobSystem} {r : Except Stop α} (held : s.index.Held job) (ran : x.run j s = ((r, j'), s')) :
    s'.index.Held job := by
  simpa [ran] using JobAct.held_after keeps j held

namespace Sys

variable (job : Nat)

@[spec] theorem attempt_keepsHeld {α : Type} {x : Sys α} (keeps : KeepsHeld job x) : KeepsHeld job (attempt x) := by
  mvcgen [attempt, recover, keeps]
  all_goals exact fun held => held

@[spec] theorem createDirAll_keepsHeld (p : String) : KeepsHeld job (createDirAll p) := by
  mvcgen [createDirAll]

@[spec] theorem openDb_keepsHeld (p : String) : KeepsHeld job (openDb p) := by
  mvcgen [openDb]

@[spec] theorem openRecord_keepsHeld (p : String) : KeepsHeld job (openRecord p) := by
  mvcgen [openRecord]

@[spec] theorem createRecord_keepsHeld (p typeName name version : String) :
    KeepsHeld job (createRecord p typeName name version) := by
  mvcgen [createRecord]

@[spec] theorem saveRecord_keepsHeld (r : Record) : KeepsHeld job (saveRecord r) := by
  mvcgen [saveRecord]

@[spec] theorem writeRecord_keepsHeld (r : Record) (p : String) (v : Json) : KeepsHeld job (writeRecord r p v) := by
  mvcgen [writeRecord]

@[spec] theorem writeScoped_keepsHeld (r : Record) (writes : List (String × Json)) :
    KeepsHeld job (writeScoped r writes) := by
  mvcgen [writeScoped]

@[spec] theorem readAs_keepsHeld {α : Type} (r : Record) (p : String) (reader : String → Doc → DocRead α) :
    KeepsHeld job (readAs r p reader) := by
  mvcgen [readAs]

@[spec] theorem storedStatus_keepsHeld (r : Record) : KeepsHeld job (storedStatus r) := by
  mvcgen [storedStatus]

@[spec] theorem removeRecord_keepsHeld (p : String) : KeepsHeld job (removeRecord p) := by
  mvcgen [removeRecord]

@[spec] theorem findByName_keepsHeld (project name : String) : KeepsHeld job (findByName project name) := by
  mvcgen [findByName]

@[spec] theorem query_keepsHeld (f : JobFilter) : KeepsHeld job (query f) := by
  mvcgen [query]

@[spec] theorem isDir_keepsHeld (p : String) : KeepsHeld job (isDir p) := by
  mvcgen [isDir]

@[spec] theorem pathExists_keepsHeld (p : String) : KeepsHeld job (pathExists p) := by
  mvcgen [pathExists]

@[spec] theorem updateStatus_keepsHeld (i : Nat) {old new : Status} (moves : old.isHeld → new.isHeld) :
    KeepsHeld job (updateStatus i old new) := by
  mvcgen [updateStatus]
  exact ‹JobIndex.Held _ _›.updateStatus i moves

@[spec] theorem forceStatus_keepsHeld (i : Nat) {st : Status} (heldStatus : st.isHeld) :
    KeepsHeld job (forceStatus i st) := by
  mvcgen [forceStatus]
  exact ‹JobIndex.Held _ _›.forceStatus heldStatus ‹_›

@[spec] theorem updateRow_keepsHeld (i : Nat) (u : IndexUpdate) : KeepsHeld job (updateRow i u) := by
  mvcgen [updateRow]
  exact ‹JobIndex.Held _ _›.update ‹_›

/-- A new row leaves a held row held and gets an id of its own. -/
@[spec] theorem insertRow_keepsHeld (n : NewRow) :
    ⦃fun s => ⌜s.index.Held job⌝⦄ insertRow n
    ⦃post⟨fun i s => ⌜s.index.Held job ∧ i ≠ job⌝, fun _ s => ⌜s.index.Held job⌝⟩⦄ := by
  mvcgen [insertRow]
  exact ‹JobIndex.Held _ _›.insert ‹_›

@[spec] theorem deleteRow_keepsHeld {i : Nat} (other : i ≠ job) : KeepsHeld job (deleteRow i) := by
  mvcgen [deleteRow]
  exact ‹JobIndex.Held _ _›.delete other

@[spec] theorem claimRow_keepsHeld (i : Nat) (expected : Status) (token : String) :
    KeepsHeld job (claimRow i expected token) := by
  mvcgen [claimRow]
  exact ‹JobIndex.Held _ _›.claim i expected token

end Sys

end JobFlow
