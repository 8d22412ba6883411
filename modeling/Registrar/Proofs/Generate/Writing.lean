import Mathlib.Data.List.Nodup
import Registrar.Generate
import Registrar.Proofs.FileSystem.Confinement
import Registrar.Proofs.FileSystem.Paths
import Registrar.Proofs.Output

/-! Artifacts written in a row. Each is found or put at one place, and as long as these places
differ no write disturbs another. -/
namespace Registrar.Generate
open FileSystem Output

/-- An artifact that was written or found unchanged, with the place of its file. -/
structure Delivery where
  artifact : Artifact
  place : Location
  outcome : WriteOutcome

def Delivery.target (root : String) (delivery : Delivery) : String :=
  Path.join root delivery.artifact.fileName

def Delivery.bytes (delivery : Delivery) : List UInt8 :=
  Utf8.bytes delivery.artifact.content

variable {before after : FileSystem} {directory : Location} {root : String}
  {artifacts : List Artifact} {deliveries : List Delivery} {delivery : Delivery}

/-- One delivery: the name leads to a file with the content, and nothing happens, or to a place
without it, and the content is put there. -/
inductive DeliversOne (directory : Location) (delivery : Delivery) (fs : FileSystem) :
    FileSystem → Prop
  | kept {written : Nat}
      (leads : LeadsToFile fs directory delivery.artifact.fileName delivery.place)
      (outcome : delivery.outcome = .unchanged)
      (lies : fs.get? delivery.place = some (.file delivery.bytes written)) :
      DeliversOne directory delivery fs fs
  | written
      (leads : LeadsToFile fs directory delivery.artifact.fileName delivery.place)
      (outcome : delivery.outcome = .updated)
      (differs : ∀ written, fs.get? delivery.place ≠ some (.file delivery.bytes written)) :
      DeliversOne directory delivery fs (fs.setFile delivery.place delivery.bytes)

/-- Deliveries in a row, each in the file system that the one before it left. -/
inductive Delivers (directory : Location) : FileSystem → List Delivery → FileSystem → Prop
  | done {fs : FileSystem} : Delivers directory fs [] fs
  | next {fs between after : FileSystem} {delivery : Delivery} {deliveries : List Delivery}
      (first : DeliversOne directory delivery fs between)
      (rest : Delivers directory between deliveries after) :
      Delivers directory fs (delivery :: deliveries) after

/-- What the writer does with an artifact is a delivery of it. -/
theorem deliversOne_of_writeIfChanged {artifact : Artifact} {outcome : WriteOutcome}
    (wrote : writeIfChanged before directory root artifact.fileName artifact.content =
      .ok (after, outcome)) :
    ∃ place, DeliversOne directory ⟨artifact, place, outcome⟩ before after := by
  obtain ⟨place, leads, held | put⟩ := writeIfChanged_ok wrote
  · obtain ⟨rfl, rfl, written, lies⟩ := held
    exact ⟨place, .kept leads rfl lies⟩
  · obtain ⟨rfl, rfl, differs⟩ := put
    exact ⟨place, .written leads rfl differs⟩

theorem delivers_of_writeArtifacts {targets : List (String × WriteOutcome)}
    (wrote : (writeArtifacts directory root before artifacts).result = .ok targets) :
    ∃ deliveries, Delivers directory before deliveries
        (writeArtifacts directory root before artifacts).fileSystem ∧
      deliveries.map Delivery.artifact = artifacts ∧
      targets = deliveries.map fun delivery => (delivery.target root, delivery.outcome) := by
  induction artifacts generalizing before targets with
  | nil =>
    cases wrote
    exact ⟨[], .done, rfl, rfl⟩
  | cons artifact artifacts ih =>
    simp only [writeArtifacts] at wrote ⊢
    split at wrote
    · cases wrote
    · rename_i between outcome first
      dsimp only at wrote ⊢
      obtain ⟨place, one⟩ := deliversOne_of_writeIfChanged first
      cases rest : (writeArtifacts directory root between artifacts).result with
      | error error => simp [rest, Except.map] at wrote
      | ok others =>
        rw [rest, Except.map, Except.ok.injEq] at wrote
        obtain ⟨deliveries, delivers, same, reported⟩ := ih rest
        refine ⟨⟨artifact, place, outcome⟩ :: deliveries, .next one delivers, ?_, ?_⟩
        · rw [List.map_cons, same]
        · rw [← wrote, reported, List.map_cons, Delivery.target]

/-- Writing that fails has delivered the artifacts before the one that is refused, and it is refused
in the file system that they left. -/
theorem refused_of_writeArtifacts {error : Error}
    (failed : (writeArtifacts directory root before artifacts).result = .error error) :
    ∃ deliveries refused left, Delivers directory before deliveries
        (writeArtifacts directory root before artifacts).fileSystem ∧
      artifacts = deliveries.map Delivery.artifact ++ refused :: left ∧
      writeIfChanged (writeArtifacts directory root before artifacts).fileSystem directory root
        refused.fileName refused.content = .error error := by
  induction artifacts generalizing before with
  | nil => cases failed
  | cons artifact artifacts ih =>
    simp only [writeArtifacts] at failed ⊢
    split at failed
    · rename_i refusal
      cases failed
      exact ⟨[], artifact, artifacts, .done, rfl, refusal⟩
    · rename_i between outcome first
      dsimp only at failed ⊢
      obtain ⟨place, one⟩ := deliversOne_of_writeIfChanged first
      cases rest : (writeArtifacts directory root between artifacts).result with
      | ok targets => simp [rest, Except.map] at failed
      | error other =>
        rw [rest, Except.map, Except.error.injEq] at failed
        obtain ⟨deliveries, refused, left, delivers, parts, refusal⟩ := ih (failed ▸ rest)
        refine ⟨⟨artifact, place, outcome⟩ :: deliveries, refused, left, .next one delivers, ?_,
          refusal⟩
        rw [parts, List.map_cons, List.cons_append]

namespace DeliversOne

theorem leads (one : DeliversOne directory delivery before after) :
    LeadsToFile before directory delivery.artifact.fileName delivery.place := by
  cases one <;> assumption

theorem keepsTree (one : DeliversOne directory delivery before after) : KeepsTree before after := by
  cases one with
  | kept => exact .refl _
  | written leads => exact keepsTree_setFile _ leads.isFree

/-- What is no file lay there before. -/
theorem origin {place : Location} {entry : Entry} (one : DeliversOne directory delivery before after)
    (lies : after.get? place = some entry) (other : ∀ bytes written, entry ≠ .file bytes written) :
    before.get? place = some entry := by
  cases one with
  | kept => exact lies
  | written leads => exact origin_setFile leads.isFree lies other

theorem elsewhere {place : Location} (one : DeliversOne directory delivery before after)
    (apart : place ≠ delivery.place) : after.get? place = before.get? place := by
  cases one with
  | kept => rfl
  | written => exact get?_setFile_other _ apart

theorem lies (one : DeliversOne directory delivery before after) :
    ∃ written, after.get? delivery.place = some (.file delivery.bytes written) := by
  cases one with
  | kept _ _ lies => exact ⟨_, lies⟩
  | written leads => exact ⟨_, get?_setFile_same _ leads.isFree⟩

theorem updated_iff (one : DeliversOne directory delivery before after) :
    delivery.outcome = .updated ↔
      ∀ written, before.get? delivery.place ≠ some (.file delivery.bytes written) := by
  cases one with
  | kept _ outcome lies =>
    constructor
    · intro updated
      rw [outcome] at updated
      cases updated
    · intro differs
      exact absurd lies (differs _)
  | written _ outcome differs =>
    constructor
    · intro _
      exact differs
    · intro _
      exact outcome

end DeliversOne

theorem Delivers.keepsTree (delivers : Delivers directory before deliveries after) :
    KeepsTree before after := by
  induction delivers with
  | done => exact .refl _
  | next first _ ih => exact first.keepsTree.trans ih

theorem Delivers.origin {place : Location} {entry : Entry}
    (delivers : Delivers directory before deliveries after) (lies : after.get? place = some entry)
    (other : ∀ bytes written, entry ≠ .file bytes written) : before.get? place = some entry := by
  induction delivers with
  | done => exact lies
  | next first _ ih => exact first.origin (ih lies) other

theorem Delivers.sameLinks (delivers : Delivers directory before deliveries after) :
    SameLinks before after := by
  intro place target
  constructor
  · intro lies
    exact delivers.origin lies (by simp)
  · exact delivers.keepsTree.link place target

theorem Delivers.linkFree {top : Location} (delivers : Delivers directory before deliveries after)
    (free : before.LinkFree top) : after.LinkFree top :=
  free.sameLinks delivers.sameLinks

theorem Delivers.elsewhere {place : Location} (delivers : Delivers directory before deliveries after)
    (apart : place ∉ deliveries.map Delivery.place) : after.get? place = before.get? place := by
  induction delivers with
  | done => rfl
  | next first _ ih =>
    rw [List.map_cons, List.mem_cons, not_or] at apart
    rw [ih apart.2, first.elsewhere apart.1]

/-- Deliveries in two parts, the second in the file system that the first left. -/
theorem Delivers.parts {earlier later : List Delivery}
    (delivers : Delivers directory before (earlier ++ later) after) :
    ∃ between, Delivers directory before earlier between ∧ Delivers directory between later after := by
  induction earlier generalizing before with
  | nil => exact ⟨before, .done, delivers⟩
  | cons delivery earlier ih =>
    cases delivers with
    | next first rest =>
      obtain ⟨between, begun, left⟩ := ih rest
      exact ⟨between, .next first begun, left⟩

/-- A run of deliveries around one of them. -/
theorem Delivers.split (delivers : Delivers directory before deliveries after)
    (member : delivery ∈ deliveries) :
    ∃ earlier later now next, deliveries = earlier ++ delivery :: later ∧
      Delivers directory before earlier now ∧ DeliversOne directory delivery now next ∧
      Delivers directory next later after := by
  obtain ⟨earlier, later, rfl⟩ := List.append_of_mem member
  obtain ⟨now, begun, left⟩ := delivers.parts
  cases left with
  | next one rest => exact ⟨earlier, later, now, _, rfl, begun, one, rest⟩

/-- Where a file lies, a file lies afterwards. -/
theorem Delivers.file {place : Location} {content : List UInt8} {written : Nat}
    (delivers : Delivers directory before deliveries after)
    (lies : before.get? place = some (.file content written)) :
    ∃ content written, after.get? place = some (.file content written) := by
  induction delivers generalizing content written with
  | done => exact ⟨_, _, lies⟩
  | @next _ _ _ delivery _ first _ ih =>
    by_cases here : place = delivery.place
    · obtain ⟨written, put⟩ := first.lies
      exact ih (here ▸ put)
    · exact ih ((first.elsewhere here).trans lies)

/-- The name of each delivery leads to its place in the end. -/
theorem Delivers.finds (delivers : Delivers directory before deliveries after)
    (member : delivery ∈ deliveries) : ∃ content written,
    after.resolve (.beneath directory) .find (Utf8.bytes delivery.artifact.fileName) =
      .ok (.present delivery.place (.file content written)) := by
  obtain ⟨_, _, _, _, -, -, one, rest⟩ := delivers.split member
  obtain ⟨_, put⟩ := one.lies
  obtain ⟨content, written, lies⟩ := rest.file put
  exact ⟨content, written, one.leads.resolve (one.keepsTree.trans rest.keepsTree) lies⟩

theorem Delivers.within (delivers : Delivers directory before deliveries after)
    (member : delivery ∈ deliveries) : isWithin directory delivery.place = true := by
  obtain ⟨_, _, _, _, -, -, one, -⟩ := delivers.split member
  exact one.leads.within

/-- No delivery goes by a name that leaves the directory. -/
theorem Delivers.not_leaves (delivers : Delivers directory before deliveries after)
    (member : delivery ∈ deliveries) :
    ¬ LeavesBy before directory (Path.parse (Utf8.bytes delivery.artifact.fileName)) := by
  obtain ⟨_, _, _, _, -, begun, one, -⟩ := delivers.split member
  intro leaves
  exact one.leads.not_leaves (leaves.sameLinks begun.sameLinks)

/-- The last delivery to a place is what lies there in the end. -/
theorem Delivers.last {earlier later : List Delivery}
    (delivers : Delivers directory before (earlier ++ delivery :: later) after)
    (last : delivery.place ∉ later.map Delivery.place) : ∃ written,
    after.resolve (.beneath directory) .find (Utf8.bytes delivery.artifact.fileName) =
      .ok (.present delivery.place (.file delivery.bytes written)) := by
  obtain ⟨now, -, left⟩ := delivers.parts
  cases left with
  | next one rest =>
    obtain ⟨written, put⟩ := one.lies
    rw [← rest.elsewhere last] at put
    exact ⟨written, one.leads.resolve (one.keepsTree.trans rest.keepsTree) put⟩

theorem exists_last_delivery {place : Location} (member : place ∈ deliveries.map Delivery.place) :
    ∃ earlier delivery later, deliveries = earlier ++ delivery :: later ∧ delivery.place = place ∧
      place ∉ later.map Delivery.place := by
  induction deliveries with
  | nil => cases member
  | cons first deliveries ih =>
    by_cases again : place ∈ deliveries.map Delivery.place
    · obtain ⟨earlier, delivery, later, rfl, same, last⟩ := ih again
      exact ⟨first :: earlier, delivery, later, rfl, same, last⟩
    · have here := (List.mem_cons.mp member).resolve_right again
      exact ⟨[], first, deliveries, rfl, here.symm, again⟩

/-- At places that differ, the name of every delivered file leads to its content in the end. -/
theorem Delivers.resolve (delivers : Delivers directory before deliveries after)
    (distinct : (deliveries.map Delivery.place).Nodup) (member : delivery ∈ deliveries) :
    ∃ written, after.resolve (.beneath directory) .find (Utf8.bytes delivery.artifact.fileName) =
      .ok (.present delivery.place (.file delivery.bytes written)) := by
  obtain ⟨earlier, later, rfl⟩ := List.append_of_mem member
  rw [List.map_append, List.map_cons, List.nodup_append, List.nodup_cons] at distinct
  exact delivers.last distinct.2.1.1

/-- At places that differ, a file is updated exactly where the content was not there at first. -/
theorem Delivers.updated_iff (delivers : Delivers directory before deliveries after)
    (distinct : (deliveries.map Delivery.place).Nodup) (member : delivery ∈ deliveries) :
    delivery.outcome = .updated ↔
      ∀ written, before.get? delivery.place ≠ some (.file delivery.bytes written) := by
  obtain ⟨earlier, later, now, next, rfl, begun, one, -⟩ := delivers.split member
  rw [List.map_append, List.map_cons] at distinct
  have apart : delivery.place ∉ earlier.map Delivery.place := by
    intro known
    exact (List.nodup_append.mp distinct).2.2 _ known _ List.mem_cons_self rfl
  rw [one.updated_iff, begun.elsewhere apart]

/-- Paths with the same front end in steps down that differ in the names alone. -/
theorem steps_of_isName (front : String) : ∃ init stem, ∀ name : String,
    Path.isName (Utf8.bytes name) = true →
      (Path.parse (Utf8.bytes (front ++ name))).steps =
        init ++ [.down (stem ++ Utf8.bytes name)] := by
  obtain ⟨init, stem, divided⟩ := Path.steps_append (Utf8.bytes front)
  refine ⟨init, stem, ?_⟩
  intro name valid
  obtain ⟨ordinary, plain, -⟩ := Path.isName_iff.mp valid
  rw [Utf8.bytes_append, divided _ ordinary plain]

/-- Where no links lie, names after the same front that lead to one place are the same, whatever
happened between the two walks. -/
theorem name_of_leads {front left right : String} {place : Location}
    (validLeft : Path.isName (Utf8.bytes left) = true)
    (validRight : Path.isName (Utf8.bytes right) = true)
    (free : before.LinkFree directory) (freeAfter : after.LinkFree directory)
    (leads : LeadsToFile before directory (front ++ left) place)
    (leadsAfter : LeadsToFile after directory (front ++ right) place) : left = right := by
  obtain ⟨init, stem, steps⟩ := steps_of_isName front
  obtain ⟨above, -, rfl⟩ := leads.named free (steps left validLeft)
  obtain ⟨parent, -, same⟩ := leadsAfter.named freeAfter (steps right validRight)
  have last := (List.append_inj' same rfl).2
  rw [List.cons.injEq, List.append_cancel_left_eq] at last
  exact Utf8.bytes_injective last.1

theorem name_of_called {front : String} {names : List String}
    (called : deliveries.map (·.artifact.fileName) = names.map (front ++ ·))
    (member : delivery ∈ deliveries) :
    ∃ name ∈ names, delivery.artifact.fileName = front ++ name := by
  have inside : delivery.artifact.fileName ∈ names.map (front ++ ·) :=
    called ▸ List.mem_map_of_mem member
  obtain ⟨name, known, same⟩ := List.mem_map.mp inside
  exact ⟨name, known, same.symm⟩

/-- Each delivery went by its name, in a tree that had no links either. -/
theorem Delivers.leads (delivers : Delivers directory before deliveries after)
    (free : before.LinkFree directory) (member : delivery ∈ deliveries) :
    ∃ now, now.LinkFree directory ∧
      LeadsToFile now directory delivery.artifact.fileName delivery.place := by
  obtain ⟨_, _, now, _, -, begun, one, -⟩ := delivers.split member
  exact ⟨now, begun.linkFree free, one.leads⟩

/-- Every companion lies below the output directory, in a directory of its tree. -/
theorem Delivers.inside {front : String} {names : List String}
    (delivers : Delivers directory before deliveries after) (free : before.LinkFree directory)
    (called : deliveries.map (·.artifact.fileName) = names.map (front ++ ·))
    (valid : ∀ name ∈ names, Path.isName (Utf8.bytes name) = true) (member : delivery ∈ deliveries) :
    ∃ parent last, isWithin directory parent = true ∧ delivery.place = parent ++ [last] := by
  obtain ⟨name, known, same⟩ := name_of_called called member
  obtain ⟨now, freeNow, leads⟩ := delivers.leads free member
  obtain ⟨init, stem, steps⟩ := steps_of_isName front
  obtain ⟨parent, inside, place⟩ := leads.named freeNow (same ▸ steps name (valid name known))
  exact ⟨parent, _, inside, place⟩

theorem Delivers.distinct {front : String} {names : List String}
    (delivers : Delivers directory before deliveries after) (free : before.LinkFree directory)
    (called : deliveries.map (·.artifact.fileName) = names.map (front ++ ·))
    (valid : ∀ name ∈ names, Path.isName (Utf8.bytes name) = true) (different : names.Nodup) :
    (deliveries.map Delivery.place).Nodup := by
  have differ : (deliveries.map (·.artifact.fileName)).Nodup := by
    rw [called]
    exact different.map fun _ _ => (String.append_right_inj front).mp
  rw [List.nodup_iff_pairwise_ne, List.pairwise_map] at differ ⊢
  apply differ.imp_of_mem
  intro left right known other apart same
  obtain ⟨name, member, first⟩ := name_of_called called known
  obtain ⟨further, among, second⟩ := name_of_called called other
  obtain ⟨now, freeNow, leads⟩ := delivers.leads free known
  obtain ⟨later, freeLater, leadsLater⟩ := delivers.leads free other
  rw [first] at leads
  rw [second, ← same] at leadsLater
  have equal := name_of_leads (valid name member) (valid further among) freeNow freeLater leads
    leadsLater
  rw [first, second, equal] at apart
  exact apart rfl

/-- Where no links lie, a name that is none of those delivered leads to none of their places. -/
theorem Delivers.apart {front name : String} {names : List String} {fs : FileSystem}
    {place : Location} (delivers : Delivers directory before deliveries after)
    (free : before.LinkFree directory)
    (called : deliveries.map (·.artifact.fileName) = names.map (front ++ ·))
    (valid : ∀ name ∈ names, Path.isName (Utf8.bytes name) = true)
    (other : name ∉ names) (validOther : Path.isName (Utf8.bytes name) = true)
    (freeThere : fs.LinkFree directory) (leads : LeadsToFile fs directory (front ++ name) place) :
    place ∉ deliveries.map Delivery.place := by
  intro reached
  obtain ⟨delivery, member, rfl⟩ := List.mem_map.mp reached
  obtain ⟨delivered, known, same⟩ := name_of_called called member
  obtain ⟨now, freeNow, went⟩ := delivers.leads free member
  rw [same] at went
  obtain rfl := name_of_leads (valid delivered known) validOther freeNow freeThere went leads
  exact other known

/-- Artifacts that are all there already are found unchanged, and nothing happens. -/
theorem writeArtifacts_of_held (root : String) (held : ∀ artifact ∈ artifacts,
      before.readFile (.beneath directory) (Utf8.bytes artifact.fileName) =
        .ok (Utf8.bytes artifact.content)) :
    (writeArtifacts directory root before artifacts).fileSystem = before ∧
      (writeArtifacts directory root before artifacts).result =
        .ok (artifacts.map fun artifact => (Path.join root artifact.fileName, .unchanged)) := by
  induction artifacts with
  | nil => exact ⟨rfl, rfl⟩
  | cons artifact artifacts ih =>
    obtain ⟨first, held⟩ := List.forall_mem_cons.mp held
    obtain ⟨fileSystem, result⟩ := ih held
    simp only [writeArtifacts, writeIfChanged_of_read first, fileSystem, result, Except.map,
      List.map_cons, and_self]

end Registrar.Generate
