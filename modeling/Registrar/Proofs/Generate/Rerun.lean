import Mathlib
import Registrar.Proofs.Generate.Delivery

/-! A run made again at once. Where no link lies and the output directory is an entry of the source
directory, the companions lie too deep to be taken for sources, and each is read back as it was
written. -/
namespace Registrar.Generate
open FileSystem Output

variable {fs after : FileSystem} {request : Request} {home : Location} {planned : Plan}
  {summary first : Summary}

/-- Sources that are found and read as before give the same plan. -/
theorem Planned.transfer (plan : Planned fs request home planned)
    (opened : Source.openDirectory after request.sourceDir = .ok home)
    (keeps : Source.KeepsSources fs after home) : Planned after request home planned := by
  have read {source : SourceFile} (member : source ∈ planned.sources) :
      Source.read after home source = Source.read fs home source := keeps.read plan.located member
  have sameUsed : used after home planned.sources = used fs home planned.sources := by
    apply List.filter_congr
    intro source member
    rw [hasText, hasText, read member]
  have known : ∀ source ∈ used fs home planned.sources, source ∈ planned.sources := by
    intro source member
    exact List.mem_of_mem_filter member
  have located := keeps.located plan.located
  refine ⟨opened, located, fun _ => Source.read_of_located located, ?_, ?_⟩
  · rw [sameUsed]
    exact plan.skipped
  · rw [sameUsed]
    refine ((List.forall₂_and_left _ _).mpr ⟨known, plan.companions⟩).imp ?_
    rintro source artifact ⟨member, companion⟩
    rwa [CompanionOf, read member]

/-- A plan whose companions are all there is written without a change. -/
theorem write_of_held {directory : Location}
    (opened : fs.openDirectory .anywhere
      (Utf8.bytes (outputDir request.sourceDir request.vocabulary)) = .ok directory)
    (held : ∀ artifact ∈ planned.artifacts,
      fs.readFile (.beneath directory) (Utf8.bytes artifact.fileName) =
        .ok (Utf8.bytes artifact.content)) :
    (write fs request planned).fileSystem = fs ∧
      (write fs request planned).result = .ok {
        discovered := planned.sources.length
        skippedEmpty := planned.skippedEmpty
        updated := []
        unchanged := planned.artifacts.map fun artifact =>
          Path.join (outputDir request.sourceDir request.vocabulary) artifact.fileName } := by
  obtain ⟨fileSystem, result⟩ :=
    writeArtifacts_of_held (outputDir request.sourceDir request.vocabulary) held
  simp only [write, ensureDirectory_of_open opened, fileSystem, result, Except.map, true_and]
  simp [List.filter_map, Function.comp_def]

namespace Completion

variable (completion : Completion fs request summary)

/-- Joined with one component, the output directory is an entry of the source directory, and at most
this entry is made. -/
theorem lies_in_home (free : fs.LinkFree [])
    (component : Path.IsComponent request.vocabulary.outputDir) :
    completion.directory = completion.home ++ [Utf8.bytes request.vocabulary.outputDir] ∧
      MayAdd fs (completion.home ++ [Utf8.bytes request.vocabulary.outputDir]) completion.made := by
  have opened := Source.openDirectory_eq_ok_iff.mp completion.plan.opened
  constructor
  · have freeMade : completion.made.LinkFree [] := free.addsDirectories completion.adds
    exact (place_of_join component (completion.adds.keepsTree.openDirectory opened)
      (fun target => freeMade _ target rfl) (openDirectory_of_ensureDirectory completion.ensured)).1
  -- The joined path goes to the source directory and takes one more step.
  · obtain ⟨path, here, read, started, leads⟩ :=
      resolve_eq_ok_iff.mp (openDirectory_eq_ok_iff.mp opened)
    obtain rfl := path_of_readPath read
    have given : request.sourceDir ≠ "" := by
      intro none
      exact nonempty_of_readPath read (Utf8.bytes_eq_nil_iff.mpr none)
    have parsed := Path.parse_join given component.ordinary component.plain
    have startedJoined : fs.start .anywhere
        (Path.parse (Utf8.bytes (outputDir request.sourceDir request.vocabulary))) = .ok here := by
      rw [outputDir, parsed]
      exact started
    have walked : Leads fs .anywhere .find linkLimit here
        ((Path.parse (Utf8.bytes request.sourceDir)).steps ++ []) true
        (.present completion.home .directory) :=
      leads.onward fun _ _ => .arrive
    rw [List.append_nil] at walked
    have adds := ensureDirectory_mayAdd startedJoined (by rw [outputDir, parsed]) walked
    rwa [completion.ensured] at adds

/-- The run leaves what the source directory holds, but for the output directory it may make. -/
theorem keepsSources (free : fs.LinkFree [])
    (component : Path.IsComponent request.vocabulary.outputDir) :
    Source.KeepsSources fs (generate fs request).fileSystem completion.home := by
  obtain ⟨directory, adds⟩ := completion.lies_in_home free component
  have freeMade : completion.made.LinkFree [] := free.addsDirectories completion.adds
  refine ⟨free, completion.delivers.linkFree freeMade, ?_⟩
  intro name
  -- A companion lies at least two names below the directory, so it is none of its entries.
  have apart : completion.home ++ [name] ∉ completion.deliveries.map Delivery.place := by
    intro member
    obtain ⟨delivery, delivered, place⟩ := List.mem_map.mp member
    obtain ⟨parent, last, inside, below⟩ := completion.delivers.inside
      (freeMade.mono rfl) completion.fileNames (fun _ => completion.names_valid) delivered
    have deep := (isWithin_iff.mp inside).length_le
    have length := congrArg List.length (below.symm.trans place)
    simp only [directory, List.length_append, List.length_cons, List.length_nil] at deep length
    omega
  rw [completion.delivers.elsewhere apart]
  rcases adds.entry with same | ⟨same, absent, made⟩
  · exact .inl same
  · have last : name = Utf8.bytes request.vocabulary.outputDir := by
      simpa only [List.append_cancel_left_eq, List.cons.injEq, and_true] using same
    exact .inr ⟨⟨_, last⟩, absent, made⟩

end Completion

/-- What a run made again at once reports: no companion is updated, and each that the first run
reported is unchanged, once and in the order of the sources' names. -/
structure Repeats (request : Request) (first second : Summary) : Prop where
  discovered : second.discovered = first.discovered
  skippedEmpty : second.skippedEmpty = first.skippedEmpty
  updated : second.updated = []
  unchanged : second.unchanged.Perm (first.updated ++ first.unchanged)
  distinct : second.unchanged.Nodup
  ordered : ∃ names : List String,
    names.Pairwise (fun left right => Utf8.bytes left < Utf8.bytes right) ∧
    second.unchanged = names.map fun name =>
      Path.join (outputDir request.sourceDir request.vocabulary)
        (outputFileName name request.vocabulary)

/-- **A run made again at once changes nothing.** Without symbolic links, and where the output
directory is an entry of the source directory, the second run succeeds, finds every companion
unchanged and leaves the file system exactly as it was. -/
theorem generate_again (free : fs.LinkFree [])
    (component : Path.IsComponent request.vocabulary.outputDir)
    (succeeded : (generate fs request).result = .ok first) :
    ∃ second, (generate (generate fs request).fileSystem request).result = .ok second ∧
      (generate (generate fs request).fileSystem request).fileSystem =
        (generate fs request).fileSystem ∧
      Repeats request first second := by
  obtain ⟨completion⟩ := completion_of_generate succeeded
  have keeps := completion.keepsSources free component
  have opened := Source.openDirectory_eq_ok_iff.mpr (completion.keepsTree.openDirectory
    (Source.openDirectory_eq_ok_iff.mp completion.plan.opened))
  have read := plan_eq_ok_iff.mpr ⟨_, completion.plan.transfer opened keeps⟩
  have held : ∀ artifact ∈ completion.planned.artifacts,
      (generate fs request).fileSystem.readFile (.beneath completion.directory)
        (Utf8.bytes artifact.fileName) = .ok (Utf8.bytes artifact.content) := by
    rw [← completion.artifacts]
    refine List.forall_mem_map.mpr ?_
    intro delivery member
    exact completion.reads (free.mono rfl) member
  obtain ⟨fileSystem, result⟩ := write_of_held completion.opensDirectory held
  obtain ⟨again, state⟩ := generate_of_plan read
  refine ⟨_, again.trans result, state.trans fileSystem, ?_⟩
  have targets : (completion.planned.artifacts.map fun artifact =>
      Path.join (outputDir request.sourceDir request.vocabulary) artifact.fileName) =
      completion.deliveries.map
        (Delivery.target (outputDir request.sourceDir request.vocabulary)) := by
    rw [← completion.artifacts, List.map_map]
    rfl
  exact {
    discovered := completion.counts.1.symm
    skippedEmpty := completion.counts.2.symm
    updated := rfl
    unchanged := targets ▸ completion.reported.symm
    distinct := targets ▸ completion.targets_nodup
    ordered := by
      refine ⟨completion.names, ?_, ?_⟩
      · exact List.pairwise_map.mpr (completion.plan.located.sorted.sublist List.filter_sublist)
      · exact targets.trans completion.targets }

/-- The run is made again on the tree that the first one left. -/
theorem sourceTree_again : ∃ second,
    (generate (generate sourceTree sourceRequest).fileSystem sourceRequest).result = .ok second ∧
      (generate (generate sourceTree sourceRequest).fileSystem sourceRequest).fileSystem =
        (generate sourceTree sourceRequest).fileSystem ∧
      Repeats sourceRequest ⟨2, 1, ["s/o/_b"], []⟩ second :=
  generate_again (linkFree_of_all [] (by cbv)) (by simp [Path.IsComponent, sourceRequest, terse])
    generate_sourceTree

end Registrar.Generate
