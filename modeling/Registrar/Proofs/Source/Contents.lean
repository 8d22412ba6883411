import Registrar.Proofs.Source.Listing
import Registrar.Proofs.Text.Skeleton

/-! What a source is read as. Each that was located is read, linked or not, as the file that it was
found at. Its bytes may be of any encoding, or of none: whatever they are, the ASCII markers in them
are found, and no others. -/
namespace Registrar.Source
open FileSystem Text

variable {fs after : FileSystem} {home place : Location} {root : String} {vocabulary : Vocabulary}
  {sources : List SourceFile} {source : SourceFile} {bytes : List UInt8} {written : Nat}

/-- The file that a source is read from: the entry of the source directory or, for a link, the file
that its path leads to. -/
inductive FoundAt (fs : FileSystem) (home : Location) : SourceFile → Location → Prop
  | entry {name path : String} : FoundAt fs home ⟨name, path, false⟩ (home ++ [Utf8.bytes name])
  | link {name path : String} {place : Location} {content : List UInt8} {written : Nat}
      (leads : fs.resolve .anywhere .find (Utf8.bytes path) =
        .ok (.present place (.file content written))) : FoundAt fs home ⟨name, path, true⟩ place

theorem foundAt_of_located (located : Located fs home root vocabulary sources)
    (member : source ∈ sources) : ∃ place content written, FoundAt fs home source place ∧
      fs.get? place = some (.file content written) := by
  obtain ⟨name, entry, -, lies, candidate⟩ := (located.mem_iff source).mp member
  cases candidate with
  | file => exact ⟨_, _, _, .entry, lies⟩
  | link _ leads =>
    obtain ⟨place, found⟩ := status_eq_ok_iff.mp leads
    exact ⟨place, _, _, .link found, lies_of_resolve found⟩

/-- A source is read, then and later, as what lies at its place. -/
theorem FoundAt.readBytes (found : FoundAt fs home source place)
    (named : Path.isName (Utf8.bytes source.name) = true) (keeps : KeepsTree fs after)
    (lies : after.get? place = some (.file bytes written)) :
    Source.readBytes after home source = .ok bytes := by
  cases found with
  | entry => exact readFile_of_name named lies
  | link leads =>
    exact readFile_eq_ok_iff.mpr ⟨place, written, resolve_reaches keeps leads .file lies⟩

/-- What is read is the file that the locator found: an entry by its name in the open directory, the
end of a link by its path. -/
theorem read_of_located (located : Located fs home root vocabulary sources)
    (member : source ∈ sources) : ∃ place content written, FoundAt fs home source place ∧
      fs.get? place = some (.file content written) ∧
      read fs home source = .ok (withoutReturns (Utf8.decode content)) := by
  obtain ⟨place, content, written, found, lies⟩ := foundAt_of_located located member
  have bytes := found.readBytes (located.isName member) (.refl fs) lies
  refine ⟨place, content, written, found, lies, ?_⟩
  rw [read, bytes]

/-- The file that a source is read from holds the bytes: for a link it is the file at the end of the
path, otherwise one in the open directory. -/
def Holds (fs : FileSystem) (home : Location) (source : SourceFile) (bytes : List UInt8) : Prop :=
  ∃ place written,
    (if source.linked then fs.resolve .anywhere .find (pathBytes source.path)
      else fs.resolve (.beneath home) .find (pathBytes source.name)) =
        .ok (.present place (.file bytes written))

theorem readBytes_eq_ok_iff : readBytes fs home source = .ok bytes ↔ Holds fs home source bytes := by
  rw [readBytes, Holds]
  split <;> exact readFile_eq_ok_iff

theorem read_of_holds (holds : Holds fs home source bytes) :
    read fs home source = .ok (withoutReturns (Utf8.decode bytes)) := by
  simp only [read, readBytes_eq_ok_iff.mpr holds]

/-- **Reading neither makes nor breaks ASCII markers.** The text has no carriage return, and between
its runs of characters outside ASCII it has what the bytes have between theirs, carriage returns
apart; where they are valid, it has their characters. So an ASCII marker stands in the text as often
as in the bytes, in the same order, each time with the same ASCII around it, and the search finds it
there as it would in the bytes. -/
theorem read_keeps_ascii (holds : Holds fs home source bytes) :
    ∃ text, read fs home source = .ok text ∧ '\r' ∉ text ∧
      skeleton text = skeleton (ofBytes (bytes.filter (· != 0x0D))) ∧
      (∀ valid : String, valid.toByteArray.data.toList = bytes → text = withoutReturns valid.toList) ∧
      ∀ marker : List Char, marker ≠ [] → (∀ char ∈ marker, isAscii char = true) →
        (sites marker text).map (Prod.map skeleton skeleton) =
            (sites marker (ofBytes (bytes.filter (· != 0x0D)))).map (Prod.map skeleton skeleton) ∧
          (occurrences marker text).map skeleton =
            (occurrences marker (ofBytes (bytes.filter (· != 0x0D)))).map skeleton := by
  have same : skeleton (withoutReturns (Utf8.decode bytes)) =
      skeleton (ofBytes (bytes.filter (· != 0x0D))) := by
    rw [Utf8.ofBytes_filter]
    exact (Utf8.decode_skeleton bytes).withoutReturns false
  refine ⟨_, read_of_holds holds, withoutReturns_no_return _, same, ?_, ?_⟩
  · rintro valid rfl
    rw [← Utf8.bytes_eq_toByteArray, Utf8.bytes, Utf8.decode_encode]
  · intro marker some ascii
    constructor
    · have sites (text : List Char) := sites_skeletonFrom some ascii false text
      exact (sites _).symm.trans ((congrArg (Text.sites marker) same).trans (sites _))
    · rw [← occurrences_skeleton ascii, ← occurrences_skeleton ascii, same]

/-- A carriage return in the middle of a character, a character cut short by a marker, and bytes
that begin none. -/
def brokenBytes : List UInt8 :=
  [0xC3, 0x0D, 0xA9, 0x54, 0xE2, 0x82, 0x54, 0x0D, 0x54, 0xFF]

def brokenTree : FileSystem :=
  (FileSystem.empty.set [Utf8.bytes "s"] .directory).setFile [Utf8.bytes "s", Utf8.bytes "b"]
    brokenBytes

/-- Both markers are found, each behind what could not be read. -/
theorem brokenTree_read : Holds brokenTree [Utf8.bytes "s"] ⟨"b", "s/b", false⟩ brokenBytes ∧
    ∃ text, read brokenTree [Utf8.bytes "s"] ⟨"b", "s/b", false⟩ = .ok text ∧
      skeleton text = "\uFFFDT\uFFFDTT\uFFFD".toList ∧ (occurrences ['T'] text).length = 3 := by
  have holds : Holds brokenTree [Utf8.bytes "s"] ⟨"b", "s/b", false⟩ brokenBytes :=
    ⟨[Utf8.bytes "s", Utf8.bytes "b"], 1, by decide +kernel⟩
  obtain ⟨text, done, -, same, -, found⟩ := read_keeps_ascii holds
  have count := congrArg List.length (found ['T'] (by simp) (List.forall_mem_singleton.mpr rfl)).2
  rw [List.length_map, List.length_map] at count
  refine ⟨holds, text, done, ?_, ?_⟩
  · rw [same]
    decide +kernel
  · rw [count]
    decide +kernel

end Registrar.Source
