import AlertSound.Proofs.Locator.Canonical
import AlertSound.Proofs.Text.Utf8
import AlertSound.Proofs.Url.FilePath

/-!
Locators of files. Every absolute path has one, whatever bytes are in it, and the locator leads
to the components of the path again. Its last name is the last of them, if that is text. The
bytes of the path are not promised: repeated slashes and single dots are gone, and a path that
ends like a drive has a slash after it.
-/
namespace AlertSound.Locator

open Url

def ofNames (names : List File.Path) : Locator := ⟨Url.ofNames names, .localFile⟩

theorem ofPath_eq_ofNames {path : File.Path} (absolute : File.isAbsolute path = true) :
    ofPath path = .ok (ofNames (File.solidNames path)) := by
  simp only [ofPath, ofFilePath?_eq, absolute, if_true]
  rfl

theorem ofPath_relative {path : File.Path} (relative : File.isAbsolute path = false) :
    ofPath path = .error (.relativePath (File.display path)) := by
  simp only [ofPath, ofFilePath?_eq, relative, Bool.false_eq_true, if_false]
  rfl

/-- A text that begins with a slash is read as the path that it spells. -/
theorem parse_rooted {s : String} (rooted : (Text.trim s).toList.head? = some '/') :
    File.isAbsolute (File.ofText (Text.trim s)) = true ∧
      parse s = ofPath (File.ofText (Text.trim s)) := by
  constructor
  · obtain ⟨rest, same⟩ := List.head?_eq_some_iff.mp rooted
    rw [File.ofText, same]
    rfl
  · simp only [parse, rooted, beq_self_eq_true, if_true]
    rfl

theorem isEmpty_ofList (name : List Char) : (String.ofList name).isEmpty = name.isEmpty := by
  rw [Bool.eq_iff_iff, String.isEmpty_iff, List.isEmpty_iff, ← String.toList_eq_nil_iff,
    String.toList_ofList]

section Names

variable {names : List File.Path} (solid : ∀ name ∈ names, File.IsSolid name)

include solid

theorem names_ofNames :
    (ofNames names).names = (names.map escapedName).map String.ofList := by
  cases names with
  | nil => rfl
  | cons first rest =>
      have segments : (ofNames (first :: rest)).url.segments? =
          some (((first :: rest).map escapedName).map String.ofList) := rfl
      rw [Locator.names, segments, Option.getD_some, List.map_map]
      refine List.filter_eq_self.mpr (List.forall_mem_map.mpr fun name member => ?_)
      have given : escapedName name ≠ [] :=
        mt (escapedName_eq_nil name).mp (solid name member).ne_nil
      rw [Function.comp_apply, isEmpty_ofList, List.isEmpty_eq_false_iff.mpr given]
      rfl

/-- The last name is the last of the path, if that is text. -/
theorem lastName?_ofNames {text : List Char} (last : names.getLast? = some (Text.utf8 text)) :
    (ofNames names).lastName? = some (String.ofList text) := by
  simp only [lastName?, names_ofNames solid, List.getLast?_map, last, Option.map_some,
    String.toList_ofList, percentDecode_escapedName, Text.ofUtf8?_utf8]

end Names

structure StandsFor (r : Locator) (path : File.Path) : Prop where
  origin : r.origin = .localFile
  leads : ∃ path', r.filePath? = some path' ∧ File.components path' = File.components path
  named : ∀ text, File.lastComponent? path = some (Text.utf8 text) →
    r.lastName? = some (String.ofList text)
  unnamed : File.lastComponent? path = none → r.lastName? = none

theorem standsFor_ofNames {path : File.Path} (absolute : File.isAbsolute path = true) :
    (ofNames (File.solidNames path)).StandsFor path := by
  have solid : ∀ name ∈ File.solidNames path, File.IsSolid name := fun _ => File.isSolid_of_mem
  have last := File.lastComponent?_of_absolute absolute
  refine ⟨rfl, ?_, fun text told => ?_, fun none => ?_⟩
  · obtain ⟨path', found, components⟩ := filePath?_ofNames solid
    exact ⟨path', found, components.trans (File.components_of_absolute absolute).symm⟩
  · exact lastName?_ofNames solid (last ▸ told)
  · have empty : File.solidNames path = [] := List.getLast?_eq_none_iff.mp (last ▸ none)
    rw [empty]
    rfl

/-- Paths survive locators. Every absolute path, whatever its bytes, has a locator of a file,
which leads to a path of the same components and has the last component as its last name, if
that is UTF-8. Every relative path is refused as one. A text that begins with a slash, blanks
around it aside, is read as the path that it spells. -/
theorem paths_survive_locators :
    (∀ path, File.isAbsolute path = true → ∃ r, ofPath path = .ok r ∧ r.StandsFor path) ∧
    (∀ path, File.isAbsolute path = false →
      ofPath path = .error (.relativePath (File.display path))) ∧
    ∀ s, (Text.trim s).toList.head? = some '/' →
      ∃ r, parse s = .ok r ∧ r.StandsFor (File.ofText (Text.trim s)) := by
  have kept (path : File.Path) (absolute : File.isAbsolute path = true) :
      ∃ r, ofPath path = .ok r ∧ r.StandsFor path :=
    ⟨_, ofPath_eq_ofNames absolute, standsFor_ofNames absolute⟩
  refine ⟨kept, fun path => ofPath_relative, fun s rooted => ?_⟩
  obtain ⟨absolute, read⟩ := parse_rooted rooted
  rw [read]
  exact kept _ absolute

/-- A path with a step to the parent, a name that is no text, and marks of URLs in its last name. -/
def oddPath : File.Path :=
  File.ofText "/music/..//" ++ [0xff] ++ File.ofText "/./100%41 #1?.ogg"

theorem paths_survive_locators_odd :
    (∃ r path, ofPath oddPath = .ok r ∧ r.filePath? = some path ∧
      File.components path = [.root, .name (File.ofText "music"), .parent, .name [0xff],
        .name (File.ofText "100%41 #1?.ogg")] ∧ r.lastName? = some "100%41 #1?.ogg") ∧
    ofPath (File.ofText "bell.ogg") = .error (.relativePath "bell.ogg") ∧
    ∃ r, parse "  /a%2Fb/.. " = .ok r ∧ r.origin = .localFile ∧ r.lastName? = some ".." := by
  obtain ⟨absolute, relative, rooted⟩ := paths_survive_locators
  obtain ⟨r, read, stands⟩ := absolute oddPath (by decide +kernel)
  obtain ⟨path, found, components⟩ := stands.leads
  obtain ⟨r', read', stands'⟩ := rooted "  /a%2Fb/.. " (by decide +kernel)
  refine ⟨⟨r, path, read, found, components.trans (by decide +kernel), ?_⟩, ?_, r', read',
    stands'.origin, ?_⟩
  · exact stands.named "100%41 #1?.ogg".toList (by decide +kernel)
  · rw [relative _ (by decide +kernel)]
    exact congrArg _ (congrArg _ (by decide +kernel))
  · exact stands'.named "..".toList (by decide +kernel)

end AlertSound.Locator
