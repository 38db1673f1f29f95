import AlertSound.Proofs.Locator.FilePath
import AlertSound.Proofs.Url.FileText

/-!
A bare path and the text of its locator. The path keeps its steps to the parent, while a text
that begins with a scheme is read with its dot segments resolved. So the two are one locator if
and only if the path has no such step.
-/
namespace AlertSound.Locator

open Url
open File (dot)

/-- The text of the locator of a path is read with its dot segments resolved. -/
theorem parse_text_ofNames {names : List File.Path} (solid : ∀ name ∈ names, File.IsSolid name) :
    ∃ r, parse (ofNames names).text = .ok r ∧ r.origin = .localFile ∧ r.url.path.Settled ∧
      (r = ofNames names ↔ [dot, dot] ∉ names) := by
  obtain ⟨first, rest, same, given⟩ := nameSegments_eq_cons solid
  have literal := literal_nameSegments names
  have text : (ofNames names).text.toList = urlText "file".toList [] (nameSegments names) :=
    toList_toText (.inr ⟨rfl, rfl⟩) rfl rfl rfl
  have trimmed : Text.trim (ofNames names).text = (ofNames names).text :=
    trim_urlText literal_file literal_nil literal text
  have rootless : ((ofNames names).text.toList.head? == some '/') = false := by
    rw [text]
    rfl
  -- The slash of the root makes an empty piece, so that none of the names is read first.
  let resolved := resolvePieces true (([] :: nameSegments names).map .plain)
  have settled : (Path.ofSegments resolved).Settled :=
    Path.settled_ofSegments (kept_resolvePieces (whole_plain true ([] :: nameSegments names)))
  refine ⟨⟨⟨"file", .blank, .ofSegments resolved, none, none⟩, .localFile⟩, ?_, rfl, settled, ?_⟩
  · rw [same] at literal text
    simp only [parse, trimmed, rootless, parse_file literal text, resolved, same]
    rfl
  rw [← kept_nameSegments solid]
  constructor
  · intro again
    have path : Path.ofSegments resolved = .ofSegments (nameSegments names) :=
      congrArg (fun r => r.url.path) again
    rw [path] at settled
    exact fun segment member => by
      simpa using settled _ (List.mem_map_of_mem member)
  · intro kept
    have unchanged : resolved = nameSegments names := by
      simp only [resolved, same] at kept ⊢
      exact resolvePieces_rooted kept given
    rw [unchanged]
    rfl

/-- A bare path and the text of its locator are one locator if and only if the path takes no
step to the parent. The text is read in any case, as the locator of a file without dot
segments. -/
theorem reread_iff (s : String) (rooted : (Text.trim s).toList.head? = some '/') :
    ∃ r r', parse s = .ok r ∧ parse r.text = .ok r' ∧ r'.origin = .localFile ∧
      r'.url.path.Settled ∧
      (r' = r ↔ .parent ∉ File.components (File.ofText (Text.trim s))) := by
  obtain ⟨absolute, read⟩ := parse_rooted rooted
  have solid : ∀ name ∈ File.solidNames (File.ofText (Text.trim s)), File.IsSolid name :=
    fun _ => File.isSolid_of_mem
  obtain ⟨r', reread, origin, settled, same⟩ := parse_text_ofNames solid
  rw [ofPath_eq_ofNames absolute] at read
  rw [File.parent_mem_components absolute]
  exact ⟨_, r', read, reread, origin, settled, same⟩

theorem reread_iff_spaced :
    ∃ r, parse " /Bell Tower.ogg" = .ok r ∧ r.text = "file:///Bell%20Tower.ogg" ∧
      parse r.text = .ok r := by
  obtain ⟨r, r', read, reread, -, -, same⟩ := reread_iff " /Bell Tower.ogg" (by decide +kernel)
  have again : r' = r := same.mpr (by decide +kernel)
  have told : (parse " /Bell Tower.ogg").toOption.map text = some "file:///Bell%20Tower.ogg" := by
    decide +kernel
  simp only [read, Except.toOption, Option.map_some, Option.some.injEq] at told
  exact ⟨r, read, told, by rw [reread, again]⟩

/-- The text of this path names `/b`, where the path need not lead if `/a` is a link. -/
theorem parent_step_lost :
    ∃ r, parse "/a/../b" = .ok r ∧ r.text = "file:///a/../b" ∧
      parse r.text = parse "/b" ∧ parse r.text ≠ .ok r := by
  let names := [File.ofText "a", File.ofText "..", File.ofText "b"]
  have text : (ofNames names).text = "file:///a/../b" := by decide +kernel
  have reread : parse "file:///a/../b" = parse "/b" := rfl
  refine ⟨ofNames names, rfl, text, by rw [text, reread], fun same => ?_⟩
  rw [text, reread] at same
  have lost : ofNames [File.ofText "b"] = ofNames names := Except.ok.inj same
  exact absurd lost (by decide +kernel)

end AlertSound.Locator
