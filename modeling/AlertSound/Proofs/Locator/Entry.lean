import AlertSound.Proofs.Locator.Canonical
import AlertSound.Proofs.Text.Utf8
import AlertSound.Proofs.Url.Plain

/-!
Content locators with plain names, and the entries of the two indexes among them. All that a
locator of an entry tells, its id among it, is what it was made from, and so is the locator
that is read from its text.
-/
namespace AlertSound.Locator

open Url

theorem plainName_toString (n : Int) : PlainName (toString n).toList where
  ne_nil := by
    obtain ⟨c, cs, same, -⟩ := Text.head_toString n
    rw [same]
    exact List.cons_ne_nil c cs
  plain := by
    have digit (n : Nat) (c : Char) (mem : c ∈ Nat.toDigits 10 n) : isPlain c = true := by
      simp [isPlain, Char.isAlphanum, Text.isDigit_of_mem mem]
    intro c mem
    rw [Text.toString_int] at mem
    split at mem
    · exact digit _ c mem
    · obtain rfl | mem := List.mem_cons.mp mem
      · rfl
      · exact digit _ c mem

/-- A last name in plain characters is told as it is written. -/
theorem lastName?_of_plain {r : Locator} {name : String} (last : r.names.getLast? = some name)
    (plain : PlainName name.toList) : r.lastName? = some name := by
  have unescaped : '%' ∉ name.toList := fun mem => absurd (plain.plain '%' mem) (by decide)
  simp only [lastName?, last, Option.map_some, Text.percentDecode_eq unescaped,
    Text.ofUtf8?_utf8, String.ofList_toList]

section Content

variable {host : String} {origin : Origin} {names : List String}
  (plain : ∀ name ∈ names, PlainName name.toList)

include plain

theorem path_content : (content host origin names).url.path = .rooted names :=
  path_withNames _ names (show "content" ≠ "file" by decide) fun name mem =>
    (plain name mem).not_isDots

theorem names_content : (content host origin names).names = names := by
  have given : (names.filter fun name => !name.isEmpty) = names :=
    List.filter_eq_self.mpr fun name mem => by
      simpa [String.isEmpty_iff] using (plain name mem).ne_nil
  rw [Locator.names, segments?, path_content plain]
  cases names with
  | nil => rfl
  | cons name names => exact given

/-- A content locator is read from its text. -/
theorem parse_text_content (site : PlainName host.toList) (some : names ≠ [])
    (told : Origin.ofUrl? (content host origin names).url = .some origin) :
    parse (content host origin names).text = .ok (content host origin names) := by
  have scheme : PlainName "content".toList := by decide
  have plain' : ∀ name ∈ names.map String.toList, PlainName name := List.forall_mem_map.mpr plain
  have path : Path.ofSegments (names.map String.toList) = (content host origin names).url.path :=
    (Path.ofSegments_toList names).trans (path_content plain).symm
  have text : (content host origin names).text.toList =
      urlText "content".toList host.toList (names.map String.toList) :=
    toList_toText (.inl rfl) path.symm rfl rfl
  have solid : Text.trim (content host origin names).text = (content host origin names).text :=
    trim_urlText scheme.literal site.literal (fun name mem => (plain' name mem).literal) text
  have rootless : ((content host origin names).text.toList.head? == .some '/') = false := by
    rw [text]
    rfl
  obtain ⟨name, rest, same⟩ := List.exists_cons_of_ne_nil some
  have read : Url.parse (content host origin names).text = .ok (content host origin names).url := by
    rw [same, List.map_cons] at text plain' path
    rw [same, parse_content site plain' text, path, String.ofList_toList]
    rfl
  simp only [parse, solid, rootless, read]
  exact ofUrl_eq_ok.mpr ⟨rfl, told⟩

end Content

section Media

variable (storage : Storage) (id : Int64)

def mediaNames : List String := [storage.name, "audio", "media", toString id.toInt]

theorem plainName_of_mem_mediaNames :
    ∀ name ∈ mediaNames storage id, PlainName name.toList := by
  have word : ∀ name ∈ ["internal", "external", "audio", "media"], PlainName name.toList := by
    decide
  simp only [mediaNames, List.forall_mem_cons]
  refine ⟨?_, word _ (by decide), word _ (by decide), plainName_toString _, List.forall_mem_nil _⟩
  cases storage with
  | inside => exact word _ (by decide)
  | outside => exact word _ (by decide)

@[simp] theorem origin_media : (media storage id).origin = .mediaIndex := rfl

theorem names_media : (media storage id).names = mediaNames storage id :=
  names_content (plainName_of_mem_mediaNames storage id)

/-- How an entry of the media index is written. -/
theorem text_media : (media storage id).text =
    "content://media/" ++ storage.name ++ "/audio/media/" ++ toString id.toInt := by
  have path : (media storage id).url.path = .rooted (mediaNames storage id) :=
    path_content (plainName_of_mem_mediaNames storage id)
  have authority : (media storage id).url.authority = .named ⟨"", "", .name "media", none⟩ := rfl
  rw [text, toText, path, authority]
  cases storage
  all_goals simp [media, content, withNames, frontText, Site.text, Site.userText, Host.text,
    Path.text, tailText, String.join, Storage.name, mediaNames, ← String.append_assoc]

@[simp] theorem storage?_media : (media storage id).storage? = some storage := by
  simp only [storage?, names_media, mediaNames, List.head?_cons, origin_media]
  cases storage with
  | inside => rfl
  | outside => rfl

theorem lastName?_media : (media storage id).lastName? = some (toString id.toInt) :=
  lastName?_of_plain (by rw [names_media]; rfl) (plainName_toString _)

@[simp] theorem id?_media : (media storage id).id? = some id := by
  simp only [id?, origin_media, lastName?_media, Option.bind_some, Text.int64?_toString]

/-- An entry of the media index is read from its text. -/
theorem parse_text_media : parse (media storage id).text = .ok (media storage id) :=
  parse_text_content (plainName_of_mem_mediaNames storage id) (by decide) (List.cons_ne_nil _ _) rfl

end Media

section Drm

variable (id : Int64)

theorem plainName_of_mem_drmNames :
    ∀ name ∈ ["audio", toString id.toInt], PlainName name.toList := by
  simp only [List.forall_mem_cons]
  exact ⟨by decide, plainName_toString _, List.forall_mem_nil _⟩

@[simp] theorem origin_drm : (drm id).origin = .drmIndex := rfl

theorem names_drm : (drm id).names = ["audio", toString id.toInt] :=
  names_content (plainName_of_mem_drmNames id)

@[simp] theorem id?_drm : (drm id).id? = some id := by
  have last : (drm id).lastName? = some (toString id.toInt) :=
    lastName?_of_plain (by rw [names_drm]; rfl) (plainName_toString _)
  simp only [id?, origin_drm, last, Option.bind_some, Text.int64?_toString]

/-- An entry of the protected index is read from its text. -/
theorem parse_text_drm : parse (drm id).text = .ok (drm id) :=
  parse_text_content (plainName_of_mem_drmNames id) (by decide) (List.cons_ne_nil _ _) rfl

end Drm

inductive Entry where
  | media (storage : Storage) (id : Int64)
  | drm (id : Int64)

namespace Entry

def locator : Entry → Locator
  | .media storage id => Locator.media storage id
  | .drm id => Locator.drm id

def id : Entry → Int64
  | .media _ id | .drm id => id

def storage? : Entry → Option Storage
  | .media storage _ => some storage
  | .drm _ => none

theorem parse_text (e : Entry) : parse e.locator.text = .ok e.locator := by
  cases e with
  | media storage id => exact parse_text_media storage id
  | drm id => exact parse_text_drm id

theorem id?_locator (e : Entry) : e.locator.id? = some e.id := by
  cases e with
  | media storage id => exact id?_media storage id
  | drm id => exact id?_drm id

theorem storage?_locator (e : Entry) : e.locator.storage? = e.storage? := by
  cases e with
  | media storage id => exact storage?_media storage id
  | drm id => rfl

/-- An entry is told by its id and its volume, if it has one. -/
theorem ext {e e' : Entry} (id : e.id = e'.id) (storage : e.storage? = e'.storage?) : e = e' := by
  cases e with
  | media volume n =>
      cases e' with
      | media volume' n' =>
          cases storage
          cases id
          rfl
      | drm n' => cases storage
  | drm n =>
      cases e' with
      | media volume' n' => cases storage
      | drm n' => exact congrArg Entry.drm id

/-- No two entries are written the same. -/
theorem text_injective {e e' : Entry} (same : e.locator.text = e'.locator.text) : e = e' := by
  have read := e.parse_text
  rw [same, e'.parse_text] at read
  have locator : e'.locator = e.locator := Except.ok.inj read
  apply ext
  · rw [← Option.some_inj, ← e.id?_locator, ← e'.id?_locator, locator]
  · rw [← e.storage?_locator, ← e'.storage?_locator, locator]

end Entry
end AlertSound.Locator
