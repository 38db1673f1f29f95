import AlertSound.Host.Machine
import AlertSound.Index.DataPath
import AlertSound.Proofs.Trace
import AlertSound.Proofs.Url.Segments

/-!
The canonical form of a locator. It names the sound that the locator names: the names
on its path are the same, and all that is told of a sound in the index is told from
these and from its origin. Besides scheme and site nothing else is left in it. The
origin of a locator is always the one that its URL tells.
-/
namespace AlertSound

open Program Url

/-- What is made of the answer to a question for a path: the first cell of the only row,
if the cursor moves to it. -/
def pathOfAnswer : Except QueryError (List Row × Bool) → Except QueryError (Option File.Path)
  | .error e => .error e
  | .ok ([row], false) => .ok ((row[0]?).join.map File.ofText)
  | .ok _ => .ok none

namespace Host.Machine

theorem getElem?_cursors_opened (m : Machine) (question : String) (rows : List Row) (stuck : Bool) :
    (m.opened question (.ok (rows, stuck))).2.cursors[m.cursors.size]? =
      some ⟨.ofRows rows, stuck⟩ := by
  simp [opened, noteCall, note]

theorem run_readPath (m : Machine) (cursor : CursorId) (rows : List Row) (stuck : Bool)
    (opened : m.cursors[cursor]? = some ⟨.ofRows rows, stuck⟩) :
    ((Resource.withCursor cursor do
        if (← Resource.count cursor) != 1 then return .ok none
        else if !(← Resource.moveToFirst cursor) then return .ok none
        else return .ok ((← Resource.cell cursor 0).map File.ofText)).run handler m).1 =
      pathOfAnswer (.ok (rows, stuck)) := by
  have inside : cursor < m.cursors.size := (Array.getElem?_eq_some_iff.mp opened).1
  match rows, stuck with
  | [], _ | _ :: _ :: _, _ =>
      simp [Resource.withCursor, Resource.count, run_bind, run_map, run, handler, Machine.cursor,
        opened, pathOfAnswer, Cursor.count, Cursor.ofRows]
  | [row], true =>
      simp [Resource.withCursor, Resource.count, Resource.moveToFirst, run_bind, run_map, run,
        handler, Machine.cursor, moveToFirst, opened, pathOfAnswer, Cursor.count, Cursor.ofRows]
  | [row], false =>
      have moved (entry : OpenCursor) :
          (m.cursors.setIfInBounds cursor entry)[cursor]? = some entry := by simp [inside]
      simp [Resource.withCursor, Resource.count, Resource.moveToFirst, Resource.cell, run_bind,
        run_map, run, handler, Machine.cursor, moveToFirst, opened, moved, pathOfAnswer,
        Cursor.count, Cursor.moveToFirst, Cursor.text?, Cursor.ofRows]

/-- On a host the file behind an indexed sound is told by the answer of the index alone. -/
theorem run_dataPath (m : Machine) {r : Locator}
    (indexed : r.origin = .mediaIndex ∨ r.origin = .drmIndex) :
    ((dataPath r).run handler m).1 = pathOfAnswer (m.index.query m.tree r [.data]) := by
  unfold dataPath
  split
  · simp_all
  · simp_all
  all_goals
    simp only [run_bind, Resource.query, run, handler]
    cases m.index.query m.tree r [.data] with
    | error e => rfl
    | ok rows => exact run_readPath _ _ _ _ (getElem?_cursors_opened ..)

end Host.Machine

namespace Locator

inductive Made : Locator → Prop where
  | parsed {s r} : parse s = .ok r → Made r
  | ofPath {path r} : ofPath path = .ok r → Made r
  | ofUrl {url r} : ofUrl url = .ok r → Made r
  | media (storage id) : Made (media storage id)
  | drm (id) : Made (drm id)
  | settingsDefault (kind) : Made (settingsDefault kind)
  | canonical {r} : Made r → Made r.canonical

variable {r r' : Locator}

theorem ofUrl_eq_ok {url : Url} :
    ofUrl url = .ok r ↔ r.url = url ∧ Origin.ofUrl? url = some r.origin := by
  obtain ⟨url', origin⟩ := r
  unfold ofUrl
  cases Origin.ofUrl? url with
  | none => simp
  | some told => simp [eq_comm]

theorem parse_eq_ok {s : String} (h : parse s = .ok r) :
    (∃ path, ofPath path = .ok r) ∨ Url.parse (Text.trim s) = .ok r.url ∧ ofUrl r.url = .ok r := by
  simp only [parse] at h
  split at h
  · exact .inl ⟨_, h⟩
  · split at h
    · rename_i url read
      obtain ⟨rfl, -⟩ := ofUrl_eq_ok.mp h
      exact .inr ⟨read, h⟩
    · cases h

theorem ofPath_eq_ok {path : List UInt8} (h : ofPath path = .ok r) :
    Url.ofFilePath? path = some r.url ∧ ofUrl r.url = .ok r := by
  unfold ofPath at h
  split at h
  · rename_i url read
    obtain ⟨rfl, -⟩ := ofUrl_eq_ok.mp h
    exact ⟨read, h⟩
  · cases h

/-- The origin is told by scheme and site. -/
theorem origin_congr {url url' : Url} (scheme : url.scheme = url'.scheme)
    (authority : url.authority = url'.authority) : Origin.ofUrl? url = Origin.ofUrl? url' := by
  simp [Origin.ofUrl?, hostText?, site?, scheme, authority]

@[simp] theorem scheme_canonical (r : Locator) : r.canonical.url.scheme = r.url.scheme := by
  unfold canonical
  split <;> rfl

@[simp] theorem authority_canonical (r : Locator) :
    r.canonical.url.authority = r.url.authority := by
  unfold canonical
  split <;> rfl

@[simp] theorem origin_canonical (r : Locator) : r.canonical.origin = r.origin := rfl

/-- The origin of a locator is the one that its URL tells. -/
theorem Made.ofUrl_url (made : Made r) : Locator.ofUrl r.url = .ok r := by
  have content (host : String) (names : List String) {origin : Origin}
      (told : Origin.ofUrl? (content host origin []).url = some origin) :
      Locator.ofUrl (Locator.content host origin names).url =
        .ok (Locator.content host origin names) :=
    ofUrl_eq_ok.mpr ⟨rfl, told ▸ origin_congr rfl rfl⟩
  induction made with
  | parsed h =>
      cases parse_eq_ok h with
      | inl path =>
          obtain ⟨path, h⟩ := path
          exact (ofPath_eq_ok h).2
      | inr url => exact url.2
  | ofPath h => exact (ofPath_eq_ok h).2
  | ofUrl h =>
      obtain ⟨rfl, -⟩ := ofUrl_eq_ok.mp h
      exact h
  | media storage id => exact content "media" _ rfl
  | drm id => exact content "drm" _ rfl
  | settingsDefault kind => exact content "settings" _ rfl
  | @canonical r _ ih =>
      have told := (ofUrl_eq_ok.mp ih).2
      exact ofUrl_eq_ok.mpr ⟨rfl, told ▸ origin_congr (scheme_canonical r) (authority_canonical r)⟩

/-- Outside of files a locator that was read holds no dot segments. -/
theorem settled_of_parse {s : String} (h : parse s = .ok r) (content : r.url.scheme = "content") :
    r.url.path.Settled := by
  cases parse_eq_ok h with
  | inl path =>
      obtain ⟨path, h⟩ := path
      have read := (ofPath_eq_ok h).1
      unfold Url.ofFilePath? at read
      split at read
      · rw [← Option.some.inj read] at content
        simp at content
      · cases read
  | inr url => exact Url.settled_of_parse url.1 (by rw [content]; rfl)

theorem not_isDots_of_mem_names (settled : r.url.path.Settled) {name : String}
    (he : name ∈ r.names) : isDots name.toList = false := by
  obtain ⟨he, -⟩ := List.mem_filter.mp he
  unfold segments? at he
  split at he
  · cases List.mem_singleton.mp he
    rfl
  · rename_i segments path
    rw [path] at settled
    exact settled name he
  · cases he

/-- The canonical form has the names of the locator. -/
theorem names_canonical (content : r.url.scheme = "content") (settled : r.url.path.Settled) :
    r.canonical.names = r.names := by
  unfold canonical
  split
  · rfl
  · rename_i some
    have path := path_withNames { r.url with query := none, fragment := none } r.names
      (by rw [content]; decide) fun name he => not_isDots_of_mem_names settled he
    have kept : (r.names.filter fun segment => !segment.isEmpty) = r.names := by
      simp [names, List.filter_filter]
    have segments : (withNames { r.url with query := none, fragment := none } r.names).segments? =
        .some r.names := by
      unfold segments?
      rw [path]
      cases same : r.names with
      | nil => simp [same] at some
      | cons name rest => rfl
    change ((Url.segments? _).getD []).filter _ = _
    rw [segments]
    exact kept

/-- Of a locator with names the canonical form keeps these, the scheme and the site. -/
theorem canonical_congr (made : Made r) (made' : Made r') (scheme : r.url.scheme = r'.url.scheme)
    (authority : r.url.authority = r'.url.authority) (names : r.names = r'.names)
    (some : r.names ≠ []) : r.canonical = r'.canonical := by
  have origin : r.origin = r'.origin := by
    have told := (ofUrl_eq_ok.mp made.ofUrl_url).2
    have told' := (ofUrl_eq_ok.mp made'.ofUrl_url).2
    rw [origin_congr scheme authority, told'] at told
    exact (Option.some.inj told).symm
  have isEmpty : r'.names.isEmpty = false := by
    rw [← names]
    exact List.isEmpty_eq_false_iff.mpr some
  simp [canonical, withNames, names, isEmpty, scheme, authority, origin]

theorem authority_of_content (made : Made r) (content : r.url.scheme = "content") :
    ∃ site, r.url.site? = some site ∧ r.url.authority = .named site := by
  have told := (ofUrl_eq_ok.mp made.ofUrl_url).2
  cases authority : r.url.authority with
  | absent | blank => simp [Origin.ofUrl?, content, hostText?, site?, authority] at told
  | named site => exact ⟨site, by simp [site?, authority], rfl⟩

theorem scheme_of_media (told : Origin.ofUrl? r.url = some r.origin)
    (media : r.origin = .mediaIndex) : r.url.scheme = "content" := by
  unfold Origin.ofUrl? at told
  split at told
  · rw [media] at told
    cases told
  · split at told
    · assumption
    · cases told

theorem lastName?_congr (h : r.names = r'.names) : r.lastName? = r'.lastName? := by
  rw [lastName?, h, lastName?]

section Congr

variable (origin : r.origin = r'.origin) (names : r.names = r'.names)

include origin names

theorem id?_congr : r.id? = r'.id? := by
  rw [id?, origin, lastName?_congr names, id?]

theorem storage?_congr : r.storage? = r'.storage? := by
  rw [storage?, origin, names, storage?]

theorem defaultKind?_congr : r.defaultKind? = r'.defaultKind? := by
  rw [defaultKind?, origin, lastName?_congr names, defaultKind?]

/-- Sound directories tell two entries of the media index apart by their names alone. -/
theorem query_congr (media : r.origin = .mediaIndex) (index : SoundDirectories) (tree : FileTree)
    (columns : List Column) : index.query tree r columns = index.query tree r' columns := by
  have media' : r'.origin = .mediaIndex := origin ▸ media
  simp only [SoundDirectories.query, media, media', SoundDirectories.queryMedia,
    storage?_congr origin names, id?_congr origin names, lastName?_congr names]

end Congr

/-- The canonical form of a locator names the same sound. Of a content locator that was
read it has the origin, the names in their order, and so the last name, the number, the
volume and the kind. Two content locators with one site and the same names, at least
one, have one canonical form, whatever else is written in them. Sound directories answer
the same for an entry of the media index and for its canonical form, whichever columns
are asked for, and have the same file for both. However a locator was come by, its origin
is the one that its URL tells. -/
theorem canonical_names_same_sound :
    (∀ s r, parse s = .ok r → r.url.scheme = "content" →
      r.canonical.origin = r.origin ∧ r.canonical.names = r.names ∧
      r.canonical.lastName? = r.lastName? ∧ r.canonical.id? = r.id? ∧
      r.canonical.storage? = r.storage? ∧ r.canonical.defaultKind? = r.defaultKind?) ∧
    (∀ r r', Made r → Made r' → r.url.scheme = "content" → r'.url.scheme = "content" →
      r.url.site? = r'.url.site? → r.names = r'.names → r.names ≠ [] →
        r.canonical = r'.canonical) ∧
    (∀ s r, parse s = .ok r → r.origin = .mediaIndex → ∀ (index : SoundDirectories),
      (∀ tree columns, index.query tree r.canonical columns = index.query tree r columns) ∧
      ∀ m : Host.Machine, m.index = .directories index →
        ((dataPath r.canonical).run Host.Machine.handler m).1 =
          ((dataPath r).run Host.Machine.handler m).1) ∧
    ∀ r, Made r → Locator.ofUrl r.url = .ok r := by
  have same {s : String} {r : Locator} (h : parse s = .ok r) (content : r.url.scheme = "content") :
      r.canonical.names = r.names := names_canonical content (settled_of_parse h content)
  refine ⟨fun s r h content => ?_, fun r r' made made' content content' site names some => ?_,
    fun s r h media index => ?_, fun r made => made.ofUrl_url⟩
  · have names := same h content
    exact ⟨rfl, names, lastName?_congr names, id?_congr rfl names, storage?_congr rfl names,
      defaultKind?_congr rfl names⟩
  · obtain ⟨_, told, named⟩ := authority_of_content made content
    obtain ⟨_, told', named'⟩ := authority_of_content made' content'
    rw [told, told'] at site
    cases site
    exact canonical_congr made made' (content.trans content'.symm) (named.trans named'.symm) names
      some
  · have content : r.url.scheme = "content" :=
      scheme_of_media (ofUrl_eq_ok.mp (Made.parsed h).ofUrl_url).2 media
    have queried (tree : FileTree) (columns : List Column) :
        index.query tree r.canonical columns = index.query tree r columns :=
      query_congr r.origin_canonical (same h content) media index tree columns
    refine ⟨queried, fun m directories => ?_⟩
    rw [Host.Machine.run_dataPath m (.inl media),
      Host.Machine.run_dataPath m (.inl (r.origin_canonical.trans media)), directories]
    simp only [Host.IndexSource.query, queried]

def untidyFirst : Locator where
  url :=
    { scheme := "content"
      authority := .named { username := "", password := "", host := .name "media", port := none }
      path := .rooted ["", "internal", "audio", "media", "1", ""]
      query := some "title=x"
      fragment := some "frag" }
  origin := .mediaIndex

def oneSound : Host.Machine where
  tree := FileTree.empty.addFile [File.ofText "sounds", File.ofText "a.ogg"] []
  settings := .inMemory
  lockedKeys := []
  index := .directories ⟨File.ofText "/sounds", none⟩
  volume := .uniform 0
  assets := .absent
  cursors := #[]
  journal := []

theorem canonical_names_same_sound_untidy :
    parse "content://media//internal/audio/media/1/?title=x#frag" = .ok untidyFirst ∧
      untidyFirst.canonical.names = ["internal", "audio", "media", "1"] ∧
      untidyFirst.canonical.id? = some 1 ∧
      untidyFirst.canonical = (media .inside 1).canonical ∧
      ((dataPath untidyFirst.canonical).run Host.Machine.handler oneSound).1.toOption =
        some (some (File.ofText "/sounds/a.ogg")) ∧
      Locator.ofUrl untidyFirst.canonical.url = .ok untidyFirst.canonical := by
  have read : parse "content://media//internal/audio/media/1/?title=x#frag" = .ok untidyFirst := rfl
  obtain ⟨same, congr, indexed, own⟩ := canonical_names_same_sound
  obtain ⟨-, names, -, id, -, -⟩ := same _ _ read rfl
  obtain ⟨-, file⟩ := indexed _ _ read rfl ⟨File.ofText "/sounds", none⟩
  exact ⟨read, names.trans rfl, id.trans (by decide +kernel),
    congr _ _ (.parsed read) (.media .inside 1) rfl rfl rfl rfl (by decide),
    (congrArg Except.toOption (file oneSound rfl)).trans (by decide +kernel),
    own _ (.canonical (.parsed read))⟩

end Locator
end AlertSound
