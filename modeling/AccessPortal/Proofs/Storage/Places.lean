import AccessPortal.Storage.Path
import Mathlib.Data.List.Basic

/-!
# Where paths lead

A path is followed from one directory to the next, so where it leads to depends on nothing but the
places of the directories (`toOption_follow`). A directory that was opened once is therefore opened
again without a change to anything, as long as no directory came or went (`openAt_again`). Putting
back a directory with other files in it is such a case (`hasDirectory_putAt`), and it changes no
file outside of that directory (`fileAt?_putAt`).
-/

namespace AccessPortal
namespace Directory

variable {root root' : Directory} {trail : Trail}

def hasDirectory (root : Directory) (place : Place) : Bool :=
  match root.at? place with
  | some (.directory _) => true
  | _ => false

def fileAt? (root : Directory) (place : Place) : Option ByteArray :=
  match root.at? place with
  | some (.file bytes) => some bytes
  | _ => none

/-! ## Trails and places -/

namespace Trail

/-- Each directory of a trail is found in the one around it. -/
def Sound (root : Directory) : Trail → Prop
  | [] => True
  | (name, dir) :: trail =>
      (last root trail).find? name = some (.directory dir.entries) ∧ dir.room = maxNameBytes ∧
        Sound root trail

theorem place_cons (name : String) (dir : Directory) (trail : Trail) :
    place ((name, dir) :: trail) = place trail ++ [name] := by
  simp [place]

theorem place_tail (trail : Trail) : place trail.tail = (place trail).dropLast := by
  cases trail with
  | nil => rfl
  | cons step trail => simp [place]

theorem Sound.tail (sound : Sound root trail) : Sound root trail.tail := by
  cases trail with
  | nil => exact sound
  | cons step trail => exact sound.2.2

theorem Sound.at?_append (sound : Sound root trail) (inner : Place) :
    root.at? (place trail ++ inner) = (last root trail).at? inner := by
  induction trail generalizing inner with
  | nil => rfl
  | cons step trail ih =>
      obtain ⟨name, dir⟩ := step
      obtain ⟨found, roomy, sound⟩ := sound
      rw [place_cons, List.append_assoc, ih sound ([name] ++ inner), List.singleton_append, at?,
        found]
      simp only [mk_entries roomy]
      rfl

theorem Sound.at?_place (sound : Sound root trail) :
    root.at? (place trail) = some (.directory (last root trail).entries) := by
  have here := sound.at?_append []
  rw [List.append_nil] at here
  exact here

theorem Sound.hasDirectory_append (sound : Sound root trail) (name : String) :
    root.hasDirectory (place trail ++ [name]) =
      match (last root trail).find? name with
      | some (.directory _) => true
      | _ => false := by
  rw [hasDirectory, sound.at?_append, at?]
  cases (last root trail).find? name with
  | none => rfl
  | some entry => cases entry <;> rfl

end Trail

/-- Where one word leads to from a place, by the places of the directories alone. -/
def stepPlace (isDirectory : Place → Bool) (place : Place) (word : String) : Option Place :=
  if !Path.moves word then some place
  else if word = ".." then some place.dropLast
  else if isDirectory (place ++ [word]) then some (place ++ [word])
  else none

theorem sound_step {next : Trail} {word : String} (sound : trail.Sound root)
    (h : root.step trail word = .ok next) : next.Sound root := by
  unfold step at h
  split at h
  · cases h
    exact sound
  split at h
  · cases h
    exact sound.tail
  split at h
  · cases h
  split at h
  · rename_i found
    cases h
    exact ⟨found, rfl, sound⟩
  · cases h
  · cases h

theorem toOption_step (sound : trail.Sound root) (word : String) :
    (root.step trail word).toOption.map Trail.place =
      stepPlace root.hasDirectory trail.place word := by
  unfold step stepPlace
  split
  · rfl
  split
  · exact congrArg some (Trail.place_tail trail)
  rw [sound.hasDirectory_append]
  cases found : (trail.last root).find? word with
  | none => split <;> rfl
  | some entry =>
      have canName := canName_of_find? found
      cases entry with
      | file bytes => simp [canName, Except.toOption]
      | directory entries => simp [canName, Except.toOption, Trail.place_cons]

theorem sound_foldlM {last : Trail} {words : List String} (sound : trail.Sound root)
    (h : words.foldlM root.step trail = .ok last) : last.Sound root := by
  induction words generalizing trail with
  | nil =>
      cases h
      exact sound
  | cons word words ih =>
      rw [List.foldlM_cons] at h
      cases stepped : root.step trail word with
      | error fault =>
          rw [stepped] at h
          cases h
      | ok next =>
          rw [stepped] at h
          exact ih (sound_step sound stepped) h

theorem toOption_foldlM (sound : trail.Sound root) (words : List String) :
    (words.foldlM root.step trail).toOption.map Trail.place =
      words.foldlM (stepPlace root.hasDirectory) trail.place := by
  induction words generalizing trail with
  | nil => rfl
  | cons word words ih =>
      have first := toOption_step sound word
      rw [List.foldlM_cons, List.foldlM_cons, ← first]
      cases stepped : root.step trail word with
      | error fault => rfl
      | ok next => exact ih (sound_step sound stepped)

/-- Where words lead to from the root. -/
theorem toOption_follow (root : Directory) (words : List String) :
    (root.follow words).toOption.map Trail.place =
      words.foldlM (stepPlace root.hasDirectory) [] :=
  toOption_foldlM (show Trail.Sound root [] from trivial) words

theorem follow_eq_of_hasDirectory
    (same : ∀ place, root'.hasDirectory place = root.hasDirectory place) (words : List String) :
    (root'.follow words).toOption.map Trail.place =
      (root.follow words).toOption.map Trail.place := by
  have isDirectory : root'.hasDirectory = root.hasDirectory := funext same
  rw [toOption_follow, toOption_follow, isDirectory]

/-! ## Opening a directory that is there -/

theorem step_of_isEmpty {word : String} (empty : word.isEmpty = true) (trail : Trail) :
    root.step trail word = .ok trail := by
  have stays : Path.moves word = false := by
    have same : word = "" := String.isEmpty_iff.mp empty
    rw [same]
    rfl
  simp [step, stays]

theorem foldlM_of_isEmpty {words : List String} (empty : ∀ word ∈ words, word.isEmpty = true)
    (trail : Trail) : words.foldlM root.step trail = .ok trail := by
  induction words with
  | nil => rfl
  | cons word words ih =>
      rw [List.foldlM_cons, step_of_isEmpty (empty word List.mem_cons_self)]
      exact ih fun word mem => empty word (List.mem_cons_of_mem _ mem)

/-- Slashes at the end of a path lead nowhere else. -/
theorem follow_withoutSlashes (words : List String) :
    root.follow (Path.withoutSlashes words) = root.follow words := by
  have split : Path.withoutSlashes words ++ (words.reverse.takeWhile (·.isEmpty)).reverse =
      words := by
    rw [Path.withoutSlashes, ← List.reverse_append, List.takeWhile_append_dropWhile,
      List.reverse_reverse]
  have empty : ∀ word ∈ (words.reverse.takeWhile (·.isEmpty)).reverse, word.isEmpty = true := by
    intro word mem
    have all := List.all_takeWhile (p := fun word : String => word.isEmpty) (l := words.reverse)
    exact List.all_eq_true.mp all word (List.mem_reverse.mp mem)
  conv => rhs; rw [← split]
  unfold follow
  rw [List.foldlM_append]
  cases (Path.withoutSlashes words).foldlM root.step [] with
  | error fault => rfl
  | ok trail => exact (foldlM_of_isEmpty empty trail).symm

/-- A directory that is there is not made again. -/
theorem make_of_follow {words : List String} (there : root.follow words = .ok trail) :
    root.make words = .error .taken := by
  rw [← follow_withoutSlashes] at there
  unfold make
  simp only
  cases last : (Path.withoutSlashes words).getLast? with
  | none => rfl
  | some name =>
      have split := List.dropLast_append_getLast? name last
      rw [follow, ← split, List.foldlM_append] at there
      rw [follow]
      cases before : (Path.withoutSlashes words).dropLast.foldlM root.step [] with
      | error fault =>
          rw [before] at there
          cases there
      | ok around =>
          have stepped : root.step around name = .ok trail := by
            rw [before] at there
            change [name].foldlM root.step around = .ok trail at there
            simpa only [List.foldlM_cons, List.foldlM_nil, bind_pure] using there
          unfold step at stepped
          split at stepped
          · rename_i stays
            simp [stays, bind, Except.bind]
          split at stepped
          · rename_i back
            simp [back, bind, Except.bind]
          split at stepped
          · cases stepped
          · rename_i canName
            split at stepped
            · rename_i found
              simp [canName, found, bind, Except.bind]
            · cases stepped
            · cases stepped

theorem createAll_of_follow {here : Place} {path : String}
    (text : ¬ path.toList.contains '\x00' = true) (short : ¬ Path.maxBytes ≤ path.utf8ByteSize)
    (there : root.follow (Path.words here path) = .ok trail) :
    root.createAll here path = (.ok (), root) := by
  have ensured : root.ensure (Path.words here path) = .ok root := by
    rw [ensure, make_of_follow there]
    simp [there, Except.isOk, Except.toBool]
  rw [createAll, if_neg text, if_neg short]
  simp [ensureAlong, ensured]

/-- What is known once a directory is open. -/
theorem openAt_spec {start : Directory} {here place : Place} {path : String}
    (opened : start.openAt here path = (.ok place, root)) :
    ¬ path.toList.contains '\x00' = true ∧ ¬ Path.maxBytes ≤ path.utf8ByteSize ∧
      ∃ trail, root.follow (Path.words here path) = .ok trail ∧ trail.place = place := by
  unfold openAt at opened
  split at opened
  · cases opened
  rename_i after made
  obtain ⟨led, rfl⟩ := Prod.mk.inj opened
  unfold createAll at made
  split at made
  · cases made
  rename_i text
  split at made
  · cases made
  rename_i short
  cases there : after.follow (Path.words here path) with
  | error fault =>
      rw [there] at led
      cases led
  | ok trail =>
      rw [there] at led
      cases led
      exact ⟨text, short, trail, rfl, rfl⟩

theorem at?_of_openAt {start : Directory} {here place : Place} {path : String}
    (opened : start.openAt here path = (.ok place, root)) :
    ∃ entries, root.at? place = some (.directory entries) := by
  obtain ⟨-, -, trail, there, rfl⟩ := openAt_spec opened
  have sound : trail.Sound root := sound_foldlM (show Trail.Sound root [] from trivial) there
  exact ⟨_, sound.at?_place⟩

/-- As long as no directory comes or goes, one that was opened is opened again without a change. -/
theorem openAt_again {start : Directory} {here place : Place} {path : String}
    (opened : start.openAt here path = (.ok place, root))
    (same : ∀ place, root'.hasDirectory place = root.hasDirectory place) :
    root'.openAt here path = (.ok place, root') := by
  obtain ⟨text, short, trail, there, led⟩ := openAt_spec opened
  have follows := follow_eq_of_hasDirectory same (Path.words here path)
  rw [there] at follows
  cases again : root'.follow (Path.words here path) with
  | error fault =>
      rw [again] at follows
      cases follows
  | ok trail' =>
      rw [again] at follows
      have place : trail'.place = trail.place := Option.some.inj follows
      rw [openAt, createAll_of_follow text short again]
      simp only [again, Except.map, place, led]

/-! ## Putting a directory back -/

/-- The same directories are in both, with the same in them. -/
def SameInside (entries old : Table DirectoryEntry) : Prop :=
  ∀ name inner, entries.find? name = some (.directory inner) ↔
    old.find? name = some (.directory inner)

theorem putAt_cons {name : String} {inner : List (String × DirectoryEntry)}
    (found : root.find? name = some (.directory inner)) (entries : List (String × DirectoryEntry))
    (place : Place) :
    root.putAt (.directory entries) (name :: place) =
      root.put name (.directory (Directory.putAt (.directory entries) place
        { entries := inner }).entries) := by
  cases place with
  | nil => rfl
  | cons next place => simp only [putAt, found]

theorem canName_put (name other : String) (entry : DirectoryEntry) (dir : Directory) :
    (dir.put name entry).canName other = dir.canName other :=
  rfl

theorem find?_put_of_ne {name other : String} (different : other ≠ name) (entry : DirectoryEntry)
    (dir : Directory) : (dir.put name entry).find? other = dir.find? other := by
  unfold find?
  rw [canName_put]
  simp only [put, Table.find?_put_of_ne different]

/-- Under a name, nothing but what is put at a place that starts with it becomes another. -/
theorem at?_putAt_of_ne {name other : String} {inner : List (String × DirectoryEntry)}
    (found : root.find? name = some (.directory inner)) (different : other ≠ name)
    (entries : List (String × DirectoryEntry)) (place rest : Place) :
    (root.putAt (.directory entries) (name :: place)).at? (other :: rest) =
      root.at? (other :: rest) := by
  rw [putAt_cons found, at?, at?, find?_put_of_ne different]

theorem at?_putAt_same {name : String} {inner : List (String × DirectoryEntry)}
    (found : root.find? name = some (.directory inner)) (entries : List (String × DirectoryEntry))
    (place rest : Place) :
    (root.putAt (.directory entries) (name :: place)).at? (name :: rest) =
      (Directory.putAt (.directory entries) place { entries := inner }).at? rest := by
  have roomy : (Directory.putAt (.directory entries) place { entries := inner }).room =
      maxNameBytes :=
    room_putAt (.directory entries) place { entries := inner }
  rw [putAt_cons found, at?, find?_put _ (canName_of_find? found)]
  simp only [mk_entries roomy]

theorem at?_cons_directory {name : String} {place : Place}
    {old : List (String × DirectoryEntry)}
    (there : root.at? (name :: place) = some (.directory old)) :
    ∃ inner, root.find? name = some (.directory inner) ∧
      Directory.at? place { entries := inner } = some (.directory old) := by
  cases found : root.find? name with
  | none => simp [at?, found] at there
  | some entry =>
      cases entry with
      | file bytes => simp [at?, found] at there
      | directory inner =>
          simp only [at?, found] at there
          exact ⟨inner, rfl, there⟩

theorem hasDirectory_cons (root : Directory) (name : String) (place : Place) :
    root.hasDirectory (name :: place) = true ↔
      ∃ inner, root.find? name = some (.directory inner) ∧
        Directory.hasDirectory { entries := inner } place = true := by
  unfold hasDirectory
  rw [at?]
  cases root.find? name with
  | none => simp
  | some entry =>
      cases entry with
      | file bytes => cases place <;> simp
      | directory inner => simp

theorem hasDirectory_putAt {place : Place} {entries old : List (String × DirectoryEntry)}
    (there : root.at? place = some (.directory old)) (same : SameInside entries old)
    (other : Place) :
    (root.putAt (.directory entries) place).hasDirectory other = root.hasDirectory other := by
  -- Along the place where the directory is put, until the two places part.
  induction place generalizing root other with
  | nil =>
      cases there
      cases other with
      | nil => rfl
      | cons name rest =>
          have inside (inner : List (String × DirectoryEntry)) :
              (root.putAt (.directory entries) []).find? name = some (.directory inner) ↔
                root.find? name = some (.directory inner) := by
            change (if root.canName name then Table.find? name entries else none) = _ ↔
              (if root.canName name then Table.find? name root.entries else none) = _
            by_cases canName : root.canName name = true
            · rw [if_pos canName, if_pos canName]
              exact same name inner
            · rw [if_neg canName, if_neg canName]
          rw [Bool.eq_iff_iff, hasDirectory_cons, hasDirectory_cons]
          simp only [inside]
  | cons name place ih =>
      obtain ⟨inner, found, below⟩ := at?_cons_directory there
      cases other with
      | nil => cases place <;> simp [putAt, found, hasDirectory, at?]
      | cons first rest =>
          by_cases here : first = name
          · subst here
            have under := ih below rest
            unfold hasDirectory at under ⊢
            rw [at?_putAt_same found, under, at?, found]
          · unfold hasDirectory
            rw [at?_putAt_of_ne found here]

theorem fileAt?_putAt {place : Place} {entries old : List (String × DirectoryEntry)}
    (there : root.at? place = some (.directory old)) {other : Place} (outside : ¬ place <+: other) :
    (root.putAt (.directory entries) place).fileAt? other = root.fileAt? other := by
  induction place generalizing root other with
  | nil => exact absurd (List.nil_prefix) outside
  | cons name place ih =>
      obtain ⟨inner, found, below⟩ := at?_cons_directory there
      cases other with
      | nil => cases place <;> simp [putAt, found, fileAt?, at?]
      | cons first rest =>
          by_cases here : first = name
          · subst here
            have deeper : ¬ place <+: rest := fun inside =>
              outside (List.cons_prefix_cons.mpr ⟨rfl, inside⟩)
            have under := ih below deeper
            unfold fileAt? at under ⊢
            rw [at?_putAt_same found, under, at?, found]
          · unfold fileAt?
            rw [at?_putAt_of_ne found here]

end Directory
end AccessPortal
