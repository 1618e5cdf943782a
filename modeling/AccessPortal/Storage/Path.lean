import AccessPortal.Storage.Directory

/-!
# Paths

A path is words between slashes. An absolute one starts with a slash and is followed from the root;
any other is followed from the directory that one is in. An empty word or `.` stays where it is, and
`..` goes back to the directory around, which for the root is the root itself.

`Directory.createAll` makes the directory at a path together with those on the way to it. A path may
end in `.` only if the directory before it is there: it is no name to give to a new one.

`Path.room` is what a path leaves for names: a file that would take a longer path is out of reach.

`at?_putAt` says that what is put at a place is found there.
-/

namespace AccessPortal

/-- Where something is, by the names from the root down to it. -/
abbrev Place := List String

namespace Path

/-- The shortest path that is too long, in bytes. -/
def maxBytes : Nat := 4096

/-- The words from the root that a path stands for, for one who is at the given place. -/
def words (here : Place) (path : String) : List String :=
  let words := (path.toList.splitOnP (· == '/')).map String.ofList
  if path.toList.head? = some '/' then words else here ++ words

/-- The longest name in the directory at a path for which the path to it is not too long. -/
def room (path : String) : Nat :=
  let slash := if path.toList.getLast? = some '/' then 0 else 1
  min Directory.maxNameBytes (maxBytes - 1 - slash - path.utf8ByteSize)

def moves (word : String) : Bool :=
  word != "" && word != "."

def withoutSlashes (words : List String) : List String :=
  (words.reverse.dropWhile (·.isEmpty)).reverse

/-- The paths to the directories on the way to the one that is meant, the longest first. -/
def ancestors (words : List String) : List (List String) :=
  let fronts := (List.range (words.length + 1)).map words.take
  (fronts.filter fun front => front.getLast?.any moves).reverse.tail

end Path

namespace Directory

def at? : Place → Directory → Option DirectoryEntry
  | [], dir => some (.directory dir.entries)
  | name :: place, dir =>
    match dir.find? name with
    | some (.directory entries) => at? place { entries }
    | some (.file bytes) => if place.isEmpty then some (.file bytes) else none
    | none => none

/-- Puts an entry at a place; nothing changes if there is no directory to put it into. -/
def putAt (entry : DirectoryEntry) : Place → Directory → Directory
  | [], dir =>
    match entry with
    | .directory entries => { dir with entries }
    | .file _ => dir
  | [name], dir => dir.put name entry
  | name :: next :: place, dir =>
    match dir.find? name with
    | some (.directory inner) =>
      dir.put name (.directory (putAt entry (next :: place) { entries := inner }).entries)
    | _ => dir

/-- The directories between the root and one inside of it, which comes first, by their names. -/
abbrev Trail := List (String × Directory)

def Trail.place (trail : Trail) : Place :=
  (trail.map (·.1)).reverse

def Trail.last (root : Directory) : Trail → Directory
  | [] => root
  | (_, dir) :: _ => dir

/-- Where one word leads to from the end of a trail. -/
def step (root : Directory) (trail : Trail) (word : String) : Except SystemFault Trail :=
  if !Path.moves word then .ok trail
  else if word = ".." then .ok trail.tail
  else if !(trail.last root).canName word then .error .nameTooLong
  else
    match (trail.last root).find? word with
    | some (.directory entries) => .ok ((word, { entries }) :: trail)
    | some (.file _) => .error .notDirectory
    | none => .error .missing

/-- The trail to the directory that words lead to. -/
def follow (root : Directory) (words : List String) : Except SystemFault Trail :=
  words.foldlM root.step []

/-- Makes the directory that the last of the words names, in the one that the others lead to. -/
def make (root : Directory) (words : List String) : Except SystemFault Directory := do
  let words := Path.withoutSlashes words
  match words.getLast? with
  | none => .error .taken
  | some name =>
    let trail ← root.follow words.dropLast
    if !Path.moves name || name = ".." then .error .taken
    else if !(trail.last root).canName name then .error .nameTooLong
    else if ((trail.last root).find? name).isSome then .error .taken
    else return root.putAt (.directory []) (trail.place ++ [name])

def ensure (root : Directory) (words : List String) : Except SystemFault Directory :=
  match root.make words with
  | .error .taken => if (root.follow words).isOk then .ok root else .error .taken
  | result => result

/--
Makes sure of the first directory. Only if one on the way to it is missing, the others are made sure
of before; they stay, also if the first one then fails.
-/
def ensureAlong : List (List String) → Directory → Except SystemFault Unit × Directory
  | [], root => (.ok (), root)
  | words :: ancestors, root =>
    match root.ensure words with
    | .ok root => (.ok (), root)
    | .error .missing =>
      match ensureAlong ancestors root with
      | (.error fault, root) => (.error fault, root)
      | (.ok (), root) =>
        match root.ensure words with
        | .ok root => (.ok (), root)
        | .error fault => (.error fault, root)
    | .error fault => (.error fault, root)

/-- Makes sure that the directory at a path exists, for one who is at the given place. -/
def createAll (here : Place) (path : String) (root : Directory) :
    Except SystemFault Unit × Directory :=
  if path.toList.contains '\x00' then (.error .badCharacter, root)
  else if Path.maxBytes ≤ path.utf8ByteSize then (.error .nameTooLong, root)
  else
    let words := Path.words here path
    root.ensureAlong (words :: Path.ancestors words)

/-- The place of the directory at a path, which is made if it is missing. -/
def openAt (here : Place) (path : String) (root : Directory) :
    Except SystemFault Place × Directory :=
  match root.createAll here path with
  | (.error fault, root) => (.error fault, root)
  | (.ok (), root) => ((root.follow (Path.words here path)).map (·.place), root)

/-- Writes a file at a path, if the directory that it belongs into is there. -/
def writeAt (here : Place) (path : String) (bytes : ByteArray) (root : Directory) : Directory :=
  let words := Path.words here path
  match root.follow words.dropLast, words.getLast? with
  | .ok trail, some name =>
    let dir := ((trail.last root).writeFile name bytes none).2
    root.putAt (.directory dir.entries) trail.place
  | _, _ => root

/-- The directory at a place; an empty one where there is none. -/
def directoryAt (place : Place) (root : Directory) : Directory :=
  match root.at? place with
  | some (.directory entries) => { entries }
  | _ => .empty

/-- Putting an entry at a place leaves the path to the directory as it is. -/
theorem room_putAt (entry : DirectoryEntry) (place : Place) (dir : Directory) :
    (dir.putAt entry place).room = dir.room := by
  unfold putAt
  repeat' split
  all_goals rfl

/-- A directory that leaves all room for names is given by its entries. -/
theorem mk_entries {dir : Directory} (h : dir.room = maxNameBytes) :
    { entries := dir.entries } = dir := by
  cases dir
  subst h
  rfl

/-- A directory that is put where there is one is found there. -/
theorem at?_putAt {place : Place} {root : Directory} {old : List (String × DirectoryEntry)}
    (entries : List (String × DirectoryEntry)) (h : root.at? place = some (.directory old)) :
    (root.putAt (.directory entries) place).at? place = some (.directory entries) := by
  induction place generalizing root with
  | nil => rfl
  | cons name place ih =>
    cases hn : root.find? name with
    | none => simp [at?, hn] at h
    | some entry =>
      cases entry with
      | file bytes => cases place <;> simp [at?, hn] at h
      | directory inner =>
        simp only [at?, hn] at h
        have hc := canName_of_find? hn
        cases place with
        | nil => rw [putAt, at?, find?_put _ hc]; rfl
        | cons next place =>
          rw [putAt, hn, at?, find?_put _ hc]
          change at? (next :: place) { entries := (putAt _ (next :: place) _).entries } = _
          rw [mk_entries (room_putAt _ (next :: place) { entries := inner })]
          exact ih h

end Directory
end AccessPortal
