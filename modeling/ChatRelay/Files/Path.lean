import ChatRelay.Host

/-!
# Paths

- `Path`: a path by its parts, with one or two leading slashes or none. Empty parts, `.` and a trailing slash vanish,
  `..` stays;
- `Path.toString`: the path in text, `.` when it has no parts;
- `Path.expandHome`: the path with a leading `~`, alone or before the name of a user, replaced by the home directory;
- `Path.parent`, `Path.name?`, `Path.sibling`: the directory a path lies in, its last part, and a path beside it.
-/

namespace ChatRelay

/-- A path. -/
structure Path where
  /-- How many slashes stand in front: none, one or two. -/
  slashes : Nat
  parts : List String
deriving DecidableEq

namespace Path

/-- The parts of a text between slashes, after the reversed characters of the part begun. -/
def splitSlashes (part : List Char) : List Char → List (List Char)
  | [] => [part.reverse]
  | c :: cs => if c = '/' then part.reverse :: splitSlashes [] cs else splitSlashes (c :: part) cs

/-- How many leading slashes count: exactly two stay two, every other run is one. -/
def leadingSlashes (cs : List Char) : Nat :=
  match (cs.takeWhile (· = '/')).length with
  | 0 => 0
  | 2 => 2
  | _ => 1

/-- Whether a part says something: it is neither empty nor the directory itself. -/
def isPart (part : String) : Bool := part ≠ "" && part ≠ "."

/-- The path that a text spells. -/
def ofString (s : String) : Path :=
  ⟨leadingSlashes s.toList, ((splitSlashes [] s.toList).map String.ofList).filter isPart⟩

/-- The path in text. -/
def toString (p : Path) : String :=
  if p.slashes = 0 ∧ p.parts = [] then "."
  else String.ofList (List.replicate p.slashes '/') ++ "/".intercalate p.parts

/-- The path of a home directory. A run of slashes alone is the root directory. -/
def ofHome (h : Home) : Path := ofString (if h.text.toList.all (· = '/') then "/" else h.text)

/-- The home directory of the user who runs the program. -/
def home [Host] : Path := ofHome Host.home

/-- The home directory that a text behind a `~` names: no name stands for the user who runs the program. No user has a
name with a null character. -/
def homeOf [Host] (name : String) : Except Fault Path :=
  if name = "" then .ok home
  else if name.contains '\x00' then .error .badValue
  else
    match Host.homeOf name with
    | some h => .ok (ofHome h)
    | none => .error .unknownHome

/-- A path below a directory. -/
def below (p : Path) (parts : List String) : Path := ⟨p.slashes, p.parts ++ parts⟩

/-- The path with a first part that begins with `~` replaced by the home directory that it names. -/
def expandHome [Host] (p : Path) : Except Fault Path :=
  match p.slashes, p.parts with
  | 0, first :: rest =>
    match first.toList with
    | '~' :: name => (homeOf (String.ofList name)).map (·.below rest)
    | _ => .ok p
  | _, _ => .ok p

/-- Whether a path leads to the root directory. -/
def isRoot (p : Path) : Bool := p.slashes ≠ 0 && p.parts.isEmpty

/-- Whether a name is longer than a name in a directory can be. -/
def isLongName (name : String) : Bool := 255 < name.utf8ByteSize

/-- Whether a path is longer than the file system takes. -/
def isLong (p : Path) : Bool := 4095 < p.toString.utf8ByteSize

/-- Whether a path holds a null character, which no name of a file can hold. -/
def hasNul (p : Path) : Bool := p.parts.any (·.contains '\x00')

/-- Parts as far as the first null character in them. A part that says nothing is left out. -/
def upToNul : List String → List String
  | [] => []
  | part :: rest =>
    if part.contains '\x00' then [(part.takeWhile (· ≠ '\x00')).toString].filter isPart else part :: upToNul rest

/-- The directory that a path lies in. -/
def parent (p : Path) : Path := ⟨p.slashes, p.parts.dropLast⟩

/-- The last part of a path. -/
def name? (p : Path) : Option String := p.parts.getLast?

/-- The path with its last part replaced. -/
def sibling (p : Path) (name : String) : Path := p.parent.below [name]

/-- The path with its last part as far as the first null character in it. -/
def cutName (p : Path) : Path := p.parent.below (upToNul p.name?.toList)

end Path

end ChatRelay
