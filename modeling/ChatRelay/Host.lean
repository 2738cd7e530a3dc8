import ChatRelay.Fault

/-!
# The host

- `Host`: what the program finds on the machine that it runs on: the home directories of its users, and how long an
  integer and how deep a value may be that the runtime turns into text or reads from it;
- `Host.digitFault?` and `Host.depthFault?`: the fault that goes beyond a limit;
- `Host.Boundless`: the host sets no limit;
- `Host.usual`: the limits that the runtime has unless it is told otherwise, and `Host.sample`, a host with two users.

The program is written against any host. A walk through a value is a recursion of the runtime, whether it reads the
value, writes it or shows it, so the limit on depth is one for all of them.
-/

namespace ChatRelay

/-- The home directory of a user, by the text that names it. -/
structure Home where
  text : String
  absolute : text.toList.head? = some '/'

/-- The machine that the program runs on. -/
class Host where
  /-- The home directory of the user who runs the program. -/
  home : Home
  /-- The home directory of a user by name, if there is such a user. -/
  homeOf : String → Option Home
  /-- The most digits of an integer that becomes a text or is read from one, if there is such a limit. -/
  digitLimit : Option Nat
  /-- How deep a value may lie inside others that is read, written or shown, if there is such a limit. -/
  depthLimit : Option Nat
  /-- The runtime takes no lower limit on digits. -/
  digit_room : ∀ limit ∈ digitLimit, 640 ≤ limit
  /-- With a lower limit on depth the program itself would not run. -/
  depth_room : ∀ limit ∈ depthLimit, 100 ≤ limit

namespace Host

/-- The host of users with their home directories, the one who runs the program first, under the usual limits. -/
@[reducible]
def usual (home : Home) (users : List (String × Home)) : Host where
  home := home
  homeOf name := (users.find? (·.1 = name)).map (·.2)
  digitLimit := some 4300
  depthLimit := some 980
  digit_room := by simp
  depth_room := by simp

/-- A host with two users under the usual limits. -/
@[reducible]
def sample : Host := usual ⟨"/home/tester", by simp⟩ [("root", ⟨"/root", by simp⟩)]

variable [Host]

/-- The fault of an integer that has more digits than the host allows. -/
def digitFault? (digits : Nat) : Option Fault :=
  digitLimit.bind fun limit => if limit < digits then some (.integerTooLong limit) else none

/-- The fault of a value that lies deeper than the host allows. -/
def depthFault? (depth : Nat) : Option Fault :=
  depthLimit.bind fun limit => if limit < depth then some .tooDeep else none

/-- The host sets no limit. -/
def Boundless : Prop := digitLimit = none ∧ depthLimit = none

/-! ## Within the limits -/

/-- An integer is no fault when it has no more digits than the limit allows. -/
theorem digitFault?_eq_none_iff {n : Nat} : digitFault? n = none ↔ ∀ limit ∈ digitLimit, n ≤ limit := by
  simp [digitFault?, Option.bind_eq_none_iff]

/-- A value is no fault when it lies no deeper than the limit allows. -/
theorem depthFault?_eq_none_iff {n : Nat} : depthFault? n = none ↔ ∀ limit ∈ depthLimit, n ≤ limit := by
  simp [depthFault?, Option.bind_eq_none_iff]

/-- An integer is a fault when it has more digits than the limit. -/
theorem digitFault?_isSome_iff {n : Nat} : (digitFault? n).isSome ↔ ∃ limit ∈ digitLimit, limit < n := by
  simp [Option.isSome_iff_ne_none, ne_eq, digitFault?_eq_none_iff]

/-- A value is a fault when it lies deeper than the limit. -/
theorem depthFault?_isSome_iff {n : Nat} : (depthFault? n).isSome ↔ ∃ limit ∈ depthLimit, limit < n := by
  simp [Option.isSome_iff_ne_none, ne_eq, depthFault?_eq_none_iff]

/-- The fault of an integer with too many digits. -/
theorem digitFault?_of_lt {limit n : Nat} (hlimit : limit ∈ digitLimit) (h : limit < n) :
    digitFault? n = some (.integerTooLong limit) := by
  simp [digitFault?, Option.mem_def.1 hlimit, h]

theorem limit_of_digitFault? {n : Nat} {f : Fault} (h : digitFault? n = some f) :
    ∃ limit ∈ digitLimit, f = .integerTooLong limit := by
  obtain ⟨limit, hlimit, hf⟩ := Option.bind_eq_some_iff.1 h
  split at hf
  · exact ⟨limit, hlimit, (Option.some.inj hf).symm⟩
  · cases hf

theorem eq_of_depthFault? {n : Nat} {f : Fault} (h : depthFault? n = some f) : f = .tooDeep := by
  obtain ⟨limit, -, hf⟩ := Option.bind_eq_some_iff.1 h
  split at hf
  · exact (Option.some.inj hf).symm
  · cases hf

/-- Every host takes integers of a few hundred digits. -/
theorem digitFault?_of_le {n : Nat} (h : n ≤ 640) : digitFault? n = none :=
  digitFault?_eq_none_iff.mpr fun limit hlimit => Nat.le_trans h (digit_room limit hlimit)

/-- Every host takes values of some depth. -/
theorem depthFault?_of_le {n : Nat} (h : n ≤ 100) : depthFault? n = none :=
  depthFault?_eq_none_iff.mpr fun limit hlimit => Nat.le_trans h (depth_room limit hlimit)

/-- An integer with fewer digits than one that is no fault is none either. -/
theorem digitFault?_mono {m n : Nat} (hmn : m ≤ n) (h : digitFault? n = none) : digitFault? m = none :=
  digitFault?_eq_none_iff.mpr fun limit hlimit => Nat.le_trans hmn (digitFault?_eq_none_iff.mp h limit hlimit)

/-- What lies deeper than something that lies too deep does so as well. -/
theorem depthFault?_mono {m n : Nat} (hmn : m ≤ n) (h : depthFault? n = none) : depthFault? m = none :=
  depthFault?_eq_none_iff.mpr fun limit hlimit => Nat.le_trans hmn (depthFault?_eq_none_iff.mp h limit hlimit)

/-- Without limits no integer is a fault. -/
theorem Boundless.digitFault? (h : Boundless) (n : Nat) : Host.digitFault? n = none := by
  simp [digitFault?_eq_none_iff, h.1]

/-- Without limits no value is a fault. -/
theorem Boundless.depthFault? (h : Boundless) (n : Nat) : Host.depthFault? n = none := by
  simp [depthFault?_eq_none_iff, h.2]

end Host

end ChatRelay
