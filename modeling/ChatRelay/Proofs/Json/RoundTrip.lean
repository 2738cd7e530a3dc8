import ChatRelay.Proofs.Json.Lines
import Mathlib.Data.List.TakeWhile

/-!
# Values that read back

What is written for a value reads as that value, in either layout.

- `readChars_quote`: strings read back, whatever characters they hold;
- `Distinct`, `LegibleAt`, `Legible`: no object has a key twice, and nothing goes beyond a limit of the host;
- `read_indented`: a legible value reads back;
- `legible_iff`: the legible values are those that were read from some text.
-/

namespace ChatRelay.Json

/-! ## Strings -/

/-- An escape that spells no number is refused. -/
theorem readChars_malformed (acc : List Char) {a b c d : Char} (rest : List Char)
    (h : Text.hexNumber? [a, b, c, d] = none) :
    readChars acc ('\\' :: 'u' :: a :: b :: c :: d :: rest) = .error .malformed := by
  by_cases hpair : Escaped rest
  · obtain ⟨e, f, g, i, rest, rfl⟩ := hpair
    rw [readChars.eq_3, h]
  · rw [readChars.eq_4 _ _ _ _ _ _ fun e f g i rest' heq => hpair ⟨e, f, g, i, rest', heq⟩, h]

/-- An escape by number reads as its character, unless the number is half a pair. -/
theorem readChars_escape (acc : List Char) {a b c d : Char} {n : Nat} (rest : List Char)
    (hn : Text.hexNumber? [a, b, c, d] = some n) (hlow : n < 55296) :
    readChars acc ('\\' :: 'u' :: a :: b :: c :: d :: rest) = readChars (Char.ofNat n :: acc) rest := by
  have hhigh : Text.isHighSurrogate n = false := by simp [Text.isHighSurrogate]; omega
  have hunit : Text.charOfUnit n = Char.ofNat n := by
    simp [Text.charOfUnit, hhigh, Text.isLowSurrogate]
    omega
  by_cases hpair : Escaped rest
  · obtain ⟨e, f, g, i, rest, rfl⟩ := hpair
    rw [readChars.eq_3, hn]
    rcases hm : Text.hexNumber? [e, f, g, i] with _ | m
    · exact (readChars_malformed _ rest hm).symm
    · simp [hhigh, hunit]
  · rw [readChars.eq_4 _ _ _ _ _ _ fun e f g i rest' heq => hpair ⟨e, f, g, i, rest', heq⟩, hn]
    simp [hunit]

/-- A control character reads back. -/
theorem readChars_escapeControl (acc : List Char) {c : Char} (hc : c.toNat < 32) (rest : List Char) :
    readChars acc (escapeControl c ++ rest) = readChars (c :: acc) rest := by
  have hshort {k : Nat} (h : c.toNat = k) : c = Char.ofNat k := by rw [← h, Char.ofNat_toNat]
  unfold escapeControl
  split
  · next h => rw [hshort h]; rfl
  · next h => rw [hshort h]; rfl
  · next h => rw [hshort h]; rfl
  · next h => rw [hshort h]; rfl
  · next h => rw [hshort h]; rfl
  · obtain ⟨x, y, z, w, hdigits, hnumber⟩ := exists_hexDigits hc
    rw [hdigits]
    rw [← Char.ofNat_toNat c]
    exact readChars_escape acc rest hnumber (by omega)

/-- Every character reads back. -/
theorem readChars_escapeChar (acc : List Char) (c : Char) (rest : List Char) :
    readChars acc (escapeChar c ++ rest) = readChars (c :: acc) rest := by
  unfold escapeChar
  split
  · next h => rcases h with rfl | rfl <;> rfl
  · next h =>
    split
    · next hc => exact readChars_escapeControl acc hc rest
    · next hc =>
      obtain ⟨hquote, hslash⟩ := not_or.1 h
      have hplain : ¬(c = '\\' ∨ c.toNat < 32) := by simp [hslash, hc]
      rw [List.singleton_append, readChars.eq_6 _ _ _ hquote (fun _ _ _ _ _ _ _ _ _ h => absurd h hslash)
        (fun _ _ _ _ _ h => absurd h hslash) (fun _ _ h => absurd h hslash), if_neg hplain]

theorem readChars_flatMap (acc cs rest : List Char) :
    readChars acc (cs.flatMap escapeChar ++ '"' :: rest) = .ok (String.ofList (acc.reverse ++ cs), rest) := by
  induction cs generalizing acc with
  | nil => simp [readChars]
  | cons c cs ih => rw [List.flatMap_cons, List.append_assoc, readChars_escapeChar, ih]; simp

/-- A string reads back. -/
theorem readChars_quote (s : String) (rest : List Char) :
    ∃ body, quote s ++ rest = '"' :: body ∧ readChars [] body = .ok (s, rest) := by
  refine ⟨s.toList.flatMap escapeChar ++ '"' :: rest, by simp [quote], ?_⟩
  rw [readChars_flatMap]
  simp

/-! ## Values that a text can hold -/

mutual

/-- No object in a value has a key twice. -/
def Distinct : Json → Prop
  | .arr items => DistinctItems items
  | .obj members => (Assoc.keys members).Nodup ∧ DistinctMembers members
  | _ => True

/-- No object in the items of an array has a key twice. -/
def DistinctItems : List Json → Prop
  | [] => True
  | v :: rest => Distinct v ∧ DistinctItems rest

/-- No object in the members of an object has a key twice. -/
def DistinctMembers : List (String × Json) → Prop
  | [] => True
  | (_, v) :: rest => Distinct v ∧ DistinctMembers rest

end

theorem distinctItems_iff {items : List Json} : DistinctItems items ↔ ∀ v ∈ items, Distinct v := by
  induction items with
  | nil => simp [DistinctItems]
  | cons v items ih => simp only [DistinctItems, ih, List.forall_mem_cons]

theorem distinctMembers_iff {members : List (String × Json)} :
    DistinctMembers members ↔ ∀ m ∈ members, Distinct m.2 := by
  induction members with
  | nil => simp [DistinctMembers]
  | cons m members ih =>
    obtain ⟨k, v⟩ := m
    simp only [DistinctMembers, ih, List.forall_mem_cons]

section

variable [Host]

/-- A text can hold the value inside as many arrays and objects as given: no object in it has a key twice, and nothing
in it goes beyond a limit of the host. -/
structure LegibleAt (depth : Nat) (v : Json) : Prop where
  distinct : Distinct v
  within : v.refusal? depth = none

/-- A text can hold the value. -/
abbrev Legible (v : Json) : Prop := LegibleAt 0 v

variable {depth : Nat}

theorem legibleAt_null : LegibleAt depth .null := ⟨trivial, rfl⟩

theorem legibleAt_bool (b : Bool) : LegibleAt depth (.bool b) := ⟨trivial, rfl⟩

theorem legibleAt_float (x : Binary64) : LegibleAt depth (.float x) := ⟨trivial, rfl⟩

theorem legibleAt_str (s : String) : LegibleAt depth (.str s) := ⟨trivial, rfl⟩

theorem legibleAt_int_iff {n : Int} :
    LegibleAt depth (.int n) ↔ Host.digitFault? (Binary64.digitCount n.natAbs) = none :=
  ⟨fun h => h.within, fun h => ⟨trivial, h⟩⟩

theorem legibleAt_arr_iff {items : List Json} : LegibleAt depth (.arr items) ↔
    Host.depthFault? (depth + 1) = none ∧ ∀ v ∈ items, LegibleAt (depth + 1) v := by
  constructor
  · rintro ⟨hdistinct, hwithin⟩
    obtain ⟨hdepth, hitems⟩ := refusal?_arr_eq_none_iff.1 hwithin
    exact ⟨hdepth, fun v hv => ⟨distinctItems_iff.1 hdistinct v hv, hitems v hv⟩⟩
  · rintro ⟨hdepth, hitems⟩
    exact ⟨distinctItems_iff.2 fun v hv => (hitems v hv).distinct,
      refusal?_arr_eq_none_iff.2 ⟨hdepth, fun v hv => (hitems v hv).within⟩⟩

theorem legibleAt_obj_iff {members : List (String × Json)} : LegibleAt depth (.obj members) ↔
    Host.depthFault? (depth + 1) = none ∧ (Assoc.keys members).Nodup ∧ ∀ m ∈ members, LegibleAt (depth + 1) m.2 := by
  constructor
  · rintro ⟨⟨hkeys, hdistinct⟩, hwithin⟩
    obtain ⟨hdepth, hmembers⟩ := refusal?_obj_eq_none_iff.1 hwithin
    exact ⟨hdepth, hkeys, fun m hm => ⟨distinctMembers_iff.1 hdistinct m hm, hmembers m hm⟩⟩
  · rintro ⟨hdepth, hkeys, hmembers⟩
    exact ⟨⟨hkeys, distinctMembers_iff.2 fun m hm => (hmembers m hm).distinct⟩,
      refusal?_obj_eq_none_iff.2 ⟨hdepth, fun m hm => (hmembers m hm).within⟩⟩

end

/-! ## Blanks -/

/-- Something begins with a character that is neither a blank nor a closing bracket. -/
def Opens (cs : List Char) : Prop := ∃ c more, cs = c :: more ∧ isSpace c = false ∧ c ≠ ']' ∧ c ≠ '}'

theorem Opens.append {cs : List Char} (h : Opens cs) (rest : List Char) : Opens (cs ++ rest) := by
  obtain ⟨c, more, rfl, hc⟩ := h
  exact ⟨c, more ++ rest, rfl, hc⟩

theorem skipSpace_cons {c : Char} (cs : List Char) (h : isSpace c = false) : skipSpace (c :: cs) = c :: cs := by
  simp [skipSpace, h]

theorem Opens.skipSpace {cs : List Char} (h : Opens cs) : skipSpace cs = cs := by
  obtain ⟨c, more, rfl, hc, -⟩ := h
  exact skipSpace_cons more hc

/-- What stands before a part is blank. -/
theorem skipSpace_lead (layout : Layout) (depth : Nat) (cs : List Char) :
    skipSpace (layout.lead depth ++ cs) = skipSpace cs := by
  cases layout with
  | compact => rfl
  | indented =>
    have hblank : ∀ c ∈ Layout.indented.lead depth, isSpace c = true := by
      intro c hc
      rcases List.mem_cons.1 hc with rfl | hc
      · rfl
      · rw [List.eq_of_mem_replicate hc]
        rfl
    exact List.dropWhile_append_of_pos hblank

/-- What stands between a key and its value is a colon with a blank. -/
theorem colon_eq (layout : Layout) :
    ∃ blank, layout.colon = ':' :: blank ∧ ∀ cs, skipSpace (blank ++ cs) = skipSpace cs := by
  cases layout with
  | compact => exact ⟨[], rfl, fun _ => rfl⟩
  | indented => exact ⟨[' '], rfl, fun _ => rfl⟩

theorem BeginsWithDigit.opens {cs : List Char} (h : BeginsWithDigit cs) : Opens cs := by
  obtain ⟨d, more, rfl, hd⟩ := h
  refine ⟨d, more, rfl, ?_, ?_, ?_⟩
  · simp only [isSpace]
    simp only [isDigit, Bool.and_eq_true, decide_eq_true_eq] at hd
    have hne (c : Char) (hc : c.toNat < 48) : d ≠ c := by
      rintro rfl
      omega
    simp [hne ' ' (by decide), hne '\t' (by decide), hne '\n' (by decide), hne '\r' (by decide)]
  · rintro rfl
    exact absurd hd (by decide)
  · rintro rfl
    exact absurd hd (by decide)

theorem opens_writeInt (n : Int) : Opens (writeInt n) := by
  unfold writeInt
  split
  · exact ⟨'-', _, rfl, by decide⟩
  · exact (beginsWithDigit_toDigits _).opens

theorem opens_render (x : Binary64) : Opens (x.render spelling) := by
  cases x with
  | nan => exact ⟨'N', _, rfl, by decide⟩
  | infinite negative => cases negative <;> exact ⟨_, _, rfl, by decide⟩
  | finite negative x =>
    cases negative with
    | true => exact ⟨'-', _, rfl, by decide⟩
    | false => exact (beginsWithDigit_magnitude x).opens

/-- What is written for a value begins with a character that is neither a blank nor a closing bracket. -/
theorem opens_write (layout : Layout) (depth : Nat) (v : Json) : Opens (write layout depth v) := by
  cases v with
  | null => exact ⟨'n', _, rfl, by decide⟩
  | bool b => cases b <;> exact ⟨_, _, rfl, by decide⟩
  | int n => exact opens_writeInt n
  | float x => exact opens_render x
  | str s => exact ⟨'"', _, rfl, by decide⟩
  | arr items => cases items <;> exact ⟨'[', _, rfl, by decide⟩
  | obj members => cases members <;> exact ⟨'{', _, rfl, by decide⟩

/-! ## Values -/

section

variable {layout : Layout}

/-- What follows an item of an array: the next item, or the closing bracket. -/
theorem stops_items (depth outer : Nat) (items : List Json) (rest : List Char) :
    Stops (writeItems layout depth items ++ (layout.lead outer ++ ']' :: rest)) := by
  cases items with
  | nil => cases layout <;> exact stops_cons _ (by decide)
  | cons v items => exact stops_cons _ (by decide)

/-- What follows a member of an object: the next member, or the closing brace. -/
theorem stops_members (depth outer : Nat) (members : List (String × Json)) (rest : List Char) :
    Stops (writeMembers layout depth members ++ (layout.lead outer ++ '}' :: rest)) := by
  cases members with
  | nil => cases layout <;> exact stops_cons _ (by decide)
  | cons m members => exact stops_cons _ (by decide)

/-- Whatever is written takes some room. -/
theorem exists_fuel {depth fuel : Nat} {v : Json} (h : 2 * (write layout depth v).length ≤ fuel) :
    ∃ k, fuel = k + 1 ∧ 2 * (write layout depth v).length ≤ k + 1 := by
  obtain ⟨c, more, hopen, -⟩ := opens_write layout depth v
  have hlength : 0 < (write layout depth v).length := by simp [hopen]
  exact ⟨fuel - 1, by omega, by omega⟩

end

section

variable [Host]

/-- What is written for a value reads as that value inside as many arrays and objects as given, and leaves the rest of
the text. -/
def ReadsBack (layout : Layout) (inside : Nat) (v : Json) : Prop :=
  ∀ (depth fuel : Nat) (rest : List Char), Stops rest → 2 * (write layout depth v).length ≤ fuel →
    readValue fuel inside (write layout depth v ++ rest) = .ok (v, rest)

/-- A number is read as one. -/
theorem readValue_number (fuel inside : Nat) {cs : List Char}
    (h : BeginsWithDigit cs ∨ ∃ more, cs = '-' :: more) : readValue (fuel + 1) inside cs = readNumber cs := by
  obtain ⟨c, more, rfl, hc⟩ : ∃ c more, cs = c :: more ∧ (isDigit c = true ∨ c = '-') := by
    rcases h with ⟨d, more, rfl, hd⟩ | ⟨more, rfl⟩
    · exact ⟨d, more, rfl, .inl hd⟩
    · exact ⟨'-', more, rfl, .inr rfl⟩
  rw [readValue]
  -- every other beginning is a character that begins no number
  all_goals
    intro rest heq
    obtain ⟨rfl, -⟩ := List.cons.inj heq
    exact absurd hc (by decide)

section

variable {layout : Layout} {inside : Nat}

theorem readsBack_int {n : Int} (hn : Host.digitFault? (Binary64.digitCount n.natAbs) = none) :
    ReadsBack layout inside (.int n) := by
  intro depth fuel rest hrest hfuel
  obtain ⟨k, rfl, -⟩ := exists_fuel hfuel
  have hbegin : BeginsWithDigit (writeInt n ++ rest) ∨ ∃ more, writeInt n ++ rest = '-' :: more := by
    unfold writeInt
    split
    · exact .inr ⟨_, rfl⟩
    · exact .inl ((beginsWithDigit_toDigits _).append rest)
  rw [write, readValue_number k inside hbegin, readNumber_writeInt hn hrest]

theorem readsBack_float (x : Binary64) : ReadsBack layout inside (.float x) := by
  intro depth fuel rest hrest hfuel
  obtain ⟨k, rfl, -⟩ := exists_fuel hfuel
  rw [write]
  cases x with
  | nan => rfl
  | infinite negative => cases negative <;> rfl
  | finite negative x =>
    have hbegin : BeginsWithDigit (Binary64.render spelling (.finite negative x) ++ rest) ∨
        ∃ more, Binary64.render spelling (.finite negative x) ++ rest = '-' :: more := by
      cases negative with
      | true => exact .inr ⟨_, rfl⟩
      | false => exact .inl ((beginsWithDigit_magnitude x).append rest)
    rw [readValue_number k inside hbegin, readNumber_render negative x hrest]

theorem readsBack_str (s : String) : ReadsBack layout inside (.str s) := by
  intro depth fuel rest hrest hfuel
  obtain ⟨k, rfl, -⟩ := exists_fuel hfuel
  obtain ⟨body, hbody, hread⟩ := readChars_quote s rest
  rw [write, hbody, readValue, hread]
  rfl

/-- The items of an array read back when each of them does. -/
theorem readItems_write (outer : Nat) : ∀ (items : List Json), (∀ v ∈ items, ReadsBack layout inside v) →
    ∀ (v : Json), ReadsBack layout inside v → ∀ (depth fuel : Nat) (acc : List Json) (rest : List Char),
      2 * ((write layout depth v).length + (writeItems layout depth items).length + 1) ≤ fuel →
        readItems fuel inside acc
            (write layout depth v ++ (writeItems layout depth items ++ (layout.lead outer ++ ']' :: rest))) =
          .ok (acc.reverse ++ v :: items, rest)
  | items, hitems, v, hv, depth, 0, acc, rest, hfuel => by omega
  | [], _, v, hv, depth, fuel + 1, acc, rest, hfuel => by
    rw [readItems, hv depth fuel _ (stops_items depth outer [] rest) (by omega)]
    simp [writeItems, skipSpace_lead, skipSpace_cons, isSpace]
  | w :: items, hitems, v, hv, depth, fuel + 1, acc, rest, hfuel => by
    rw [readItems, hv depth fuel _ (stops_items depth outer (w :: items) rest) (by omega)]
    have hnext := readItems_write outer items (fun u hu => hitems u (List.mem_cons_of_mem _ hu)) w
      (hitems w List.mem_cons_self) depth fuel (v :: acc) rest (by simp [writeItems] at hfuel; omega)
    have hopen := (opens_write layout depth w).append
      (writeItems layout depth items ++ (layout.lead outer ++ ']' :: rest))
    simp [writeItems, skipSpace_lead, skipSpace_cons, isSpace, hopen.skipSpace, hnext]

/-- A member with a value that reads back: behind a comma there is another one, and a brace ends the object. -/
theorem readMembers_member (k : String) {v : Json} (hv : ReadsBack layout inside v) {depth fuel : Nat}
    (acc : List (String × Json)) {tail rest : List Char} {c : Char} (htail : Stops tail)
    (hfuel : 2 * (write layout depth v).length ≤ fuel) (hskip : skipSpace tail = c :: rest) :
    (c = ',' → readMembers (fuel + 1) inside acc (quote k ++ (layout.colon ++ (write layout depth v ++ tail))) =
        readMembers fuel inside ((k, v) :: acc) (skipSpace rest)) ∧
      (c = '}' → readMembers (fuel + 1) inside acc (quote k ++ (layout.colon ++ (write layout depth v ++ tail))) =
        .ok (((k, v) :: acc).reverse, rest)) := by
  obtain ⟨blank, hcolon, hblank⟩ := colon_eq layout
  obtain ⟨body, hbody, hread⟩ := readChars_quote k (layout.colon ++ (write layout depth v ++ tail))
  have hopen := (opens_write layout depth v).append tail
  have hvalue := hv depth fuel tail htail hfuel
  rw [hbody, readMembers, hread]
  constructor <;>
  · rintro rfl
    simp [hcolon, hblank, skipSpace_cons, isSpace, hopen.skipSpace, hvalue, hskip]

/-- The members of an object read back when the value of each of them does. -/
theorem readMembers_write (outer : Nat) : ∀ (members : List (String × Json)),
    (∀ m ∈ members, ReadsBack layout inside m.2) → ∀ (k : String) (v : Json), ReadsBack layout inside v →
      ∀ (depth fuel : Nat) (acc : List (String × Json)) (rest : List Char),
        2 * ((write layout depth v).length + (writeMembers layout depth members).length + 1) ≤ fuel →
          readMembers fuel inside acc (quote k ++ (layout.colon ++ (write layout depth v ++
              (writeMembers layout depth members ++ (layout.lead outer ++ '}' :: rest))))) =
            .ok (acc.reverse ++ (k, v) :: members, rest)
  | members, hmembers, k, v, hv, depth, 0, acc, rest, hfuel => by omega
  | [], _, k, v, hv, depth, fuel + 1, acc, rest, hfuel => by
    have hskip : skipSpace (writeMembers layout depth [] ++ (layout.lead outer ++ '}' :: rest)) = '}' :: rest := by
      simp [writeMembers, skipSpace_lead, skipSpace_cons, isSpace]
    rw [(readMembers_member k hv acc (stops_members depth outer [] rest) (by omega) hskip).2 rfl]
    simp
  | (k', w) :: members, hmembers, k, v, hv, depth, fuel + 1, acc, rest, hfuel => by
    have hskip : skipSpace (writeMembers layout depth ((k', w) :: members) ++ (layout.lead outer ++ '}' :: rest)) =
        writeMembers layout depth ((k', w) :: members) ++ (layout.lead outer ++ '}' :: rest) := skipSpace_cons _ rfl
    rw [(readMembers_member k hv acc (stops_members depth outer ((k', w) :: members) rest) (by omega) hskip).1 rfl]
    have hnext := readMembers_write outer members (fun m hm => hmembers m (List.mem_cons_of_mem _ hm)) k' w
      (hmembers (k', w) List.mem_cons_self) depth fuel ((k, v) :: acc) rest (by simp [writeMembers] at hfuel; omega)
    have hopen (cs : List Char) : skipSpace (quote k' ++ cs) = quote k' ++ cs := skipSpace_cons _ rfl
    simp [skipSpace_lead, hopen, hnext]

/-- An array of which every item reads back. -/
theorem readsBack_arr {items : List Json} (hdepth : Host.depthFault? (inside + 1) = none)
    (h : ∀ v ∈ items, ReadsBack layout (inside + 1) v) : ReadsBack layout inside (.arr items) := by
  intro depth fuel rest hrest hfuel
  obtain ⟨k, rfl, hk⟩ := exists_fuel hfuel
  cases items with
  | nil => simp [write, readValue, hdepth, skipSpace_cons, isSpace]
  | cons v items =>
    obtain ⟨c, more, hbegin, hspace, hbracket, -⟩ := (opens_write layout (depth + 1) v).append
      (writeItems layout (depth + 1) items ++ (layout.lead depth ++ ']' :: rest))
    have hitems := readItems_write depth items (fun w hw => h w (List.mem_cons_of_mem _ hw)) v
      (h v List.mem_cons_self) (depth + 1) k [] rest (by simp [write] at hk; omega)
    rw [hbegin] at hitems
    simp only [write, List.cons_append, List.append_assoc, readValue, hdepth, skipSpace_lead, List.nil_append, hbegin,
      skipSpace_cons more hspace, Option.isSome_none, Bool.false_eq_true, if_false]
    split
    · next heq => exact absurd (List.cons.inj heq).1 hbracket
    · simp [hitems, Except.map]

/-- An object without repeated keys of which every value reads back. -/
theorem readsBack_obj {members : List (String × Json)} (hdepth : Host.depthFault? (inside + 1) = none)
    (hkeys : (Assoc.keys members).Nodup) (h : ∀ m ∈ members, ReadsBack layout (inside + 1) m.2) :
    ReadsBack layout inside (.obj members) := by
  intro depth fuel rest hrest hfuel
  obtain ⟨k, rfl, hk⟩ := exists_fuel hfuel
  cases members with
  | nil => simp [write, readValue, hdepth, skipSpace_cons, isSpace]
  | cons m members =>
    obtain ⟨key, v⟩ := m
    have hmembers := readMembers_write depth members (fun n hn => h n (List.mem_cons_of_mem _ hn)) key v
      (h (key, v) List.mem_cons_self) (depth + 1) k [] rest (by simp [write] at hk; omega)
    simp only [quote, List.cons_append, List.append_assoc, List.nil_append] at hmembers
    simp only [write, quote, List.cons_append, List.append_assoc, readValue, hdepth, skipSpace_lead, List.nil_append,
      skipSpace_cons _ (show isSpace '"' = false from rfl), Option.isSome_none, Bool.false_eq_true, if_false]
    simp [hmembers, Except.map, Assoc.ofList_of_nodup hkeys]

end

mutual

/-- What is written for a legible value reads as that value. -/
theorem readsBack (layout : Layout) : ∀ (v : Json) {inside : Nat}, LegibleAt inside v → ReadsBack layout inside v
  | .null, _, _ => by
    intro depth fuel rest hrest hfuel
    obtain ⟨k, rfl, -⟩ := exists_fuel hfuel
    rfl
  | .bool b, _, _ => by
    intro depth fuel rest hrest hfuel
    obtain ⟨k, rfl, -⟩ := exists_fuel hfuel
    cases b <;> rfl
  | .int n, _, h => readsBack_int h.within
  | .float x, _, _ => readsBack_float x
  | .str s, _, _ => readsBack_str s
  | .arr items, _, h => by
    obtain ⟨hdepth, hitems⟩ := legibleAt_arr_iff.1 h
    exact readsBack_arr hdepth (readsBack_items layout items hitems)
  | .obj members, _, h => by
    obtain ⟨hdepth, hkeys, hmembers⟩ := legibleAt_obj_iff.1 h
    exact readsBack_obj hdepth hkeys (readsBack_members layout members hmembers)

theorem readsBack_items (layout : Layout) : ∀ (items : List Json) {inside : Nat},
    (∀ v ∈ items, LegibleAt inside v) → ∀ v ∈ items, ReadsBack layout inside v
  | [], _, _, _, hv => absurd hv List.not_mem_nil
  | w :: items, _, h, v, hv => by
    obtain ⟨hw, hitems⟩ := List.forall_mem_cons.1 h
    rcases List.mem_cons.1 hv with heq | hv
    · rw [heq]
      exact readsBack layout w hw
    · exact readsBack_items layout items hitems v hv

theorem readsBack_members (layout : Layout) : ∀ (members : List (String × Json)) {inside : Nat},
    (∀ m ∈ members, LegibleAt inside m.2) → ∀ m ∈ members, ReadsBack layout inside m.2
  | [], _, _, _, hm => absurd hm List.not_mem_nil
  | (k, w) :: members, _, h, m, hm => by
    obtain ⟨hw, hmembers⟩ := List.forall_mem_cons.1 h
    rcases List.mem_cons.1 hm with heq | hm
    · rw [heq]
      exact readsBack layout w hw
    · exact readsBack_members layout members hmembers m hm

end

/-! ## Texts -/

/-- The text of a legible value reads as that value. -/
theorem readText_write (layout : Layout) {v : Json} (h : Legible v) : readText (write layout 0 v) = .ok v := by
  have hread := readsBack layout v h 0 (2 * (write layout 0 v).length + 2) [] stops_nil (by omega)
  have hhalf := (tame_write layout v 0).noHalf []
  rw [List.append_nil] at hread hhalf
  rw [readText, (opens_write layout 0 v).skipSpace, hread]
  simp [skipSpace, hhalf, spellsHalf]

theorem read_indented {v : Json} (h : Legible v) : read (indented v) = .ok v := by
  rw [read, indented, String.toList_ofList, readText_write .indented h]

end

/-! ## What was read -/

theorem map_eq_ok {α β ε : Type} {f : α → β} {r : Except ε α} {b : β} (h : r.map f = .ok b) :
    ∃ a, r = .ok a ∧ f a = b := by
  cases r with
  | error e => cases h
  | ok a => exact ⟨a, rfl, Except.ok.inj h⟩

theorem isDigit_of_mem_readWhole {cs : List Char} {c : Char} (h : c ∈ (readWhole cs).1) : isDigit c = true := by
  unfold readWhole at h
  split at h
  · rw [List.mem_singleton.1 h]
    rfl
  · exact List.mem_takeWhile_imp h

section

variable [Host]

theorem legible_of_readUnsigned {negative : Bool} {inside : Nat} {cs rest : List Char} {v : Json}
    (h : readUnsigned negative cs = .ok (v, rest)) : LegibleAt inside v := by
  unfold readUnsigned at h
  dsimp only at h
  split at h
  · cases h
  · next hempty =>
    split at h
    · split at h
      · cases h
      · next hlength =>
        obtain ⟨rfl, -⟩ := Prod.mk.inj (Except.ok.inj h)
        have hcount := digitCount_ofDigitChars (by simpa using hempty) fun c hc => isDigit_of_mem_readWhole hc
        have hwithin := Host.digitFault?_mono hcount (by simpa using hlength)
        cases negative <;> simpa [legibleAt_int_iff] using hwithin
    · obtain ⟨rfl, -⟩ := Prod.mk.inj (Except.ok.inj h)
      exact legibleAt_float _

theorem legible_of_readNumber {inside : Nat} {cs rest : List Char} {v : Json} (h : readNumber cs = .ok (v, rest)) :
    LegibleAt inside v := by
  unfold readNumber at h
  split at h
  · obtain ⟨rfl, -⟩ := Prod.mk.inj (Except.ok.inj h)
    exact legibleAt_float _
  · exact legible_of_readUnsigned h
  · exact legible_of_readUnsigned h

/-- Whatever the readers return at a fuel is legible. -/
structure ReadsLegible (fuel : Nat) : Prop where
  value : ∀ {inside cs v rest}, readValue fuel inside cs = .ok (v, rest) → LegibleAt inside v
  items : ∀ {inside acc cs items rest}, readItems fuel inside acc cs = .ok (items, rest) →
    (∀ v ∈ acc, LegibleAt inside v) → ∀ v ∈ items, LegibleAt inside v
  members : ∀ {inside acc cs members rest}, readMembers fuel inside acc cs = .ok (members, rest) →
    (∀ m ∈ acc, LegibleAt inside m.2) → ∀ m ∈ members, LegibleAt inside m.2

theorem legible_of_readValue_succ {fuel inside : Nat} (ih : ReadsLegible fuel) {cs rest : List Char} {v : Json}
    (h : readValue (fuel + 1) inside cs = .ok (v, rest)) : LegibleAt inside v := by
  rw [readValue.eq_def] at h
  dsimp only at h
  split at h
  · obtain ⟨r, -, heq⟩ := map_eq_ok h
    obtain ⟨rfl, -⟩ := Prod.mk.inj heq
    exact legibleAt_str _
  · split at h
    · cases h
    · next hdepth =>
      have hdepth' : Host.depthFault? (inside + 1) = none := by simpa using hdepth
      split at h
      · obtain ⟨rfl, -⟩ := Prod.mk.inj (Except.ok.inj h)
        exact legibleAt_obj_iff.2 ⟨hdepth', List.nodup_nil, by simp⟩
      · obtain ⟨r, hr, heq⟩ := map_eq_ok h
        obtain ⟨rfl, -⟩ := Prod.mk.inj heq
        refine legibleAt_obj_iff.2 ⟨hdepth', Assoc.nodup_keys_ofList _, fun m hm => ?_⟩
        exact ih.members hr (by simp) m (Assoc.mem_ofList hm)
  · split at h
    · cases h
    · next hdepth =>
      have hdepth' : Host.depthFault? (inside + 1) = none := by simpa using hdepth
      split at h
      · obtain ⟨rfl, -⟩ := Prod.mk.inj (Except.ok.inj h)
        exact legibleAt_arr_iff.2 ⟨hdepth', by simp⟩
      · obtain ⟨r, hr, heq⟩ := map_eq_ok h
        obtain ⟨rfl, -⟩ := Prod.mk.inj heq
        exact legibleAt_arr_iff.2 ⟨hdepth', ih.items hr (by simp)⟩
  · obtain ⟨rfl, -⟩ := Prod.mk.inj (Except.ok.inj h)
    exact legibleAt_null
  · obtain ⟨rfl, -⟩ := Prod.mk.inj (Except.ok.inj h)
    exact legibleAt_bool _
  · obtain ⟨rfl, -⟩ := Prod.mk.inj (Except.ok.inj h)
    exact legibleAt_bool _
  · obtain ⟨rfl, -⟩ := Prod.mk.inj (Except.ok.inj h)
    exact legibleAt_float _
  · obtain ⟨rfl, -⟩ := Prod.mk.inj (Except.ok.inj h)
    exact legibleAt_float _
  · exact legible_of_readNumber h

theorem legible_of_readItems_succ {fuel inside : Nat} (ih : ReadsLegible fuel) {acc items : List Json}
    {cs rest : List Char} (h : readItems (fuel + 1) inside acc cs = .ok (items, rest))
    (hacc : ∀ v ∈ acc, LegibleAt inside v) : ∀ v ∈ items, LegibleAt inside v := by
  rw [readItems.eq_def] at h
  dsimp only at h
  split at h
  · cases h
  · next v rest' hv =>
    have hall : ∀ w ∈ v :: acc, LegibleAt inside w := List.forall_mem_cons.2 ⟨ih.value hv, hacc⟩
    split at h
    · exact ih.items h hall
    · obtain ⟨rfl, -⟩ := Prod.mk.inj (Except.ok.inj h)
      exact fun w hw => hall w (List.mem_reverse.1 hw)
    · cases h

theorem legible_of_readMembers_succ {fuel inside : Nat} (ih : ReadsLegible fuel) {acc members : List (String × Json)}
    {cs rest : List Char} (h : readMembers (fuel + 1) inside acc cs = .ok (members, rest))
    (hacc : ∀ m ∈ acc, LegibleAt inside m.2) : ∀ m ∈ members, LegibleAt inside m.2 := by
  rw [readMembers.eq_def] at h
  dsimp only at h
  split at h
  · split at h
    · cases h
    · next k _ _ =>
      split at h
      · split at h
        · cases h
        · next v _ hv =>
          have hall : ∀ m ∈ (k, v) :: acc, LegibleAt inside m.2 := List.forall_mem_cons.2 ⟨ih.value hv, hacc⟩
          split at h
          · exact ih.members h hall
          · obtain ⟨rfl, -⟩ := Prod.mk.inj (Except.ok.inj h)
            exact fun m hm => hall m (List.mem_reverse.1 hm)
          · cases h
      · cases h
  · cases h

theorem readsLegible (fuel : Nat) : ReadsLegible fuel := by
  induction fuel with
  | zero => constructor <;> intros <;> simp_all [readValue, readItems, readMembers]
  | succ fuel ih =>
    exact ⟨legible_of_readValue_succ ih, legible_of_readItems_succ ih, legible_of_readMembers_succ ih⟩

/-- The legible values are those that a text holds. -/
theorem legible_iff {v : Json} : Legible v ↔ ∃ s, read s = .ok v := by
  refine ⟨fun h => ⟨_, read_indented h⟩, ?_⟩
  rintro ⟨s, h⟩
  unfold read readText at h
  split at h
  · cases h
  · next hv =>
    split at h
    · cases h
    · split at h
      · cases h
      · obtain rfl := Except.ok.inj h
        exact (readsLegible _).value hv

end

end ChatRelay.Json
