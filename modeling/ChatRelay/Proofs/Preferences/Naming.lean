import ChatRelay.Proofs.Preferences.Lines
import ChatRelay.Proofs.Yaml.Settings

/-!
# Names and values on the line of the agent

- `spells_name`, `valueAt_writing`: what the editor writes between quotes is read as the name;
- `oneLine_quoteAscii`, `quote_mem_escaped`: it stands on one line, and has a quote in it only for one in the name;
- `isReplaceable`: a value of which the editor leaves nothing but a comment;
- `exists_tail`: what the editor leaves behind such a value is a remark.
-/

namespace ChatRelay.AgentLine

open Text (isBlank)
open Yaml (isInLine Remark Writing Spells Sheet)

/-! ## Names between quotes -/

theorem hexNumber?_toDigits (n : Nat) : Text.hexNumber? (Nat.toDigits 16 n) = some n := by
  have hdigit : ∀ d < 16, Text.hexDigit? d.digitChar = some d := by decide
  induction n using Nat.strongRecOn with
  | ind n ih =>
    rcases Nat.lt_or_ge n 16 with h | h
    · rw [Nat.toDigits_of_lt_base h, Text.hexNumber?]
      simp [hdigit n h]
    · have hlast := hdigit (n % 16) (Nat.mod_lt _ (by decide))
      have hih := ih (n / 16) (Nat.div_lt_self (by omega) (by decide))
      rw [Text.hexNumber?] at hih
      rw [Nat.toDigits_of_base_le (by decide) h, Text.hexNumber?, List.foldlM_append, hih]
      simp [hlast]
      omega

theorem hexNumber?_hexDigits (n : Nat) : Text.hexNumber? (Text.hexDigits 4 n) = some n := by
  have hzeros : ∀ k, (List.replicate k '0').foldlM (fun n c => (Text.hexDigit? c).map (n * 16 + ·)) 0 = some 0 := by
    intro k
    induction k with
    | zero => rfl
    | succ k ih => rw [List.replicate_succ, List.foldlM_cons]; exact ih
  have hn := hexNumber?_toDigits n
  rw [Text.hexNumber?] at hn
  rw [Text.hexDigits, Text.hexNumber?, List.foldlM_append, hzeros]
  exact hn

theorem length_hexDigits {n : Nat} (h : n < 65536) : (Text.hexDigits 4 n).length = 4 := by
  have hlen : (Nat.toDigits 16 n).length ≤ 4 := (Nat.length_toDigits_le_iff (by decide) (by decide)).mpr h
  simp only [Text.hexDigits, List.length_append, List.length_replicate]
  omega

/-- An escape of four digits spells the character of its number. -/
theorem spells_hexDigits {n : Nat} (h : n < 65536) {cs : List Char} {codes : List Nat} (rest : Spells true cs codes) :
    Spells true ('\\' :: 'u' :: (Text.hexDigits 4 n ++ cs)) (n :: codes) := by
  have hlen := length_hexDigits h
  have htake : (Text.hexDigits 4 n).take 4 = Text.hexDigits 4 n := List.take_of_length_le (by omega)
  refine .code rfl rfl hlen ?_ rest
  simp only [Yaml.Scalar.escapeCode?, htake, hlen, Nat.lt_irrefl, if_false, hexNumber?_hexDigits, Option.bind_eq_bind,
    Option.bind_some]
  rw [if_pos (by omega)]

/-- A character up to the end of the basic plane is written as it is read. -/
theorem spells_escapeCharAscii {c : Char} (h : c.toNat < 65536) {cs : List Char} {codes : List Nat}
    (rest : Spells true cs codes) : Spells true (Json.escapeCharAscii c ++ cs) (c.toNat :: codes) := by
  have hshort {k : Nat} (hk : c.toNat = k) : c = Char.ofNat k := by rw [← hk, Char.ofNat_toNat]
  rw [Json.escapeCharAscii]
  split
  · rw [Json.escapeChar]
    split
    · rename_i hc
      rcases hc with rfl | rfl
      · exact .escape rfl rfl rest
      · exact .escape rfl rfl rest
    · split
      · rw [Json.escapeControl]
        split
        · next hk => rw [hshort hk]; exact .escape rfl rfl rest
        · next hk => rw [hshort hk]; exact .escape rfl rfl rest
        · next hk => rw [hshort hk]; exact .escape rfl rfl rest
        · next hk => rw [hshort hk]; exact .escape rfl rfl rest
        · next hk => rw [hshort hk]; exact .escape rfl rfl rest
        · exact spells_hexDigits h rest
      · rename_i hquote hcontrol
        have hin : isInLine c = true := by
          have hlf : c ≠ '\n' := fun he => hcontrol (by rw [he]; decide)
          have hcr : c ≠ '\r' := fun he => hcontrol (by rw [he]; decide)
          simp only [isInLine, Yaml.Token.isAllowed, Yaml.isBreak, hlf, hcr]
          simp
          omega
        refine .char hin ⟨fun hc => hquote (.inl hc), fun hc => hquote (.inr hc.2)⟩ rest
  · exact spells_hexDigits h rest

/-- What the editor writes between quotes spells the name. -/
theorem spells_name {cs : List Char} (h : ∀ c ∈ cs, c.toNat < 65536) :
    Spells true (cs.flatMap Json.escapeCharAscii) (Yaml.Scalar.numbers cs) := by
  induction cs with
  | nil => exact .nil
  | cons c cs ih =>
    exact spells_escapeCharAscii (h c List.mem_cons_self) (ih fun x hx => h x (List.mem_cons_of_mem _ hx))

theorem bounds_of_mem_toDigits {n : Nat} {c : Char} (h : c ∈ Nat.toDigits 16 n) : 48 ≤ c.toNat ∧ c.toNat ≤ 102 := by
  have hdigit : ∀ d < 16, 48 ≤ d.digitChar.toNat ∧ d.digitChar.toNat ≤ 102 := by decide
  induction n using Nat.strongRecOn with
  | ind n ih =>
    rcases Nat.lt_or_ge n 16 with hn | hn
    · rw [Nat.toDigits_of_lt_base hn, List.mem_singleton] at h
      exact h ▸ hdigit n hn
    · rw [Nat.toDigits_of_base_le (by decide) hn, List.mem_append, List.mem_singleton] at h
      rcases h with h | rfl
      · exact ih (n / 16) (Nat.div_lt_self (by omega) (by decide)) h
      · exact hdigit (n % 16) (Nat.mod_lt _ (by decide))

/-- The digits of an escape are digits and letters. -/
theorem bounds_of_mem_hexDigits {width n : Nat} {c : Char} (h : c ∈ Text.hexDigits width n) :
    48 ≤ c.toNat ∧ c.toNat ≤ 102 := by
  rw [Text.hexDigits, List.mem_append] at h
  rcases h with h | h
  · rw [(List.mem_replicate.1 h).2]
    decide
  · exact bounds_of_mem_toDigits h

/-- What an escape of a name is written with: ASCII characters that can be shown, and a quote only for a quote. -/
structure Shown (c x : Char) : Prop where
  visible : 32 ≤ x.toNat ∧ x.toNat < 127
  quote : x = '"' → c = '"'

theorem shown_hexDigits {c x : Char} {n : Nat} (h : x ∈ '\\' :: 'u' :: Text.hexDigits 4 n) : Shown c x := by
  simp only [List.mem_cons] at h
  rcases h with rfl | rfl | h
  · exact ⟨by decide, fun hx => absurd hx (by decide)⟩
  · exact ⟨by decide, fun hx => absurd hx (by decide)⟩
  · have hbounds := bounds_of_mem_hexDigits h
    refine ⟨by omega, ?_⟩
    rintro rfl
    exact absurd hbounds.1 (by decide)

theorem shown_escapeControl {c x : Char} (h : x ∈ Json.escapeControl c) : Shown c x := by
  have hshort : ∀ letter, (32 ≤ letter.toNat ∧ letter.toNat < 127) → letter ≠ '"' → x ∈ ['\\', letter] → Shown c x := by
    intro letter hletter hquote hx
    simp only [List.mem_cons, List.not_mem_nil, or_false] at hx
    rcases hx with rfl | rfl
    · exact ⟨by decide, fun hx => absurd hx (by decide)⟩
    · exact ⟨hletter, fun hx => absurd hx hquote⟩
  unfold Json.escapeControl at h
  split at h
  · exact hshort _ (by decide) (by decide) h
  · exact hshort _ (by decide) (by decide) h
  · exact hshort _ (by decide) (by decide) h
  · exact hshort _ (by decide) (by decide) h
  · exact hshort _ (by decide) (by decide) h
  · exact shown_hexDigits h

theorem shown_escapeCharAscii {c x : Char} (h : x ∈ Json.escapeCharAscii c) : Shown c x := by
  unfold Json.escapeCharAscii at h
  dsimp only at h
  split at h
  · next hascii =>
    unfold Json.escapeChar at h
    split at h
    · next hc =>
      simp only [List.mem_cons, List.not_mem_nil, or_false] at h
      rcases h with rfl | rfl
      · exact ⟨by decide, fun hx => absurd hx (by decide)⟩
      · refine ⟨?_, id⟩
        rcases hc with rfl | rfl <;> decide
    · split at h
      · exact shown_escapeControl h
      · next hc =>
        obtain rfl := List.mem_singleton.1 h
        exact ⟨by omega, id⟩
  · split at h
    · exact shown_hexDigits h
    · exact (List.mem_append.1 h).elim shown_hexDigits shown_hexDigits

/-- A quote is written only for a quote in the name. -/
theorem quote_mem_escaped {cs : List Char} : '"' ∈ cs.flatMap Json.escapeCharAscii ↔ '"' ∈ cs := by
  rw [List.mem_flatMap]
  constructor
  · rintro ⟨c, hc, hquote⟩
    exact (shown_escapeCharAscii hquote).quote rfl ▸ hc
  · exact fun h => ⟨'"', h, by decide⟩

/-- What the editor writes between quotes stands on one line. -/
theorem oneLine_quoteAscii (name : String) : OneLine (Json.quoteAscii name) := by
  intro c h
  have hbounds : 32 ≤ c.toNat ∧ c.toNat < 127 := by
    simp only [Json.quoteAscii, List.mem_cons, List.mem_append, List.mem_flatMap, List.not_mem_nil, or_false] at h
    rcases h with rfl | ⟨x, -, h⟩ | rfl
    · decide
    · exact (shown_escapeCharAscii h).visible
    · decide
  simp only [Text.isLineEnd, Bool.or_eq_false_iff, Bool.and_eq_false_iff, decide_eq_false_iff_not, beq_eq_false_iff_ne]
  omega

/-- A name as the editor writes it. -/
def writing (name : String) (h : ∀ c ∈ name.toList, c.toNat < 65536) : Writing := .quoted true _ _ (spells_name h)

theorem text_writing (name : String) (h : ∀ c ∈ name.toList, c.toNat < 65536) :
    (writing name h).text = Json.quoteAscii name := rfl

/-- The name is read back. -/
theorem valueAt_writing [Host] (name : String) (h : ∀ c ∈ name.toList, c.toNat < 65536) (n k : Nat) :
    Yaml.Entry.valueAt n (some (k, writing name h)) = .ok (.str name) := by
  have hcodes : (writing name h).codes = Yaml.Scalar.numbers name.toList := rfl
  have htag : (writing name h).tag = .str := rfl
  rw [Yaml.Entry.valueAt, htag, hcodes, Yaml.Tagged.value, Yaml.ofCodes?_numbers, String.ofList_toList]
  rfl

/-! ## What is left of a value -/

/-- Whether characters are white space with a comment behind it, or without. -/
def isRemark (cs : List Char) : Bool :=
  match cs.dropWhile (· = ' ') with
  | [] => true
  | c :: _ => c = '#'

/-- Whether a value can be replaced on its line: it has no blank in front, and what the editor leaves of it is a
comment. -/
def isReplaceable (v : Writing) : Bool := !v.text.head?.any isBlank && isRemark (afterValue v.text)

/-- A remark may begin in what is left of a value. -/
theorem exists_remark {cs : List Char} (h : isRemark cs = true) (hin : ∀ c ∈ cs, isInLine c = true) (tail : Remark) :
    ∃ r : Remark, r.text = cs ++ tail.text := by
  have hspaces : cs.takeWhile (· = ' ') = List.replicate (cs.takeWhile (· = ' ')).length ' ' :=
    List.eq_replicate_iff.mpr ⟨rfl, fun c hc => by simpa using List.all_eq_true.mp List.all_takeWhile c hc⟩
  have hcs := List.takeWhile_append_dropWhile (p := (· = ' ')) (l := cs)
  rw [hspaces] at hcs
  generalize (cs.takeWhile (· = ' ')).length = n at hcs
  rw [isRemark] at h
  cases hrest : cs.dropWhile (· = ' ') with
  | nil =>
    rw [hrest, List.append_nil] at hcs
    refine ⟨⟨n + tail.spaces, tail.comment, tail.legible⟩, ?_⟩
    rw [← hcs, Remark.text, Remark.text, ← List.append_assoc, List.replicate_append_replicate]
  | cons c rest =>
    rw [hrest] at h hcs
    simp only [decide_eq_true_eq] at h
    subst h
    have hlegible : ∀ x ∈ rest ++ tail.text, isInLine x = true := fun x hx => by
      rcases List.mem_append.mp hx with hx | hx
      · exact hin x (by rw [← hcs]; exact List.mem_append_right _ (List.mem_cons_of_mem _ hx))
      · exact Sheet.isInLine_remark tail x hx
    refine ⟨⟨n, some (rest ++ tail.text), List.all_eq_true.mpr hlegible⟩, ?_⟩
    rw [← hcs, Remark.text]
    simp

theorem dropWhile_isBare_remark (r : Remark) : r.text.dropWhile isBare = r.text := by
  rw [Remark.text]
  cases r.spaces with
  | zero => cases r.comment <;> rfl
  | succ n => rfl

theorem afterQuote?_append {q : Char} {cs : List Char} (h : q ∈ cs) (r : List Char) :
    ∃ left, afterQuote? q cs = some left ∧ afterQuote? q (cs ++ r) = some (left ++ r) := by
  induction cs with
  | nil => cases h
  | cons c cs ih =>
    rcases Decidable.em (c = q) with hc | hc
    · subst hc
      exact ⟨cs, by simp [afterQuote?], by simp [afterQuote?]⟩
    · obtain ⟨left, h1, h2⟩ := ih ((List.mem_cons.mp h).resolve_left (Ne.symm hc))
      exact ⟨left, by simpa [afterQuote?, hc] using h1, by simpa [afterQuote?, hc] using h2⟩

/-- What follows a value on its line is left behind what is left of the value. -/
theorem afterValue_writing (v : Writing) (r : Remark) :
    afterValue (v.text ++ r.text) = afterValue v.text ++ r.text := by
  cases v with
  | quoted isDouble inner codes hs =>
    have hclosed : Writing.quote isDouble ∈ inner ++ [Writing.quote isDouble] := by simp
    obtain ⟨left, h1, h2⟩ := afterQuote?_append hclosed r.text
    have hline : ∀ rest left, afterQuote? (Writing.quote isDouble) rest = some left →
        afterValue (Writing.quote isDouble :: rest) = left := fun rest left h => by
      cases isDouble <;> simp [Writing.quote, afterValue] at h ⊢ <;> rw [h] <;> rfl
    rw [Writing.text, List.cons_append, hline _ _ h1, hline _ _ h2]
  | plain first more hrun hfront hmore =>
    have hbare : ∀ rest, afterValue (first ++ rest) = (first ++ rest).dropWhile isBare := fun rest => by
      cases first with
      | nil => exact absurd rfl (Yaml.isRun_ne_nil hrun)
      | cons c cs =>
        have hdouble : c ≠ '"' := fun he => by
          subst he
          simp [Yaml.isFront, Yaml.Token.Lexer.isIndicator] at hfront
        have hsingle : c ≠ '\'' := fun he => by
          subst he
          simp [Yaml.isFront, Yaml.Token.Lexer.isIndicator] at hfront
        simp [afterValue, hdouble, hsingle]
    rw [Writing.text, List.append_assoc, hbare, hbare, ← List.append_assoc, List.dropWhile_append]
    split
    · next h => rw [List.isEmpty_iff.mp h, dropWhile_isBare_remark, List.nil_append]
    · rfl

theorem mem_of_mem_afterValue {cs : List Char} {c : Char} (h : c ∈ afterValue cs) : c ∈ cs := by
  have hbare : ∀ {cs : List Char}, c ∈ cs.dropWhile isBare → c ∈ cs := fun h => (List.dropWhile_sublist _).mem h
  have hquote : ∀ {q : Char} {cs left : List Char}, afterQuote? q cs = some left → c ∈ left → c ∈ cs :=
    fun {q cs left} hq hc => by
      rw [afterQuote?] at hq
      split at hq
      · next hd =>
        cases hq
        exact (List.dropWhile_sublist _).mem (hd ▸ List.mem_cons_of_mem _ hc)
      · cases hq
  have heither : ∀ {q : Char} {rest : List Char},
      c ∈ (afterQuote? q rest).getD ((q :: rest).dropWhile isBare) → c ∈ q :: rest := fun {q rest} h => by
    cases hq : afterQuote? q rest with
    | none => rw [hq] at h; exact hbare h
    | some left => rw [hq] at h; exact List.mem_cons_of_mem _ (hquote hq h)
  unfold afterValue at h
  split at h
  · exact heither h
  · exact heither h
  · exact hbare h

/-- What the editor leaves of a line behind its key is a remark. -/
theorem exists_tail {e : Yaml.Entry} (h : e.value.all (fun v => isReplaceable v.2) = true) :
    ∃ r : Remark, afterValue ((Yaml.Entry.shown e.value ++ e.tail.text).dropWhile isBlank) = r.text := by
  cases hv : e.value with
  | none =>
    have hcomment : afterValue ((e.tail.comment.map ('#' :: ·)).getD []) = (e.tail.comment.map ('#' :: ·)).getD [] := by
      cases e.tail.comment <;> rfl
    refine ⟨⟨0, e.tail.comment, e.tail.legible⟩, ?_⟩
    rw [Yaml.Entry.shown, List.nil_append, stripStart_remark, hcomment]
    rfl
  | some v =>
    obtain ⟨n, v⟩ := v
    rw [hv] at h
    simp only [Option.all_some, isReplaceable, Bool.and_eq_true, Bool.not_eq_true'] at h
    obtain ⟨hfront, hleft⟩ := h
    have hspaces : ∀ c ∈ List.replicate (n + 1) ' ', isBlank c = true := fun c hc => by
      rw [(List.mem_replicate.mp hc).2]
      rfl
    have hstart : (v.text ++ e.tail.text).dropWhile isBlank = v.text ++ e.tail.text := by
      obtain ⟨c, cs, hc⟩ : ∃ c cs, v.text = c :: cs := List.exists_cons_of_ne_nil (by
        cases v with
        | plain first more hrun hf hm => simp [Writing.text, Yaml.isRun_ne_nil hrun]
        | quoted => simp [Writing.text])
      rw [hc] at hfront ⊢
      exact List.dropWhile_cons_of_neg (by simpa using hfront)
    have hin : ∀ c ∈ afterValue v.text, isInLine c = true := fun c hc =>
      Sheet.isInLine_writing v c (mem_of_mem_afterValue hc)
    rw [Yaml.Entry.shown, List.append_assoc, List.dropWhile_append_of_pos hspaces, hstart, afterValue_writing]
    obtain ⟨r, hr⟩ := exists_remark hleft hin e.tail
    exact ⟨r, hr.symm⟩

end ChatRelay.AgentLine
