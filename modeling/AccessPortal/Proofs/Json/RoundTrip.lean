import AccessPortal.Json.Reader
import AccessPortal.Json.Writer

/-!
# Written text is read back

The reader undoes the writer on every value without decimals and without places that stand for no
text (`read_write`). A written value is followed by the end of the text or by what ends an entry of
an array or an object, and so a number is known to end where it was written to end (`Delimited`).
-/

namespace AccessPortal
namespace Json

/-! ## Strings -/

theorem hexDigit?_hexDigit : ∀ n < 16, Text.hexDigit? (hexDigit n) = some n := by
  decide

theorem readPieces_letter {e c : Char} (named : escaped? e = some c) (rest : List Char) :
    readPieces ('\\' :: e :: rest) =
      (readPieces rest).map fun (pieces, rest) => (.char c :: pieces, rest) := by
  have notUnit : e ≠ 'u' := by
    intro same
    subst same
    simp [escaped?] at named
  rw [readPieces]
  · rw [named]
    cases readPieces rest <;> rfl
  · intro _ _ _ _ _ same
    subst same
    exact absurd rfl notUnit

/-- A control character is read back from its four-digit escape. -/
theorem readPieces_unit {c : Char} (control : c.toNat < 0x20) (rest : List Char) :
    readPieces ('\\' :: 'u' :: '0' :: '0' :: hexDigit (c.toNat / 16) :: hexDigit (c.toNat % 16)
      :: rest) =
      (readPieces rest).map fun (pieces, rest) => (.char c :: pieces, rest) := by
  have high : Text.hexDigit? (hexDigit (c.toNat / 16)) = some (c.toNat / 16) :=
    hexDigit?_hexDigit _ (by omega)
  have low : Text.hexDigit? (hexDigit (c.toNat % 16)) = some (c.toNat % 16) :=
    hexDigit?_hexDigit _ (by omega)
  have zero : Text.hexDigit? '0' = some 0 := by decide
  have unit : ((0 * 16 + 0) * 16 + c.toNat / 16) * 16 + c.toNat % 16 = c.toNat := by omega
  have piece : Piece.ofUnit c.toNat = .char c := by
    rw [Piece.ofUnit, if_neg (by omega), Char.ofNat_toNat]
  rw [readPieces]
  simp only [hexUnit?, high, low, zero, Option.pure_def, Option.bind_eq_bind, Option.bind_some,
    unit, piece]
  cases readPieces rest <;> rfl

theorem readPieces_visible {c : Char} (quote : c ≠ '"') (backslash : c ≠ '\\')
    (visible : ¬ c.toNat < 0x20) (rest : List Char) :
    readPieces (c :: rest) =
      (readPieces rest).map fun (pieces, rest) => (.char c :: pieces, rest) := by
  rw [readPieces, if_neg visible]
  · cases readPieces rest <;> rfl
  · exact quote
  · intro _ _ _ _ _ same
    subst same
    exact absurd rfl backslash
  · intro _ _ same
    subst same
    exact absurd rfl backslash

theorem readPieces_escape (c : Char) (rest : List Char) :
    readPieces (escape c ++ rest) =
      (readPieces rest).map fun (pieces, rest) => (.char c :: pieces, rest) := by
  unfold escape
  split
  · subst c; exact readPieces_letter rfl rest
  split
  · subst c; exact readPieces_letter rfl rest
  split
  · subst c; exact readPieces_letter rfl rest
  split
  · subst c; exact readPieces_letter rfl rest
  split
  · subst c; exact readPieces_letter rfl rest
  split
  · subst c; exact readPieces_letter rfl rest
  split
  · subst c; exact readPieces_letter rfl rest
  split
  · exact readPieces_unit ‹_› rest
  · exact readPieces_visible ‹_› ‹_› ‹_› rest

theorem readPieces_escapeAll (chars rest : List Char) :
    readPieces (escapeAll chars ++ '"' :: rest) = some (chars.map .char, rest) := by
  induction chars with
  | nil => simp [escapeAll, readPieces]
  | cons c chars ih =>
      rw [escapeAll, List.append_assoc, readPieces_escape, ih]
      rfl

theorem joinPieces_map_char (chars : List Char) :
    joinPieces (chars.map .char) = some chars := by
  induction chars with
  | nil => rfl
  | cons c chars ih => simp [joinPieces, ih]

theorem readText_escapeAll (s : String) (rest : List Char) :
    readText (escapeAll s.toList ++ '"' :: rest) = some (some s, rest) := by
  simp [readText, readPieces_escapeAll, joinPieces_map_char]

/-! ## Numbers -/

/-- What may follow a value inside of a written text: nothing, or the end of an entry. -/
def Delimited (rest : List Char) : Prop :=
  ∀ c ∈ rest.head?, c = ',' ∨ c = ']' ∨ c = '\x7d'

theorem delimited_nil : Delimited [] := by
  simp [Delimited]

theorem delimited_cons {c : Char} (h : c = ',' ∨ c = ']' ∨ c = '\x7d') (rest : List Char) :
    Delimited (c :: rest) := by
  simpa [Delimited] using h

theorem Delimited.not_isDigit {rest : List Char} (h : Delimited rest) :
    ∀ c ∈ rest.head?, c.isDigit = false := by
  intro c mem
  rcases h c mem with rfl | rfl | rfl <;> decide

theorem readDigits_toDigits (n : Nat) {rest : List Char} (h : Delimited rest) :
    readDigits (Nat.toDigits 10 n ++ rest) = some (Nat.toDigits 10 n, rest) := by
  have digits : ∀ c ∈ Nat.toDigits 10 n, c.isDigit = true := fun c mem =>
    Nat.isDigit_of_mem_toDigits (by decide) (by decide) mem
  have takeRest : rest.takeWhile Char.isDigit = [] := by
    cases rest with
    | nil => rfl
    | cons c rest => simp [h.not_isDigit c rfl]
  have dropRest : rest.dropWhile Char.isDigit = rest := by
    cases rest with
    | nil => rfl
    | cons c rest => simp [h.not_isDigit c rfl]
  rw [readDigits, List.takeWhile_append_of_pos digits, List.dropWhile_append_of_pos digits,
    takeRest, dropRest, List.append_nil]
  split
  · exact absurd ‹_› Nat.toDigits_ne_nil
  · rfl

theorem readFraction_delimited {rest : List Char} (h : Delimited rest) :
    readFraction rest = some ([], rest) := by
  unfold readFraction
  split
  · rcases h '.' rfl with h | h | h <;> exact absurd h (by decide)
  · rfl

theorem readExponent_delimited {rest : List Char} (h : Delimited rest) :
    readExponent rest = some ([], rest) := by
  cases rest with
  | nil => rfl
  | cons c rest =>
      have notE : ¬ (c = 'e' ∨ c = 'E') := by
        rcases h c rfl with rfl | rfl | rfl <;> decide
      simp only [readExponent]
      exact if_neg notE

theorem head?_toDigits {n : Nat} (h : 0 < n) : (Nat.toDigits 10 n).head? ≠ some '0' := by
  induction n using Nat.strongRecOn with
  | ind n ih =>
      rw [Nat.toDigits_eq_if (by decide)]
      split
      · simp; omega
      · have rest := ih (n / 10) (by omega) (by omega)
        cases digits : Nat.toDigits 10 (n / 10) with
        | nil => exact absurd digits Nat.toDigits_ne_nil
        | cons c _ => simpa [digits] using rest

theorem noLeadingZero (n : Nat) :
    ¬ ((Nat.toDigits 10 n).head? = some '0' ∧ (Nat.toDigits 10 n).length ≠ 1) := by
  intro h
  obtain ⟨zero, long⟩ := h
  rcases Nat.eq_zero_or_pos n with rfl | positive
  · exact long rfl
  · exact head?_toDigits positive zero

theorem ofDigits_toDigits (n : Nat) : Text.ofDigits (Nat.toDigits 10 n) = n :=
  (Nat.ofDigitChars_eq_foldl).symm.trans Nat.ofDigitChars_ten_toDigits

theorem readUnsigned_toDigits (n : Nat) {rest : List Char} (h : Delimited rest) :
    readUnsigned false (Nat.toDigits 10 n ++ rest) = some (.integer n, rest) := by
  simp [readUnsigned, readDigits_toDigits n h, noLeadingZero, readFraction_delimited h,
    readExponent_delimited h, ofDigits_toDigits]

theorem readUnsigned_toDigits_succ (n : Nat) {rest : List Char} (h : Delimited rest) :
    readUnsigned true (Nat.toDigits 10 (n + 1) ++ rest) = some (.integer (.negSucc n), rest) := by
  have negated : -((n + 1 : Nat) : Int) = .negSucc n := rfl
  rw [← negated]
  simp [readUnsigned, readDigits_toDigits _ h, noLeadingZero, readFraction_delimited h,
    readExponent_delimited h, ofDigits_toDigits]

/-! ## Values -/

mutual

/-- Whether a value consists of values that a text can stand for; decimals are known by their
spelling alone and do not count. -/
def isPlain : Json → Bool
  | .decimal _ | .unreadable => false
  | .array items => allPlain items
  | .object members => membersPlain members
  | _ => true

def allPlain : List Json → Bool
  | [] => true
  | item :: items => isPlain item && allPlain items

def membersPlain : List (String × Json) → Bool
  | [] => true
  | (_, value) :: members => isPlain value && membersPlain members

end

theorem isDigit_of_head?_toDigits {n : Nat} {c : Char} {tail : List Char}
    (h : Nat.toDigits 10 n = c :: tail) : c.isDigit = true := by
  have mem : c ∈ Nat.toDigits 10 n := h ▸ List.mem_cons_self
  exact Nat.isDigit_of_mem_toDigits (by decide) (by decide) mem

theorem digit_ne {c d : Char} (digit : c.isDigit = true) (other : d.isDigit = false) : c ≠ d := by
  intro same
  subst same
  rw [digit] at other
  cases other

theorem isBlank_of_isDigit {c : Char} (digit : c.isDigit = true) : isBlank c = false := by
  simp only [isBlank, Bool.or_eq_false_iff, beq_eq_false_iff_ne]
  exact ⟨⟨⟨digit_ne digit rfl, digit_ne digit rfl⟩, digit_ne digit rfl⟩, digit_ne digit rfl⟩

/-- A written value starts with a character that is neither blank nor the end of an array. -/
theorem writeChars_head {value : Json} (plain : value.isPlain) :
    ∃ c tail, writeChars value = c :: tail ∧ isBlank c = false ∧ c ≠ ']' := by
  cases value with
  | decimal | unreadable => simp [isPlain] at plain
  | null => exact ⟨'n', _, rfl, by decide⟩
  | bool b => cases b <;> exact ⟨_, _, rfl, by decide⟩
  | string s => exact ⟨'"', _, rfl, by decide⟩
  | array items => cases items <;> exact ⟨'[', _, rfl, by decide⟩
  | object members => cases members <;> exact ⟨'\x7b', _, rfl, by decide⟩
  | integer n =>
      cases n with
      | negSucc n => exact ⟨'-', _, rfl, by decide⟩
      | ofNat n =>
          cases digits : Nat.toDigits 10 n with
          | nil => exact absurd digits Nat.toDigits_ne_nil
          | cons c tail =>
              have digit := isDigit_of_head?_toDigits digits
              exact ⟨c, tail, by simp [writeChars, writeInteger, digits], isBlank_of_isDigit digit,
                digit_ne digit rfl⟩

theorem skipBlanks_of_not_blank {c : Char} (h : isBlank c = false) (rest : List Char) :
    skipBlanks (c :: rest) = c :: rest := by
  simp [skipBlanks, h]

theorem readAtom_toDigits (n : Nat) {rest : List Char} (h : Delimited rest) :
    readAtom (Nat.toDigits 10 n ++ rest) = some (.integer n, rest) := by
  cases digits : Nat.toDigits 10 n with
  | nil => exact absurd digits Nat.toDigits_ne_nil
  | cons c tail =>
      have digit := isDigit_of_head?_toDigits digits
      have number := readUnsigned_toDigits n h
      rw [digits, List.cons_append] at number
      rw [List.cons_append, readAtom.eq_def]
      split <;> first | exact number | simp_all [digit_ne]

theorem readValue_atom {fuel : Nat} {c : Char} {tail : List Char} {result : Json × List Char}
    (notBlank : isBlank c = false) (notNested : c ≠ '"' ∧ c ≠ '[' ∧ c ≠ '\x7b')
    (atom : readAtom (c :: tail) = some result) :
    readValue (fuel + 1) (c :: tail) = some result := by
  rw [readValue, skipBlanks_of_not_blank notBlank]
  simp [notNested, atom]

theorem delimited_writeItems (items : List Json) (rest : List Char) :
    Delimited (writeItems items ++ ']' :: rest) := by
  cases items <;> exact delimited_cons (by decide) _

theorem delimited_writeMembers (members : List (String × Json)) (rest : List Char) :
    Delimited (writeMembers members ++ '\x7d' :: rest) := by
  cases members <;> exact delimited_cons (by decide) _

theorem ofMembers_named (members : List (String × Json)) :
    ofMembers (members.map fun member => (some member.1, member.2)) = .object members := by
  have readable : (members.map fun member => (some member.1, member.2)).mapM
      (fun member : Option String × Json => member.1.map (·, member.2)) = some members := by
    induction members with
    | nil => rfl
    | cons member members ih => simp [ih]
  unfold ofMembers
  split
  · rename_i found h
    exact congrArg object (Option.some.inj (h.symm.trans readable))
  · rename_i h
    cases h.symm.trans readable

mutual

/-- A written value is read back, whatever delimited text follows it. -/
theorem readValue_writeChars : ∀ (value : Json) (fuel : Nat) (rest : List Char),
    value.isPlain → Delimited rest → 2 * (writeChars value).length ≤ fuel →
    readValue fuel (writeChars value ++ rest) = some (value, rest)
  | value, 0, rest, plain, _, enough => by
      obtain ⟨c, tail, text, -⟩ := writeChars_head plain
      simp [text] at enough
  | .null, fuel + 1, rest, _, _, _ =>
      readValue_atom (by decide) (by decide) rfl
  | .bool true, fuel + 1, rest, _, _, _ =>
      readValue_atom (by decide) (by decide) rfl
  | .bool false, fuel + 1, rest, _, _, _ =>
      readValue_atom (by decide) (by decide) rfl
  | .integer (.negSucc n), fuel + 1, rest, _, ended, _ =>
      readValue_atom (by decide) (by decide) (readUnsigned_toDigits_succ n ended)
  | .integer (.ofNat n), fuel + 1, rest, _, ended, _ => by
      have atom := readAtom_toDigits n ended
      rw [writeChars, writeInteger]
      cases digits : Nat.toDigits 10 n with
      | nil => exact absurd digits Nat.toDigits_ne_nil
      | cons c tail =>
          have digit := isDigit_of_head?_toDigits digits
          rw [digits] at atom
          exact readValue_atom (isBlank_of_isDigit digit)
            ⟨digit_ne digit rfl, digit_ne digit rfl, digit_ne digit rfl⟩ atom
  | .string s, fuel + 1, rest, _, _, _ => by
      simp only [writeChars, writeText, List.cons_append, List.append_assoc, List.nil_append]
      rw [readValue, skipBlanks_of_not_blank (by decide)]
      simp [readText_escapeAll]
  | .array [], fuel + 1, rest, _, _, _ => rfl
  | .array (item :: items), fuel + 1, rest, plain, _, enough => by
      simp only [isPlain] at plain
      simp only [writeChars, List.length_cons, List.length_append, List.length_nil] at enough
      have first : item.isPlain := (Bool.and_eq_true _ _ ▸ plain : _ ∧ _).1
      obtain ⟨c, tail, text, notBlank, notEnd⟩ := writeChars_head first
      have read := readItems_writeItems (item :: items) fuel rest (by simp) plain
        (by simp only [writeItems, List.length_cons, List.length_append]; omega)
      simp only [writeItems, List.tail_cons, List.append_assoc, text, List.cons_append] at read
      simp only [writeChars, text, List.cons_append, List.append_assoc, List.nil_append]
      rw [readValue, skipBlanks_of_not_blank (by decide)]
      simp only [skipBlanks_of_not_blank notBlank]
      split
      · rename_i h
        exact absurd (List.cons.inj h).1 notEnd
      · simp [read]
  | .object [], fuel + 1, rest, _, _, _ => rfl
  | .object ((name, value) :: members), fuel + 1, rest, plain, _, enough => by
      simp only [isPlain] at plain
      simp only [writeChars, List.length_cons, List.length_append, List.length_nil] at enough
      have read := readMembers_writeMembers ((name, value) :: members) fuel rest (by simp) plain
        (by simp only [writeMembers, List.length_cons, List.length_append]; omega)
      simp only [writeMembers, List.tail_cons, writeText, List.append_assoc, List.cons_append,
        List.nil_append] at read
      simp only [writeChars, writeText, List.cons_append, List.append_assoc, List.nil_append]
      rw [readValue, skipBlanks_of_not_blank (by decide)]
      simp only [skipBlanks_of_not_blank (show isBlank '"' = false by decide)]
      split
      · rename_i h
        exact absurd (List.cons.inj h).1 (by decide)
      · simp only [read, Option.bind_eq_bind, Option.bind_some, Option.pure_def, ofMembers_named]

theorem readItems_writeItems : ∀ (items : List Json) (fuel : Nat) (rest : List Char),
    items ≠ [] → allPlain items → 2 * (writeItems items).length ≤ fuel + 1 →
    readItems fuel ((writeItems items).tail ++ ']' :: rest) = some (items, rest)
  | [], _, _, nonempty, _, _ => absurd rfl nonempty
  | item :: items, 0, _, _, _, enough => by
      simp [writeItems] at enough
      omega
  | item :: items, fuel + 1, rest, _, plain, enough => by
      simp only [allPlain, Bool.and_eq_true] at plain
      simp only [writeItems, List.length_cons, List.length_append] at enough
      have first := readValue_writeChars item fuel (writeItems items ++ ']' :: rest) plain.1
        (delimited_writeItems items rest) (by omega)
      simp only [writeItems, List.tail_cons, List.append_assoc]
      rw [readItems]
      simp only [first, Option.bind_eq_bind, Option.bind_some]
      cases items with
      | nil => rfl
      | cons next items =>
          have others := readItems_writeItems (next :: items) fuel rest (by simp) plain.2 (by omega)
          simp only [writeItems, List.tail_cons, List.append_assoc] at others
          simp [writeItems, skipBlanks_of_not_blank (show isBlank ',' = false by decide), others]

theorem readMembers_writeMembers : ∀ (members : List (String × Json)) (fuel : Nat)
    (rest : List Char), members ≠ [] → membersPlain members →
    2 * (writeMembers members).length ≤ fuel + 1 →
    readMembers fuel ((writeMembers members).tail ++ '\x7d' :: rest) =
      some (members.map fun member => (some member.1, member.2), rest)
  | [], _, _, nonempty, _, _ => absurd rfl nonempty
  | (name, value) :: members, 0, _, _, _, enough => by
      simp [writeMembers] at enough
      omega
  | (name, value) :: members, fuel + 1, rest, _, plain, enough => by
      simp only [membersPlain, Bool.and_eq_true] at plain
      simp only [writeMembers, List.length_cons, List.length_append] at enough
      have first := readValue_writeChars value fuel (writeMembers members ++ '\x7d' :: rest) plain.1
        (delimited_writeMembers members rest) (by omega)
      simp only [writeMembers, List.tail_cons, writeText, List.append_assoc, List.cons_append,
        List.nil_append]
      rw [readMembers, skipBlanks_of_not_blank (by decide)]
      simp only [readText_escapeAll, skipBlanks_of_not_blank (show isBlank ':' = false by decide),
        first, Option.bind_eq_bind, Option.bind_some]
      cases members with
      | nil => rfl
      | cons next members =>
          have others := readMembers_writeMembers (next :: members) fuel rest (by simp) plain.2
            (by omega)
          simp only [writeMembers, List.tail_cons, List.append_assoc, List.cons_append] at others
          simp [writeMembers, skipBlanks_of_not_blank (show isBlank ',' = false by decide), others]

end

/-- What is written is read back, unless it holds a place that has no spelling of its own. -/
theorem read_write {value : Json} (plain : value.isPlain) : read value.write = some value := by
  have text := readValue_writeChars value (2 * (writeChars value).length + 2) [] plain
    delimited_nil (by omega)
  have ended : (skipBlanks []).isEmpty = true := rfl
  rw [List.append_nil] at text
  rw [read, write, String.toList_ofList]
  simp only [text, Option.bind_eq_bind, Option.bind_some, ended, if_true]
  rfl

end Json
end AccessPortal
