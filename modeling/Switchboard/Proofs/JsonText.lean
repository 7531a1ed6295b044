import Mathlib.Tactic.SplitIfs
import Switchboard.Json.Document

/-!
# Reading texts that were written as JSON

A text is written in quotes, character by character: some characters as a backslash and a letter, the
other controls by their numbers, all others as they are (`escapeChar_cases`). Reading takes the characters
back one at a time (`pieces_escapeChar`), so it gets the text and stops behind the quote that closes it
(`quoted_quote`). An object all of whose members are texts is read member by member.

Main result: `Tree.parse_text_ofTexts`.
-/

set_option autoImplicit false

namespace Switchboard.Json

/-! ## Texts in quotes -/

section Quoted

variable {c : Char}

/-- A character is written as a backslash and a letter, by its number, or as it is. -/
theorem escapeChar_cases (c : Char) :
    (∃ letter, escapeChar c = ['\\', letter] ∧ letter ≠ 'u' ∧ escaped? letter = some c) ∨
      (c.toNat < 0x20 ∧ escapeChar c =
        ['\\', 'u', '0', '0', Hex.digit (c.toNat / 16), Hex.digit (c.toNat % 16)]) ∨
      (escapeChar c = [c] ∧ c ≠ '"' ∧ c ≠ '\\' ∧ ¬ c.toNat < 0x20) := by
  unfold escapeChar
  split_ifs with quote slash line back tab erase feed control
  · exact Or.inl ⟨_, rfl, by decide, by rw [quote]; rfl⟩
  · exact Or.inl ⟨_, rfl, by decide, by rw [slash]; rfl⟩
  · exact Or.inl ⟨_, rfl, by decide, by rw [line]; rfl⟩
  · exact Or.inl ⟨_, rfl, by decide, by rw [back]; rfl⟩
  · exact Or.inl ⟨_, rfl, by decide, by rw [tab]; rfl⟩
  · exact Or.inl ⟨_, rfl, by decide, by rw [erase]; rfl⟩
  · exact Or.inl ⟨_, rfl, by decide, by rw [feed]; rfl⟩
  · exact Or.inr (Or.inl ⟨control, rfl⟩)
  · exact Or.inr (Or.inr ⟨rfl, quote, slash, control⟩)

/-- The piece that a written character is read as. -/
def pieceOf (c : Char) : Piece :=
  if (escapeChar c).length = 6 then .unit c.toNat else .char c

/-- The two digits of a control are its number. -/
theorem hex4?_control {n : Nat} (control : n < 0x20) :
    hex4? '0' '0' (Hex.digit (n / 16)) (Hex.digit (n % 16)) = some n := by
  revert n
  decide

/-- A written character is read as one piece, whatever follows it. -/
theorem pieces_escapeChar (got : List Piece) (c : Char) (rest : List Char) :
    pieces got (escapeChar c ++ rest) = pieces (pieceOf c :: got) rest := by
  rcases escapeChar_cases c with ⟨letter, eq, short, back⟩ | ⟨control, eq⟩ | ⟨eq, quote, slash, plain⟩
  · rw [pieceOf, eq, if_neg (by simp), List.cons_append, List.cons_append, List.nil_append,
      pieces.eq_4 got letter rest fun _ _ _ _ _ long => absurd long short, back]
  · rw [pieceOf, eq, if_pos (by simp)]
    simp only [List.cons_append, List.nil_append, pieces, hex4?_control control]
  · rw [pieceOf, eq, if_neg (by simp), List.cons_append, List.nil_append,
      pieces.eq_5 got c rest quote (fun _ _ _ _ _ escape => absurd escape slash)
        fun _ _ escape => absurd escape slash]
    simp [plain, slash]

/-- The quote that closes a written text is the first that ends it. -/
theorem pieces_flatMap_escapeChar (got : List Piece) (text rest : List Char) :
    pieces got (text.flatMap escapeChar ++ '"' :: rest) =
      some (got.reverse ++ text.map pieceOf, rest) := by
  induction text generalizing got with
  | nil => simp [pieces]
  | cons c later ih =>
    rw [List.flatMap_cons, List.append_assoc, pieces_escapeChar, ih]
    simp

/-- A unit that is no half of a surrogate pair is a character. -/
theorem joinSurrogates_unit (got : List Char) {n : Nat} (low : n < 0xD800) (rest : List Piece) :
    joinSurrogates got (.unit n :: rest) = joinSurrogates (Char.ofNat n :: got) rest := by
  have high : isHighSurrogate n = false := by
    rw [isHighSurrogate, Bool.and_eq_false_iff, decide_eq_false_iff_not]
    omega
  have low : isLowSurrogate n = false := by
    rw [isLowSurrogate, Bool.and_eq_false_iff, decide_eq_false_iff_not]
    omega
  cases rest with
  | nil => simp [joinSurrogates, high, low]
  | cons p later => cases p <;> simp [joinSurrogates, high, low]

/-- The pieces of a written text are its characters. -/
theorem joinSurrogates_map_pieceOf (got text : List Char) :
    joinSurrogates got (text.map pieceOf) = some (got.reverse ++ text) := by
  induction text generalizing got with
  | nil => simp [joinSurrogates]
  | cons c later ih =>
    have first : joinSurrogates got (pieceOf c :: later.map pieceOf) =
        joinSurrogates (c :: got) (later.map pieceOf) := by
      rcases escapeChar_cases c with ⟨letter, eq, -, -⟩ | ⟨control, eq⟩ | ⟨eq, -, -, -⟩
      · rw [pieceOf, eq, if_neg (by simp), joinSurrogates]
      · rw [pieceOf, eq, if_pos (by simp), joinSurrogates_unit got (by omega), Char.ofNat_toNat]
      · rw [pieceOf, eq, if_neg (by simp), joinSurrogates]
    rw [List.map_cons, first, ih]
    simp

/-- A text in quotes is read back. -/
theorem quoted_quote (text : String) (rest : List Char) :
    quoted (text.toList.flatMap escapeChar ++ '"' :: rest) = some (some text, rest) := by
  rw [quoted, pieces_flatMap_escapeChar, Option.map_some]
  simp [joinSurrogates_map_pieceOf]

end Quoted

/-! ## Objects of texts -/

/-- An object all of whose members are texts. -/
def ofTexts (members : List (String × String)) : Json :=
  .object (members.map fun (key, value) => (key, .string value))

namespace Tree

/-- The tree of a member that is a text. -/
def memberTree (member : String × String) : Option String × Tree :=
  (some member.1, .string (some member.2))

/-- The tree of an object all of whose members are texts. -/
def ofTexts (members : List (String × String)) : Tree := .object (members.map memberTree)

/-- The text of a member that is a text. -/
def memberText (member : String × String) : List Char := quote member.1 ++ ':' :: quote member.2

section Objects

/-- What is no blank stands where it is. -/
theorem skipBlanks_cons {c : Char} (solid : isBlank c = false) (rest : List Char) :
    skipBlanks (c :: rest) = c :: rest := by
  rw [skipBlanks, List.dropWhile_cons_of_neg (by simp [solid])]

theorem value?_quote (steps : Nat) (text : String) (rest : List Char) :
    value? (steps + 1) (quote text ++ rest) = some (.string (some text), rest) := by
  rw [quote, List.cons_append, List.append_assoc, List.singleton_append, value?,
    skipBlanks_cons (by decide)]
  simp [quoted_quote]

/-- A member is read, and what follows it is a comma or the end. -/
theorem members?_member (steps : Nat) (got : List (Option String × Tree)) (member : String × String)
    (behind : List Char) :
    members? (steps + 2) got (memberText member ++ behind) =
      match skipBlanks behind with
      | ',' :: rest => members? (steps + 1) (memberTree member :: got) rest
      | '\x7d' :: rest => some (.object (memberTree member :: got).reverse, rest)
      | _ => none := by
  rw [memberText, quote, List.cons_append, List.cons_append, List.append_assoc, List.append_assoc,
    List.singleton_append, List.cons_append, members?, skipBlanks_cons (by decide)]
  simp only [quoted_quote]
  rw [skipBlanks_cons (by decide)]
  simp only [value?_quote]
  rfl

theorem members?_comma (steps : Nat) (got : List (Option String × Tree)) (member : String × String)
    (rest : List Char) :
    members? (steps + 2) got (memberText member ++ ',' :: rest) =
      members? (steps + 1) (memberTree member :: got) rest := by
  rw [members?_member, skipBlanks_cons (by decide)]
  rfl

theorem members?_brace (steps : Nat) (got : List (Option String × Tree)) (member : String × String)
    (rest : List Char) :
    members? (steps + 2) got (memberText member ++ '\x7d' :: rest) =
      some (.object (memberTree member :: got).reverse, rest) := by
  rw [members?_member, skipBlanks_cons (by decide)]
  rfl

theorem renderMembers_texts (members : List (String × String)) :
    renderMembers (members.map fun (key, value) => (key, .string value)) =
      members.map memberText := by
  induction members with
  | nil => rfl
  | cons member later ih =>
    rw [List.map_cons, renderMembers, ih, render]
    rfl

/-- Members with commas between them are read up to the brace, one with each step. -/
theorem members?_texts (first : String × String) (later : List (String × String)) {steps : Nat}
    (got : List (Option String × Tree)) (rest : List Char) (enough : later.length + 2 ≤ steps) :
    members? steps got (commaSeparated ((first :: later).map memberText) ++ '\x7d' :: rest) =
      some (.object (got.reverse ++ (first :: later).map memberTree), rest) := by
  obtain ⟨steps, rfl⟩ := Nat.exists_eq_add_of_le' enough
  clear enough
  -- on the members behind the first, each of which takes one step
  induction later generalizing first steps got with
  | nil =>
    have text : commaSeparated ([first].map memberText) ++ '\x7d' :: rest =
        memberText first ++ '\x7d' :: rest := by
      simp [commaSeparated]
    rw [text, List.length_nil, Nat.zero_add, members?_brace]
    simp
  | cons second later ih =>
    have text : commaSeparated ((first :: second :: later).map memberText) ++ '\x7d' :: rest =
        memberText first ++
          ',' :: (commaSeparated ((second :: later).map memberText) ++ '\x7d' :: rest) := by
      simp [commaSeparated]
    have fewer : steps + (second :: later).length + 1 = steps + (later.length + 2) := by
      rw [List.length_cons]
      omega
    rw [text, ← Nat.add_assoc, members?_comma, fewer, ih]
    simp

/-- The text of an object has a character for each member at least. -/
theorem length_le_render (members : List (String × String)) :
    members.length ≤ (render (Json.ofTexts members)).length := by
  have texts : ∀ rest : List (String × String),
      rest.length ≤ ((rest.map memberText).flatMap (',' :: ·)).length := by
    intro rest
    induction rest with
    | nil => simp
    | cons member later ih =>
      rw [List.map_cons, List.flatMap_cons, List.length_append, List.length_cons, List.length_cons]
      omega
  rw [Json.ofTexts, render, renderMembers_texts]
  cases members with
  | nil => simp
  | cons first later =>
    have others := texts later
    rw [List.map_cons, commaSeparated]
    simp only [List.length_cons, List.length_append]
    omega

theorem value?_texts (members : List (String × String)) {steps : Nat}
    (enough : members.length + 2 ≤ steps) :
    value? steps (render (Json.ofTexts members)) = some (ofTexts members, []) := by
  obtain ⟨steps, rfl⟩ := Nat.exists_eq_add_of_le' enough
  rw [Json.ofTexts, render, renderMembers_texts, ← Nat.add_assoc, value?,
    skipBlanks_cons (by decide)]
  cases members with
  | nil => rfl
  | cons first later =>
    -- the object is not empty, because a quote follows its brace
    have opening : ∃ rest, commaSeparated ((first :: later).map memberText) ++ ['\x7d'] =
        '"' :: rest := ⟨_, rfl⟩
    obtain ⟨rest, opening⟩ := opening
    have read : members? (steps + (first :: later).length + 1) []
        (commaSeparated ((first :: later).map memberText) ++ ['\x7d']) = _ :=
      members?_texts first later [] [] (by simp)
    rw [opening] at read ⊢
    exact read

/-- An object of texts that was written is read back. -/
theorem parse_text_ofTexts (members : List (String × String)) :
    parse (Json.ofTexts members).text = some (ofTexts members) := by
  have enough := length_le_render members
  rw [parse, text, String.toList_ofList, value?_texts members (by omega)]
  rfl

end Objects

end Tree

end Switchboard.Json
