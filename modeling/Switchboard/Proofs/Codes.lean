import Switchboard.Command

/-!
# Codes and the commands they stand for

The codes of the commands (`Command.code`) and the reading of a code (`Command.ofCode`) are two lists,
written in opposite directions. A text comes back from what it is read as (`code_ofCode`), and a known
command comes back from its code (`ofCode_code_of_mem`). These two are checked along the lists, and all
else follows from them. A text that is taken over is read as one that is looked up, and the text to send
is the code (`ofText_eq_ofCode`, `toText_eq_code`).

Not every command is read from some text. A caller can spell out the code of a known command as an
unrecognised one, which becomes the known command once its code is read (`ofCode_code_iff`).

Main result: `codes_exact`.
-/

set_option autoImplicit false

namespace Switchboard.Command

variable {c : Command} {text : String}

/-- The list of known commands lacks none. -/
theorem mem_known_iff : c ∈ known ↔ ∀ text, c ≠ unrecognized text := by
  constructor
  · rintro mem text rfl
    simp [known] at mem
  · intro listed
    cases c with
    | unrecognized text => exact absurd rfl (listed text)
    | _ => decide

/-! ## The two lists -/

/-- The code of what a text is read as is the text. -/
theorem code_ofCode (text : String) : (ofCode text).code = text := by
  -- a case for each code of the list, and one for all other texts
  fun_cases ofCode text <;> rfl

/-- A known command is what its code is read as. -/
theorem ofCode_code_of_mem (mem : c ∈ known) : ofCode c.code = c := by
  cases c with
  | unrecognized text => exact absurd rfl (mem_known_iff.1 mem text)
  | _ => rfl

/-- A code is read as the known command that has it, and as itself if there is none. -/
theorem ofCode_cases (text : String) :
    (ofCode text ∈ known ∧ (ofCode text).code = text) ∨
      (text ∉ known.map code ∧ ofCode text = unrecognized text) := by
  by_cases mem : ofCode text ∈ known
  · exact .inl ⟨mem, code_ofCode text⟩
  · obtain ⟨other, read⟩ : ∃ other, ofCode text = unrecognized other := by
      simpa [mem_known_iff] using mem
    -- the code that is kept can only be the text
    have same := code_ofCode text
    rw [read, code] at same
    refine .inr ⟨fun named => mem ?_, by rw [read, same]⟩
    -- a code of the list would have been read as the command that has it
    obtain ⟨d, listed, rfl⟩ := List.mem_map.1 named
    rwa [ofCode_code_of_mem listed]

theorem ofCode_eq_unrecognized_iff : ofCode text = unrecognized text ↔ text ∉ known.map code := by
  rcases ofCode_cases text with ⟨mem, same⟩ | ⟨unknown, kept⟩
  · have named : text ∈ known.map code := List.mem_map.2 ⟨_, mem, same⟩
    exact iff_of_false (mem_known_iff.1 mem text) (not_not_intro named)
  · exact iff_of_true kept unknown

/-! ## Texts that are taken over and sent -/

/-- Taking a text over reads it: a code that is kept is the text. -/
theorem ofText_eq_ofCode (text : String) : ofText text = ofCode text := by
  rw [ofText]
  split
  case h_1 code read =>
    have same := code_ofCode text
    rw [read, Command.code] at same
    rw [read, same]
  case h_2 => rfl

theorem toText_eq_code (c : Command) : c.toText = c.code := by
  cases c <;> rfl

/-! ## Commands that are read back -/

/-- Some code is read as the command. -/
def Readable (c : Command) : Prop := ∃ text, ofCode text = c

theorem Readable.ofCode_code (h : c.Readable) : ofCode c.code = c := by
  obtain ⟨text, rfl⟩ := h
  rw [code_ofCode]

theorem readable_iff_ofCode_code : c.Readable ↔ ofCode c.code = c :=
  ⟨fun h => h.ofCode_code, fun same => ⟨_, same⟩⟩

instance : DecidablePred Readable := fun _ => decidable_of_iff _ readable_iff_ofCode_code.symm

/-- Only the code of a known command, spelled out as an unrecognised one, is read as another command. -/
theorem ofCode_code_iff : ofCode c.code = c ↔ ¬ ∃ d ∈ known, c = unrecognized d.code := by
  constructor
  · rintro same ⟨d, listed, rfl⟩
    rw [code, ofCode_code_of_mem listed] at same
    exact mem_known_iff.1 listed _ same
  · intro plain
    by_cases listed : c ∈ known
    · exact ofCode_code_of_mem listed
    · cases c with
      | unrecognized text =>
        -- the code of a known command would make it spelled out
        refine ofCode_eq_unrecognized_iff.2 fun named => plain ?_
        obtain ⟨d, mem, same⟩ := List.mem_map.1 named
        exact ⟨d, mem, congrArg unrecognized same.symm⟩
      | _ => exact absurd (by decide) listed

/-! ## What is told of a code -/

/-- The codes of the commands that only manage a stream. -/
def lifecycleCodes : List String := ["1", "2", "3"]

/-- What is told of the known commands by their codes, and of no other command, is told of a code by
what it is read as. -/
theorem ofCode_iff {p : Command → Bool} {codes : List String}
    (told : ∀ c ∈ known, p c = true ↔ c.code ∈ codes) (plain : p (unrecognized text) = false)
    (listed : codes ⊆ known.map code) : p (ofCode text) = true ↔ text ∈ codes := by
  rcases ofCode_cases text with ⟨mem, same⟩ | ⟨unknown, eq⟩
  · rw [told _ mem, same]
  · rw [eq, plain]
    exact iff_of_false (by simp) fun mem => unknown (listed mem)

theorem isLifecycle_ofCode : (ofCode text).isLifecycle = true ↔ text ∈ lifecycleCodes :=
  ofCode_iff (by decide) rfl (by decide)

theorem isControl_ofCode : (ofCode text).isControl = true ↔ text = "3" :=
  (ofCode_iff (by decide) rfl (by decide)).trans List.mem_singleton

/-- A command that can be called has the code of one that cannot only if it was spelled out. -/
theorem eq_unrecognized_code (callable : c.isLifecycle = false) (mem : c.code ∈ lifecycleCodes) :
    c = unrecognized c.code := by
  have known : ∀ c ∈ known, c.code ∈ lifecycleCodes → c.isLifecycle = true := by decide
  cases c with
  | unrecognized text => rfl
  | _ => exact absurd (callable.symm.trans (known _ (by decide) mem)) (by simp)

/-- A code is kept both ways. Whether a text is looked up or taken over, it becomes the same command, and
the code of that command, the text in messages and the text to send are that text again, so no two codes
become one command. The known commands are all but the unrecognised ones; a text that is the code of none
of them is kept as it is, and every command comes back from its code, except one that spells out the code
of a known command. Of all texts only `3` is read as a control signal, and only `1`, `2` and `3` as
commands that manage a stream. -/
theorem codes_exact :
    (∀ text, ofText text = ofCode text ∧ (ofCode text).code = text ∧
      toString (ofCode text) = text ∧ (ofCode text).toText = text) ∧
    (∀ s t, ofCode s = ofCode t ↔ s = t) ∧
    (∀ c, c ∈ known ↔ ∀ text, c ≠ unrecognized text) ∧
    (∀ text, ofCode text = unrecognized text ↔ text ∉ known.map code) ∧
    (∀ c : Command, ofCode c.code = c ↔ ¬ ∃ d ∈ known, c = unrecognized d.code) ∧
    (∀ text, (ofCode text).isControl = true ↔ text = "3") ∧
    (∀ text, (ofCode text).isLifecycle = true ↔ text = "1" ∨ text = "2" ∨ text = "3") := by
  refine ⟨?texts, ?distinct, fun c => mem_known_iff, fun text => ofCode_eq_unrecognized_iff,
    fun c => ofCode_code_iff, fun text => isControl_ofCode, ?lifecycle⟩
  case texts =>
    intro text
    refine ⟨ofText_eq_ofCode text, code_ofCode text, code_ofCode text, ?_⟩
    rw [toText_eq_code, code_ofCode]
  case distinct =>
    intro s t
    constructor
    · intro same
      have codes := congrArg code same
      rwa [code_ofCode, code_ofCode] at codes
    · exact congrArg ofCode
  case lifecycle =>
    intro text
    rw [isLifecycle_ofCode]
    simp [lifecycleCodes]

end Switchboard.Command
