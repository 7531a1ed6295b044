import Mathlib.Data.Nat.Digits.Defs
import Switchboard.Proofs.Encoding

/-!
# The grammar of a body

What the fields of a body look like, said without a reader. An integer is one byte up to 250, or a tag
and the digits that it announces (`IsInteger`); a run of bytes stands behind its length (`IsRun`); a
text is a run of UTF-8 (`IsText`). Each of the three has its faults: the bytes end too early, a byte
starts no integer, or a run that is there as a whole is no text.

A reader that takes from the front of some bytes just what the grammar says, and fails just as its
faults say, is `Exact`. The three readers of fields are, and of two exact readers one after the other
the second matters only where the first succeeds (`Exact.broken_iff`). So a body is read as an envelope
exactly if its parts spell the envelope (`decodeFields_eq_ok`), and otherwise the first field that
fails says why (`decodeFields_eq_error`). A front of some fields ends inside one of them, so what is
missing there is bytes (`broken_of_front`).

Main result: `decodeBody_exact`.
-/

set_option autoImplicit false

namespace Switchboard

namespace Text

/-- Bytes are read as the text whose UTF-8 they are. -/
theorem ofUtf8?_eq_some {bytes : List UInt8} {text : String} :
    ofUtf8? bytes = some text ↔ utf8 text = bytes := by
  constructor
  · intro read
    rw [ofUtf8?, String.fromUTF8?] at read
    split at read
    · obtain rfl := Option.some.inj read
      simp [utf8, String.fromUTF8]
    · exact absurd read (by simp)
  · rintro rfl
    exact ofUtf8?_utf8 text

end Text

namespace Wire

/-! ## Fields -/

/-- A first byte that is no integer itself, and the number of digits behind it. -/
inductive Tag : UInt8 → Nat → Prop
  | two : Tag 251 2
  | four : Tag 252 4
  | eight : Tag 253 8

/-- The forms of an integer: a byte up to 250, or a tag and the digits of a byte each, least
significant first. -/
inductive IsInteger : List UInt8 → Nat → Prop
  | byte {b : UInt8} (small : b.toNat ≤ 250) : IsInteger [b] b.toNat
  | tagged {tag : UInt8} {width : Nat} {digits : List UInt8} (wide : Tag tag width)
      (whole : digits.length = width) :
      IsInteger (tag :: digits) (Nat.ofDigits 256 (digits.map UInt8.toNat))

/-- Why bytes do not start with an integer. -/
inductive IntegerFault : List UInt8 → DecodeError → Prop
  | empty : IntegerFault [] .unexpectedEnd
  /-- There are fewer digits than the tag announces. -/
  | cut {tag : UInt8} {width : Nat} {digits : List UInt8} (wide : Tag tag width)
      (short : digits.length < width) : IntegerFault (tag :: digits) .unexpectedEnd
  | reserved {tag : UInt8} {rest : List UInt8} (high : tag = 254 ∨ tag = 255) :
      IntegerFault (tag :: rest) .invalidInteger

/-- Bytes behind their number. -/
inductive IsRun : List UInt8 → List UInt8 → Prop
  | counted {head run : List UInt8} (length : IsInteger head run.length) : IsRun (head ++ run) run

/-- Why bytes do not start with a run. -/
inductive RunFault : List UInt8 → DecodeError → Prop
  | length {bytes : List UInt8} {cause : DecodeError} (fault : IntegerFault bytes cause) :
      RunFault bytes cause
  /-- There are fewer bytes than the number in front of them. -/
  | cut {head rest : List UInt8} {n : Nat} (length : IsInteger head n) (short : rest.length < n) :
      RunFault (head ++ rest) .unexpectedEnd

/-- The UTF-8 of a text behind its number of bytes. -/
def IsText (field : List UInt8) (text : String) : Prop := IsRun field (Text.utf8 text)

/-- Why bytes do not start with a text. -/
inductive TextFault : List UInt8 → DecodeError → Prop
  | run {bytes : List UInt8} {cause : DecodeError} (fault : RunFault bytes cause) :
      TextFault bytes cause
  /-- The run is there as a whole, and is not the UTF-8 of any text. -/
  | notUtf8 {field run rest : List UInt8} (whole : IsRun field run)
      (foreign : ∀ text, Text.utf8 text ≠ run) : TextFault (field ++ rest) .invalidText

/-- The kinds of field. -/
inductive FieldKind
  | text
  | integer
  | run
  deriving DecidableEq, Repr

/-- Bytes that are a field of this kind. -/
def FieldKind.Present : FieldKind → List UInt8 → Prop
  | text, field => ∃ text, IsText field text
  | integer, field => ∃ n, IsInteger field n
  | run, field => ∃ run, IsRun field run

/-- Why bytes do not start with a field of this kind. -/
def FieldKind.Fault : FieldKind → List UInt8 → DecodeError → Prop
  | text => TextFault
  | integer => IntegerFault
  | run => RunFault

/-- The fields of a body. -/
def bodyFields : List FieldKind := [.text, .text, .integer, .text, .text, .run, .text]

/-- Bytes that do not start with these fields, and why the first that is missing is. -/
inductive Broken : List FieldKind → List UInt8 → DecodeError → Prop
  | here {kind : FieldKind} {later : List FieldKind} {bytes : List UInt8} {cause : DecodeError}
      (fault : kind.Fault bytes cause) : Broken (kind :: later) bytes cause
  | later {kind : FieldKind} {later : List FieldKind} {field rest : List UInt8} {cause : DecodeError}
      (present : kind.Present field) (broken : Broken later rest cause) :
      Broken (kind :: later) (field ++ rest) cause

/-- The parts of a body: its seven fields, and what follows them. -/
structure Parts where
  code : List UInt8
  token : List UInt8
  id : List UInt8
  signature : List UInt8
  params : List UInt8
  payload : List UInt8
  traceId : List UInt8
  extra : List UInt8
  deriving DecidableEq, Repr

namespace Parts

def fields (p : Parts) : List (List UInt8) :=
  [p.code, p.token, p.id, p.signature, p.params, p.payload, p.traceId]

/-- The part of a body that the fields take. -/
def occupied (p : Parts) : List UInt8 := p.fields.flatten

def bytes (p : Parts) : List UInt8 := p.occupied ++ p.extra

/-- The fields have the values of an envelope. -/
structure Spells (p : Parts) (e : Envelope) : Prop where
  command : ∃ text, IsText p.code text ∧ e.command = .ofCode text
  token : IsText p.token e.token
  correlationId : IsInteger p.id e.correlationId.toNat
  signature : IsText p.signature e.signature
  params : IsText p.params e.params
  payload : IsRun p.payload e.payload
  traceId : IsText p.traceId e.traceId

end Parts

/-! ## Exact readers -/

/-- A reader takes just what has a form from the front of some bytes, whatever follows it, and fails
just where a fault says so. -/
structure Exact {α : Type} (read : List UInt8 → Except DecodeError (α × List UInt8))
    (Form : List UInt8 → α → Prop) (Fault : List UInt8 → DecodeError → Prop) : Prop where
  reads : ∀ {field a} (rest), Form field a → read (field ++ rest) = .ok (a, rest)
  fails : ∀ {bytes cause}, Fault bytes cause → read bytes = .error cause
  total : ∀ bytes, (∃ field rest a, bytes = field ++ rest ∧ Form field a) ∨
    ∃ cause, Fault bytes cause

namespace Exact

variable {α β : Type} {read : List UInt8 → Except DecodeError (α × List UInt8)}
  {Form : List UInt8 → α → Prop} {Fault : List UInt8 → DecodeError → Prop}
  {bytes rest : List UInt8} {a : α} {cause : DecodeError}

theorem eq_ok_iff (x : Exact read Form Fault) :
    read bytes = .ok (a, rest) ↔ ∃ field, bytes = field ++ rest ∧ Form field a := by
  constructor
  · intro ok
    rcases x.total bytes with ⟨field, rest', a', rfl, form⟩ | ⟨cause, fault⟩
    · -- the reader finds this field, so it is the one that it found
      rw [x.reads rest' form] at ok
      obtain ⟨rfl, rfl⟩ := Prod.mk.inj (Except.ok.inj ok)
      exact ⟨field, rfl, form⟩
    · rw [x.fails fault] at ok
      exact absurd ok (by simp)
  · rintro ⟨field, rfl, form⟩
    exact x.reads rest form

/-- What is taken as a whole, with some bytes behind it, has the form. -/
theorem form_of_eq_ok (x : Exact read Form Fault) {field : List UInt8} (rest : List UInt8)
    (ok : read (field ++ rest) = .ok (a, rest)) : Form field a := by
  obtain ⟨field', same, form⟩ := x.eq_ok_iff.1 ok
  rwa [List.append_cancel_right same]

/-- Bytes start with a field in one way at most. -/
theorem unique (x : Exact read Form Fault) {field field' rest rest' : List UInt8} {a a' : α}
    (form : Form field a) (form' : Form field' a') (same : field ++ rest = field' ++ rest') :
    field = field' ∧ a = a' ∧ rest = rest' := by
  have read' := x.reads rest form
  rw [same, x.reads rest' form'] at read'
  obtain ⟨rfl, rfl⟩ := Prod.mk.inj (Except.ok.inj read')
  exact ⟨List.append_cancel_right same, rfl, rfl⟩

/-- What comes of a field and what follows it. -/
theorem bind_eq_ok (x : Exact read Form Fault) {f : α × List UInt8 → Except DecodeError β} {b : β} :
    (read bytes >>= f) = .ok b ↔
      ∃ field rest a, bytes = field ++ rest ∧ Form field a ∧ f (a, rest) = .ok b := by
  constructor
  · intro ok
    cases first : read bytes with
    | error cause =>
      rw [first] at ok
      exact absurd ok (by simp [bind, Except.bind])
    | ok pair =>
      obtain ⟨a, rest⟩ := pair
      obtain ⟨field, rfl, form⟩ := x.eq_ok_iff.1 first
      rw [first] at ok
      exact ⟨field, rest, a, rfl, form, ok⟩
  · rintro ⟨field, rest, a, rfl, form, ok⟩
    rw [x.reads rest form]
    exact ok

/-- Some fields fail if the first one does, or if it is there and the others fail behind it. -/
theorem broken_iff {kind : FieldKind} (x : Exact read Form kind.Fault)
    (present : ∀ field, kind.Present field ↔ ∃ a, Form field a) {later : List FieldKind}
    {f : α × List UInt8 → Except DecodeError β}
    (others : ∀ a rest, f (a, rest) = .error cause ↔ Broken later rest cause) :
    (read bytes >>= f) = .error cause ↔ Broken (kind :: later) bytes cause := by
  constructor
  · intro error
    rcases x.total bytes with ⟨field, rest, a, rfl, form⟩ | ⟨cause', fault⟩
    · rw [x.reads rest form] at error
      exact .later ((present field).2 ⟨a, form⟩) ((others a rest).1 error)
    · rw [x.fails fault] at error
      obtain rfl := Except.error.inj error
      exact .here fault
  · intro broken
    cases broken with
    | here fault =>
      rw [x.fails fault]
      rfl
    | @later _ _ field rest _ there broken =>
      obtain ⟨a, form⟩ := (present field).1 there
      rw [x.reads rest form]
      exact (others a rest).2 broken

end Exact

/-! ## The readers of fields are exact -/

section Readers

/-- A number of digits of a byte each is read with the least significant first. -/
theorem ofLittleEndian_eq_ofDigits (digits : List UInt8) :
    ofLittleEndian digits = Nat.ofDigits 256 (digits.map UInt8.toNat) := by
  induction digits with
  | nil => rfl
  | cons b rest ih => rw [ofLittleEndian, ih, List.map_cons, Nat.ofDigits_cons]

theorem split_of_short {n : Nat} {bytes : List UInt8} (short : bytes.length < n) :
    split n bytes = .error .unexpectedEnd := by
  rw [split, if_neg]
  rw [List.length_take]
  omega

namespace Tag

variable {tag : UInt8} {width : Nat}

theorem widthAfter_eq (wide : Tag tag width) : Varint.widthAfter tag = some width := by
  cases wide <;> rfl

theorem decode_eq (wide : Tag tag width) (rest : List UInt8) :
    Varint.decode (tag :: rest) = split width rest >>= fun pair => .ok (ofLittleEndian pair.1, pair.2) := by
  rw [Varint.decode, wide.widthAfter_eq]
  cases wide <;> rfl

end Tag

/-- A first byte is an integer, a tag, or reserved. -/
theorem byte_cases (b : UInt8) : b.toNat ≤ 250 ∨ (∃ width, Tag b width) ∨ b = 254 ∨ b = 255 := by
  have known : ∀ n < 256, n ≤ 250 ∨ n = 251 ∨ n = 252 ∨ n = 253 ∨ n = 254 ∨ n = 255 := by
    intro n lt
    omega
  have same : ∀ {n : Nat}, b.toNat = n → b = UInt8.ofNat n := by
    rintro n rfl
    exact UInt8.ofNat_toNat.symm
  rcases known b.toNat b.toNat_lt with small | eq | eq | eq | eq | eq
  · exact Or.inl small
  · exact Or.inr (Or.inl ⟨2, same eq ▸ .two⟩)
  · exact Or.inr (Or.inl ⟨4, same eq ▸ .four⟩)
  · exact Or.inr (Or.inl ⟨8, same eq ▸ .eight⟩)
  · exact Or.inr (Or.inr (Or.inl (same eq)))
  · exact Or.inr (Or.inr (Or.inr (same eq)))

theorem exact_integer : Exact Varint.decode IsInteger IntegerFault where
  reads {field n} rest form := by
    cases form with
    | @byte b small =>
      have untagged : Varint.widthAfter b = some 0 := by
        rw [Varint.widthAfter, if_pos]
        exact UInt8.le_iff_toNat_le.2 small
      rw [List.singleton_append, Varint.decode, untagged]
      rfl
    | @tagged tag width digits wide whole =>
      subst whole
      rw [List.cons_append, wide.decode_eq, split_append, ok_bind, ofLittleEndian_eq_ofDigits]
  fails {bytes cause} fault := by
    cases fault with
    | empty => rfl
    | cut wide short =>
      rw [wide.decode_eq, split_of_short short]
      rfl
    | reserved high => rcases high with rfl | rfl <;> rfl
  total bytes := by
    cases bytes with
    | nil => exact Or.inr ⟨_, .empty⟩
    | cons b rest =>
      rcases byte_cases b with small | ⟨width, wide⟩ | high
      · exact Or.inl ⟨[b], rest, _, rfl, .byte small⟩
      · -- behind a tag there are enough digits, or too few
        rcases Nat.lt_or_ge rest.length width with short | enough
        · exact Or.inr ⟨_, .cut wide short⟩
        · refine Or.inl ⟨b :: rest.take width, rest.drop width, _, ?_,
            .tagged wide (List.length_take_of_le enough)⟩
          rw [List.cons_append, List.take_append_drop]
      · exact Or.inr ⟨_, .reserved high⟩

theorem exact_run : Exact decodeBytes IsRun RunFault where
  reads {field run} rest form := by
    cases form with
    | @counted head _ length =>
      rw [List.append_assoc, decodeBytes, exact_integer.reads _ length, ok_bind]
      exact split_append run rest
  fails {bytes cause} fault := by
    cases fault with
    | length fault =>
      rw [decodeBytes, exact_integer.fails fault]
      rfl
    | cut length short =>
      rw [decodeBytes, exact_integer.reads _ length, ok_bind]
      exact split_of_short short
  total bytes := by
    rcases exact_integer.total bytes with ⟨head, behind, n, rfl, length⟩ | ⟨cause, fault⟩
    · rcases Nat.lt_or_ge behind.length n with short | enough
      · exact Or.inr ⟨_, .cut length short⟩
      · refine Or.inl ⟨head ++ behind.take n, behind.drop n, behind.take n, ?_, .counted ?_⟩
        · rw [List.append_assoc, List.take_append_drop]
        · rwa [List.length_take_of_le enough]
    · exact Or.inr ⟨cause, .length fault⟩

theorem exact_text : Exact decodeText IsText TextFault where
  reads {field text} rest form := by
    rw [decodeText, exact_run.reads rest form, ok_bind]
    simp only [Text.ofUtf8?_utf8]
    rfl
  fails {bytes cause} fault := by
    cases fault with
    | run fault =>
      rw [decodeText, exact_run.fails fault]
      rfl
    | @notUtf8 field run rest whole foreign =>
      have unread : Text.ofUtf8? run = none := by
        rw [Option.eq_none_iff_forall_ne_some]
        intro text read
        exact foreign text (Text.ofUtf8?_eq_some.1 read)
      rw [decodeText, exact_run.reads rest whole, ok_bind]
      simp only [unread]
      rfl
  total bytes := by
    rcases exact_run.total bytes with ⟨field, rest, run, rfl, whole⟩ | ⟨cause, fault⟩
    · -- a run that is there is the UTF-8 of a text, or it is not
      by_cases some : ∃ text, Text.utf8 text = run
      · obtain ⟨text, rfl⟩ := some
        exact Or.inl ⟨field, rest, text, rfl, whole⟩
      · exact Or.inr ⟨_, .notUtf8 whole fun text same => some ⟨text, same⟩⟩
    · exact Or.inr ⟨cause, .run fault⟩

end Readers

/-! ## Bodies -/

section Bodies

variable {bytes rest : List UInt8} {e : Envelope} {cause : DecodeError}

/-- Digits of a byte each stand for a number below the power of 256 that their count says. -/
theorem ofDigits_lt (digits : List UInt8) :
    Nat.ofDigits 256 (digits.map UInt8.toNat) < 256 ^ digits.length := by
  have low : ∀ n ∈ digits.map UInt8.toNat, n < 256 := by
    intro n mem
    obtain ⟨b, -, rfl⟩ := List.mem_map.1 mem
    exact b.toNat_lt
  calc Nat.ofDigits 256 (digits.map UInt8.toNat)
      < 256 ^ (digits.map UInt8.toNat).length := Nat.ofDigits_lt_base_pow_length (by decide) low
    _ = 256 ^ digits.length := by rw [List.length_map]

/-- An integer has 64 bits. -/
theorem IsInteger.lt {field : List UInt8} {n : Nat} (form : IsInteger field n) : n < UInt64.size := by
  cases form with
  | byte small =>
    rw [UInt64.size]
    omega
  | @tagged tag width digits wide whole =>
    have narrow : width ≤ 8 := by cases wide <;> decide
    calc Nat.ofDigits 256 (digits.map UInt8.toNat)
        < 256 ^ digits.length := ofDigits_lt digits
      _ = 256 ^ width := by rw [whole]
      _ ≤ 256 ^ 8 := Nat.pow_le_pow_right (by decide) narrow
      _ = UInt64.size := rfl

/-- The fields of a body are read exactly if they spell the envelope. -/
theorem decodeFields_eq_ok :
    decodeFields bytes = .ok (e, rest) ↔ ∃ p : Parts, p.bytes = bytes ∧ p.extra = rest ∧ p.Spells e := by
  constructor
  · intro read
    obtain ⟨code, _, text, rfl, isCode, read⟩ := exact_text.bind_eq_ok.1 read
    obtain ⟨token, _, _, rfl, isToken, read⟩ := exact_text.bind_eq_ok.1 read
    obtain ⟨id, _, n, rfl, isId, read⟩ := exact_integer.bind_eq_ok.1 read
    obtain ⟨signature, _, _, rfl, isSignature, read⟩ := exact_text.bind_eq_ok.1 read
    obtain ⟨params, _, _, rfl, isParams, read⟩ := exact_text.bind_eq_ok.1 read
    obtain ⟨payload, _, _, rfl, isPayload, read⟩ := exact_run.bind_eq_ok.1 read
    obtain ⟨traceId, _, _, rfl, isTraceId, read⟩ := exact_text.bind_eq_ok.1 read
    obtain ⟨rfl, rfl⟩ := Prod.mk.inj (Except.ok.inj read)
    refine ⟨⟨code, token, id, signature, params, payload, traceId, _⟩, ?_, rfl,
      ⟨text, isCode, Command.ofText_eq_ofCode text⟩, isToken, ?_, isSignature, isParams, isPayload,
      isTraceId⟩
    · simp [Parts.bytes, Parts.occupied, Parts.fields]
    · rwa [UInt64.toNat_ofNat_of_lt' isId.lt]
  · rintro ⟨p, rfl, rfl, spells⟩
    obtain ⟨text, isCode, command⟩ := spells.command
    have parts : p.bytes = p.code ++ (p.token ++ (p.id ++ (p.signature ++ (p.params ++
        (p.payload ++ (p.traceId ++ p.extra)))))) := by
      simp [Parts.bytes, Parts.occupied, Parts.fields]
    rw [parts]
    refine exact_text.bind_eq_ok.2 ⟨p.code, _, text, rfl, isCode, ?_⟩
    refine exact_text.bind_eq_ok.2 ⟨p.token, _, e.token, rfl, spells.token, ?_⟩
    refine exact_integer.bind_eq_ok.2 ⟨p.id, _, _, rfl, spells.correlationId, ?_⟩
    refine exact_text.bind_eq_ok.2 ⟨p.signature, _, e.signature, rfl, spells.signature, ?_⟩
    refine exact_text.bind_eq_ok.2 ⟨p.params, _, e.params, rfl, spells.params, ?_⟩
    refine exact_run.bind_eq_ok.2 ⟨p.payload, _, e.payload, rfl, spells.payload, ?_⟩
    refine exact_text.bind_eq_ok.2 ⟨p.traceId, _, e.traceId, rfl, spells.traceId, ?_⟩
    rw [Command.ofText_eq_ofCode, ← command, UInt64.ofNat_toNat]
    rfl

/-- They fail exactly as the first of them that fails. -/
theorem decodeFields_eq_error : decodeFields bytes = .error cause ↔ Broken bodyFields bytes cause := by
  have text : ∀ field, FieldKind.text.Present field ↔ ∃ a, IsText field a := fun _ => Iff.rfl
  have integer : ∀ field, FieldKind.integer.Present field ↔ ∃ a, IsInteger field a := fun _ => Iff.rfl
  have run : ∀ field, FieldKind.run.Present field ↔ ∃ a, IsRun field a := fun _ => Iff.rfl
  -- one field after another, as they are read
  apply exact_text.broken_iff text
  intro code bytes
  apply exact_text.broken_iff text
  intro token bytes
  apply exact_integer.broken_iff integer
  intro id bytes
  apply exact_text.broken_iff text
  intro signature bytes
  apply exact_text.broken_iff text
  intro params bytes
  apply exact_run.broken_iff run
  intro payload bytes
  apply exact_text.broken_iff text
  intro traceId bytes
  exact iff_of_false nofun nofun

/-- A body has its parts in one way at most, and they spell one envelope. -/
theorem Parts.Spells.unique {p p' : Parts} {e' : Envelope} (spells : p.Spells e)
    (spells' : p'.Spells e') (same : p.bytes = p'.bytes) : p = p' ∧ e = e' := by
  obtain ⟨text, isCode, command⟩ := spells.command
  obtain ⟨text', isCode', command'⟩ := spells'.command
  simp only [Parts.bytes, Parts.occupied, Parts.fields, List.flatten_cons, List.flatten_nil,
    List.append_nil, List.append_assoc] at same
  obtain ⟨code, rfl, same⟩ := exact_text.unique isCode isCode' same
  obtain ⟨token, eqToken, same⟩ := exact_text.unique spells.token spells'.token same
  obtain ⟨id, eqId, same⟩ := exact_integer.unique spells.correlationId spells'.correlationId same
  obtain ⟨signature, eqSignature, same⟩ := exact_text.unique spells.signature spells'.signature same
  obtain ⟨params, eqParams, same⟩ := exact_text.unique spells.params spells'.params same
  obtain ⟨payload, eqPayload, same⟩ := exact_run.unique spells.payload spells'.payload same
  obtain ⟨traceId, eqTraceId, same⟩ := exact_text.unique spells.traceId spells'.traceId same
  cases p
  cases p'
  cases e
  cases e'
  simp_all [UInt64.toNat_inj]

/-- The fields that a body spells are there. -/
theorem Parts.Spells.present {p : Parts} (spells : p.Spells e) :
    List.Forall₂ FieldKind.Present bodyFields p.fields := by
  obtain ⟨text, isCode, -⟩ := spells.command
  exact .cons ⟨_, isCode⟩ <| .cons ⟨_, spells.token⟩ <| .cons ⟨_, spells.correlationId⟩ <|
    .cons ⟨_, spells.signature⟩ <| .cons ⟨_, spells.params⟩ <| .cons ⟨_, spells.payload⟩ <|
    .cons ⟨_, spells.traceId⟩ .nil

end Bodies

/-! ## Fronts of bodies

A front of some fields ends inside one of them, and all before it are there. In whatever field it ends,
and wherever in the field, what is missing is bytes. -/

section Fronts

variable {front field : List UInt8} {e : Envelope}

/-- A front of two runs of bytes ends inside the first, or behind it. -/
theorem prefix_append_cases {a b : List UInt8} (h : front <+: a ++ b) :
    (front <+: a ∧ front.length < a.length) ∨ ∃ part, front = a ++ part ∧ part <+: b := by
  rcases Nat.lt_or_ge front.length a.length with short | long
  · have part : front <+: a :=
      List.prefix_of_prefix_length_le h (List.prefix_append _ _) (Nat.le_of_lt short)
    exact Or.inl ⟨part, short⟩
  · obtain ⟨part, rfl⟩ := List.prefix_of_prefix_length_le (List.prefix_append _ _) h long
    exact Or.inr ⟨part, rfl, (List.prefix_append_right_inj _).1 h⟩

theorem IsInteger.fault_of_front {n : Nat} (form : IsInteger field n) (part : front <+: field)
    (short : front.length < field.length) : IntegerFault front .unexpectedEnd := by
  cases front with
  | nil => exact .empty
  | cons b digits =>
    cases form with
    | byte small =>
      rw [List.length_cons, List.length_singleton] at short
      omega
    | tagged wide whole =>
      obtain ⟨rfl, -⟩ := List.cons_prefix_cons.1 part
      rw [List.length_cons, List.length_cons, whole] at short
      exact .cut wide (Nat.lt_of_succ_lt_succ short)

theorem IsRun.fault_of_front {run : List UInt8} (form : IsRun field run) (part : front <+: field)
    (short : front.length < field.length) : RunFault front .unexpectedEnd := by
  cases form with
  | @counted head _ length =>
    rcases prefix_append_cases part with ⟨part, short⟩ | ⟨behind, rfl, -⟩
    · exact .length (length.fault_of_front part short)
    · rw [List.length_append, List.length_append] at short
      exact .cut length (Nat.lt_of_add_lt_add_left short)

theorem FieldKind.Present.fault_of_front {kind : FieldKind} (present : kind.Present field)
    (part : front <+: field) (short : front.length < field.length) :
    kind.Fault front .unexpectedEnd := by
  cases kind with
  | text =>
    obtain ⟨text, isText⟩ := present
    exact .run (IsRun.fault_of_front isText part short)
  | integer =>
    obtain ⟨n, isInteger⟩ := present
    exact isInteger.fault_of_front part short
  | run =>
    obtain ⟨run, isRun⟩ := present
    exact isRun.fault_of_front part short

/-- A strict front of some fields is broken where it ends. -/
theorem broken_of_front {kinds : List FieldKind} {fields : List (List UInt8)}
    (present : List.Forall₂ FieldKind.Present kinds fields) (part : front <+: fields.flatten)
    (short : front.length < fields.flatten.length) : Broken kinds front .unexpectedEnd := by
  -- on the fields: the front ends inside the first one, or it has it as a whole
  induction present generalizing front with
  | nil => exact absurd short (Nat.not_lt_zero _)
  | cons first others ih =>
    rw [List.flatten_cons] at part short
    rcases prefix_append_cases part with ⟨inside, fewer⟩ | ⟨behind, rfl, left⟩
    · exact .here (first.fault_of_front inside fewer)
    · rw [List.length_append, List.length_append] at short
      exact .later first (ih left (Nat.lt_of_add_lt_add_left short))

/-- The parts of a body that was written. -/
def Parts.written (e : Envelope) : Parts where
  code := encodeText e.command.code
  token := encodeText e.token
  id := Varint.encode e.correlationId.toNat
  signature := encodeText e.signature
  params := encodeText e.params
  payload := encodeBytes e.payload
  traceId := encodeText e.traceId
  extra := []

theorem Parts.occupied_written (e : Envelope) : (written e).occupied = encodeBody e := by
  simp [occupied, fields, written, encodeBody, Command.toText_eq_code]

theorem Parts.bytes_written (e : Envelope) : (written e).bytes = encodeBody e := by
  rw [bytes, occupied_written]
  exact List.append_nil _

theorem isInteger_encode {n : Nat} (lt : n < UInt64.size) : IsInteger (Varint.encode n) n :=
  exact_integer.form_of_eq_ok [] (Varint.decode_encode lt [])

theorem isRun_encodeBytes {bytes : List UInt8} (short : bytes.length < UInt64.size) :
    IsRun (encodeBytes bytes) bytes :=
  exact_run.form_of_eq_ok [] (decodeBytes_encodeBytes short)

theorem isText_encodeText {text : String} (short : text.utf8ByteSize < UInt64.size) :
    IsText (encodeText text) text :=
  exact_text.form_of_eq_ok [] (decodeText_encodeText short)

/-- The lengths of the fields have 64 bits each. -/
structure Sized (e : Envelope) : Prop where
  code : e.command.code.utf8ByteSize < UInt64.size
  token : e.token.utf8ByteSize < UInt64.size
  signature : e.signature.utf8ByteSize < UInt64.size
  params : e.params.utf8ByteSize < UInt64.size
  payload : e.payload.length < UInt64.size
  traceId : e.traceId.utf8ByteSize < UInt64.size

/-- No field is longer than the body. -/
theorem sized_of_bodySize_lt (short : bodySize e < UInt64.size) : Sized e := by
  have code := le_countedSize e.command.code.utf8ByteSize
  have token := le_countedSize e.token.utf8ByteSize
  have signature := le_countedSize e.signature.utf8ByteSize
  have params := le_countedSize e.params.utf8ByteSize
  have payload := le_countedSize e.payload.length
  have traceId := le_countedSize e.traceId.utf8ByteSize
  rw [bodySize, Command.toText_eq_code] at short
  constructor <;> omega

/-- A body that was written spells its envelope, up to the command that its code is read as. -/
theorem Sized.spells (sized : Sized e) :
    (Parts.written e).Spells { e with command := .ofCode e.command.code } where
  command := ⟨_, isText_encodeText sized.code, rfl⟩
  token := isText_encodeText sized.token
  correlationId := isInteger_encode e.correlationId.toNat_lt
  signature := isText_encodeText sized.signature
  params := isText_encodeText sized.params
  payload := isRun_encodeBytes sized.payload
  traceId := isText_encodeText sized.traceId

end Fronts

/-! ## Bodies that are read -/

section Bodies

variable {body : List UInt8} {e : Envelope} {cause : DecodeError}

theorem decodeBody_eq_ok : decodeBody body = .ok e ↔ ∃ p : Parts, p.bytes = body ∧ p.Spells e := by
  rw [decodeBody]
  constructor
  · intro read
    cases fields : decodeFields body with
    | error cause =>
      rw [fields] at read
      cases read
    | ok pair =>
      rw [fields] at read
      obtain rfl := Except.ok.inj read
      obtain ⟨p, split, -, spells⟩ := decodeFields_eq_ok.1 fields
      exact ⟨p, split, spells⟩
  · rintro ⟨p, split, spells⟩
    rw [decodeFields_eq_ok.2 ⟨p, split, rfl, spells⟩]
    rfl

theorem decodeBody_eq_error : decodeBody body = .error cause ↔ Broken bodyFields body cause := by
  rw [← decodeFields_eq_error, decodeBody]
  cases decodeFields body with
  | error cause => simp [Except.map]
  | ok pair => simp [Except.map]

/-- A strict front of the fields of a body is not read, and the reader misses bytes. -/
theorem Parts.Spells.decodeBody_of_front {p : Parts} (spells : p.Spells e)
    (part : body <+: p.occupied) (strict : body ≠ p.occupied) :
    decodeBody body = .error .unexpectedEnd := by
  have short : body.length < p.occupied.length := by
    apply Nat.lt_of_le_of_ne part.length_le
    intro same
    exact strict (part.eq_of_length same)
  exact decodeBody_eq_error.2 (broken_of_front spells.present part short)

end Bodies

/-- A body is read as an envelope exactly if it is seven fields that have the envelope's values and
any bytes behind them, an integer in any of its forms; it can be split so in one way, and it spells no
other envelope. It is not read exactly if one of the fields is broken and all before it are there, for
the reason that the field has: bytes that are missing, a byte that starts no integer, or a text that is
there as a whole and is not UTF-8. So no strict front of a body that was written is read, and all that a
reader of it can say is that bytes are missing. -/
theorem decodeBody_exact (body : List UInt8) :
    (∀ {e}, decodeBody body = .ok e ↔ ∃ p : Parts, p.bytes = body ∧ p.Spells e) ∧
      (∀ {p p' : Parts} {e e'}, p.bytes = body → p'.bytes = body → p.Spells e → p'.Spells e' →
        p = p' ∧ e = e') ∧
      (∀ {cause}, decodeBody body = .error cause ↔ Broken bodyFields body cause) ∧
      ∀ {e}, bodySize e < UInt64.size → body <+: encodeBody e → body ≠ encodeBody e →
        decodeBody body = .error .unexpectedEnd := by
  refine ⟨decodeBody_eq_ok, ?_, decodeBody_eq_error, ?_⟩
  · intro p p' e e' split split' spells spells'
    exact spells.unique spells' (split.trans split'.symm)
  · intro e short part strict
    rw [← Parts.occupied_written] at part strict
    exact (sized_of_bodySize_lt short).spells.decodeBody_of_front part strict

/-- A body with a length in three bytes, one in five, an id in nine and two bytes behind it. -/
def looseParts : Parts where
  code := [251, 1, 0, 50]
  token := [0]
  id := [253, 44, 1, 0, 0, 0, 0, 0, 0]
  signature := [0]
  params := [252, 2, 0, 0, 0, 195, 169]
  payload := [1, 255]
  traceId := [0]
  extra := [7, 254]

/-- The envelope that it spells. -/
def looseEnvelope : Envelope :=
  { command := .pong, correlationId := 300, params := "é", payload := [255] }

theorem decodeBody_exact_looseParts :
    decodeBody looseParts.bytes = .ok looseEnvelope ∧
      (∀ p : Parts, p.bytes = looseParts.bytes → p.Spells looseEnvelope → p = looseParts) ∧
      Broken bodyFields [1, 50, 2, 195, 0, 255] .invalidText ∧
      decodeBody [1, 50, 0, 251, 44] = .error .unexpectedEnd := by
  have spells : looseParts.Spells looseEnvelope :=
    { command := ⟨"2", exact_text.form_of_eq_ok [] (by decide +kernel), by decide⟩
      token := exact_text.form_of_eq_ok [] (by decide +kernel)
      correlationId := exact_integer.form_of_eq_ok [] (by decide +kernel)
      signature := exact_text.form_of_eq_ok [] (by decide +kernel)
      params := exact_text.form_of_eq_ok [] (by decide +kernel)
      payload := exact_run.form_of_eq_ok [] (by decide +kernel)
      traceId := exact_text.form_of_eq_ok [] (by decide +kernel) }
  obtain ⟨read, alone, -, -⟩ := decodeBody_exact looseParts.bytes
  obtain ⟨-, -, broken, -⟩ := decodeBody_exact [1, 50, 2, 195, 0, 255]
  obtain ⟨-, -, -, front⟩ := decodeBody_exact [1, 50, 0, 251, 44]
  refine ⟨read.2 ⟨looseParts, rfl, spells⟩, ?_, broken.1 (by decide +kernel), ?_⟩
  · intro p same spells'
    exact (alone same rfl spells' spells).1
  · exact @front looseEnvelope (by decide) (by decide) (by decide)

end Wire

end Switchboard
