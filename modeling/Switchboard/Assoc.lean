/-!
# Finite maps as lists

A finite map is a list of pairs in the order in which its keys came. `Assoc.insert` keeps the place
of a key that is there, so a key stands at most once in what it builds.
-/

set_option autoImplicit false

namespace Switchboard

/-- A finite map from `κ` to `ν`. -/
abbrev Assoc (κ ν : Type) := List (κ × ν)

namespace Assoc

variable {κ ν : Type} [DecidableEq κ]

/-- The value under a key. -/
def get? (m : Assoc κ ν) (key : κ) : Option ν :=
  match m with
  | [] => none
  | (k, v) :: rest => if k = key then some v else get? rest key

/-- Sets the value under a key. -/
def insert (m : Assoc κ ν) (key : κ) (value : ν) : Assoc κ ν :=
  match m with
  | [] => [(key, value)]
  | (k, v) :: rest => if k = key then (key, value) :: rest else (k, v) :: insert rest key value

/-- The map without a key. -/
def erase (m : Assoc κ ν) (key : κ) : Assoc κ ν := m.filter fun p => !decide (p.1 = key)

/-- The keys, in the order in which they came. -/
def keys (m : Assoc κ ν) : List κ := m.map (·.1)

@[simp] theorem get?_nil (key : κ) : get? ([] : Assoc κ ν) key = none := rfl

theorem get?_insert (m : Assoc κ ν) (key key' : κ) (value : ν) :
    get? (insert m key value) key' = if key = key' then some value else get? m key' := by
  induction m with
  | nil => simp [insert, get?]
  | cons p rest ih =>
    obtain ⟨k, v⟩ := p
    by_cases h : k = key
    · subst h
      by_cases h' : k = key' <;> simp [insert, get?, h']
    · by_cases h' : k = key'
      · subst h'
        have : key ≠ k := fun e => h e.symm
        simp [insert, get?, h, this]
      · simp [insert, get?, h, h', ih]

theorem get?_erase (m : Assoc κ ν) (key key' : κ) :
    get? (erase m key) key' = if key = key' then none else get? m key' := by
  induction m with
  | nil => simp [erase, get?]
  | cons p rest ih =>
    obtain ⟨k, v⟩ := p
    rw [erase] at ih
    by_cases h : k = key
    · subst h
      by_cases h' : k = key'
      · simpa [erase, h'] using ih
      · simpa [erase, get?, h'] using ih
    · by_cases h' : k = key'
      · subst h'
        have : key ≠ k := fun e => h e.symm
        simp [erase, h, get?, this]
      · simpa [erase, h, get?, h'] using ih

theorem mem_of_get?_eq_some {m : Assoc κ ν} {key : κ} {value : ν} (h : get? m key = some value) :
    (key, value) ∈ m := by
  induction m with
  | nil => simp at h
  | cons p rest ih =>
    obtain ⟨k, v⟩ := p
    by_cases same : k = key
    · rw [get?, if_pos same] at h
      obtain rfl := Option.some.inj h
      exact List.mem_cons.2 (Or.inl (by rw [same]))
    · rw [get?, if_neg same] at h
      exact List.mem_cons_of_mem _ (ih h)

/-- Where no key stands twice, every pair is found. -/
theorem get?_eq_some_of_mem {m : Assoc κ ν} (distinct : (keys m).Nodup) {p : κ × ν} (h : p ∈ m) :
    get? m p.1 = some p.2 := by
  induction m with
  | nil => simp at h
  | cons q rest ih =>
    obtain ⟨k, v⟩ := q
    obtain ⟨fresh, distinct⟩ := List.nodup_cons.1 distinct
    rcases List.mem_cons.1 h with rfl | h
    · simp [get?]
    · have present : p.1 ∈ rest.map (·.1) := List.mem_map_of_mem h
      have other : k ≠ p.1 := fun same => fresh (same ▸ present)
      rw [get?, if_neg other, ih distinct h]

theorem keys_insert (m : Assoc κ ν) (key : κ) (value : ν) :
    keys (insert m key value) = if key ∈ keys m then keys m else keys m ++ [key] := by
  induction m with
  | nil => rfl
  | cons p rest ih =>
    obtain ⟨k, v⟩ := p
    rw [keys] at ih
    by_cases same : k = key
    · simp [insert, keys, same]
    · have other : key ≠ k := fun e => same e.symm
      by_cases later : key ∈ keys rest
      · rw [if_pos later] at ih
        rw [keys] at later
        simp [insert, keys, same, ih, later]
      · rw [if_neg later] at ih
        rw [keys] at later
        simp [insert, keys, same, ih, later, other]

theorem nodup_keys_insert {m : Assoc κ ν} (distinct : (keys m).Nodup) (key : κ) (value : ν) :
    (keys (insert m key value)).Nodup := by
  rw [keys_insert]
  split
  · exact distinct
  · rename_i fresh
    exact List.nodup_append.2
      ⟨distinct, by simp, fun a mem b last same => by
        rw [same, List.mem_singleton.1 last] at mem
        exact fresh mem⟩

theorem nodup_keys_erase {m : Assoc κ ν} (distinct : (keys m).Nodup) (key : κ) :
    (keys (erase m key)).Nodup :=
  List.Nodup.sublist (List.Sublist.map _ List.filter_sublist) distinct

end Assoc

end Switchboard
