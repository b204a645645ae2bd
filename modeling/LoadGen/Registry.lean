import LoadGen.Text.Quoted

namespace LoadGen

/-!
# Registries

A registry maps engine names to what is needed to build an engine.  Names are kept in ascending order
of their UTF-8 bytes, each once; registering a name again replaces its entry.

* `Registry.register`, `Registry.find?`, `Registry.contains`, `Registry.names` — the operations;
* `Registry.ofHistory` — the registry after a sequence of registrations.
-/

/-- The bytes that names are ordered by. -/
def nameKey (name : String) : List UInt8 := name.toUTF8.data.toList

/-- Names with their entries, in ascending order. -/
structure Registry (α : Type) where
  entries : List (String × α) := []

namespace Registry

variable {α : Type}

/-- Inserts an entry before the first greater name, or in place of the same name. -/
def insert (name : String) (entry : α) : List (String × α) → List (String × α)
  | [] => [(name, entry)]
  | (other, old) :: rest =>
    if name = other then (name, entry) :: rest
    else if nameKey name < nameKey other then (name, entry) :: (other, old) :: rest
    else (other, old) :: insert name entry rest

/-- Registers an entry under a name, in place of any entry the name has. -/
def register (r : Registry α) (name : String) (entry : α) : Registry α :=
  ⟨insert name entry r.entries⟩

/-- The entry of a name. -/
def find? (r : Registry α) (name : String) : Option α := r.entries.lookup name

/-- Whether a name is registered. -/
def contains (r : Registry α) (name : String) : Bool := (r.find? name).isSome

/-- The registered names, ascending. -/
def names (r : Registry α) : List String := r.entries.map (·.1)

/-- Number of registered names. -/
def size (r : Registry α) : Nat := r.entries.length

/-- The names as they are shown. -/
def shown (r : Registry α) : String := Text.quoteList r.names

/-- The registry after a sequence of registrations. -/
def ofHistory (history : List (String × α)) : Registry α :=
  history.foldl (fun r step => r.register step.1 step.2) {}

/-! ### What a name finds -/

theorem lookup_cons_eq (key name : String) (entry : α) (entries : List (String × α)) :
    ((key, entry) :: entries).lookup name =
      if name = key then some entry else entries.lookup name := by
  by_cases h : name = key
  · simp [h]
  · have hb : (name == key) = false := beq_false_of_ne h
    simp [List.lookup_cons, hb, h]

theorem lookup_insert (name other : String) (entry : α) (entries : List (String × α)) :
    (insert name entry entries).lookup other =
      if other = name then some entry else entries.lookup other := by
  induction entries with
  | nil => exact lookup_cons_eq name other entry []
  | cons first rest ih =>
    obtain ⟨key, old⟩ := first
    unfold insert
    by_cases hkey : name = key
    · -- The entry of the same name goes, and nothing else.
      subst hkey
      rw [if_pos rfl, lookup_cons_eq, lookup_cons_eq]
      by_cases h : other = name <;> simp [h]
    · rw [if_neg hkey]
      by_cases hlt : nameKey name < nameKey key
      · rw [if_pos hlt, lookup_cons_eq]
      · rw [if_neg hlt, lookup_cons_eq, ih, lookup_cons_eq]
        by_cases h : other = name
        · subst h
          simp [hkey]
        · simp [h]

@[simp] theorem find?_empty (name : String) : ({} : Registry α).find? name = none := rfl

/-- A registration is found under its own name, and changes nothing for any other. -/
@[simp] theorem find?_register (r : Registry α) (name other : String) (entry : α) :
    (r.register name entry).find? other = if other = name then some entry else r.find? other :=
  lookup_insert name other entry r.entries

end Registry

end LoadGen
