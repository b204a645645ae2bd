namespace LoadGen

/-!
# Bounded queues

A first-in first-out queue of fixed capacity that can be closed.  A closed queue takes nothing more,
and what it holds can still be taken.

* `Queue.toList` — the contents, oldest first;
* `Queue.offer` — puts a value at the end, unless the queue is full or closed;
* `Queue.take?` — takes the oldest value;
* `Queue.close` — closes the queue.
-/

/-- What becomes of an offered value. -/
inductive Offer where
  | queued | full | closed
  deriving DecidableEq, Repr

/-- A bounded queue, kept as its older values in order and its newer values in reverse. -/
structure Queue (α : Type) where
  capacity : Nat
  older : List α := []
  newer : List α := []
  size : Nat := 0
  isClosed : Bool := false
  size_eq : size = older.length + newer.length

namespace Queue

variable {α : Type}

/-- The contents, oldest first. -/
def toList (q : Queue α) : List α := q.older ++ q.newer.reverse

/-- An empty queue. -/
def empty (capacity : Nat) : Queue α := { capacity, size_eq := rfl }

/-- Whether there is no room. -/
def isFull (q : Queue α) : Bool := q.capacity ≤ q.size

/-- Puts a value at the end. -/
def push (q : Queue α) (a : α) : Queue α :=
  { q with
    newer := a :: q.newer
    size := q.size + 1
    size_eq := by rw [q.size_eq, List.length_cons, Nat.add_assoc] }

/-- Offers a value: it is queued if the queue is open and has room. -/
def offer (q : Queue α) (a : α) : Queue α × Offer :=
  if q.isClosed then (q, .closed)
  else if q.isFull then (q, .full)
  else (q.push a, .queued)

/-- Takes the oldest value. -/
def take? (q : Queue α) : Option (α × Queue α) :=
  match h : q.older with
  | a :: older =>
    some (a, { q with
      older
      size := q.size - 1
      size_eq := by rw [q.size_eq, h, List.length_cons]; omega })
  | [] =>
    -- The older values are used up, so the newer ones take their place.
    match h' : q.newer.reverse with
    | a :: older =>
      some (a, { q with
        older
        newer := []
        size := q.size - 1
        size_eq := by
          have reversed := congrArg List.length h'
          simp only [List.length_reverse, List.length_cons] at reversed
          simp [q.size_eq, h, reversed] })
    | [] => none

/-- Closes the queue. -/
def close (q : Queue α) : Queue α := { q with isClosed := true }

/-! ### The contents after each operation -/

@[simp] theorem toList_push (q : Queue α) (a : α) : (q.push a).toList = q.toList ++ [a] := by
  simp [toList, push]

theorem length_toList (q : Queue α) : q.toList.length = q.size := by
  simp [toList, q.size_eq]

theorem toList_of_take? {q q' : Queue α} {a : α} (h : q.take? = some (a, q')) :
    q.toList = a :: q'.toList := by
  unfold take? at h
  split at h
  · cases h
    simp [toList, *]
  · split at h
    · cases h
      simp [toList, *]
    · cases h

theorem take?_eq_none_iff {q : Queue α} : q.take? = none ↔ q.toList = [] := by
  unfold take?
  split
  · simp [toList, *]
  · split
    · simp [toList, *]
    · simp [toList, *]

/-! ### The answers to an offer -/

theorem toList_of_offer {q q' : Queue α} {a : α} (h : q.offer a = (q', .queued)) :
    q'.toList = q.toList ++ [a] := by
  unfold offer at h
  split at h
  · cases h
  · split at h
    · cases h
    · cases h
      exact toList_push q a

theorem eq_of_offer {q q' : Queue α} {a : α} {answer : Offer} (h : q.offer a = (q', answer))
    (other : answer ≠ .queued) : q' = q := by
  unfold offer at h
  split at h
  · cases h
    rfl
  · split at h
    · cases h
      rfl
    · cases h
      exact absurd rfl other

theorem room_of_offer {q q' : Queue α} {a : α} (h : q.offer a = (q', .queued)) :
    ¬ q.isFull = true := by
  unfold offer at h
  split at h
  · cases h
  · split at h
    · cases h
    · assumption

/-- An offer neither resizes nor closes a queue. -/
theorem shape_of_offer {q q' : Queue α} {a : α} {answer : Offer} (h : q.offer a = (q', answer)) :
    q'.capacity = q.capacity ∧ q'.isClosed = q.isClosed := by
  unfold offer at h
  split at h
  · cases h
    exact ⟨rfl, rfl⟩
  · split at h <;> cases h <;> exact ⟨rfl, rfl⟩

theorem isClosed_of_offer {q q' : Queue α} {a : α} (h : q.offer a = (q', .closed)) :
    q.isClosed = true := by
  unfold offer at h
  split at h
  · assumption
  · split at h <;> cases h

theorem isFull_of_offer {q q' : Queue α} {a : α} (h : q.offer a = (q', .full)) :
    q.isFull = true := by
  unfold offer at h
  split at h
  · cases h
  · split at h
    · assumption
    · cases h

end Queue

end LoadGen
