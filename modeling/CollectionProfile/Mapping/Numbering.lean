import CollectionProfile.Mapping.Sheet

/-!
# Row numbering

The rows of one output are numbered consecutively. A `Numbering` holds the next number; the number
of the root row is never handed out. Numbers are words of 32 bits: as long as the count stays below
`numberCount`, a numbering hands out the numbers from `next` on (`assign_eq`).
-/

namespace CollectionProfile.Mapping

/-- How many words of 32 bits there are. After the last of them the count begins again at zero. -/
def numberCount : Nat := 4294967296

/-- The state of a consecutive numbering. -/
structure Numbering where
  /-- The number that is handed out next. -/
  next : Nat
deriving DecidableEq, Repr

namespace Numbering

/-- The numbering that begins at `start`, or right after the root row where that is later. -/
def startingAt (start : Nat) : Numbering := ⟨max start (rootId + 1)⟩

/-- The numbering that begins right after the root row. -/
def afterRoot : Numbering := startingAt (rootId + 1)

instance : Inhabited Numbering := ⟨afterRoot⟩

/-- The next number, and the numbering after it. -/
def take (numbering : Numbering) : Nat × Numbering :=
  (numbering.next, ⟨(numbering.next + 1) % numberCount⟩)

/-- The items of a list with their numbers, and the numbering after them. -/
def assign {α : Type} (numbering : Numbering) : List α → List (α × Nat) × Numbering
  | [] => ([], numbering)
  | item :: rest =>
    let (id, numbering) := numbering.take
    let (more, numbering) := numbering.assign rest
    ((item, id) :: more, numbering)

@[simp] theorem take_fst (numbering : Numbering) : numbering.take.1 = numbering.next := rfl

theorem take_snd {numbering : Numbering} (h : numbering.next + 1 < numberCount) :
    numbering.take.2 = ⟨numbering.next + 1⟩ := by
  simp only [take, Nat.mod_eq_of_lt h]

@[simp] theorem length_assign {α : Type} (numbering : Numbering) (items : List α) :
    (numbering.assign items).1.length = items.length := by
  induction items generalizing numbering with
  | nil => rfl
  | cons item rest ih => simp [assign, ih]

/-- Below the limit the items get the numbers from `next` on, in order. -/
theorem assign_eq {α : Type} {numbering : Numbering} {items : List α}
    (h : numbering.next + items.length < numberCount) :
    numbering.assign items = (items.zipIdx numbering.next, ⟨numbering.next + items.length⟩) := by
  induction items generalizing numbering with
  | nil => rfl
  | cons item rest ih =>
    rw [List.length_cons] at h
    have htake : numbering.take.2 = ⟨numbering.next + 1⟩ := take_snd (by omega)
    have hrest : (assign ⟨numbering.next + 1⟩ rest) =
        (rest.zipIdx (numbering.next + 1), ⟨numbering.next + 1 + rest.length⟩) :=
      ih (show numbering.next + 1 + rest.length < numberCount by omega)
    simp only [assign, take_fst, htake, hrest, List.zipIdx_cons, List.length_cons,
      Nat.add_assoc, Nat.add_comm 1]

end Numbering

end CollectionProfile.Mapping
