/-! # Numbered slots

Values of one kind are numbered in the order in which they are added and are replaced by number.
Numbers that are not given out yet have a value, too, which nothing depends on; so looking up is
total, and an update changes the value of one number only.
-/

namespace MemberDiscovery

/-- Values by number. -/
structure Slots (α : Type u) where
  /-- How many numbers are given out. -/
  size : Nat
  get : Nat → α

namespace Slots

variable {α : Type u}

def empty [Inhabited α] : Slots α := ⟨0, fun _ => default⟩

instance [Inhabited α] : Inhabited (Slots α) := ⟨empty⟩

def set (slots : Slots α) (number : Nat) (value : α) : Slots α :=
  { slots with get := fun other => if other = number then value else slots.get other }

def add (slots : Slots α) (value : α) : Nat × Slots α :=
  (slots.size, { slots.set slots.size value with size := slots.size + 1 })

def numbers (slots : Slots α) : List Nat :=
  List.range slots.size

def toList (slots : Slots α) : List α :=
  slots.numbers.map slots.get

@[simp] theorem get_set (slots : Slots α) (number : Nat) (value : α) (other : Nat) :
    (slots.set number value).get other = if other = number then value else slots.get other := rfl

@[simp] theorem size_set (slots : Slots α) (number : Nat) (value : α) :
    (slots.set number value).size = slots.size := rfl

/-- Of two values for one number the last stays. -/
@[simp] theorem set_set (slots : Slots α) (number : Nat) (first second : α) :
    (slots.set number first).set number second = slots.set number second := by
  simp only [set, Slots.mk.injEq, true_and]
  funext other
  by_cases h : other = number <;> simp [h]

/-- Putting back what is there changes nothing. -/
@[simp] theorem set_get (slots : Slots α) (number : Nat) :
    slots.set number (slots.get number) = slots := by
  obtain ⟨size, get⟩ := slots
  simp only [set, Slots.mk.injEq, true_and]
  funext other
  by_cases h : other = number <;> simp [h]

@[simp] theorem get_add (slots : Slots α) (value : α) (other : Nat) :
    (slots.add value).2.get other = if other = slots.size then value else slots.get other := rfl

/-- A value that was just added and is replaced might have been added in its final form. -/
@[simp] theorem set_add (slots : Slots α) (first second : α) :
    (slots.add first).2.set slots.size second = (slots.add second).2 := by
  simp only [add, set, Slots.mk.injEq, true_and]
  funext other
  by_cases h : other = slots.size <;> simp [h]

@[simp] theorem size_add (slots : Slots α) (value : α) :
    (slots.add value).2.size = slots.size + 1 := rfl

@[simp] theorem fst_add (slots : Slots α) (value : α) : (slots.add value).1 = slots.size := rfl

end Slots

end MemberDiscovery
