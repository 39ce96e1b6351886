/-!
# Handles

A handle is a word of fixed width that names a slot of a store.  The largest
word is set aside: `Handle.nil` names no slot and marks the end of a chain.

Main statements: `ofSlot?_eq_some_iff` (a slot number has a handle exactly when
it lies below the end marker, and the handle reads back as that number) and
`ne_nil_iff` (every other word names a slot).
-/

namespace ArenaChain

/-- A word of `width` bits that names a slot, or the end of a chain if it is the
largest such word. -/
structure Handle (width : Nat) where
  word : BitVec width
  deriving DecidableEq

namespace Handle

variable {width : Nat}

def toNat (handle : Handle width) : Nat := handle.word.toNat

/-- The end marker: the largest word, which names no slot. -/
def nil : Handle width := ⟨BitVec.allOnes width⟩

/-- How many slots a handle of this width can name. -/
def slotLimit (width : Nat) : Nat := (BitVec.allOnes width).toNat

/-- Whether a handle is in a list of handles is decided by way of this instance. -/
instance : LawfulBEq (Handle width) := inferInstance

instance : ToString (Handle width) := ⟨fun handle => toString handle.toNat⟩

/-- The word with this value, the end marker included, if the value fits into a word. -/
def ofNat? (value : Nat) : Option (Handle width) :=
  let word := BitVec.ofNat width value
  if word.toNat = value then some ⟨word⟩ else none

/-- The handle of a slot, if the slot number fits and is not the end marker. -/
def ofSlot? (slot : Nat) : Option (Handle width) :=
  (ofNat? slot).filter (· ≠ nil)

@[simp]
theorem toNat_nil : (nil : Handle width).toNat = slotLimit width := rfl

theorem toNat_inj {first second : Handle width} :
    first.toNat = second.toNat ↔ first = second := by
  cases first
  cases second
  simp [toNat, BitVec.toNat_inj]

theorem toNat_le_slotLimit (handle : Handle width) : handle.toNat ≤ slotLimit width := by
  rw [slotLimit, BitVec.toNat_allOnes]
  exact Nat.le_sub_one_of_lt handle.word.isLt

theorem ne_nil_iff {handle : Handle width} :
    handle ≠ nil ↔ handle.toNat < slotLimit width := by
  have bound := handle.toNat_le_slotLimit
  rw [ne_eq, ← toNat_inj, toNat_nil]
  omega

theorem ofNat?_eq_some_iff {value : Nat} {handle : Handle width} :
    ofNat? value = some handle ↔ handle.toNat = value := by
  dsimp only [ofNat?]
  split
  case isTrue fits =>
    have read : (⟨BitVec.ofNat width value⟩ : Handle width).toNat = value := fits
    rw [Option.some.injEq, ← toNat_inj, read, eq_comm]
  case isFalse beyond =>
    simp only [reduceCtorEq, false_iff]
    rintro rfl
    exact beyond (Nat.mod_eq_of_lt handle.word.isLt)

theorem exists_toNat_eq {value : Nat} (fits : value ≤ slotLimit width) :
    ∃ handle : Handle width, handle.toNat = value := by
  rw [slotLimit, BitVec.toNat_allOnes] at fits
  exact ⟨⟨BitVec.ofNat width value⟩,
    Nat.mod_eq_of_lt (Nat.lt_of_le_sub_one (Nat.two_pow_pos width) fits)⟩

theorem ofSlot?_eq_some_iff {slot : Nat} {handle : Handle width} :
    ofSlot? slot = some handle ↔ handle ≠ nil ∧ handle.toNat = slot := by
  rw [ofSlot?, Option.filter_eq_some_iff, ofNat?_eq_some_iff, decide_eq_true_iff, and_comm]

theorem ofSlot?_toNat {handle : Handle width} (named : handle ≠ nil) :
    ofSlot? handle.toNat = some handle :=
  ofSlot?_eq_some_iff.mpr ⟨named, rfl⟩

/-- The slots without a handle are those from the number of the end marker on. -/
theorem ofSlot?_eq_none_iff {slot : Nat} :
    (ofSlot? slot : Option (Handle width)) = none ↔ slotLimit width ≤ slot := by
  rw [Option.eq_none_iff_forall_ne_some]
  constructor
  · intro unnamed
    rw [← Nat.not_lt]
    intro below
    obtain ⟨handle, rfl⟩ := exists_toNat_eq (Nat.le_of_lt below)
    exact unnamed handle (ofSlot?_toNat (ne_nil_iff.mpr below))
  · intro beyond handle found
    obtain ⟨named, rfl⟩ := ofSlot?_eq_some_iff.mp found
    exact Nat.not_lt.mpr beyond (ne_nil_iff.mp named)

end Handle

end ArenaChain
