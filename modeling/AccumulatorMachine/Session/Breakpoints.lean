import AccumulatorMachine.Word

/-!
# Breakpoints

A set of program counters, kept as an increasing list, so that equal sets are
equal values and listing them needs no sorting.
-/

namespace AccumulatorMachine
namespace Session

/-- The program counters at which a run is to stop. -/
structure Breakpoints where
  addresses : List Word
  increasing : addresses.Pairwise (· < ·)
  deriving DecidableEq

namespace Breakpoints

/-- No breakpoints. -/
def empty : Breakpoints :=
  ⟨[], .nil⟩

/-- An increasing list with one more address at its place. -/
def insertAddress (address : Word) : List Word → List Word
  | [] => [address]
  | first :: rest =>
      if address < first then address :: first :: rest
      else if address = first then first :: rest
      else first :: insertAddress address rest

theorem mem_insertAddress (address other : Word) (addresses : List Word) :
    other ∈ insertAddress address addresses ↔ other = address ∨ other ∈ addresses := by
  fun_induction insertAddress address addresses with
  | case1 => simp
  | case2 => simp
  | case3 => simp
  | case4 first rest _ _ ih =>
    simp only [List.mem_cons, ih]
    exact or_left_comm

theorem pairwise_insertAddress (address : Word) {addresses : List Word}
    (increasing : addresses.Pairwise (· < ·)) :
    (insertAddress address addresses).Pairwise (· < ·) := by
  fun_induction insertAddress address addresses with
  | case1 => simp
  | case2 first rest before =>
    refine List.pairwise_cons.2 ⟨fun other member => ?_, increasing⟩
    rcases List.mem_cons.1 member with rfl | later
    · exact before
    · exact Int32.lt_trans before ((List.pairwise_cons.1 increasing).1 other later)
  | case3 => exact increasing
  | case4 first rest notBefore different ih =>
    have firstBefore : first < address :=
      (Int32.lt_or_lt_of_ne different).resolve_left notBefore
    refine List.pairwise_cons.2 ⟨fun other member => ?_, ih (List.pairwise_cons.1 increasing).2⟩
    rcases (mem_insertAddress address other rest).1 member with rfl | later
    · exact firstBefore
    · exact (List.pairwise_cons.1 increasing).1 other later

/-- Whether there is a breakpoint at an address. -/
def contains (breakpoints : Breakpoints) (address : Word) : Bool :=
  breakpoints.addresses.contains address

/-- The breakpoints with one at an address. -/
def insert (breakpoints : Breakpoints) (address : Word) : Breakpoints where
  addresses := insertAddress address breakpoints.addresses
  increasing := pairwise_insertAddress address breakpoints.increasing

/-- The breakpoints without the one at an address. -/
def erase (breakpoints : Breakpoints) (address : Word) : Breakpoints where
  addresses := breakpoints.addresses.filter fun other => other != address
  increasing := breakpoints.increasing.filter _

@[simp] theorem contains_insert (breakpoints : Breakpoints) (address other : Word) :
    (breakpoints.insert address).contains other =
      (other == address || breakpoints.contains other) := by
  rw [Bool.eq_iff_iff]
  simp [contains, insert, mem_insertAddress]

@[simp] theorem contains_erase (breakpoints : Breakpoints) (address other : Word) :
    (breakpoints.erase address).contains other =
      (other != address && breakpoints.contains other) := by
  rw [Bool.eq_iff_iff]
  simp [contains, erase, and_comm]

end Breakpoints
end Session
end AccumulatorMachine
