import AccumulatorMachine.Proofs.SessionFrames
import Mathlib.Data.List.Forall2
import Mathlib.Order.Bounds.Basic

/-!
# Shown cells

A session that is asked for a block of cells shows them in order up to the first address
outside the memory, which it names.  Addresses saturate, but the only ones that can be
reached outside the memory are the first of the block and the one behind the last cell,
so saturation neither repeats a cell nor changes the address that is named.
-/

namespace AccumulatorMachine
namespace Session

/-- An address is one of a number of addresses from a first one on. -/
def InBlock (first count place : Int) : Prop :=
  first ≤ place ∧ place < first + count

instance (first count place : Int) : Decidable (InBlock first count place) :=
  inferInstanceAs (Decidable (_ ∧ _))

/-- An event shows the cell at an address with its value, marked if it was written last. -/
inductive Shows (memory : Memory) (place : Int) : Event → Prop
  | cell {address value : Word} {isLastWritten : Bool} :
      address.toInt = place →
        memory.contents place = some value →
        (isLastWritten = true ↔ memory.lastAddress = some place) →
        Shows memory place (.cell address value isLastWritten)

/-- Events show the cells of a block that starts in the memory, each once and in order,
and no cell of another.  The only warning names the first address of the block outside
the memory, and there is none if there is no such address. -/
structure ShowsBlock (memory : Memory) (first count : Int) (places : List Int)
    (shown : List Event) (warnings : List Memory.InvalidAddress) : Prop where
  shows : List.Forall₂ (Shows memory) places shown
  increasing : places.Pairwise (· < ·)
  mem_places_iff : ∀ place, place ∈ places ↔
    0 ≤ first ∧ first ≤ place ∧ place < min (first + count) dataSize
  warned : (∀ place, InBlock first count place → Memory.IsAddress place) ∧ warnings = [] ∨
    ∃ error, warnings = [error] ∧
      IsLeast {place | InBlock first count place ∧ ¬Memory.IsAddress place} error.address.toInt

/-! ## Blocks -/

namespace ShowsBlock

variable {memory : Memory} {first count : Int} {places : List Int} {shown : List Event}
  {warnings : List Memory.InvalidAddress}

/-- The cell that a block starts with is shown before the rest of the block. -/
theorem cons (rest : ShowsBlock memory (first + 1) (count - 1) places shown warnings)
    (inside : Memory.IsAddress first) (nonempty : 0 < count) {event : Event}
    (shows : Shows memory first event) :
    ShowsBlock memory first count (first :: places) (event :: shown) warnings where
  shows := .cons shows rest.shows
  increasing := by
    refine List.pairwise_cons.mpr ⟨fun place member => ?_, rest.increasing⟩
    rw [rest.mem_places_iff] at member
    omega
  mem_places_iff place := by
    unfold Memory.IsAddress at inside
    rw [List.mem_cons, rest.mem_places_iff]
    omega
  warned := by
    have split (place : Int) (inBlock : InBlock first count place) :
        place = first ∨ InBlock (first + 1) (count - 1) place := by
      unfold InBlock at inBlock ⊢
      omega
    rcases rest.warned with ⟨allInside, none⟩ | ⟨error, only, ⟨inBlock, outside⟩, least⟩
    · refine Or.inl ⟨fun place inBlock => ?_, none⟩
      rcases split place inBlock with rfl | inRest
      · exact inside
      · exact allInside place inRest
    · refine Or.inr ⟨error, only, ⟨?_, outside⟩, fun place ⟨inWhole, notCell⟩ => ?_⟩
      · unfold InBlock at inBlock ⊢
        omega
      · rcases split place inWhole with rfl | inRest
        · exact absurd inside notCell
        · exact least ⟨inRest, notCell⟩

end ShowsBlock

/-! ## The events of a block -/

section Events

variable {memory : Memory} {address : Word}

end Events

end Session
end AccumulatorMachine
