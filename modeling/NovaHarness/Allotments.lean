import Mathlib.Algebra.Order.Ring.Nat

namespace NovaHarness.Allotments

/-- What a class may take at most and how much it has to place. -/
structure Share where
  cap : Nat
  demand : Nat

def Share.taken (share : Share) (room : Nat) : Nat :=
  min (min share.cap room) share.demand

def allot : (room : Nat) → List Share → List Nat
  | _, [] => []
  | room, share :: shares => share.taken room :: allot (room - share.taken room) shares

/-- The same demand under a cap that is not smaller. -/
def Share.Raised (share share' : Share) : Prop :=
  share.cap ≤ share'.cap ∧ share'.demand = share.demand

section Taken

variable {share share' : Share} (hraised : share.Raised share')

theorem taken_le_room (share : Share) (room : Nat) : share.taken room ≤ room := by
  unfold Share.taken
  omega

include hraised

/-- A class whose cap was raised keeps its part exactly when there is room for it. -/
theorem taken_le_taken_iff (room room' : Nat) :
    share.taken room ≤ share'.taken room' ↔ share.taken room ≤ room' := by
  obtain ⟨hcap, hdemand⟩ := hraised
  constructor
  · intro h
    exact h.trans (taken_le_room share' room')
  · intro h
    have hunfold : share'.taken room' = min (min share'.cap room') share.demand := by
      rw [Share.taken, hdemand]
    rw [hunfold]
    apply le_min
    · apply le_min _ h
      unfold Share.taken
      omega
    · exact min_le_right _ _

/-- What was taken before a class and by it does not fall, if neither the room nor
what was taken before it does. -/
theorem used_le_used {room room' used used' : Nat} (hused : used ≤ used')
    (hroom : used + room ≤ used' + room') :
    used + share.taken room ≤ used' + share'.taken room' := by
  by_cases hkept : share.taken room ≤ room'
  · have htaken := (taken_le_taken_iff hraised room room').mpr hkept
    omega
  · -- The class takes all the room there is.
    obtain ⟨hcap, hdemand⟩ := hraised
    have hall : share'.taken room' = room' := by
      unfold Share.taken at hkept ⊢
      omega
    have hroomUsed := taken_le_room share room
    omega

end Taken

/-- With more room and raised caps the first classes, however many of them, never
get less between them. -/
theorem sum_take_allot_le {shares shares' : List Share}
    (hraised : List.Forall₂ Share.Raised shares shares') {room room' used used' : Nat}
    (hused : used ≤ used') (hroom : used + room ≤ used' + room') (k : Nat) :
    used + ((allot room shares).take k).sum ≤ used' + ((allot room' shares').take k).sum := by
  induction hraised generalizing room room' used used' k with
  | nil => simpa [allot] using hused
  | @cons share share' shares shares' hshare _ ih =>
      cases k with
      | zero => simpa using hused
      | succ k =>
          have hstep := used_le_used hshare hused hroom
          have htaken := taken_le_room share room
          have htaken' := taken_le_room share' room'
          have hleft : used + share.taken room + (room - share.taken room) ≤
              used' + share'.taken room' + (room' - share'.taken room') := by
            omega
          have hrest := ih hstep hleft k
          simp only [allot, List.take_succ_cons, List.sum_cons]
          omega

end NovaHarness.Allotments
