import Mathlib.Data.List.Basic
import Mathlib.Data.List.Defs

/-!
# Data sent in pieces

A piece carries data and the offset at which it belongs.  Pieces are contiguous
when each one starts where the one before it ended; joining contiguous pieces
gives the data they were cut from.  `sendPieces` is the loop that cuts data
into pieces of bounded size and sends them until one fails, with the rule by
which an invariant of the sender survives it.  `fetchPieces` is the loop that
asks for data piece by piece; if every piece is a slice of one content, it
returns that content.  The chunks of a list are bounded and hold nothing else.
-/

universe u v w

namespace Pieces

open List

variable {Piece : Type u} {Byte : Type v}
variable (offset : Piece → Nat) (data : Piece → List Byte)

def joined (pieces : List Piece) : List Byte :=
  (pieces.map data).flatten

@[simp] theorem joined_nil : joined data [] = [] :=
  rfl

@[simp] theorem joined_cons (piece : Piece) (pieces : List Piece) :
    joined data (piece :: pieces) = data piece ++ joined data pieces :=
  rfl

@[simp] theorem joined_append (first second : List Piece) :
    joined data (first ++ second) = joined data first ++ joined data second := by
  simp [joined]

/-- Each piece starts where the one before it ended. -/
def Contiguous : Nat → List Piece → Prop
  | _, [] => True
  | start, piece :: pieces =>
    offset piece = start ∧ Contiguous (start + (data piece).length) pieces

theorem Contiguous.append_piece {offset : Piece → Nat}
    {data : Piece → List Byte} {start : Nat} {pieces : List Piece}
    {piece : Piece} (contiguous : Contiguous offset data start pieces)
    (next : offset piece = start + (joined data pieces).length) :
    Contiguous offset data start (pieces ++ [piece]) := by
  induction pieces generalizing start with
  | nil => exact ⟨next, trivial⟩
  | cons first pieces induction =>
    obtain ⟨here, rest⟩ := contiguous
    refine ⟨here, induction rest ?_⟩
    rw [next, joined_cons, length_append]
    omega

/-! ## The sending loop -/

section Sending

variable {State : Type u} {Error : Type w} {cap : Nat}

/-- Send `rest`, which starts at `offset`, in pieces of at most `cap`; the
first error ends the loop. -/
def sendPieces (cap : Nat) (positive : 0 < cap)
    (send : Nat → List Byte → State → State × Except Error Unit)
    (offset : Nat) (rest : List Byte) (state : State) :
    State × Except Error Unit :=
  if rest = [] then (state, .ok ())
  else
    match send offset (rest.take cap) state with
    | (sent, .error error) => (sent, .error error)
    | (sent, .ok ()) =>
      sendPieces cap positive send (offset + (rest.take cap).length) (rest.drop cap) sent
termination_by rest.length
decreasing_by
  have nonempty := length_pos_iff.mpr (by assumption : ¬ rest = [])
  rw [length_drop]
  omega

variable {positive : 0 < cap}
variable {send : Nat → List Byte → State → State × Except Error Unit}
variable {invariant : State → Prop}

/-- What sending a piece of bounded size preserves, the loop preserves. -/
theorem sendPieces_invariant (preserved : ∀ offset piece state, piece.length ≤ cap →
      invariant state → invariant (send offset piece state).1)
    (offset : Nat) (rest : List Byte) (state : State)
    (holds : invariant state) :
    invariant (sendPieces cap positive send offset rest state).1 := by
  induction offset, rest, state using sendPieces.induct cap positive send with
  | case1 offset state =>
    rw [sendPieces, if_pos rfl]
    exact holds
  | case2 offset rest state nonempty sent error failed =>
    have step := preserved offset (rest.take cap) state (length_take_le cap rest) holds
    rw [sendPieces, if_neg nonempty, failed]
    rwa [failed] at step
  | case3 offset rest state nonempty sent passed induction =>
    have step := preserved offset (rest.take cap) state (length_take_le cap rest) holds
    rw [sendPieces, if_neg nonempty, passed]
    rw [passed] at step
    exact induction step

/-- What holds once the first piece is sent, and is preserved, holds at the
end. -/
theorem sendPieces_first (preserved : ∀ offset piece state, piece.length ≤ cap →
      invariant state → invariant (send offset piece state).1)
    {offset : Nat} {rest : List Byte} {state : State} (nonempty : rest ≠ [])
    (first : invariant (send offset (rest.take cap) state).1) :
    invariant (sendPieces cap positive send offset rest state).1 := by
  rw [sendPieces, if_neg nonempty]
  split
  next sent error failed => rwa [failed] at first
  next sent passed =>
    rw [passed] at first
    exact sendPieces_invariant preserved _ _ sent first

/-- If every piece is accepted in the state that the pieces before it lead to,
the loop accepts all of the data. -/
theorem sendPieces_completes (ready : Nat → List Byte → State → Prop)
    (accepted : ∀ offset piece rest state, piece ≠ [] → piece.length ≤ cap →
      ready offset (piece ++ rest) state → (send offset piece state).2 = .ok () ∧
          ready (offset + piece.length) rest (send offset piece state).1)
    (offset : Nat) (rest : List Byte) (state : State)
    (start : ready offset rest state) :
    (sendPieces cap positive send offset rest state).2 = .ok () ∧
      ready (offset + rest.length) [] (sendPieces cap positive send offset rest state).1 := by
  induction offset, rest, state using sendPieces.induct cap positive send with
  | case1 offset state =>
    rw [sendPieces, if_pos rfl]
    exact ⟨rfl, start⟩
  | case2 offset rest state nonempty sent error failed =>
    have first : rest.take cap ≠ [] := by
      simp [nonempty, Nat.ne_of_gt positive]
    rw [← take_append_drop cap rest] at start
    obtain ⟨here, _⟩ := accepted offset (rest.take cap) (rest.drop cap)
      state first (length_take_le cap rest) start
    rw [failed] at here
    cases here
  | case3 offset rest state nonempty sent passed induction =>
    have first : rest.take cap ≠ [] := by
      simp [nonempty, Nat.ne_of_gt positive]
    have split := take_append_drop cap rest
    rw [← split] at start
    obtain ⟨_, next⟩ := accepted offset (rest.take cap) (rest.drop cap)
      state first (length_take_le cap rest) start
    rw [passed] at next
    have finished := induction next
    have length : offset + rest.length = offset +
        (rest.take cap).length + (rest.drop cap).length := by
      rw [Nat.add_assoc, ← length_append, split]
    rw [sendPieces, if_neg nonempty, passed, length]
    exact finished

/-- If every full piece is accepted in the state that the pieces before it lead
to, the loop ends as its last piece does. -/
theorem sendPieces_ends (ready : Nat → List Byte → State → Prop)
    (ends : State × Except Error Unit → Prop)
    (goesOn : ∀ offset piece rest state, piece.length = cap → rest ≠ [] →
      ready offset (piece ++ rest) state → (send offset piece state).2 = .ok () ∧
        ready (offset + piece.length) rest (send offset piece state).1)
    (last : ∀ offset piece state, piece ≠ [] → piece.length ≤ cap →
      ready offset piece state → ends (send offset piece state))
    (offset : Nat) (rest : List Byte) (state : State) (nonempty : rest ≠ [])
    (start : ready offset rest state) :
    ends (sendPieces cap positive send offset rest state) := by
  have cut (rest : List Byte) : rest.drop cap = [] ∧ rest.take cap = rest ∧ rest.length ≤ cap ∨
      rest.drop cap ≠ [] ∧ (rest.take cap).length = cap := by
    rcases Nat.le_total rest.length cap with short | long
    · exact .inl ⟨drop_eq_nil_of_le short, take_of_length_le short, short⟩
    · by_cases more : rest.drop cap = []
      · have short := drop_eq_nil_iff.mp more
        exact .inl ⟨more, take_of_length_le short, short⟩
      · exact .inr ⟨more, length_take_of_le long⟩
  induction offset, rest, state using sendPieces.induct cap positive send with
  | case1 offset state => exact absurd rfl nonempty
  | case2 offset rest state nonempty sent error failed =>
    rw [sendPieces, if_neg nonempty, failed]
    dsimp only
    rcases cut rest with ⟨_, whole, short⟩ | ⟨more, full⟩
    · rw [← failed, whole]
      exact last offset rest state nonempty short start
    · rw [← take_append_drop cap rest] at start
      have passed := (goesOn offset (rest.take cap) (rest.drop cap) state full more start).1
      rw [failed] at passed
      cases passed
  | case3 offset rest state nonempty sent passed induction =>
    rw [sendPieces, if_neg nonempty, passed]
    dsimp only
    rcases cut rest with ⟨none, whole, short⟩ | ⟨more, full⟩
    · rw [none, sendPieces, if_pos rfl, ← passed, whole]
      exact last offset rest state nonempty short start
    · rw [← take_append_drop cap rest] at start
      have next := (goesOn offset (rest.take cap) (rest.drop cap) state full more start).2
      rw [passed] at next
      exact induction more next

end Sending

/-! ## The fetching loop -/

section Fetching

variable {State : Type u} {Error : Type w} {cap : Nat}

/-- Ask for the data from `offset` to `total` in pieces of at most `cap`; the
first error ends the loop. -/
def fetchPieces (cap : Nat) (positive : 0 < cap)
    (fetch : Nat → Nat → State → State × Except Error (List Byte))
    (total offset : Nat) (state : State) : State × Except Error (List Byte) :=
  if total ≤ offset then (state, .ok [])
  else
    match fetch offset (min (total - offset) cap) state with
    | (fetched, .error error) => (fetched, .error error)
    | (fetched, .ok piece) =>
      match fetchPieces cap positive fetch total (offset + min (total - offset) cap) fetched with
      | (done, .error error) => (done, .error error)
      | (done, .ok rest) => (done, .ok (piece ++ rest))
termination_by total - offset
decreasing_by omega

variable {positive : 0 < cap}
variable {fetch : Nat → Nat → State → State × Except Error (List Byte)}
variable {invariant : State → Prop}

/-- What fetching a piece preserves, the loop preserves. -/
theorem fetchPieces_invariant {total : Nat}
    (preserved : ∀ offset length state, invariant state → invariant (fetch offset length state).1)
    (offset : Nat) (state : State) (holds : invariant state) :
    invariant (fetchPieces cap positive fetch total offset state).1 := by
  induction offset, state using fetchPieces.induct cap positive fetch total with
  | case1 offset state done =>
    rw [fetchPieces, if_pos done]
    exact holds
  | case2 offset state unfinished fetched error failed =>
    have step := preserved offset (min (total - offset) cap) state holds
    rw [fetchPieces, if_neg unfinished, failed]
    rwa [failed] at step
  | case3 offset state unfinished fetched piece passed done error joined induction
  | case4 offset state unfinished fetched piece passed done rest joined induction =>
    have step := preserved offset (min (total - offset) cap) state holds
    rw [passed] at step
    have later := induction step
    rw [joined] at later
    simpa only [fetchPieces, if_neg unfinished, passed, joined] using later

/-- If every piece is answered, the loop returns data with the property that
the pieces build up from the end. -/
theorem fetchPieces_collects (positive : 0 < cap) {total : Nat} (collects : Nat → List Byte → Prop)
    (finished : ∀ offset, total ≤ offset → collects offset [])
    (answered : ∀ offset length state, invariant state → 0 < length →
      length ≤ cap → offset + length ≤ total → invariant (fetch offset length state).1 ∧
          ∃ piece, (fetch offset length state).2 = .ok piece ∧
            ∀ rest, collects (offset + length) rest → collects offset (piece ++ rest))
    (offset : Nat) (state : State) (holds : invariant state) :
    invariant (fetchPieces cap positive fetch total offset state).1 ∧
      ∃ bytes, (fetchPieces cap positive fetch total offset state).2 =
        .ok bytes ∧ collects offset bytes := by
  induction offset, state using fetchPieces.induct cap positive fetch total with
  | case1 offset state done =>
    rw [fetchPieces, if_pos done]
    exact ⟨holds, [], rfl, finished offset done⟩
  | case2 offset state unfinished fetched error failed =>
    obtain ⟨_, piece, here, _⟩ := answered offset
      (min (total - offset) cap) state holds (by omega) (by omega) (by omega)
    rw [failed] at here
    cases here
  | case3 offset state unfinished fetched piece passed done error failed
      induction =>
      obtain ⟨kept, _⟩ := answered offset (min (total - offset) cap) state
        holds (by omega) (by omega) (by omega)
      rw [passed] at kept
      obtain ⟨_, rest, later, _⟩ := induction kept
      rw [failed] at later
      cases later
  | case4 offset state unfinished fetched piece passed done rest joined
      induction =>
      obtain ⟨kept, first, here, grows⟩ := answered offset
        (min (total - offset) cap) state holds (by omega) (by omega) (by omega)
      rw [passed] at kept here
      obtain ⟨held, others, later, collected⟩ := induction kept
      rw [joined] at held later
      rw [fetchPieces, if_neg unfinished, passed]
      dsimp only
      rw [joined]
      cases here
      cases later
      exact ⟨held, _, rfl, grows rest collected⟩

theorem fetchPieces_eq (positive : 0 < cap) {content : List Byte} {total : Nat}
    (slices : ∀ offset length state, invariant state → 0 < length →
      length ≤ cap → offset + length ≤ total → invariant (fetch offset length state).1 ∧
          (fetch offset length state).2 = .ok ((content.drop offset).take length))
    (offset : Nat) (state : State) (holds : invariant state) :
    invariant (fetchPieces cap positive fetch total offset state).1 ∧
      (fetchPieces cap positive fetch total offset state).2 =
        .ok ((content.drop offset).take (total - offset)) := by
  have answered : ∀ offset length state, invariant state → 0 < length →
      length ≤ cap → offset + length ≤ total → invariant (fetch offset length state).1 ∧
          ∃ piece, (fetch offset length state).2 = .ok piece ∧
            ∀ rest, rest = (content.drop (offset + length)).take (total - (offset + length)) →
              piece ++ rest = (content.drop offset).take (total - offset) := by
    intro offset length state holds some bound inside
    obtain ⟨kept, fetched⟩ := slices offset length state holds some bound inside
    refine ⟨kept, _, fetched, ?_⟩
    rintro _ rfl
    have split : total - offset = length + (total - (offset + length)) := by
      omega
    rw [split, take_add, drop_drop]
  obtain ⟨kept, bytes, fetched, rfl⟩ := fetchPieces_collects positive
    (fun offset bytes => bytes = (content.drop offset).take (total - offset))
    (fun offset done => by rw [Nat.sub_eq_zero_of_le done]; rfl)
    answered offset state holds
  exact ⟨kept, fetched⟩

end Fetching

/-! ## Chunks -/

section Chunks

variable {Item : Type u} {size : Nat}

/-- At most `size` items, all of which are allowed. -/
def Bounded (size : Nat) (allowed : Item → Prop) (chunk : List Item) :
    Prop :=
  chunk.length ≤ size ∧ ∀ item ∈ chunk, allowed item

theorem bounded_push {allowed : Item → Prop} {filling : Array Item}
    {filled : Array (List Item)} (bounded : Bounded size allowed filling.toList)
    (earlier : ∀ chunk ∈ filled.toList, Bounded size allowed chunk) :
    ∀ chunk ∈ (filled.push filling.toList).toList,
      Bounded size allowed chunk := by
  intro chunk member
  rw [Array.toList_push] at member
  rcases mem_append.mp member with before | last
  · exact earlier chunk before
  · rw [mem_singleton.mp last]
    exact bounded

theorem bounded_go {allowed : Item → Prop} (positive : 0 < size)
    (items : List Item) (filling : Array Item) (filled : Array (List Item))
    (coming : ∀ item ∈ items, allowed item)
    (bounded : Bounded size allowed filling.toList)
    (earlier : ∀ chunk ∈ filled.toList, Bounded size allowed chunk) :
    ∀ chunk ∈ toChunks.go size items filling filled,
      Bounded size allowed chunk := by
  induction items generalizing filling filled with
  | nil =>
    rw [toChunks.go]
    exact bounded_push bounded earlier
  | cons item items induction =>
    have here := coming item mem_cons_self
    have later : ∀ other ∈ items, allowed other :=
      fun other member => coming other (mem_cons_of_mem item member)
    rw [toChunks.go]
    split
    · apply induction _ _ later
      · exact ⟨positive, fun other member =>
          mem_singleton.mp member ▸ here⟩
      · exact bounded_push bounded earlier
    next room =>
      have room : filling.toList.length ≠ size := by simpa using room
      apply induction _ _ later _ earlier
      rw [Array.toList_push]
      constructor
      · rw [length_append, length_singleton]
        exact Nat.lt_of_le_of_ne bounded.1 room
      · intro other member
        rcases mem_append.mp member with before | last
        · exact bounded.2 other before
        · exact mem_singleton.mp last ▸ here

theorem bounded_of_mem_toChunks (positive : 0 < size)
    {items chunk : List Item} (member : chunk ∈ items.toChunks size) :
    Bounded size (· ∈ items) chunk := by
  unfold toChunks at member
  split at member
  · cases member
  · cases positive
  · apply bounded_go positive _ _ _ _ _ _ chunk member
    · intro item later
      exact mem_cons_of_mem _ later
    · refine ⟨positive, fun item first => ?_⟩
      rw [mem_singleton.mp first]
      exact mem_cons_self
    · intro other none
      cases none

theorem flatten_go (items : List Item) (filling : Array Item) (filled : Array (List Item)) :
    (toChunks.go size items filling filled).flatten =
      filled.toList.flatten ++ (filling.toList ++ items) := by
  induction items generalizing filling filled with
  | nil => simp [toChunks.go]
  | cons item items induction =>
    rw [toChunks.go]
    split
    · rw [induction]
      simp
    · rw [induction]
      simp

theorem flatten_toChunks (size : Nat) (items : List Item) :
    (items.toChunks size).flatten = items := by
  unfold toChunks
  split
  · rfl
  · simp
  · rw [flatten_go]
    simp

end Chunks

end Pieces
