import IsaTftp.Library.StopAndWait
import Mathlib.Data.List.Forall2

/-!
# Many senders and one receiver

When a request is heard several times, several senders start to transmit the
same blocks to one receiver, and every sender hears every number which comes
back.  The senders do not know of each other; what holds between two parties
of an exchange holds between each of them and the receiver.
-/

namespace IsaTftp.Library.StopAndWait

open IsaTftp.Library.Runs

variable {Block : Type*}

/-- A sender which has done nothing. -/
def Sender.fresh : Sender Block :=
  ⟨0, 0, []⟩

/-- The senders, in the order in which they started, and the receiver. -/
structure Gathering (Block : Type*) where
  senders : List (Sender Block)
  receiver : Receiver Block

/-- A sender starts, or one of the parties moves. -/
inductive Gathering.Step (modulus : Nat) (block : Nat → Block) :
    Gathering Block → Gathering Block → Prop where
  | starts (gathering : Gathering Block) :
      Step modulus block gathering
        { gathering with senders := gathering.senders ++ [Sender.fresh] }
  | sender {earlier later : List (Sender Block)}
      {sender next : Sender Block} {receiver : Receiver Block}
      (heard : Option Nat)
      (onWire : ∀ number, heard = some number → number ∈ receiver.acks)
      (move : Sender.Move modulus block heard sender next) :
      Step modulus block ⟨earlier ++ sender :: later, receiver⟩
        ⟨earlier ++ next :: later, receiver⟩
  | receiver {gathering : Gathering Block} {next : Receiver Block}
      (heard : Option (Nat × Block))
      (onWire : ∀ message, heard = some message →
        ∃ sender ∈ gathering.senders, message ∈ sender.data)
      (move : Receiver.Move heard gathering.receiver next) :
      Step modulus block gathering { gathering with receiver := next }

/-! ## The invariant -/

/-- Every sender is coherent with the receiver. -/
structure Harmony (modulus : Nat) (block : Nat → Block)
    (gathering : Gathering Block) : Prop where
  each : ∀ sender ∈ gathering.senders,
    Coherent modulus block ⟨sender, gathering.receiver⟩
  inOrder : gathering.receiver.accepted =
    blocksUpTo block gathering.receiver.accepted.length
  bounded : gathering.receiver.accepted.length < modulus
  acksAccepted : ∀ number ∈ gathering.receiver.acks,
    number ≤ gathering.receiver.accepted.length

section Preservation

variable {modulus : Nat} {block : Nat → Block}
variable {gathering : Gathering Block}

/-- A sender which starts late is coherent with whatever was accepted. -/
theorem Harmony.fresh (harmony : Harmony modulus block gathering) :
    Coherent modulus block ⟨Sender.fresh, gathering.receiver⟩ where
  genuine := by simp [Sender.fresh]
  inOrder := harmony.inOrder
  bounded := harmony.bounded
  acksAccepted := harmony.acksAccepted
  heard := by simp [Sender.fresh]
  windowLow := le_rfl
  windowHigh := by simp [Sender.fresh]

theorem Harmony.starts (harmony : Harmony modulus block gathering) :
    Harmony modulus block
      { gathering with
        senders := gathering.senders ++ [Sender.fresh] } := by
  refine { harmony with each := ?_ }
  intro sender member
  rcases List.mem_append.mp member with old | new
  · exact harmony.each sender old
  · rw [List.mem_singleton.mp new]
    exact harmony.fresh

/-- A sender moves; the others and the receiver do not notice. -/
theorem Harmony.step_sender
    {earlier later : List (Sender Block)} {sender next : Sender Block}
    {receiver : Receiver Block}
    (harmony :
      Harmony modulus block ⟨earlier ++ sender :: later, receiver⟩)
    {heard : Option Nat}
    (onWire : ∀ number, heard = some number → number ∈ receiver.acks)
    (move : Sender.Move modulus block heard sender next) :
    Harmony modulus block ⟨earlier ++ next :: later, receiver⟩ := by
  have before : Coherent modulus block ⟨sender, receiver⟩ :=
    harmony.each sender (by simp)
  have after : Coherent modulus block ⟨next, receiver⟩ :=
    before.step_sender onWire move
  refine
    ⟨?_, harmony.inOrder, harmony.bounded, harmony.acksAccepted⟩
  intro other member
  simp only [List.mem_append, List.mem_cons] at member
  rcases member with first | rfl | last
  · exact harmony.each other (by simp [first])
  · exact after
  · exact harmony.each other (by simp [last])

/-- What one sender has told the receiver, the others may rely on. -/
theorem Coherent.other_receiver
    {sender other : Sender Block} {receiver next : Receiver Block}
    (coherent : Coherent modulus block ⟨sender, next⟩)
    (old : Coherent modulus block ⟨other, receiver⟩)
    (grows : receiver.accepted.length ≤ next.accepted.length) :
    Coherent modulus block ⟨other, next⟩ where
  genuine := old.genuine
  inOrder := coherent.inOrder
  bounded := coherent.bounded
  acksAccepted := coherent.acksAccepted
  heard := le_trans old.heard grows
  windowLow := old.windowLow
  windowHigh := old.windowHigh

/-- No move of the receiver takes a block back. -/
theorem Receiver.Move.grows
    {heard : Option (Nat × Block)} {receiver next : Receiver Block}
    (move : Receiver.Move heard receiver next) :
    receiver.accepted.length ≤ next.accepted.length := by
  cases move with
  | acknowledge numbers old => exact le_rfl
  | accept payload numbers number old => simp

/-- The receiver accepts a block of whichever sender it hears. -/
theorem Harmony.step_receiver
    (harmony : Harmony modulus block gathering)
    {heard : Option (Nat × Block)} {next : Receiver Block}
    (onWire : ∀ message, heard = some message →
      ∃ sender ∈ gathering.senders, message ∈ sender.data)
    (move : Receiver.Move heard gathering.receiver next) :
    Harmony modulus block { gathering with receiver := next } := by
  obtain ⟨speaker, speaks, before⟩ :
      ∃ sender, (∀ message, heard = some message →
          message ∈ sender.data) ∧
        Coherent modulus block ⟨sender, gathering.receiver⟩ := by
    cases heard with
    | none => exact ⟨Sender.fresh, by simp, harmony.fresh⟩
    | some message =>
        obtain ⟨sender, member, carried⟩ := onWire message rfl
        refine ⟨sender, ?_, harmony.each sender member⟩
        intro other same
        cases same
        exact carried
  have after : Coherent modulus block ⟨speaker, next⟩ :=
    before.step_receiver speaks move
  refine
    ⟨?_, after.inOrder, after.bounded, after.acksAccepted⟩
  intro other member
  exact after.other_receiver (harmony.each other member) move.grows

theorem Harmony.step
    (harmony : Harmony modulus block gathering)
    {next : Gathering Block}
    (step : Gathering.Step modulus block gathering next) :
    Harmony modulus block next := by
  cases step with
  | starts => exact harmony.starts
  | sender heard onWire move => exact harmony.step_sender onWire move
  | receiver heard onWire move =>
      exact harmony.step_receiver onWire move

end Preservation

/-- A receiver which has accepted nothing, before any sender starts. -/
theorem Harmony.initial
    {modulus : Nat} (positive : 0 < modulus) (block : Nat → Block)
    {receiver : Receiver Block} (nothing : receiver.accepted = [])
    (zeros : ∀ number ∈ receiver.acks, number = 0) :
    Harmony modulus block ⟨[], receiver⟩ where
  each := by simp
  inOrder := by simp [nothing, blocksUpTo]
  bounded := by simpa [nothing] using positive
  acksAccepted := by
    intro number member
    simp [zeros number member]

/-- Whatever the network does, all parties stay in harmony. -/
theorem Harmony.of_reachable
    {modulus : Nat} {block : Nat → Block}
    {start reached : Gathering Block}
    (harmony : Harmony modulus block start)
    (reachable :
      Relation.ReflTransGen (Gathering.Step modulus block) start
        reached) :
    Harmony modulus block reached :=
  reachable_invariant (Harmony modulus block)
    (fun _ _ step harmony => harmony.step step) reachable harmony

/-! ## Programs and the senders which they implement -/

section Pairing

variable {First Second : Type*} {Related : First → Second → Prop}

theorem exists_related
    {programs : List First} {senders : List Second}
    (related : List.Forall₂ Related programs senders) {program : First}
    (member : program ∈ programs) :
    ∃ sender ∈ senders, Related program sender := by
  induction related with
  | nil => cases member
  | cons here _ induction =>
      rcases List.mem_cons.mp member with rfl | later
      · exact ⟨_, List.mem_cons_self, here⟩
      · obtain ⟨sender, among, relates⟩ := induction later
        exact ⟨sender, List.mem_cons_of_mem _ among, relates⟩

/-- The sender at the place of a program, and how both are replaced. -/
theorem related_set
    {programs : List First} {senders : List Second}
    (related : List.Forall₂ Related programs senders) {index : Nat}
    {program : First} (found : programs[index]? = some program) :
    ∃ earlier sender later, senders = earlier ++ sender :: later ∧
      Related program sender ∧
        ∀ next moved, Related next moved →
          List.Forall₂ Related (programs.set index next)
            (earlier ++ moved :: later) := by
  induction related generalizing index with
  | nil => cases found
  | @cons head first tail rest here others induction =>
      cases index with
      | zero =>
          simp only [List.getElem?_cons_zero, Option.some.injEq] at found
          subst found
          exact
            ⟨[], first, rest, rfl, here,
              fun _ _ relates => .cons relates others⟩
      | succ index =>
          rw [List.getElem?_cons_succ] at found
          obtain ⟨earlier, sender, later, rfl, relates, replaced⟩ :=
            induction found
          exact
            ⟨first :: earlier, sender, later, rfl, relates,
              fun next moved fits => .cons here (replaced next moved fits)⟩

end Pairing

end IsaTftp.Library.StopAndWait
