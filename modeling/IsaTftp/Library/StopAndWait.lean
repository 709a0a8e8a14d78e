import IsaTftp.Library.Runs
import Mathlib.Data.List.Range
import Mathlib.Order.Lattice

/-!
# Stop-and-wait over an unreliable network

A sender transmits numbered blocks one at a time and waits for the number of
each block to come back; a receiver accepts the blocks in order.  Block
numbers on the wire are taken modulo `modulus`; the receiver counts without
wrapping, so it stops for good at block `modulus - 1`.

The network may lose, duplicate, delay and reorder: whatever was ever put on
the wire may be heard any number of times, at any later moment, or never.
Hence the state has no separate network, only what each party has sent.

The main results are `Coherent.of_reachable`, which says that the receiver
has accepted exactly the first blocks in order, and
`Coherent.acknowledged_le`, which says when an acknowledgement heard by the
sender can be trusted.
-/

namespace IsaTftp.Library.StopAndWait

open IsaTftp.Library.Runs

variable {Block : Type*}

/-- What the sender has done so far, blocks counted from one. -/
structure Sender (Block : Type*) where
  sent : Nat
  acknowledged : Nat
  data : List (Nat × Block)

/-- What the receiver has done so far. -/
structure Receiver (Block : Type*) where
  accepted : List Block
  acks : List Nat

/-- One move of the sender, which may have heard one block number. -/
inductive Sender.Move (modulus : Nat) (block : Nat → Block)
    (heard : Option Nat) : Sender Block → Sender Block → Prop where
  | idle (sender) :
      Move modulus block heard sender sender
  | hear (sender : Sender Block)
      (number : heard = some (sender.sent % modulus)) :
      Move modulus block heard sender
        { sender with acknowledged := sender.sent }
  | send (sender : Sender Block)
      (free : sender.acknowledged = sender.sent) :
      Move modulus block heard sender
        { sender with
          sent := sender.sent + 1
          data := sender.data ++
            [((sender.sent + 1) % modulus, block (sender.sent + 1))] }
  | hearAndSend (sender : Sender Block)
      (number : heard = some (sender.sent % modulus)) :
      Move modulus block heard sender
        { sent := sender.sent + 1
          acknowledged := sender.sent
          data := sender.data ++
            [((sender.sent + 1) % modulus, block (sender.sent + 1))] }

/-- One move of the receiver, which may have heard one numbered block. -/
inductive Receiver.Move (heard : Option (Nat × Block)) :
    Receiver Block → Receiver Block → Prop where
  | acknowledge (receiver : Receiver Block) (numbers : List Nat)
      (old : ∀ number ∈ numbers, number ≤ receiver.accepted.length) :
      Move heard receiver
        { receiver with acks := receiver.acks ++ numbers }
  | accept (receiver : Receiver Block) (payload : Block)
      (numbers : List Nat)
      (next : heard = some (receiver.accepted.length + 1, payload))
      (old : ∀ number ∈ numbers, number ≤ receiver.accepted.length + 1) :
      Move heard receiver
        { accepted := receiver.accepted ++ [payload]
          acks := receiver.acks ++ numbers }

/-- The receiver is idle when it sends nothing. -/
theorem Receiver.Move.idle
    (heard : Option (Nat × Block)) (receiver : Receiver Block) :
    Receiver.Move heard receiver receiver := by
  have silent :
      Receiver.Move heard receiver
        { receiver with acks := receiver.acks ++ [] } :=
    .acknowledge receiver [] (by simp)
  simpa using silent

/-- The two parties and everything they have put on the wire. -/
structure Exchange (Block : Type*) where
  sender : Sender Block
  receiver : Receiver Block

/-- One party moves; it can only hear what the other one has sent. -/
inductive Exchange.Step (modulus : Nat) (block : Nat → Block) :
    Exchange Block → Exchange Block → Prop where
  | sender {exchange : Exchange Block} {next : Sender Block}
      (heard : Option Nat)
      (onWire : ∀ number, heard = some number →
        number ∈ exchange.receiver.acks)
      (move : Sender.Move modulus block heard exchange.sender next) :
      Step modulus block exchange { exchange with sender := next }
  | receiver {exchange : Exchange Block} {next : Receiver Block}
      (heard : Option (Nat × Block))
      (onWire : ∀ message, heard = some message →
        message ∈ exchange.sender.data)
      (move : Receiver.Move heard exchange.receiver next) :
      Step modulus block exchange { exchange with receiver := next }

/-- The blocks numbered from one up to `count`. -/
def blocksUpTo (block : Nat → Block) (count : Nat) : List Block :=
  (List.range count).map fun index => block (index + 1)

theorem blocksUpTo_succ (block : Nat → Block) (count : Nat) :
    blocksUpTo block (count + 1) =
      blocksUpTo block count ++ [block (count + 1)] := by
  simp [blocksUpTo, List.range_succ]

/-! ## The invariant -/

/--
What holds between the parties at any time.  `heard` is the heart: as long as
numbers do not repeat, an acknowledged block is an accepted one, and once they
repeat the receiver has already accepted all it ever will.
-/
structure Coherent (modulus : Nat) (block : Nat → Block)
    (exchange : Exchange Block) : Prop where
  genuine : ∀ message ∈ exchange.sender.data, ∃ index,
    1 ≤ index ∧ index ≤ exchange.sender.sent ∧
      message = (index % modulus, block index)
  inOrder : exchange.receiver.accepted =
    blocksUpTo block exchange.receiver.accepted.length
  bounded : exchange.receiver.accepted.length < modulus
  acksAccepted : ∀ number ∈ exchange.receiver.acks,
    number ≤ exchange.receiver.accepted.length
  heard : min exchange.sender.acknowledged (modulus - 1) ≤
    exchange.receiver.accepted.length
  windowLow : exchange.sender.acknowledged ≤ exchange.sender.sent
  windowHigh : exchange.sender.sent ≤ exchange.sender.acknowledged + 1

/-- Nothing sent and nothing accepted, except for an early number zero. -/
structure Initial (exchange : Exchange Block) : Prop where
  sent : exchange.sender.sent = 0
  acknowledged : exchange.sender.acknowledged = 0
  data : exchange.sender.data = []
  accepted : exchange.receiver.accepted = []
  acks : ∀ number ∈ exchange.receiver.acks, number = 0

theorem Coherent.initial
    {modulus : Nat} (positive : 0 < modulus) (block : Nat → Block)
    {exchange : Exchange Block} (initial : Initial exchange) :
    Coherent modulus block exchange where
  genuine := by simp [initial.data]
  inOrder := by simp [initial.accepted, blocksUpTo]
  bounded := by simpa [initial.accepted] using positive
  acksAccepted := by
    intro number member
    simp [initial.acks number member]
  heard := by simp [initial.acknowledged]
  windowLow := by simp [initial.acknowledged]
  windowHigh := by simp [initial.sent]

section Preservation

variable {modulus : Nat} {block : Nat → Block}
variable {exchange : Exchange Block}

/--
The number of the current block has come back, so the receiver has accepted
this block, or has reached its last one.
-/
theorem Coherent.heard_current
    (coherent : Coherent modulus block exchange)
    (onWire : exchange.sender.sent % modulus ∈ exchange.receiver.acks) :
    min exchange.sender.sent (modulus - 1) ≤
      exchange.receiver.accepted.length := by
  have accepted := coherent.acksAccepted _ onWire
  have old := coherent.heard
  have low := coherent.windowLow
  have high := coherent.windowHigh
  have bounded := coherent.bounded
  by_cases wrapped : exchange.sender.sent < modulus
  · rw [Nat.mod_eq_of_lt wrapped] at accepted
    omega
  · omega

/-- Sending one more block keeps every message on the wire genuine. -/
theorem Coherent.genuine_send
    (coherent : Coherent modulus block exchange) :
    ∀ message ∈ exchange.sender.data ++
        [((exchange.sender.sent + 1) % modulus,
          block (exchange.sender.sent + 1))],
      ∃ index, 1 ≤ index ∧ index ≤ exchange.sender.sent + 1 ∧
        message = (index % modulus, block index) := by
  intro message member
  rcases List.mem_append.mp member with old | new
  · obtain ⟨index, low, high, equal⟩ := coherent.genuine message old
    exact ⟨index, low, by omega, equal⟩
  · exact
      ⟨exchange.sender.sent + 1, by omega, le_rfl,
        by simpa using new⟩

/--
The only message with the number which the receiver waits for carries the
next block: a message of a later lap cannot be on the wire yet.
-/
theorem Coherent.payload_eq
    (coherent : Coherent modulus block exchange) {payload : Block}
    (onWire :
      (exchange.receiver.accepted.length + 1, payload) ∈
        exchange.sender.data) :
    exchange.receiver.accepted.length + 1 < modulus ∧
      payload = block (exchange.receiver.accepted.length + 1) := by
  obtain ⟨index, low, high, equal⟩ := coherent.genuine _ onWire
  simp only [Prod.mk.injEq] at equal
  have positive : 0 < modulus := by
    have := coherent.bounded
    omega
  have below := Nat.mod_lt index positive
  have old := coherent.heard
  have window := coherent.windowHigh
  have sameLap : index = exchange.receiver.accepted.length + 1 := by
    by_cases wrapped : index < modulus
    · rw [Nat.mod_eq_of_lt wrapped] at equal
      exact equal.1.symm
    · omega
  exact ⟨by omega, by rw [← sameLap]; exact equal.2⟩

theorem Coherent.step_sender
    (coherent : Coherent modulus block exchange)
    {heard : Option Nat} {next : Sender Block}
    (onWire : ∀ number, heard = some number →
      number ∈ exchange.receiver.acks)
    (move : Sender.Move modulus block heard exchange.sender next) :
    Coherent modulus block { exchange with sender := next } := by
  cases move with
  | idle => exact coherent
  | hear number =>
      exact
        { coherent with
          heard := coherent.heard_current (onWire _ number)
          windowLow := le_rfl
          windowHigh := Nat.le_succ _ }
  | send free =>
      exact
        { coherent with
          genuine := coherent.genuine_send
          windowLow := Nat.le_succ_of_le coherent.windowLow
          windowHigh := by simp [free] }
  | hearAndSend number =>
      exact
        { coherent with
          genuine := coherent.genuine_send
          heard := coherent.heard_current (onWire _ number)
          windowLow := Nat.le_succ _
          windowHigh := le_rfl }

theorem Coherent.step_receiver
    (coherent : Coherent modulus block exchange)
    {heard : Option (Nat × Block)} {next : Receiver Block}
    (onWire : ∀ message, heard = some message →
      message ∈ exchange.sender.data)
    (move : Receiver.Move heard exchange.receiver next) :
    Coherent modulus block { exchange with receiver := next } := by
  cases move with
  | acknowledge numbers old =>
      refine { coherent with acksAccepted := ?_ }
      intro number member
      rcases List.mem_append.mp member with earlier | new
      · exact coherent.acksAccepted number earlier
      · exact old number new
  | accept payload numbers number old =>
      obtain ⟨room, equal⟩ :=
        coherent.payload_eq (onWire _ number)
      have heardBefore := coherent.heard
      refine
        { coherent with
          inOrder := ?_
          bounded := by simpa using room
          acksAccepted := ?_
          heard := by simp only [List.length_append]; omega }
      · simp only [List.length_append, List.length_singleton]
        rw [blocksUpTo_succ, ← coherent.inOrder, equal]
      · intro number member
        simp only [List.length_append, List.length_singleton]
        rcases List.mem_append.mp member with earlier | new
        · exact
            Nat.le_succ_of_le (coherent.acksAccepted number earlier)
        · exact old number new

theorem Coherent.step
    (coherent : Coherent modulus block exchange)
    {next : Exchange Block}
    (step : Exchange.Step modulus block exchange next) :
    Coherent modulus block next := by
  cases step with
  | sender heard onWire move => exact coherent.step_sender onWire move
  | receiver heard onWire move => exact coherent.step_receiver onWire move

end Preservation

/-- Whatever the network does, the parties stay coherent. -/
theorem Coherent.of_reachable
    {modulus : Nat} (positive : 0 < modulus) {block : Nat → Block}
    {start reached : Exchange Block} (initial : Initial start)
    (reachable :
      Relation.ReflTransGen (Exchange.Step modulus block) start reached) :
    Coherent modulus block reached :=
  reachable_invariant (Coherent modulus block)
    (fun _ _ step coherent => coherent.step step) reachable
    (Coherent.initial positive block initial)

/-- Within the first lap every acknowledged block has been accepted. -/
theorem Coherent.acknowledged_le
    {modulus : Nat} {block : Nat → Block} {exchange : Exchange Block}
    (coherent : Coherent modulus block exchange)
    (firstLap : exchange.sender.acknowledged < modulus) :
    exchange.sender.acknowledged ≤
      exchange.receiver.accepted.length := by
  have := coherent.heard
  omega

/-! ## A receiver that never sends number zero -/

/--
If number zero never is on the wire, the sender cannot get past block
`modulus`, whose number it would be.
-/
theorem acknowledged_lt_of_no_zero
    {modulus : Nat} (positive : 0 < modulus) {block : Nat → Block}
    {start reached : Exchange Block} (initial : Initial start)
    (reachable :
      Relation.ReflTransGen (Exchange.Step modulus block) start reached)
    (noZero : 0 ∉ reached.receiver.acks) :
    reached.sender.acknowledged < modulus := by
  have either :
      0 ∈ reached.receiver.acks ∨
        reached.sender.acknowledged < modulus ∧
          reached.sender.sent ≤ reached.sender.acknowledged + 1 := by
    refine reachable_invariant
      (fun exchange =>
        0 ∈ exchange.receiver.acks ∨
          exchange.sender.acknowledged < modulus ∧
            exchange.sender.sent ≤ exchange.sender.acknowledged + 1)
      ?_ reachable
      (Or.inr ⟨by rw [initial.acknowledged]; exact positive,
        by simp [initial.sent]⟩)
    intro exchange next step before
    cases step with
    | sender heard onWire move =>
        rcases before with zero | ⟨below, window⟩
        · exact Or.inl zero
        · have current :
              exchange.sender.sent % modulus ∈
                  exchange.receiver.acks →
                0 ∈ exchange.receiver.acks ∨
                  exchange.sender.sent < modulus := by
            intro member
            by_cases full : exchange.sender.sent = modulus
            · left
              simpa [full] using member
            · right
              omega
          cases move with
          | idle => exact Or.inr ⟨below, window⟩
          | hear number =>
              exact
                (current (onWire _ number)).imp id
                  fun lap => ⟨lap, Nat.le_succ _⟩
          | send free => exact Or.inr ⟨below, by simp [free]⟩
          | hearAndSend number =>
              exact
                (current (onWire _ number)).imp id
                  fun lap => ⟨lap, le_rfl⟩
    | receiver heard onWire move =>
        cases move with
        | acknowledge numbers old =>
            exact before.imp (fun zero => by simp [zero]) id
        | accept payload numbers number old =>
            exact before.imp (fun zero => by simp [zero]) id
  exact (either.resolve_left noZero).1

/-! ## Implementations -/

/-- Two programs which talk over a network. -/
structure Link (First Second : Type*) where
  first : First
  second : Second

/-- One program moves; it may hear whatever the other one ever sent. -/
inductive Link.Step {First Second Message : Type*}
    (firstSent : First → List Message) (secondSent : Second → List Message)
    (firstStep : List Message → First → First → Prop)
    (secondStep : List Message → Second → Second → Prop) :
    Link First Second → Link First Second → Prop where
  | first {link : Link First Second} {next : First}
      (move : firstStep (secondSent link.second) link.first next) :
      Step firstSent secondSent firstStep secondStep link
        { link with first := next }
  | second {link : Link First Second} {next : Second}
      (move : secondStep (firstSent link.first) link.second next) :
      Step firstSent secondSent firstStep secondStep link
        { link with second := next }

section Implementation

variable {Program Message : Type*}

/--
A program implements the sender if a view of its states as sender states can
be kept up: every step of the program is a move of the viewed sender, and
what the program has sent is what the sender has sent.  `Honest` is whatever
else the receiver has to know about it.
-/
structure ImplementsSender (modulus : Nat) (block : Nat → Block)
    (sent : Program → List Message)
    (step : List Message → Program → Program → Prop)
    (dataOn : List Message → List (Nat × Block))
    (acksOn : List Message → List Nat)
    (Honest : List Message → Prop)
    (View : Program → Sender Block → Prop) : Prop where
  data : ∀ {program sender}, View program sender →
    sender.data = dataOn (sent program)
  honest : ∀ {program sender}, View program sender →
    Honest (sent program)
  move : ∀ {incoming program next sender}, View program sender →
    step incoming program next →
      ∃ heard moved,
        (∀ number, heard = some number → number ∈ acksOn incoming) ∧
          Sender.Move modulus block heard sender moved ∧
            View next moved

/-- The same for the receiver. -/
structure ImplementsReceiver
    (sent : Program → List Message)
    (step : List Message → Program → Program → Prop)
    (dataOn : List Message → List (Nat × Block))
    (acksOn : List Message → List Nat)
    (Honest : List Message → Prop)
    (View : Program → Receiver Block → Prop) : Prop where
  acks : ∀ {program receiver}, View program receiver →
    receiver.acks = acksOn (sent program)
  move : ∀ {incoming program next receiver}, View program receiver →
    Honest incoming → step incoming program next →
      ∃ heard moved,
        (∀ message, heard = some message →
            message ∈ dataOn incoming) ∧
          Receiver.Move heard receiver moved ∧ View next moved

/-- Two programs which implement the parties run as an exchange does. -/
theorem Link.refines
    {First Second : Type*} {modulus : Nat} {block : Nat → Block}
    {firstSent : First → List Message}
    {secondSent : Second → List Message}
    {firstStep : List Message → First → First → Prop}
    {secondStep : List Message → Second → Second → Prop}
    {dataOn : List Message → List (Nat × Block)}
    {acksOn : List Message → List Nat}
    {Honest : List Message → Prop}
    {SenderView : First → Sender Block → Prop}
    {ReceiverView : Second → Receiver Block → Prop}
    (sends : ImplementsSender modulus block firstSent firstStep dataOn
      acksOn Honest SenderView)
    (receives : ImplementsReceiver secondSent secondStep dataOn acksOn
      Honest ReceiverView)
    {start reached : Link First Second} {initial : Exchange Block}
    (senderStart : SenderView start.first initial.sender)
    (receiverStart : ReceiverView start.second initial.receiver)
    (reachable :
      Relation.ReflTransGen
        (Link.Step firstSent secondSent firstStep secondStep)
        start reached) :
    ∃ exchange,
      Relation.ReflTransGen (Exchange.Step modulus block) initial
          exchange ∧
        SenderView reached.first exchange.sender ∧
          ReceiverView reached.second exchange.receiver := by
  refine reachable_invariant
    (fun link => ∃ exchange,
      Relation.ReflTransGen (Exchange.Step modulus block) initial
          exchange ∧
        SenderView link.first exchange.sender ∧
          ReceiverView link.second exchange.receiver)
    ?_ reachable ⟨initial, .refl, senderStart, receiverStart⟩
  rintro link next step ⟨exchange, path, senderView, receiverView⟩
  cases step with
  | first move =>
      obtain ⟨heard, moved, onWire, moves, view⟩ :=
        sends.move senderView move
      rw [← receives.acks receiverView] at onWire
      exact
        ⟨_, path.tail (.sender heard onWire moves), view, receiverView⟩
  | second move =>
      obtain ⟨heard, moved, onWire, moves, view⟩ :=
        receives.move receiverView (sends.honest senderView) move
      rw [← sends.data senderView] at onWire
      exact
        ⟨_, path.tail (.receiver heard onWire moves), senderView, view⟩

end Implementation

end IsaTftp.Library.StopAndWait
