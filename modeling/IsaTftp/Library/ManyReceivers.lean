import IsaTftp.Library.StopAndWait

/-!
# One sender and many receivers

When a request is heard several times, several receivers start, and each of
them hears whatever the sender sends.  As long as only one of them accepts
blocks, the sender cannot tell them from a single receiver: what it does with
an audience is an exchange.
-/

namespace IsaTftp.Library.StopAndWait

open IsaTftp.Library.Runs

variable {Block : Type*}

/-- The sender, and the receivers in the order in which they started. -/
structure Audience (Block : Type*) where
  sender : Sender Block
  receivers : List (Receiver Block)

/--
A receiver starts, or one of the parties moves.  A receiver which has accepted
something is the only one which has.
-/
inductive Audience.Step (modulus : Nat) (block : Nat → Block) :
    Audience Block → Audience Block → Prop where
  | starts (audience : Audience Block) (numbers : List Nat)
      (zeros : ∀ number ∈ numbers, number = 0) :
      Step modulus block audience
        { audience with
          receivers := audience.receivers ++ [⟨[], numbers⟩] }
  | sender {audience : Audience Block} {next : Sender Block}
      (heard : Option Nat)
      (onWire : ∀ number, heard = some number →
        ∃ receiver ∈ audience.receivers, number ∈ receiver.acks)
      (move : Sender.Move modulus block heard audience.sender next) :
      Step modulus block audience { audience with sender := next }
  | receiver {sender : Sender Block} {earlier later : List (Receiver Block)}
      {receiver next : Receiver Block} (heard : Option (Nat × Block))
      (onWire : ∀ message, heard = some message → message ∈ sender.data)
      (move : Receiver.Move heard receiver next)
      (alone : next.accepted ≠ [] →
        ∀ other ∈ earlier ++ later, other.accepted = []) :
      Step modulus block ⟨sender, earlier ++ receiver :: later⟩
        ⟨sender, earlier ++ next :: later⟩

/-! ## The exchange behind it -/

/--
What the sender takes the audience for: a receiver which has accepted what the
one among them has accepted, and has said what any of them has said.
-/
structure Audience.Appears (audience : Audience Block)
    (exchange : Exchange Block) : Prop where
  sender : exchange.sender = audience.sender
  leader : exchange.receiver.accepted ≠ [] →
    ∃ receiver ∈ audience.receivers,
      receiver.accepted = exchange.receiver.accepted
  each : ∀ receiver ∈ audience.receivers,
    receiver.accepted = [] ∨
      receiver.accepted = exchange.receiver.accepted
  acks : ∀ number, number ∈ exchange.receiver.acks ↔
    ∃ receiver ∈ audience.receivers, number ∈ receiver.acks

namespace Audience.Appears

variable {modulus : Nat} {block : Nat → Block}
variable {audience next : Audience Block} {exchange : Exchange Block}

/-- Nobody listens yet. -/
theorem nobody (sender : Sender Block) :
    Audience.Appears ⟨sender, []⟩ ⟨sender, ⟨[], []⟩⟩ where
  sender := rfl
  leader := by simp
  each := by simp
  acks := by simp

/-- Who joins has accepted nothing and says at most the number zero. -/
theorem starts (appears : audience.Appears exchange) {numbers : List Nat} :
    Audience.Appears
      { audience with receivers := audience.receivers ++ [⟨[], numbers⟩] }
      ⟨exchange.sender,
        { exchange.receiver with
          acks := exchange.receiver.acks ++ numbers }⟩ where
  sender := appears.sender
  leader := by
    intro some_
    obtain ⟨receiver, among, same⟩ := appears.leader some_
    exact ⟨receiver, List.mem_append_left _ among, same⟩
  each := by
    intro receiver member
    rcases List.mem_append.mp member with old | new
    · exact appears.each receiver old
    · rw [List.mem_singleton.mp new]
      exact Or.inl rfl
  acks := by
    intro number
    simp [appears.acks number, or_and_right, exists_or]

section OneMoves

variable {sender : Sender Block} {earlier later : List (Receiver Block)}
variable {receiver : Receiver Block}

/-- What one receiver has accepted is no more than the exchange knows. -/
theorem length_le
    (appears : audience.Appears exchange)
    (member : receiver ∈ audience.receivers) :
    receiver.accepted.length ≤ exchange.receiver.accepted.length := by
  rcases appears.each receiver member with nothing | same
  · simp [nothing]
  · rw [same]

/-- If the others have accepted nothing, this one is the one which counts. -/
theorem accepted_eq
    (appears :
      Audience.Appears ⟨sender, earlier ++ receiver :: later⟩ exchange)
    (alone : ∀ other ∈ earlier ++ later, other.accepted = []) :
    exchange.receiver.accepted = receiver.accepted := by
  have among : receiver ∈ earlier ++ receiver :: later := by
    simp
  by_cases nothing : exchange.receiver.accepted = []
  · have least := appears.length_le among
    rw [nothing] at least ⊢
    exact (List.length_eq_zero_iff.mp (Nat.le_zero.mp least)).symm
  · obtain ⟨leader, member, same⟩ := appears.leader nothing
    rcases List.mem_append.mp member with first | last
    · have empty := alone leader (List.mem_append_left _ first)
      exact absurd (same.symm.trans empty) nothing
    · rcases List.mem_cons.mp last with rfl | behind
      · exact same.symm
      · have empty := alone leader (List.mem_append_right _ behind)
        exact absurd (same.symm.trans empty) nothing

/-- What is said once more is also on the wire of the exchange. -/
theorem acks_append
    (appears :
      Audience.Appears ⟨sender, earlier ++ receiver :: later⟩ exchange)
    (accepted : List Block) (numbers : List Nat) (number : Nat) :
    number ∈ exchange.receiver.acks ++ numbers ↔
      ∃ other ∈ earlier ++
          ⟨accepted, receiver.acks ++ numbers⟩ :: later,
        number ∈ other.acks := by
  have before := appears.acks number
  simp only [List.mem_append, List.mem_cons] at before ⊢
  rw [before]
  constructor
  · rintro (⟨other, first | rfl | last, said⟩ | new)
    · exact ⟨other, Or.inl first, said⟩
    · exact ⟨_, Or.inr (Or.inl rfl), List.mem_append_left _ said⟩
    · exact ⟨other, Or.inr (Or.inr last), said⟩
    · exact ⟨_, Or.inr (Or.inl rfl), List.mem_append_right _ new⟩
  · rintro ⟨other, first | rfl | last, said⟩
    · exact Or.inl ⟨other, Or.inl first, said⟩
    · rcases List.mem_append.mp said with old | new
      · exact Or.inl ⟨receiver, Or.inr (Or.inl rfl), old⟩
      · exact Or.inr new
    · exact Or.inl ⟨other, Or.inr (Or.inr last), said⟩

/-- A receiver moves; in the exchange the same move happens. -/
theorem moves
    (appears :
      Audience.Appears ⟨sender, earlier ++ receiver :: later⟩ exchange)
    {next : Receiver Block} {heard : Option (Nat × Block)}
    (move : Receiver.Move heard receiver next)
    (alone : next.accepted ≠ [] →
      ∀ other ∈ earlier ++ later, other.accepted = []) :
    ∃ moved, Receiver.Move heard exchange.receiver moved ∧
      Audience.Appears ⟨sender, earlier ++ next :: later⟩
        ⟨exchange.sender, moved⟩ := by
  have among : receiver ∈ earlier ++ receiver :: later := by
    simp
  cases move with
  | acknowledge numbers old =>
      refine ⟨_, .acknowledge exchange.receiver numbers ?_, ?_⟩
      · intro number member
        exact (old number member).trans (appears.length_le among)
      constructor
      · exact appears.sender
      · intro some_
        obtain ⟨leader, member, same⟩ := appears.leader some_
        rcases List.mem_append.mp member with first | last
        · exact ⟨leader, List.mem_append_left _ first, same⟩
        · rcases List.mem_cons.mp last with rfl | behind
          · exact
              ⟨_, List.mem_append_right _ List.mem_cons_self, same⟩
          · exact ⟨leader, by simp [behind], same⟩
      · intro other member
        rcases List.mem_append.mp member with first | last
        · exact appears.each other (List.mem_append_left _ first)
        · rcases List.mem_cons.mp last with rfl | behind
          · exact appears.each receiver among
          · exact appears.each other (by simp [behind])
      · exact appears.acks_append _ numbers
  | accept payload numbers number old =>
      have nobody := alone (by simp)
      have same := appears.accepted_eq nobody
      refine ⟨_, .accept exchange.receiver payload numbers ?_ ?_, ?_⟩
      · rw [same]
        exact number
      · rw [same]
        exact old
      constructor
      · exact appears.sender
      · intro _
        refine ⟨_, List.mem_append_right _ List.mem_cons_self, ?_⟩
        dsimp only
        rw [same]
      · intro other member
        rcases List.mem_append.mp member with first | last
        · exact Or.inl (nobody other (List.mem_append_left _ first))
        · rcases List.mem_cons.mp last with rfl | behind
          · exact Or.inr (by rw [same])
          · exact Or.inl (nobody other (List.mem_append_right _ behind))
      · exact appears.acks_append _ numbers

end OneMoves

/-- Every step of the audience is a step of the exchange. -/
theorem step
    (appears : audience.Appears exchange)
    (step : Audience.Step modulus block audience next) :
    ∃ reached, Exchange.Step modulus block exchange reached ∧
      next.Appears reached := by
  cases step with
  | starts _ numbers zeros =>
      refine
        ⟨_, .receiver none (by simp)
          (.acknowledge exchange.receiver numbers ?_), appears.starts⟩
      intro number member
      simp [zeros number member]
  | @sender _ next heard onWire move =>
      rw [← appears.sender] at move
      refine ⟨{ exchange with sender := next },
        .sender heard ?_ move, ?_⟩
      · intro number same
        exact (appears.acks number).mpr (onWire number same)
      · exact
          { appears with sender := rfl }
  | receiver heard onWire move alone =>
      obtain ⟨moved, moves, now⟩ := appears.moves move alone
      refine ⟨{ exchange with receiver := moved },
        .receiver heard ?_ moves, now⟩
      rw [appears.sender]
      exact onWire

/-- And every run of it is a run of the exchange. -/
theorem of_reachable
    (appears : audience.Appears exchange)
    (reachable :
      Relation.ReflTransGen (Audience.Step modulus block) audience next) :
    ∃ reached,
      Relation.ReflTransGen (Exchange.Step modulus block) exchange
          reached ∧
        next.Appears reached := by
  refine
    reachable_invariant
      (fun later => ∃ reached,
        Relation.ReflTransGen (Exchange.Step modulus block) exchange
            reached ∧
          later.Appears reached)
      ?_ reachable ⟨exchange, .refl, appears⟩
  rintro before after step ⟨reached, path, appearsNow⟩
  obtain ⟨last, moves, appearsThen⟩ := appearsNow.step step
  exact ⟨last, path.tail moves, appearsThen⟩

end Audience.Appears

/-! ## Programs and their portraits -/

/-- A place of a list, what is around it, and how it is replaced. -/
theorem exists_around
    {Item : Type*} {items : List Item} {index : Nat} {item : Item}
    (found : items[index]? = some item) :
    ∃ earlier later, items = earlier ++ item :: later ∧
      (∀ next, items.set index next = earlier ++ next :: later) ∧
        ∀ other ∈ earlier ++ later, ∃ position, position ≠ index ∧
          items[position]? = some other := by
  induction items generalizing index with
  | nil => cases found
  | cons head items induction =>
      cases index with
      | zero =>
          rw [List.getElem?_cons_zero, Option.some.injEq] at found
          subst found
          refine ⟨[], items, rfl, fun next => rfl, ?_⟩
          intro other member
          obtain ⟨position, there⟩ := List.mem_iff_getElem?.mp member
          exact
            ⟨position + 1, Nat.succ_ne_zero position, by simpa using there⟩
      | succ index =>
          rw [List.getElem?_cons_succ] at found
          obtain ⟨earlier, later, rfl, replaced, elsewhere⟩ :=
            induction found
          refine ⟨head :: earlier, later, rfl, ?_, ?_⟩
          · intro next
            rw [List.set_cons_succ, replaced, List.cons_append]
          · intro other member
            rcases List.mem_cons.mp member with rfl | behind
            · exact ⟨0, (Nat.succ_ne_zero index).symm, rfl⟩
            · obtain ⟨position, different, there⟩ := elsewhere other behind
              refine ⟨position + 1, ?_, by simpa using there⟩
              intro same
              exact different (Nat.succ.inj same)

end IsaTftp.Library.StopAndWait
