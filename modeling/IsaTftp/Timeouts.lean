import IsaTftp.Library.Backoff
import IsaTftp.Transfer

/-!
# The receive timeout of a socket

`UdpClient` keeps two numbers: its own timeout, which the two functions
`IncreaseTimeout` and `TimeoutReset` work on, and the value of the socket
option, which they set afterwards.  `ChangeTimeout` sets only the second one.
So the first of these calls forgets a timeout which was negotiated.
-/

namespace IsaTftp.Transfer

open IsaTftp.Wire
open IsaTftp.Library.Backoff

/-- A socket has come by these calls, and by sending, from another state. -/
inductive UdpClient.History (start : UdpClient) :
    List Call → UdpClient → Prop where
  | refl : UdpClient.History start [] start
  | send {calls : List Call} {udp : UdpClient}
      (before : UdpClient.History start calls udp)
      (data : Bytes) (reciever : Address) :
      UdpClient.History start calls (udp.send data reciever)
  | increaseTimeout {calls : List Call} {udp : UdpClient}
      (before : UdpClient.History start calls udp) :
      UdpClient.History start (calls ++ [.increase]) udp.increaseTimeout
  | timeoutReset {calls : List Call} {udp : UdpClient}
      (before : UdpClient.History start calls udp) :
      UdpClient.History start (calls ++ [.reset]) udp.timeoutReset

namespace UdpClient.History

variable {start udp : UdpClient} {calls : List Call}

theorem trans
    {middle : UdpClient} {later : List Call}
    (before : UdpClient.History start calls middle)
    (after : UdpClient.History middle later udp) :
    UdpClient.History start (calls ++ later) udp := by
  induction after with
  | refl =>
      rw [List.append_nil]
      exact before
  | send _ data reciever induction => exact induction.send data reciever
  | increaseTimeout _ induction =>
      rw [← List.append_assoc]
      exact induction.increaseTimeout
  | timeoutReset _ induction =>
      rw [← List.append_assoc]
      exact induction.timeoutReset

/-- What was sent stays sent. -/
theorem sent (history : UdpClient.History start calls udp) :
    ∃ more, udp.sent = start.sent ++ more := by
  induction history with
  | refl => exact ⟨[], by simp⟩
  | send _ data reciever induction =>
      obtain ⟨more, same⟩ := induction
      refine ⟨more ++ [(reciever, data)], ?_⟩
      rw [← List.append_assoc, ← same]
      rfl
  | increaseTimeout _ induction => exact induction
  | timeoutReset _ induction => exact induction

/-- The timeout of the wrapper follows the calls. -/
theorem timeout (history : UdpClient.History start calls udp) :
    udp.timeout =
      applyCalls UdpClient.defaultTimeout start.timeout calls := by
  induction history with
  | refl => rfl
  | send _ _ _ induction => exact induction
  | increaseTimeout _ induction =>
      rw [applyCalls_append_one, ← induction]
      rfl
  | timeoutReset _ induction =>
      rw [applyCalls_append_one]
      rfl

/-- The socket option is the wrapper's timeout as soon as one was called. -/
theorem receiveTimeout (history : UdpClient.History start calls udp) :
    udp.receiveTimeout =
      if calls = [] then start.receiveTimeout else udp.timeout := by
  induction history with
  | refl => rfl
  | send _ _ _ induction => exact induction
  | increaseTimeout _ induction => simp [UdpClient.increaseTimeout]
  | timeoutReset _ induction => simp [UdpClient.timeoutReset]

/--
Exactly when the timeout in force is the agreed one, doubled for every
increase: no call was made and the socket option was set to the agreed
timeout, or the agreed timeout is one second.
-/
theorem inForce_iff
    (history : UdpClient.History start calls udp)
    (fresh : start.timeout = UdpClient.defaultTimeout) (agreed : Nat) :
    udp.receiveTimeout = agreed * 2 ^ increases calls ↔
      if calls = [] then start.receiveTimeout = agreed else agreed = 1 := by
  rw [history.receiveTimeout]
  split_ifs with none_
  · simp [none_, increases]
  · have positive : 0 < 2 ^ increases calls := Nat.two_pow_pos _
    rw [history.timeout, fresh, applyCalls_base, UdpClient.defaultTimeout,
      Nat.mul_left_inj (Nat.ne_of_gt positive)]
    exact eq_comm

end UdpClient.History

end IsaTftp.Transfer
