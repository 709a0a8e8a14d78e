import Mathlib.Logic.Function.Iterate
import IsaTftp.Files.Yields
import IsaTftp.Handshake
import IsaTftp.Upload.Lockstep

/-!
# Undisturbed conversations

The client and the handler of its request take turns, and nothing is lost,
delayed or sent by others: in every turn the client hears what the handler has
sent last, and then the handler what the client has sent last.  Both parties
are fixed by the arguments of the client and the files of the two machines, so
there is one conversation for each of them.
-/

namespace IsaTftp

open IsaTftp.Wire
open IsaTftp.Files
open IsaTftp.Transfer
open IsaTftp.Client
open IsaTftp.Server
open IsaTftp.Upload
open IsaTftp.Library.Chunking

/-- The bytes of the datagram which was sent last. -/
def newest (sent : List Datagram) : Option Bytes :=
  sent.getLast?.map Prod.snd

@[simp]
theorem newest_append (sent : List Datagram) (datagram : Datagram) :
    newest (sent ++ [datagram]) = some datagram.2 := by
  simp [newest]

/-- The newest datagram of the other party arrives, if there is one. -/
def hear (sender : Address) (sent : List Datagram) : Event :=
  match newest sent with
  | none => {}
  | some bytes => deliver sender bytes

theorem hear_of_newest
    {sent : List Datagram} {bytes : Bytes}
    (last : newest sent = some bytes) (sender : Address) :
    hear sender sent = deliver sender bytes := by
  rw [hear, last]

/-- A client and the handler which serves it. -/
structure Conversation where
  client : TftpClient
  handler : Handler

namespace Conversation

/-- The client hears the handler, which has this address; then the reverse. -/
def turn (address : Address) (conversation : Conversation) :
    Conversation :=
  let client :=
    conversation.client.step (hear address conversation.handler.sent)
  ⟨client,
    conversation.handler.step
      (hear conversation.handler.session.clientAddress client.sent)⟩

/-- The client has asked, and what it has sent has started the handler. -/
def start (session : Client.Session) (clientAddress : Address)
    (rootDirpath : Path) (files : FileSystem) : Conversation :=
  let client := session.run {}
  ⟨client,
    (Server.Session.make clientAddress rootDirpath
      files).followOnIntroPacket {} ((newest client.sent).getD [])⟩

/-- When each turn counts on, so many turns count up to a number. -/
theorem counts
    {address : Address} {Holds : Nat → Conversation → Prop} {last : Nat}
    (next : ∀ count conversation, count < last →
      Holds count conversation →
        Holds (count + 1) (conversation.turn address))
    {conversation : Conversation} (first : Holds 0 conversation)
    {count : Nat} (within : count ≤ last) :
    Holds count ((turn address)^[count] conversation) := by
  induction count with
  | zero => exact first
  | succ count induction =>
      rw [Function.iterate_succ_apply']
      exact next count _ within (induction (Nat.le_of_succ_le within))

end Conversation

theorem requestable_optionOfEight : RequestableList [optionOfEight] where
  each := by
    intro option member
    obtain rfl := List.mem_singleton.mp member
    constructor
    · exact ⟨text "blksize", rfl⟩
    · decide
    · exact .of_all (by decide) (by decide)
    · intro isTsize
      cases isTsize
  distinct := by decide

end IsaTftp
