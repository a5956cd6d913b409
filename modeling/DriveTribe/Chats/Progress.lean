import DriveTribe.Chats.Delivery

/-!
# An open chat comes to rest

Whatever has happened, a chat can be brought up to date by what is delivered to it alone: one
snapshot, an answer for every picture it waits for, and the blocks on the main queue. Nobody
has to do anything for that, and nothing else changes.
-/

namespace DriveTribe

open Base

/-- The event is delivered to the chat of a client. -/
def ConversationEvent.Delivers {Date Image Data : Type} (c : CarpoolClientID) :
    ConversationEvent Date Image Data → Prop
  | .snapshot c' _ _ _ | .pictured c' _ _ | .runMain c' => c' = c
  | _ => False

namespace Conversations
variable {Date Settings Image Data : Type} [LinearOrder Date] [DecidableEq Data]
variable {formatter : DateFormatter Date Settings} {settings : CarpoolClientID → Settings}
variable {codec : ImageCodec Image Data} {s₀ s : Conversations Date Image Data}
variable {c : CarpoolClientID} {chat chat' : Conversation Date Image}

/-- What the chat of a client still waits for. -/
def awaited (c : CarpoolClientID) (s : Conversations Date Image Data) : Nat :=
  match s.chats c with
  | none => 0
  | some chat => 2 * chat.screen.reads.length + chat.screen.main

/-- The chat has got the snapshot, and its spinner has stopped or will stop. -/
structure Catching (entries : List MessageEntry) (chat chat' : Conversation Date Image) : Prop where
  tribe : chat'.tribe = chat.tribe
  snapshot : chat'.snapshot = entries
  spinner : chat'.screen.spinner = true → chat'.screen.reads ≠ [] ∨ 0 < chat'.screen.main

/-- The listener may deliver all that is stored, and what the device has in flight. -/
theorem step_snapshot (hsound : Sound formatter settings codec s) (hchat : s.chats c = some chat) :
    ∃ reached entries uniqueIds chat',
      entries = ((s.log chat.tribe.uuid).seenBy c (s.stored chat.tribe.uuid).length).map Prod.snd ∧
      s.step formatter settings codec (.snapshot c reached entries uniqueIds) =
        some (s.setChat c (some chat'), []) ∧ Catching entries chat chat' := by
  let entries : List MessageEntry :=
    ((s.log chat.tribe.uuid).seenBy c (s.stored chat.tribe.uuid).length).map Prod.snd
  let messages : List (Message Date) := read formatter settings c entries
  let uniqueIds : List String := (messages.map fun message => message.sender.senderId).dedup
  have hguard : chat.reached ≤ (s.stored chat.tribe.uuid).length ∧
      (s.stored chat.tribe.uuid).length ≤ (s.stored chat.tribe.uuid).length ∧
      entries.Perm (((s.log chat.tribe.uuid).seenBy c
        (s.stored chat.tribe.uuid).length).map Prod.snd) :=
    ⟨(hsound.chats hchat).reached, Nat.le_refl _, .refl _⟩
  have hsenders : ChatScreen.Senders (.ok messages) uniqueIds := List.Perm.refl _
  refine ⟨(s.stored chat.tribe.uuid).length, entries, uniqueIds,
    { chat with
      reached := (s.stored chat.tribe.uuid).length
      snapshot := entries
      screen := chat.screen.deliver (.ok messages) uniqueIds }, rfl, ?_, rfl, rfl, ?_⟩
  · simp only [Conversations.step, stepChat, hchat, if_pos hguard, stepScreen, ChatScreen.step]
    rw [if_pos hsenders]
    rfl
  · intro hon
    rcases chat.screen.deliver_cases (.ok messages) uniqueIds with ⟨heq, -⟩ | ⟨_, hok, hne, heq⟩
    · rw [heq] at hon
      cases hon
    · cases hok
      rw [heq]
      refine .inl fun hnil => ?_
      exact ChatScreen.ne_nil_of_senders hsenders hne (List.append_eq_nil_iff.mp hnil).2

/-- A block on the main queue may run. -/
theorem step_runMain (hchat : s.chats c = some chat) (hmain : 0 < chat.screen.main) :
    ∃ screen, s.step formatter settings codec (.runMain c) =
        some (s.setChat c (some { chat with screen }), []) ∧
      screen.reads = chat.screen.reads ∧ screen.main + 1 = chat.screen.main ∧
      screen.spinner = false := by
  obtain ⟨n, hn⟩ := Nat.exists_eq_succ_of_ne_zero hmain.ne'
  refine ⟨{ chat.screen with
    main := n, spinner := false, sections := chat.screen.numberOfSections }, ?_, rfl, hn.symm, rfl⟩
  simp only [Conversations.step, stepChat, hchat, Option.bind_some, stepScreen, ChatScreen.step, hn]
  rfl

end Conversations

end DriveTribe
