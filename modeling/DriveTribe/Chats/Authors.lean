import DriveTribe.Chats.Delivery

/-!
# Who has written a message

A message of a carpool is the first one, which a creation writes, or a text that is more than
spaces, sent from the chat of that carpool in the name of the user who was logged in.
-/

namespace DriveTribe

open Base

namespace ChatViewController

private theorem inputBar_eq_some {Date : Type} {currentUser : Option User} {tribe : Option Carpool}
    {text messageId : String} {date : Date} {message : Message Date} {id : CarpoolID}
    (h : inputBar currentUser tribe text messageId date = some (message, id)) :
    (∃ ch ∈ text.toList, ch ≠ ' ') ∧ ∃ me tribe', currentUser = some me ∧ tribe = some tribe' ∧
      message = ⟨me.selfSender, messageId, date, .text text⟩ ∧ id = tribe'.uuid := by
  simp only [inputBar, Option.ite_none_left_eq_some] at h
  obtain ⟨hblank, h⟩ := h
  split at h
  · next me tribe' =>
    cases h
    refine ⟨?_, me, tribe', rfl, rfl, rfl, rfl⟩
    rw [List.isEmpty_iff, List.filter_eq_nil_iff] at hblank
    push Not at hblank
    obtain ⟨ch, hch, hne⟩ := hblank
    exact ⟨ch, hch, of_decide_eq_true hne⟩
  · cases h

end ChatViewController

namespace Conversations
variable {Date Settings Image Data : Type}
variable {formatter : DateFormatter Date Settings} {settings : CarpoolClientID → Settings}
variable {codec : ImageCodec Image Data} {s₀ s t : Conversations Date Image Data}

/-- The event writes this message in this state: the first one of a carpool that is created, or a
text that is sent from an open chat in the name of whoever is logged in. -/
inductive Authors (formatter : DateFormatter Date Settings) (settings : CarpoolClientID → Settings)
    (s : Conversations Date Image Data) :
    ConversationEvent Date Image Data → CarpoolInFlight → Prop where
  | first (c : CarpoolClientID) (uniquePassengers : List UserID) (new : NewIDs) (me : User)
      (carpool : Carpool) (controller : CarpoolController)
      (hme : (s.rides.clients c).currentUser = some me)
      (hcreate : (s.rides.clients c).controller.createCarpool (some me) uniquePassengers new =
        some (carpool, CarpoolController.firstMessage carpool (some me) new, controller)) :
      Authors formatter settings s (.ride (.createCarpool c uniquePassengers new))
        ⟨c, .addMessage carpool.uuid (CarpoolController.firstMessage carpool (some me) new)⟩
  | sent (c : CarpoolClientID) (chat : Conversation Date Image) (me : User)
      (text messageId : String) (date : Date) (hchat : s.chats c = some chat)
      (hme : (s.rides.clients c).currentUser = some me) (htext : ∃ ch ∈ text.toList, ch ≠ ' ') :
      Authors formatter settings s (.send c text messageId date)
        ⟨c, .addMessage chat.tribe.uuid
          ⟨messageId, "text", text, formatter.string (settings c) date, me.uuid, me.userName⟩⟩

/-- A creation writes the first message of its carpool. -/
private theorem authors_firstMessages {ev : CarpoolEvent} {w : CarpoolInFlight}
    (hw : w ∈ firstMessages s.rides ev) : Authors formatter settings s (.ride ev) w := by
  cases ev with
  | createCarpool c uniquePassengers new =>
    simp only [firstMessages] at hw
    split at hw
    · cases hw
    · next carpool message controller hcreate =>
      obtain rfl := List.mem_singleton.mp hw
      obtain ⟨-, me, -, hme, -, rfl, -⟩ := CarpoolController.createCarpool_eq_some hcreate
      rw [hme] at hcreate ⊢
      exact .first c uniquePassengers new me carpool controller hme hcreate
  | _ => cases hw

/-- A tap on Send writes the text to the carpool of the chat. -/
private theorem authors_sent {c : CarpoolClientID} {text messageId : String} {date : Date}
    {w : CarpoolInFlight} (hw : w ∈ s.sent formatter settings c text messageId date) :
    Authors formatter settings s (.send c text messageId date) w := by
  simp only [sent] at hw
  split at hw
  · cases hw
  · next message id hinput =>
    obtain ⟨htext, me, tribe, hme, htribe, rfl, rfl⟩ := ChatViewController.inputBar_eq_some hinput
    obtain ⟨chat, hchat, rfl⟩ := Option.map_eq_some_iff.mp htribe
    rw [hme] at hw
    obtain rfl := List.mem_singleton.mp hw
    exact .sent c chat me text messageId date hchat hme htext

section Run
variable [LinearOrder Date] [DecidableEq Data]
variable {es : List (ConversationEvent Date Image Data)} {ev : ConversationEvent Date Image Data}
variable {writes : List CarpoolInFlight}

/-- Nothing else writes a message. -/
theorem authors_step {ws : List CarpoolInFlight}
    (hstep : s.step formatter settings codec ev = some (t, ws)) {w : CarpoolInFlight}
    (hw : w ∈ ws) : Authors formatter settings s ev w := by
  cases ev with
  | ride ev =>
    obtain ⟨rides, -, heq⟩ := Option.map_eq_some_iff.mp hstep
    cases heq
    exact authors_firstMessages hw
  | send c text messageId date =>
    cases hstep
    exact authors_sent hw
  | rejected i =>
    obtain ⟨_, -, heq⟩ := Option.map_eq_some_iff.mp hstep
    cases heq
    cases hw
  | uploaded user image =>
    cases hstep
    cases hw
  | openChat c tribe =>
    simp only [Conversations.step, Option.ite_none_right_eq_some, Option.some.injEq] at hstep
    obtain ⟨-, heq⟩ := hstep
    cases heq
    cases hw
  | closeChat c =>
    cases hstep
    cases hw
  | snapshot _ _ _ _ | listenerFailed _ _ | pictured _ _ _ | runMain _ | layout _ | evict _ _ =>
    obtain ⟨_, -, heq⟩ := Option.map_eq_some_iff.mp hstep
    cases heq
    cases hw

/-- Every message that is stored was written, as it is, by an event of the run in the state that the
events before it had led to: it is the first one of its carpool, or was sent from a chat of that
carpool while the user it names was logged in on the device. -/
theorem messages_authored (h₀ : s₀.Started codec)
    (hrun : run (emit (Conversations.step formatter settings codec)) (s₀, []) es =
      some (s, writes)) {id : CarpoolID} {entry : MessageEntry}
    (hentry : entry ∈ s.rides.store.messages id) :
    ∃ es₁ ev es₂ s₁ writes₁ c, es = es₁ ++ ev :: es₂ ∧
      run (emit (Conversations.step formatter settings codec)) (s₀, []) es₁ =
        some (s₁, writes₁) ∧
      Authors formatter settings s₁ ev ⟨c, .addMessage id entry⟩ := by
  have hsound : Sound formatter settings codec s := Sound.run h₀.sound hrun
  rw [← hsound.stored id] at hentry
  obtain ⟨⟨c, entry'⟩, hstored, rfl⟩ := List.mem_map.mp hentry
  have hmem := (h₀.log_perm hrun id).subset
    (List.mem_append_left _ (List.mem_append_left _ hstored))
  obtain ⟨w, hw, hmessage⟩ := List.mem_filterMap.mp hmem
  obtain rfl := CarpoolInFlight.eq_of_message? hmessage
  obtain hnil | ⟨es₁, ev, es₂, ⟨s₁, writes₁⟩, v, ws, hes, hrun₁, hstep, hws⟩ :=
    exists_step_of_mem_emit hrun hw
  · cases hnil
  · exact ⟨es₁, ev, es₂, s₁, writes₁, c, hes, hrun₁, authors_step hstep hws⟩

end Run

/-- The message of `a` was written by a step of the run. -/
theorem messages_authored_hello :
    ∃ es₁ ev es₂ s₁ writes₁ c, helloEvents = es₁ ++ ev :: es₂ ∧
      run (emit (Conversations.step Written.halfSeconds (fun _ => ()) ⟨some, some⟩))
        (twoDevices, []) es₁ = some (s₁, writes₁) ∧
      Authors Written.halfSeconds (fun _ => ()) s₁ ev ⟨c, .addMessage "x" hello⟩ := by
  have hrun : ∃ s writes, run (emit (Conversations.step Written.halfSeconds (fun _ => ())
      ⟨some, some⟩)) (twoDevices, []) helloEvents = some (s, writes) ∧
      hello ∈ s.rides.store.messages "x" := ⟨_, _, rfl, List.mem_cons_self⟩
  obtain ⟨s, writes, hrun, hhello⟩ := hrun
  exact messages_authored twoDevices_started hrun hhello

end Conversations

end DriveTribe
