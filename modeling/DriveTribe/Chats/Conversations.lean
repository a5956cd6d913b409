import DriveTribe.Base.SharedLog
import DriveTribe.Carpools.Leftovers
import DriveTribe.Carpools.Separation
import DriveTribe.Chats.Screen

/-!
# Conversations

Devices on which carpools are created, chats are opened, messages are sent and pictures are
uploaded. The messages of a carpool are one log; the listener of a chat delivers what of it has
reached the device, and what the device itself has sent. A message that the server rejects goes
from the device again, and a snapshot without messages is ignored, so that it may stay on the
screen. What the server keeps of a message is written by the settings of one device and read by
those of another.
-/

namespace DriveTribe

open Base

/-- The entry that a write in flight adds to the messages of a carpool, with its writer. -/
def CarpoolInFlight.message? (id : CarpoolID) (x : CarpoolInFlight) :
    Option (CarpoolClientID × MessageEntry) :=
  (x.write.message? id).map (x.client, ·)

/-- What adds an entry to the messages of a carpool is the write of it. -/
theorem CarpoolInFlight.eq_of_message? {id : CarpoolID} {x : CarpoolInFlight}
    {c : CarpoolClientID} {entry : MessageEntry} (h : x.message? id = some (c, entry)) :
    x = ⟨c, .addMessage id entry⟩ := by
  obtain ⟨client, write⟩ := x
  obtain ⟨entry', hentry, heq⟩ := Option.map_eq_some_iff.mp h
  cases heq
  cases write with
  | addMessage id' entry' =>
    simp only [CarpoolWrite.message?, Option.ite_none_right_eq_some, Option.some.injEq] at hentry
    obtain ⟨rfl, rfl⟩ := hentry
    rfl
  | setCarpool _ | setGroup _ _ | deleteGroup _ _ | deleteCarpool _ | deleteNewMessage _
  | removePassenger _ _ => cases hentry

/-- A chat that is open. -/
structure Conversation (Date Image : Type) where
  tribe : Carpool
  /-- How many of the stored messages have reached the device. -/
  reached : Nat := 0
  /-- The documents that were delivered last. -/
  snapshot : List MessageEntry := []
  screen : ChatScreen Date Image := .viewDidLoad

/-- The carpools, the pictures, the messages with their writers, and the open chats. -/
structure Conversations (Date Image Data : Type) where
  rides : CarpoolSystem
  pictures : Pictures Image Data := {}
  stored : CarpoolID → List (CarpoolClientID × MessageEntry)
  /-- Every message that was rejected, which no step reads. -/
  rejected : CarpoolID → List (CarpoolClientID × MessageEntry) := fun _ => []
  chats : CarpoolClientID → Option (Conversation Date Image)

/-- What can happen next. -/
inductive ConversationEvent (Date Image Data : Type) where
  | ride (ev : CarpoolEvent)
  /-- The server rejects the `i`-th write in flight. -/
  | rejected (i : Nat)
  | uploaded (user : UserID) (image : Image)
  /-- A row of the list of carpools is selected. -/
  | openChat (c : CarpoolClientID) (tribe : Carpool)
  | closeChat (c : CarpoolClientID)
  | send (c : CarpoolClientID) (text messageId : String) (date : Date)
  /-- The listener delivers these documents; `uniqueIds` lists the senders. -/
  | snapshot (c : CarpoolClientID) (reached : Nat) (entries : List MessageEntry)
    (uniqueIds : List String)
  | listenerFailed (c : CarpoolClientID) (error : NetworkError)
  /-- The `i`-th picture that the chat waits for is answered. -/
  | pictured (c : CarpoolClientID) (i : Nat) (answer : DataAnswer Data)
  | runMain (c : CarpoolClientID)
  | layout (c : CarpoolClientID)
  | evict (c : CarpoolClientID) (id : String)

namespace ChatViewController

/-- What a tap on Send hands to the controller, if anything. `ChatViewController.swift:174–187`;
the text is tested without its spaces. -/
def inputBar {Date : Type} (currentUser : Option User) (tribe : Option Carpool)
    (text messageId : String) (date : Date) : Option (Message Date × CarpoolID) :=
  if (text.toList.filter (· ≠ ' ')).isEmpty then none
  else
    match currentUser, tribe with
    | some me, some tribe => some (⟨me.selfSender, messageId, date, .text text⟩, tribe.uuid)
    | _, _ => none

end ChatViewController

namespace Conversations
variable {Date Settings Image Data : Type}

/-- The messages of a carpool. -/
def log (s : Conversations Date Image Data) (id : CarpoolID) :
    SharedLog CarpoolClientID MessageEntry where
  stored := s.stored id
  pending := s.rides.outbox.filterMap (CarpoolInFlight.message? id)
  rejected := s.rejected id

/-- Replace the chat of one client. -/
def setChat (s : Conversations Date Image Data) (c : CarpoolClientID)
    (chat : Option (Conversation Date Image)) : Conversations Date Image Data :=
  { s with chats := Function.update s.chats c chat }

/-- An open chat is the one that was put there, or was open before. -/
theorem chats_setChat {s : Conversations Date Image Data} {c c' : CarpoolClientID}
    {chat? : Option (Conversation Date Image)} {chat : Conversation Date Image}
    (h : (s.setChat c chat?).chats c' = some chat) :
    (c' = c ∧ chat? = some chat) ∨ s.chats c' = some chat := by
  by_cases hc : c' = c
  · subst hc
    simp only [setChat, Function.update_self] at h
    exact .inl ⟨rfl, h⟩
  · simp only [setChat, Function.update_of_ne hc] at h
    exact .inr h

/-- The messages with their writers once a write of the outbox has landed. -/
def landed (s : Conversations Date Image Data) :
    CarpoolEvent → CarpoolID → List (CarpoolClientID × MessageEntry)
  | .land i, id => s.stored id ++ ((s.rides.outbox[i]?).bind (CarpoolInFlight.message? id)).toList
  | _, id => s.stored id

/-- The event of the carpools has led to `rides`. -/
def ride (s : Conversations Date Image Data) (ev : CarpoolEvent) (rides : CarpoolSystem) :
    Conversations Date Image Data :=
  { s with rides, stored := s.landed ev }

/-- A write of the outbox is rejected: its completion prints the error and nothing comes of it,
`CarpoolController.swift:59–60`, `:113`, `:123`, `:133`, `:289–293`; the errors of a deletion go
to a completion that does nothing, `CarpoolListViewController.swift:115`. -/
def reject (s : Conversations Date Image Data) (x : CarpoolInFlight)
    (rest : List CarpoolInFlight) : Conversations Date Image Data :=
  { s with
    rides := { s.rides with outbox := rest }
    rejected := fun id => s.rejected id ++ (x.message? id).toList }

/-- The first message of a carpool that is created. -/
def firstMessages (rides : CarpoolSystem) : CarpoolEvent → List CarpoolInFlight
  | .createCarpool c uniquePassengers new =>
    match (rides.clients c).controller.createCarpool (rides.clients c).currentUser
        uniquePassengers new with
    | none => []
    | some (carpool, message, _) => [⟨c, .addMessage carpool.uuid message⟩]
  | _ => []

section Step
variable [LinearOrder Date] [DecidableEq Data]
variable (formatter : DateFormatter Date Settings) (settings : CarpoolClientID → Settings)
variable (codec : ImageCodec Image Data)

/-- The messages that are read of a snapshot on a device. -/
def read (c : CarpoolClientID) (entries : List MessageEntry) : List (Message Date) :=
  CarpoolController.getAllMessagesForConversation formatter (settings c)
    (entries.map MessageEntry.toDocument)

/-- What a tap on Send writes. -/
def sent (s : Conversations Date Image Data) (c : CarpoolClientID) (text messageId : String)
    (date : Date) : List CarpoolInFlight :=
  match ChatViewController.inputBar (s.rides.clients c).currentUser
      ((s.chats c).map Conversation.tribe) text messageId date with
  | none => []
  | some (message, id) =>
    (CarpoolController.sendMessage formatter (settings c) (s.rides.clients c).currentUser
      message).toList.map fun entry => ⟨c, .addMessage id entry⟩

omit [DecidableEq Data] in
/-- An event of the screen of a chat. -/
def stepScreen (s : Conversations Date Image Data) (c : CarpoolClientID)
    (chat : Conversation Date Image) (ev : ChatScreenEvent Date Image) :
    Option (Conversations Date Image Data) :=
  (chat.screen.step ev).map fun screen => s.setChat c (some { chat with screen })

/-- What happens to the open chat of a client; `none` where there is none, or the event cannot
happen. -/
def stepChat (s : Conversations Date Image Data) :
    ConversationEvent Date Image Data → Option (Conversations Date Image Data)
  | .snapshot c reached entries uniqueIds =>
    match s.chats c with
    | none => none
    | some chat =>
      if chat.reached ≤ reached ∧ reached ≤ (s.stored chat.tribe.uuid).length ∧
          entries.Perm (((s.log chat.tribe.uuid).seenBy c reached).map Prod.snd) then
        s.stepScreen c { chat with reached, snapshot := entries }
          (.snapshot (.ok (read formatter settings c entries)) uniqueIds)
      else none
  | .listenerFailed c error =>
    (s.chats c).bind fun chat => s.stepScreen c chat (.snapshot (.error error) [])
  | .pictured c i answer =>
    match s.chats c with
    | none => none
    | some chat =>
      match chat.screen.reads[i]? with
      | none => none
      | some id =>
        if answer.Of s.pictures.store (StorageController.path id) then
          s.stepScreen c chat (.pictured i (StorageController.getImageWith codec answer))
        else none
  | .runMain c => (s.chats c).bind fun chat => s.stepScreen c chat .runMain
  | .layout c => (s.chats c).bind fun chat => s.stepScreen c chat .layout
  | .evict c id => (s.chats c).bind fun chat => s.stepScreen c chat (.evict id)
  | _ => none

/-- One event, with the messages that are written. -/
def step (s : Conversations Date Image Data) (ev : ConversationEvent Date Image Data) :
    Option (Conversations Date Image Data × List CarpoolInFlight) :=
  match ev with
  | .ride ev =>
    (s.rides.step ev).map fun rides => (s.ride ev rides, firstMessages s.rides ev)
  | .rejected i =>
    (takeOut CarpoolInFlight.client s.rides.outbox i).map fun (x, rest) => (s.reject x rest, [])
  | .uploaded user image =>
    some ({ s with pictures := s.pictures.upload codec user image }, [])
  | .openChat c tribe =>
    if tribe ∈ (s.rides.clients c).shown then some (s.setChat c (some { tribe }), []) else none
  | .closeChat c => some (s.setChat c none, [])
  | .send c text messageId date =>
    let writes := s.sent formatter settings c text messageId date
    some ({ s with rides := { s.rides with outbox := s.rides.outbox ++ writes } }, writes)
  | .snapshot .. | .listenerFailed .. | .pictured .. | .runMain .. | .layout .. | .evict .. =>
    (s.stepChat formatter settings codec ev).map fun t => (t, [])

end Step

end Conversations

/-! ### The log -/

/-- Writes that add no message to any carpool. -/
def CarpoolWrite.Silent (w : CarpoolWrite) : Prop := ∀ id, w.message? id = none

private theorem CarpoolController.silent_delete {self : CarpoolController}
    {currentUser : Option User} {carpool : Carpool} {w : CarpoolWrite}
    (h : w ∈ (self.delete currentUser carpool).1) :
    w.Silent := by
  rcases self.delete_writes currentUser carpool with hnil | ⟨me, -, ⟨-, heq⟩ | ⟨-, heq⟩⟩
  · rw [hnil] at h
    cases h
  · rw [heq] at h
    rcases List.mem_cons.mp h with rfl | h
    · exact fun _ => rfl
    · rcases List.mem_cons.mp h with rfl | h
      · exact fun _ => rfl
      · obtain ⟨user, -, rfl⟩ := List.mem_map.mp h
        exact fun _ => rfl
  · rw [heq] at h
    obtain rfl := List.mem_singleton.mp h
    exact fun _ => rfl

private theorem silent_deleteUserFromCarpool {me user : UserID} {carpool : Carpool}
    {w : CarpoolWrite} (h : w ∈ deleteUserFromCarpool me user carpool) : w.Silent := by
  obtain ⟨member, -, rfl | rfl⟩ := Carpool.mem_deleteUserFromCarpool_iff.mp h
  · exact fun _ => rfl
  · exact fun _ => rfl

namespace CarpoolSystem
variable {s t : CarpoolSystem}

private theorem filterMap_message?_of_silent (c : CarpoolClientID) {ws : List CarpoolWrite}
    (h : ∀ w ∈ ws, w.Silent) (id : CarpoolID) :
    (ws.map fun w => (⟨c, w⟩ : CarpoolInFlight)).filterMap (CarpoolInFlight.message? id) = [] := by
  refine List.filterMap_eq_nil_iff.mpr fun x hx => ?_
  obtain ⟨w, hw, rfl⟩ := List.mem_map.mp hx
  rw [CarpoolInFlight.message?, h w hw id, Option.map_none]

private theorem outbox_acknowledge (s : CarpoolSystem) (c : CarpoolClientID) (w : CarpoolWrite) :
    ∃ more, (s.acknowledge c w).outbox = s.outbox ++ more ∧
      ∀ id, more.filterMap (CarpoolInFlight.message? id) = [] := by
  cases w with
  | setCarpool carpool =>
    refine ⟨_, rfl, filterMap_message?_of_silent c fun w hw => ?_⟩
    rw [CarpoolController.carpoolCreated_eq] at hw
    obtain ⟨user, -, rfl⟩ := List.mem_map.mp hw
    exact fun _ => rfl
  | addMessage _ _ | setGroup _ _ | deleteGroup _ _ | deleteCarpool _ | deleteNewMessage _
  | removePassenger _ _ => exact ⟨[], (List.append_nil _).symm, fun _ => rfl⟩

/-- An event that lands nothing sends out no message but the first of a new carpool. -/
theorem outbox_step {ev : CarpoolEvent} (hev : ∀ i, ev ≠ .land i) (h : s.step ev = some t) :
    ∃ more, t.outbox = s.outbox ++ more ∧ ∀ id, more.filterMap (CarpoolInFlight.message? id) =
      (Conversations.firstMessages s ev).filterMap (CarpoolInFlight.message? id) := by
  cases ev with
  | land i => exact absurd rfl (hev i)
  | createCarpool c uniquePassengers new =>
    simp only [step, Option.ite_none_right_eq_some] at h
    obtain ⟨-, h⟩ := h
    split at h
    · next hcreate =>
      cases h
      refine ⟨[], (List.append_nil _).symm, fun id => ?_⟩
      simp only [Conversations.firstMessages, hcreate]
    · next carpool message controller hcreate =>
      cases h
      refine ⟨_, rfl, fun id => ?_⟩
      simp only [Conversations.firstMessages, hcreate]
      rfl
  | delete c carpool =>
    obtain ⟨-, rfl⟩ := step_delete h
    exact ⟨_, rfl, filterMap_message?_of_silent c fun w => CarpoolController.silent_delete⟩
  | progress c i =>
    obtain ⟨callback, -, -, houtbox, -⟩ := progress_eq_some h
    refine ⟨_, houtbox, filterMap_message?_of_silent c fun w hw => ?_⟩
    cases callback with
    | removalAnswer me user carpool => exact silent_deleteUserFromCarpool hw
    | listed _ | listedAnswer _ | removal _ _ | removalCarpool _ _ _ => cases hw
  | snapshot c user =>
    obtain ⟨-, rfl⟩ := step_snapshot h
    exact ⟨[], (List.append_nil _).symm, fun _ => rfl⟩
  | blockOrUnfriend c user =>
    obtain ⟨me, -, -, rfl⟩ := step_blockOrUnfriend h
    exact ⟨[], (List.append_nil _).symm, fun _ => rfl⟩
  | fetchCurrentUser _ _ | setOptions _ _ _ _ | selectDestination _ _ | addPassenger _ _
  | fetchGroupsForCurrentUser _ | readFailed _ _ =>
    cases h
    exact ⟨[], (List.append_nil _).symm, fun _ => rfl⟩

private theorem outbox_land {i : Nat} (h : s.step (.land i) = some t) :
    ∃ x pre post more, s.outbox[i]? = some x ∧ s.outbox = pre ++ x :: post ∧
      t.outbox = pre ++ post ++ more ∧
      ∀ id, more.filterMap (CarpoolInFlight.message? id) = [] := by
  obtain ⟨x, rest, store, hx, -, rfl⟩ := step_land h
  obtain ⟨more, hmore, hsilent⟩ := outbox_acknowledge
    ({ s with store, outbox := rest } : CarpoolSystem) x.client x.write
  obtain ⟨pre, post, hbox, rfl, -, -⟩ := takeOut_eq_some hx
  exact ⟨x, pre, post, more, takeOut_getElem? hx, hbox, hmore, hsilent⟩

end CarpoolSystem

namespace Conversations
variable {Date Settings Image Data : Type}

/-- The messages of every carpool are those of the store. -/
def Stored (s : Conversations Date Image Data) : Prop :=
  ∀ id, (s.stored id).map Prod.snd = s.rides.store.messages id

section Rides
variable {s : Conversations Date Image Data} {rides : CarpoolSystem} {ev : CarpoolEvent}

private theorem log_ride (h : s.rides.step ev = some rides) (id : CarpoolID) :
    (s.log id).Step ((firstMessages s.rides ev).filterMap (CarpoolInFlight.message? id))
      ((s.ride ev rides).log id) := by
  by_cases hland : ∃ i, ev = .land i
  · obtain ⟨i, rfl⟩ := hland
    -- The message that lands, if it is one, leaves the middle of the outbox for the stored ones.
    obtain ⟨x, pre, post, more, hx, hbefore, hafter, hsilent⟩ := CarpoolSystem.outbox_land h
    have hpending : rides.outbox.filterMap (CarpoolInFlight.message? id) =
        pre.filterMap (CarpoolInFlight.message? id) ++
          post.filterMap (CarpoolInFlight.message? id) := by
      rw [hafter, List.filterMap_append, hsilent, List.append_nil, List.filterMap_append]
    have hbox : (s.log id).pending = pre.filterMap (CarpoolInFlight.message? id) ++
        ((x.message? id).toList ++ post.filterMap (CarpoolInFlight.message? id)) := by
      rw [log, hbefore, List.filterMap_append, List.filterMap_cons]
      cases x.message? id <;> rfl
    have hlog : (s.ride (.land i) rides).log id = { s.log id with
        stored := s.stored id ++ (x.message? id).toList
        pending := pre.filterMap (CarpoolInFlight.message? id) ++
          post.filterMap (CarpoolInFlight.message? id) } := by
      simp only [log, ride, landed, hx, Option.bind_some, hpending]
    rw [hlog]
    cases hmessage : x.message? id with
    | none =>
      rw [hmessage] at hbox
      rw [Option.toList_none, List.append_nil]
      exact hbox ▸ SharedLog.Step.refl (s.log id)
    | some entry =>
      rw [hmessage] at hbox
      exact .land _ _ entry hbox
  · have hev : ∀ i, ev ≠ .land i := fun i hi => hland ⟨i, hi⟩
    -- Any other event only adds to the outbox.
    obtain ⟨more, hmore, hnew⟩ := CarpoolSystem.outbox_step hev h
    have hlog : (s.ride ev rides).log id = { s.log id with
        pending := (s.log id).pending ++
          (firstMessages s.rides ev).filterMap (CarpoolInFlight.message? id) } := by
      rw [log, ride, hmore, List.filterMap_append, hnew]
      cases ev with
      | land i => exact absurd rfl (hev i)
      | _ => rfl
    rw [hlog]
    exact .write _

private theorem log_reject {i : Nat} {x : CarpoolInFlight} {rest : List CarpoolInFlight}
    (h : takeOut CarpoolInFlight.client s.rides.outbox i = some (x, rest)) (id : CarpoolID) :
    (s.log id).Step [] ((s.reject x rest).log id) := by
  obtain ⟨pre, post, hbefore, rfl, -, -⟩ := takeOut_eq_some h
  have hbox : (s.log id).pending = pre.filterMap (CarpoolInFlight.message? id) ++
      ((x.message? id).toList ++ post.filterMap (CarpoolInFlight.message? id)) := by
    rw [log, hbefore, List.filterMap_append, List.filterMap_cons]
    cases x.message? id <;> rfl
  have hlog : (s.reject x (pre ++ post)).log id = { s.log id with
      rejected := s.rejected id ++ (x.message? id).toList
      pending := pre.filterMap (CarpoolInFlight.message? id) ++
        post.filterMap (CarpoolInFlight.message? id) } := by
    simp only [log, reject, List.filterMap_append]
  rw [hlog]
  cases hmessage : x.message? id with
  | none =>
    rw [hmessage] at hbox
    rw [Option.toList_none, List.append_nil]
    exact hbox ▸ SharedLog.Step.refl (s.log id)
  | some entry =>
    rw [hmessage] at hbox
    exact .reject _ _ entry hbox

/-- It keeps the messages those of the store. -/
theorem Stored.ride (hs : s.Stored) (h : s.rides.step ev = some rides) :
    (s.ride ev rides).Stored := by
  intro id
  by_cases hland : ∃ i, ev = .land i
  · obtain ⟨i, rfl⟩ := hland
    obtain ⟨x, hx, hstore⟩ := CarpoolSystem.store_land h
    have hmessages := CarpoolWrite.messages_land hstore id
    rw [← hs id] at hmessages
    simp only [Conversations.ride, landed, hx, Option.bind_some, CarpoolInFlight.message?,
      List.map_append, hmessages]
    cases x.write.message? id <;> rfl
  · have hev : ∀ i, ev ≠ .land i := fun i hi => hland ⟨i, hi⟩
    have hstore : rides.store.messages id = s.rides.store.messages id := by
      rw [CarpoolSystem.store_eq_of_step hev h]
    rw [Conversations.ride, hstore]
    cases ev with
    | land i => exact absurd rfl (hev i)
    | _ => exact hs id

end Rides

section Step
variable [LinearOrder Date] [DecidableEq Data]
variable {formatter : DateFormatter Date Settings} {settings : CarpoolClientID → Settings}
variable {codec : ImageCodec Image Data} {s t : Conversations Date Image Data}

/-- What an event does to an open chat. -/
inductive Moves (formatter : DateFormatter Date Settings) (settings : CarpoolClientID → Settings)
    (codec : ImageCodec Image Data) (s : Conversations Date Image Data) (c : CarpoolClientID)
    (chat : Conversation Date Image) : Conversation Date Image → Prop where
  | snapshot (reached : Nat) (entries : List MessageEntry) (uniqueIds : List String)
      (screen : ChatScreen Date Image) (hle : chat.reached ≤ reached)
      (hstored : reached ≤ (s.stored chat.tribe.uuid).length)
      (hentries : entries.Perm (((s.log chat.tribe.uuid).seenBy c reached).map Prod.snd))
      (hscreen : chat.screen.step
        (.snapshot (.ok (read formatter settings c entries)) uniqueIds) = some screen) :
      Moves formatter settings codec s c chat { chat with reached, snapshot := entries, screen }
  | screen (ev : ChatScreenEvent Date Image) (screen : ChatScreen Date Image)
      (hev : ev.messages? = none)
      (himage : ∀ i image, ev = .pictured i (.ok image) → ∀ id, chat.screen.reads[i]? = some id →
        ∃ answer : DataAnswer Data, answer.Of s.pictures.store (StorageController.path id) ∧
          StorageController.getImageWith codec answer = .ok image)
      (hscreen : chat.screen.step ev = some screen) :
      Moves formatter settings codec s c chat { chat with screen }

omit [DecidableEq Data] in
/-- An event of the screen that is no picture. -/
theorem moves_of_stepScreen {c : CarpoolClientID} {ev : ChatScreenEvent Date Image}
    (hev : ev.messages? = none) (hpicture : ∀ i image, ev ≠ .pictured i (.ok image))
    (h : ((s.chats c).bind fun chat => s.stepScreen c chat ev) = some t) :
    ∃ c chat chat', s.chats c = some chat ∧ Moves formatter settings codec s c chat chat' ∧
      t = s.setChat c (some chat') := by
  obtain ⟨chat, hchat, h⟩ := Option.bind_eq_some_iff.mp h
  obtain ⟨screen, hscreen, rfl⟩ := Option.map_eq_some_iff.mp h
  exact ⟨c, chat, _, hchat,
    .screen ev screen hev (fun i image heq => absurd heq (hpicture i image)) hscreen, rfl⟩

/-- What happens to an open chat. -/
theorem stepChat_moves {ev : ConversationEvent Date Image Data}
    (h : s.stepChat formatter settings codec ev = some t) :
    ∃ c chat chat', s.chats c = some chat ∧ Moves formatter settings codec s c chat chat' ∧
      t = s.setChat c (some chat') := by
  cases ev with
  | snapshot c reached entries uniqueIds =>
    simp only [stepChat] at h
    split at h
    · cases h
    · next chat hchat =>
      simp only [Option.ite_none_right_eq_some] at h
      obtain ⟨⟨hle, hstored, hentries⟩, h⟩ := h
      obtain ⟨screen, hscreen, rfl⟩ := Option.map_eq_some_iff.mp h
      exact ⟨c, chat, _, hchat,
        .snapshot reached entries uniqueIds screen hle hstored hentries hscreen, rfl⟩
  | pictured c i answer =>
    simp only [stepChat] at h
    split at h
    · cases h
    · next chat hchat =>
      split at h
      · cases h
      · next id hread =>
        simp only [Option.ite_none_right_eq_some] at h
        obtain ⟨hanswer, h⟩ := h
        obtain ⟨screen, hscreen, rfl⟩ := Option.map_eq_some_iff.mp h
        refine ⟨c, chat, _, hchat, .screen _ screen rfl ?_ hscreen, rfl⟩
        rintro j image heq id' hread'
        rw [ChatScreenEvent.pictured.injEq] at heq
        obtain ⟨rfl, heq⟩ := heq
        rw [hread, Option.some.injEq] at hread'
        exact ⟨answer, hread' ▸ hanswer, heq⟩
  | listenerFailed c error => exact moves_of_stepScreen rfl (fun _ _ heq => by cases heq) h
  | runMain c => exact moves_of_stepScreen rfl (fun _ _ heq => by cases heq) h
  | layout c => exact moves_of_stepScreen rfl (fun _ _ heq => by cases heq) h
  | evict c id => exact moves_of_stepScreen rfl (fun _ _ heq => by cases heq) h
  | ride _ | rejected _ | uploaded _ _ | openChat _ _ | closeChat _ | send _ _ _ _ => cases h

/-- The log of a carpool takes in what an event writes. -/
theorem log_step {ev : ConversationEvent Date Image Data} {writes : List CarpoolInFlight}
    (h : s.step formatter settings codec ev = some (t, writes)) (id : CarpoolID) :
    (s.log id).Step (writes.filterMap (CarpoolInFlight.message? id)) (t.log id) := by
  cases ev with
  | ride ev =>
    obtain ⟨rides, hrides, heq⟩ := Option.map_eq_some_iff.mp h
    cases heq
    exact log_ride hrides id
  | send c text messageId date =>
    cases h
    have hlog := SharedLog.Step.write (x := s.log id)
      ((s.sent formatter settings c text messageId date).filterMap (CarpoolInFlight.message? id))
    rwa [log, ← List.filterMap_append] at hlog
  | rejected i =>
    obtain ⟨⟨x, rest⟩, hx, heq⟩ := Option.map_eq_some_iff.mp h
    cases heq
    exact log_reject hx id
  | uploaded user image | closeChat c =>
    cases h
    exact .refl _
  | openChat c tribe =>
    simp only [step, Option.ite_none_right_eq_some, Option.some.injEq] at h
    obtain ⟨-, h⟩ := h
    cases h
    exact .refl _
  | snapshot _ _ _ _ | listenerFailed _ _ | pictured _ _ _ | runMain _ | layout _ | evict _ _ =>
    obtain ⟨t', ht', heq⟩ := Option.map_eq_some_iff.mp h
    cases heq
    obtain ⟨c, chat, chat', -, -, rfl⟩ := stepChat_moves ht'
    exact .refl _

end Step

/-! ### The open chats -/

/-- None of the messages that a device has sent to a carpool was rejected. -/
def Spared (s : Conversations Date Image Data) (c : CarpoolClientID) (id : CarpoolID) : Prop :=
  ∀ x ∈ s.rejected id, x.1 ≠ c

/-- What holds of a chat while no message of its device is rejected: the last snapshot is of what
can be seen, it is what is shown, and every section that is asked for is there. -/
structure ChatKept [LinearOrder Date] (formatter : DateFormatter Date Settings)
    (settings : CarpoolClientID → Settings) (s : Conversations Date Image Data)
    (c : CarpoolClientID) (chat : Conversation Date Image) : Prop where
  snapshot : chat.snapshot.Subperm (((s.log chat.tribe.uuid).seenBy c chat.reached).map Prod.snd)
  messages : chat.screen.messages =
    ChatViewController.listenForMessages [] (read formatter settings c chat.snapshot)
  safe : chat.screen.Safe

/-- What is shown of a chat is read of the last snapshot, or was there before it where nothing of it
can be read; every cached picture is one that was uploaded for its user. -/
structure ChatSound [LinearOrder Date] (formatter : DateFormatter Date Settings)
    (settings : CarpoolClientID → Settings) (codec : ImageCodec Image Data)
    (s : Conversations Date Image Data) (c : CarpoolClientID)
    (chat : Conversation Date Image) : Prop where
  reached : chat.reached ≤ (s.stored chat.tribe.uuid).length
  messages : ∃ earlier, chat.screen.messages =
    ChatViewController.listenForMessages earlier (read formatter settings c chat.snapshot)
  due : ∃ es, chat.screen.Due es
  pictures : ∀ id image, chat.screen.imageCache id = some image → s.pictures.OfUser codec id image
  kept : s.Spared c chat.tribe.uuid → ChatKept formatter settings s c chat

section Chat
variable [LinearOrder Date]
variable {formatter : DateFormatter Date Settings} {settings : CarpoolClientID → Settings}
variable {codec : ImageCodec Image Data} {s t : Conversations Date Image Data}
variable {c : CarpoolClientID} {chat chat' : Conversation Date Image}

/-- What a chat has just been opened with. -/
theorem chatSound_open (tribe : Carpool) :
    ChatSound formatter settings codec s c { tribe } where
  reached := Nat.zero_le _
  messages := ⟨[], rfl⟩
  due := ⟨[], ChatScreen.due_viewDidLoad⟩
  pictures _ _ h := by cases h
  kept _ := ⟨List.nil_subperm, rfl, ChatScreen.safe_iff.mpr (Nat.le_refl 0)⟩

omit [LinearOrder Date] in
private theorem read_subperm (formatter : DateFormatter Date Settings)
    (settings : CarpoolClientID → Settings) (c : CarpoolClientID)
    {entries entries' : List MessageEntry} (h : entries.Subperm entries') :
    (read formatter settings c entries).Subperm (read formatter settings c entries') := by
  rw [← Multiset.coe_le] at h ⊢
  have hmap := Multiset.map_le_map (f := MessageEntry.toDocument) h
  exact Multiset.filterMap_le_filterMap (CarpoolController.readMessage formatter (settings c)) hmap

/-- A chat is sound when its log and the pictures have only grown. -/
theorem ChatSound.mono (h : ChatSound formatter settings codec s c chat)
    {entries : List (CarpoolClientID × MessageEntry)}
    (hlog : (s.log chat.tribe.uuid).Step entries (t.log chat.tribe.uuid))
    (hpictures : s.pictures.uploads <+: t.pictures.uploads) :
    ChatSound formatter settings codec t c chat where
  reached := h.reached.trans hlog.stored_prefix.length_le
  messages := h.messages
  due := h.due
  pictures id image himage := (h.pictures id image himage).mono hpictures
  kept hspared := by
    have hkept := h.kept fun x hx => hspared x (hlog.rejected_prefix.subset hx)
    refine ⟨hkept.snapshot.trans ?_, hkept.messages, hkept.safe⟩
    rw [← Multiset.coe_le, ← Multiset.map_coe, ← Multiset.map_coe]
    exact Multiset.map_le_map (hlog.seenBy_subperm hspared h.reached)

private theorem ChatKept.subperm_of_le (h : ChatKept formatter settings s c chat) {reached : Nat}
    {entries : List MessageEntry} (hle : chat.reached ≤ reached)
    (hentries : entries.Perm (((s.log chat.tribe.uuid).seenBy c reached).map Prod.snd)) :
    chat.snapshot.Subperm entries := by
  apply hentries.subperm_left.mpr
  refine h.snapshot.trans ?_
  rw [← Multiset.coe_le, ← Multiset.map_coe, ← Multiset.map_coe]
  exact Multiset.map_le_map ((s.log chat.tribe.uuid).seenBy_subperm_of_le c hle)

private theorem ChatKept.snapshot_delivered (h : ChatKept formatter settings s c chat)
    {reached : Nat} {entries : List MessageEntry} {uniqueIds : List String}
    {screen : ChatScreen Date Image} (hle : chat.reached ≤ reached)
    (hentries : entries.Perm (((s.log chat.tribe.uuid).seenBy c reached).map Prod.snd))
    (hscreen : chat.screen.step
      (.snapshot (.ok (read formatter settings c entries)) uniqueIds) = some screen) :
    ChatKept formatter settings s c { chat with reached, snapshot := entries, screen } := by
  have hread := read_subperm formatter settings c (h.subperm_of_le hle hentries)
  have hcovers : chat.screen.Covers
      (.snapshot (.ok (read formatter settings c entries)) uniqueIds) := by
    refine .inr ?_
    calc chat.screen.sections
        ≤ chat.screen.messages.length := ChatScreen.safe_iff.mp h.safe
      _ = (read formatter settings c chat.snapshot).length := by
        rw [h.messages, (ChatScreen.listenForMessages_nil_perm _).length_eq]
      _ ≤ (read formatter settings c entries).length := hread.length_le
  refine ⟨hentries.subperm, ?_, (ChatScreen.safe_step_iff h.safe hscreen).mpr hcovers⟩
  rw [ChatScreen.messages_step hscreen, h.messages]
  exact ChatScreen.listenForMessages_of_subperm hread

/-- Whatever happens to a chat, it stays sound. -/
theorem ChatSound.moves (h : ChatSound formatter settings codec s c chat)
    (hpictures : s.pictures.Sound codec)
    (hmoves : Moves formatter settings codec s c chat chat') :
    ChatSound formatter settings codec s c chat' := by
  obtain ⟨es, hdue⟩ := h.due
  cases hmoves with
  | snapshot reached entries uniqueIds screen hle hstored hentries hscreen =>
    refine ⟨hstored, ⟨chat.screen.messages, ChatScreen.messages_step hscreen⟩,
      ⟨_, hdue.step hscreen⟩, ?_, fun hspared =>
        (h.kept hspared).snapshot_delivered hle hentries hscreen⟩
    intro id image himage
    rcases ChatScreen.imageCache_step hscreen himage with hbefore | ⟨i, heq, -⟩
    · exact h.pictures id image hbefore
    · cases heq
  | screen ev screen hev himages hscreen =>
    have hmessages : screen.messages = chat.screen.messages := by
      rw [ChatScreen.messages_step hscreen, hev]
      rfl
    refine ⟨h.reached, ?_, ⟨_, hdue.step hscreen⟩, ?_, fun hspared => ?_⟩
    · obtain ⟨earlier, hearlier⟩ := h.messages
      exact ⟨earlier, hmessages.trans hearlier⟩
    · intro id image himage
      rcases ChatScreen.imageCache_step hscreen himage with hbefore | ⟨i, rfl, hread⟩
      · exact h.pictures id image hbefore
      · obtain ⟨answer, hanswer, himage⟩ := himages i image rfl id hread
        exact hpictures.ofUser hanswer himage
    · have hkept := h.kept hspared
      exact ⟨hkept.snapshot, hmessages.trans hkept.messages,
        (ChatScreen.safe_step_iff hkept.safe hscreen).mpr
          (ChatScreen.covers_of_messages?_eq_none hev)⟩

/-- The last snapshot is what is shown where something of it can be read, and where no message of
the device was rejected. -/
theorem ChatSound.messages_eq (h : ChatSound formatter settings codec s c chat)
    (hcurrent : read formatter settings c chat.snapshot ≠ [] ∨ s.Spared c chat.tribe.uuid) :
    chat.screen.messages =
      ChatViewController.listenForMessages [] (read formatter settings c chat.snapshot) := by
  rcases hcurrent with hread | hspared
  · obtain ⟨earlier, hearlier⟩ := h.messages
    rw [hearlier, ChatViewController.listenForMessages, ChatViewController.listenForMessages,
      if_neg (by rwa [List.isEmpty_iff]), if_neg (by rwa [List.isEmpty_iff])]
  · exact (h.kept hspared).messages

end Chat

end Conversations

end DriveTribe
