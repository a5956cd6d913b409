import DriveTribe.Chats.Delivery

/-!
# What is sent is written

`currentSender` has no answer where nobody is logged in, and a tap on Send is dropped there. But
a chat is opened from a row, a row comes of a listener, and a listener of a user; and
no client ever forgets its user. So only the server can refuse what is sent.
-/

namespace DriveTribe

open Base

/-- The sender of an open chat; `none` is the fatal error. `ChatViewController.swift:191–196`. -/
def ChatViewController.currentSender (currentUser : Option User) : Option Sender :=
  currentUser.map User.selfSender

/-- Without a user a client listens to nothing, waits for nothing and has shown nothing. -/
def CarpoolClient.Known (client : CarpoolClient) : Prop :=
  client.currentUser = none → client.listeners = [] ∧ client.callbacks = [] ∧ client.shown = []

namespace CarpoolSystem
variable {s t : CarpoolSystem}

/-- A client with a user. -/
theorem known_of_ne_none {client : CarpoolClient} (h : client.currentUser ≠ none) :
    client.Known := fun hnone => absurd hnone h

/-- One client is replaced. -/
theorem known_setClient (h : ∀ c, (s.clients c).Known) {client : CarpoolClient}
    (hclient : client.Known) (c c' : CarpoolClientID) :
    ((s.setClient c client).clients c').Known := by
  by_cases hc : c' = c
  · subst hc
    rw [clients_setClient_self]
    exact hclient
  · rw [clients_setClient_of_ne s client hc]
    exact h c'

/-- What is staged does not matter. -/
theorem known_setController (h : ∀ c, (s.clients c).Known) (c : CarpoolClientID)
    (controller : CarpoolController) (c' : CarpoolClientID) :
    ((s.setClient c { s.clients c with controller }).clients c').Known :=
  known_setClient h (by exact h c) c c'

private theorem known_progress (h : ∀ c, (s.clients c).Known) {c : CarpoolClientID} {i : Nat}
    (hstep : s.progress c i = some t) (c' : CarpoolClientID) : (t.clients c').Known := by
  have hsome : (s.clients c).currentUser ≠ none := by
    intro hnone
    obtain ⟨callback, hcallback, -⟩ := progress_eq_some hstep
    rw [(h c hnone).2.1] at hcallback
    cases hcallback
  simp only [progress] at hstep
  split at hstep <;> cases hstep <;>
    exact known_setClient h (known_of_ne_none (by exact hsome)) c c'

/-- Every event keeps the clients so. -/
theorem known_step (h : ∀ c, (s.clients c).Known) {ev : CarpoolEvent}
    (hstep : s.step ev = some t) (c' : CarpoolClientID) : (t.clients c').Known := by
  cases ev with
  | fetchCurrentUser c user =>
    cases hstep
    exact known_setClient h (known_of_ne_none (Option.some_ne_none user)) c c'
  | setOptions c _ _ _ | selectDestination c _ | addPassenger c _ =>
    cases hstep
    exact known_setController h c _ c'
  | createCarpool c uniquePassengers new =>
    obtain ⟨-, -, rfl | ⟨carpool, message, controller, -, rfl⟩⟩ := step_createCarpool hstep
    · exact h c'
    · exact known_setController (s := { s with
        created := s.created ++ [carpool], used := s.used ++ [new.uuid] }) h c controller c'
  | fetchGroupsForCurrentUser c =>
    cases hstep
    refine known_setClient h (fun hnone => ?_) c c'
    obtain ⟨hlisteners, hcallbacks, hshown⟩ := h c hnone
    exact ⟨by rw [hlisteners, hnone]; rfl, hcallbacks, hshown⟩
  | snapshot c user =>
    obtain ⟨huser, rfl⟩ := step_snapshot hstep
    refine known_setClient h (known_of_ne_none fun hnone => ?_) c c'
    rw [(h c hnone).1] at huser
    cases huser
  | delete c carpool =>
    obtain ⟨-, rfl⟩ := step_delete hstep
    exact known_setController h c _ c'
  | blockOrUnfriend c user =>
    obtain ⟨me, hme, -, rfl⟩ := step_blockOrUnfriend hstep
    exact known_setClient h (known_of_ne_none (by rw [hme]; exact Option.some_ne_none me)) c c'
  | progress c i => exact known_progress h hstep c'
  | readFailed c i =>
    cases hstep
    refine known_setClient h (fun hnone => ?_) c c'
    obtain ⟨hlisteners, hcallbacks, hshown⟩ := h c hnone
    exact ⟨hlisteners, by rw [hcallbacks]; rfl, hshown⟩
  | land i =>
    obtain ⟨x, rest, store, -, -, rfl⟩ := step_land hstep
    obtain ⟨c, w⟩ := x
    cases w with
    | deleteCarpool id => exact known_setController (s := { s with store, outbox := rest }) h c _ c'
    | setCarpool _ | addMessage _ _ | setGroup _ _ | deleteGroup _ _ | deleteNewMessage _
    | removePassenger _ _ => exact h c'

/-- Whom a client has logged in is kept by whatever else it does. -/
theorem currentUser_setClient {c : CarpoolClientID} {client : CarpoolClient}
    (h : client.currentUser = (s.clients c).currentUser) (c' : CarpoolClientID) :
    ((s.setClient c client).clients c').currentUser = (s.clients c').currentUser := by
  by_cases hc : c' = c
  · subst hc
    rw [clients_setClient_self, h]
  · rw [clients_setClient_of_ne s client hc]

private theorem currentUser_progress {c : CarpoolClientID} {i : Nat} (h : s.progress c i = some t)
    (c' : CarpoolClientID) : (t.clients c').currentUser = (s.clients c').currentUser := by
  simp only [progress] at h
  split at h <;> cases h <;> exact currentUser_setClient (by rfl) c'

/-- An acknowledgement logs nobody in. -/
theorem currentUser_acknowledge (s : CarpoolSystem) (c : CarpoolClientID) (w : CarpoolWrite)
    (c' : CarpoolClientID) :
    ((s.acknowledge c w).clients c').currentUser = (s.clients c').currentUser := by
  cases w with
  | deleteCarpool id => exact currentUser_setClient (by rfl) c'
  | setCarpool _ | addMessage _ _ | setGroup _ _ | deleteGroup _ _ | deleteNewMessage _
  | removePassenger _ _ => rfl

/-- An event logs nobody in but the one who has just been fetched. -/
theorem currentUser_eq_of_step {ev : CarpoolEvent} (h : s.step ev = some t)
    (c : CarpoolClientID) : (t.clients c).currentUser = (s.clients c).currentUser ∨
      ∃ me, (t.clients c).currentUser = some me ∧ ev = .fetchCurrentUser c me := by
  cases ev with
  | fetchCurrentUser c' user =>
    cases h
    by_cases hc : c = c'
    · subst hc
      rw [clients_setClient_self]
      exact .inr ⟨user, rfl, rfl⟩
    · exact .inl (by rw [clients_setClient_of_ne s _ hc])
  | setOptions _ _ _ _ | selectDestination _ _ | addPassenger _ _ | fetchGroupsForCurrentUser _
  | readFailed _ _ =>
    cases h
    exact .inl (currentUser_setClient (by rfl) c)
  | createCarpool c' uniquePassengers new =>
    obtain ⟨-, -, rfl | ⟨carpool, message, controller, -, rfl⟩⟩ := step_createCarpool h
    · exact .inl rfl
    · exact .inl (currentUser_setClient (s := { s with
        created := s.created ++ [carpool], used := s.used ++ [new.uuid] }) (by rfl) c)
  | snapshot c' user =>
    obtain ⟨-, rfl⟩ := step_snapshot h
    exact .inl (currentUser_setClient (by rfl) c)
  | delete c' carpool =>
    obtain ⟨-, rfl⟩ := step_delete h
    exact .inl (currentUser_setClient (by rfl) c)
  | blockOrUnfriend c' user =>
    obtain ⟨_, -, -, rfl⟩ := step_blockOrUnfriend h
    exact .inl (currentUser_setClient (by rfl) c)
  | progress c' i => exact .inl (currentUser_progress h c)
  | land i =>
    obtain ⟨x, rest, store, -, -, rfl⟩ := step_land h
    exact .inl (currentUser_acknowledge _ _ _ c)

/-- A client keeps its user, until it fetches another. -/
theorem currentUser_ne_none_step {ev : CarpoolEvent} (hstep : s.step ev = some t)
    {c : CarpoolClientID} (h : (s.clients c).currentUser ≠ none) :
    (t.clients c).currentUser ≠ none := by
  rcases currentUser_eq_of_step hstep c with heq | ⟨me, hme, -⟩
  · rwa [heq]
  · rw [hme]
    exact Option.some_ne_none me

end CarpoolSystem

namespace ChatViewController

/-- There is something but spaces in the text. -/
def hasText (text : String) : Bool := text.toList.any (· ≠ ' ')

private theorem inputBar_some {Date : Type} (me : User) (tribe : Carpool) (text messageId : String)
    (date : Date) : inputBar (some me) (some tribe) text messageId date =
      if hasText text then some (⟨me.selfSender, messageId, date, .text text⟩, tribe.uuid)
      else none := by
  have hblank : (text.toList.filter (· ≠ ' ')).isEmpty = !hasText text := by
    rw [Bool.eq_iff_iff, List.isEmpty_iff, List.filter_eq_nil_iff, hasText, Bool.not_eq_true',
      List.any_eq_false]
  rw [inputBar, hblank]
  cases hasText text with
  | true => rfl
  | false => rfl

end ChatViewController

namespace Conversations
variable {Date Settings Image Data : Type}
variable {formatter : DateFormatter Date Settings} {settings : CarpoolClientID → Settings}
variable {codec : ImageCodec Image Data} {s₀ s t : Conversations Date Image Data}

/-- The app has just been started on every device, and nothing has been written. -/
structure Fresh (codec : ImageCodec Image Data) (s : Conversations Date Image Data) : Prop
    extends Started codec s where
  clients : ∀ c, s.rides.clients c = {}

/-- Whoever has opened a chat is logged in. -/
structure Known (s : Conversations Date Image Data) : Prop where
  clients : ∀ c, (s.rides.clients c).Known
  chats : ∀ {c chat}, s.chats c = some chat → (s.rides.clients c).currentUser ≠ none

private theorem Fresh.known (h : s.Fresh codec) : s.Known where
  clients c := by
    rw [h.clients c]
    exact fun _ => ⟨rfl, rfl, rfl⟩
  chats hchat := by
    rw [h.chats] at hchat
    cases hchat

section Run
variable {es : List (ConversationEvent Date Image Data)} {ev : ConversationEvent Date Image Data}
variable {writes : List CarpoolInFlight}
variable [LinearOrder Date] [DecidableEq Data]

omit [LinearOrder Date] [DecidableEq Data] in
/-- A chat that is put in place of an open one is open in the name of the same user. -/
theorem Known.setChat (h : s.Known) {c : CarpoolClientID} {chat? : Option (Conversation Date Image)}
    (hchat : ∀ chat, chat? = some chat → (s.rides.clients c).currentUser ≠ none) :
    (s.setChat c chat?).Known where
  clients := h.clients
  chats {c' chat} hc := by
    rcases chats_setChat hc with ⟨rfl, hnew⟩ | hc
    · exact hchat chat hnew
    · exact h.chats hc

/-- Every event keeps it so. -/
theorem Known.step (h : s.Known) {ws : List CarpoolInFlight}
    (hstep : s.step formatter settings codec ev = some (t, ws)) : t.Known := by
  cases ev with
  | ride ev =>
    obtain ⟨rides, hrides, heq⟩ := Option.map_eq_some_iff.mp hstep
    cases heq
    exact ⟨CarpoolSystem.known_step h.clients hrides, fun hchat =>
      CarpoolSystem.currentUser_ne_none_step hrides (h.chats hchat)⟩
  | rejected i =>
    obtain ⟨_, -, heq⟩ := Option.map_eq_some_iff.mp hstep
    cases heq
    exact ⟨h.clients, h.chats⟩
  | uploaded user image | send c text messageId date =>
    cases hstep
    exact ⟨h.clients, h.chats⟩
  | openChat c tribe =>
    simp only [Conversations.step, Option.ite_none_right_eq_some, Option.some.injEq] at hstep
    obtain ⟨htribe, heq⟩ := hstep
    cases heq
    refine h.setChat fun _ _ hnone => ?_
    rw [(h.clients c hnone).2.2] at htribe
    cases htribe
  | closeChat c =>
    cases hstep
    refine h.setChat fun chat hchat => ?_
    cases hchat
  | snapshot _ _ _ _ | listenerFailed _ _ | pictured _ _ _ | runMain _ | layout _ | evict _ _ =>
    obtain ⟨t', ht', heq⟩ := Option.map_eq_some_iff.mp hstep
    cases heq
    obtain ⟨c, chat, chat', hchat, -, rfl⟩ := stepChat_moves ht'
    exact h.setChat fun _ _ => h.chats hchat

/-- So it is in every run. -/
theorem Fresh.known_run (h₀ : s₀.Fresh codec)
    (hrun : run (emit (Conversations.step formatter settings codec)) (s₀, []) es =
      some (s, writes)) : s.Known := by
  refine run_invariant (I := fun x => x.1.Known) ?_ h₀.known hrun
  intro x ev y hx hy
  obtain ⟨ws, hstep, -⟩ := emit_eq_some.mp hy
  exact hx.step hstep

/-- What is written to a carpool by a tap on Send, where `me` is logged in. -/
def sentEntry (formatter : DateFormatter Date Settings) (settings : CarpoolClientID → Settings)
    (c : CarpoolClientID) (me : User) (text messageId : String) (date : Date) : MessageEntry :=
  ⟨messageId, "text", text, formatter.string (settings c) date, me.uuid, me.userName⟩

omit [LinearOrder Date] [DecidableEq Data] in
private theorem sent_eq {c : CarpoolClientID} {chat : Conversation Date Image} {me : User}
    (hchat : s.chats c = some chat) (hme : (s.rides.clients c).currentUser = some me)
    (text messageId : String) (date : Date) :
    s.sent formatter settings c text messageId date =
      if ChatViewController.hasText text then
        [⟨c, .addMessage chat.tribe.uuid
          (sentEntry formatter settings c me text messageId date)⟩]
      else [] := by
  rw [sent, hme, hchat, Option.map_some, ChatViewController.inputBar_some]
  split_ifs <;> rfl

/-- In every run a device on which a chat is open has a user: the chat has a current sender, and
every text but spaces that is sent is written once, to the carpool of the chat. -/
theorem send_writes (h₀ : s₀.Fresh codec)
    (hrun : run (emit (Conversations.step formatter settings codec)) (s₀, []) es =
      some (s, writes)) {c : CarpoolClientID} {chat : Conversation Date Image}
    (hchat : s.chats c = some chat) :
    ∃ me, (s.rides.clients c).currentUser = some me ∧
      ChatViewController.currentSender (s.rides.clients c).currentUser = some me.selfSender ∧
      ∀ text messageId date, s.sent formatter settings c text messageId date =
        if ChatViewController.hasText text then
          [⟨c, .addMessage chat.tribe.uuid
            (sentEntry formatter settings c me text messageId date)⟩]
        else [] := by
  obtain ⟨me, hme⟩ := Option.ne_none_iff_exists'.mp ((h₀.known_run hrun).chats hchat)
  refine ⟨me, hme, ?_, fun text messageId date => sent_eq hchat hme text messageId date⟩
  rw [hme]
  rfl

private theorem isPrefix_writes {writes₁ : List CarpoolInFlight}
    (hrun : run (emit (Conversations.step formatter settings codec)) (s, writes₁) es =
      some (t, writes)) : writes₁ <+: writes := by
  refine run_invariant (I := fun x : Conversations Date Image Data × List CarpoolInFlight =>
    writes₁ <+: x.2) ?_ List.prefix_rfl hrun
  intro x ev y hx hy
  obtain ⟨ws, -, hout⟩ := emit_eq_some.mp hy
  exact hx.trans (hout ▸ List.prefix_append _ _)

private theorem mem_writes_of_send {writes₁ : List CarpoolInFlight} {c : CarpoolClientID}
    {chat : Conversation Date Image} {me : User} {text messageId : String} {date : Date}
    (hchat : s.chats c = some chat) (hme : (s.rides.clients c).currentUser = some me)
    (htext : ChatViewController.hasText text)
    (hrun : run (emit (Conversations.step formatter settings codec)) (s, writes₁)
      (.send c text messageId date :: es) = some (t, writes)) :
    ⟨c, .addMessage chat.tribe.uuid
      (sentEntry formatter settings c me text messageId date)⟩ ∈ writes := by
  obtain ⟨⟨s', writes'⟩, hstep, hrest⟩ := run_cons_eq_some hrun
  obtain ⟨ws, hsend, hout⟩ := emit_eq_some.mp hstep
  cases hsend
  apply (isPrefix_writes hrest).subset
  rw [show writes' = _ from hout, sent_eq hchat hme, if_pos htext]
  exact List.mem_append_right _ (List.mem_singleton.mpr rfl)

/-- A text but spaces that is sent from a chat, and not rejected, is shown, once nothing is in
flight to the carpool, in every chat of the carpool that is at rest on a device that can read the
date. -/
theorem sent_is_shown {es₁ es₂ : List (ConversationEvent Date Image Data)}
    {s₁ : Conversations Date Image Data} {writes₁ : List CarpoolInFlight} (h₀ : s₀.Fresh codec)
    (hrun₁ : run (emit (Conversations.step formatter settings codec)) (s₀, []) es₁ =
      some (s₁, writes₁))
    {c c' : CarpoolClientID} {chat chat' : Conversation Date Image} {text messageId : String}
    {date date' : Date} (hchat : s₁.chats c = some chat) (htext : ChatViewController.hasText text)
    (hrun : run (emit (Conversations.step formatter settings codec)) (s₁, writes₁)
      (.send c text messageId date :: es₂) = some (s, writes))
    (hrest : s.AtRest c' chat') (htribe : chat'.tribe.uuid = chat.tribe.uuid)
    (hpending : (s.log chat'.tribe.uuid).pending = [])
    (hrejected : ∀ x ∈ s.rejected chat'.tribe.uuid, x.2.id ≠ messageId)
    (hdate : formatter.date (settings c') (formatter.string (settings c) date) = some date') :
    ∃ me, (s₁.rides.clients c).currentUser = some me ∧
      ⟨⟨"", me.uuid, me.userName⟩, messageId, date', .text text⟩ ∈ chat'.screen.messages := by
  obtain ⟨me, hme⟩ := Option.ne_none_iff_exists'.mp ((h₀.known_run hrun₁).chats hchat)
  refine ⟨me, hme, ?_⟩
  have hall : run (emit (Conversations.step formatter settings codec)) (s₀, [])
      (es₁ ++ .send c text messageId date :: es₂) = some (s, writes) :=
    run_append_eq_some.mpr ⟨_, hrun₁, hrun⟩
  have hlog := h₀.log_perm hall chat'.tribe.uuid
  rw [hpending, List.append_nil] at hlog
  have hstored : (c, sentEntry formatter settings c me text messageId date) ∈
      s.stored chat'.tribe.uuid := by
    have hwritten : (c, sentEntry formatter settings c me text messageId date) ∈
        writes.filterMap (CarpoolInFlight.message? chat'.tribe.uuid) := by
      refine List.mem_filterMap.mpr ⟨_, mem_writes_of_send hchat hme htext hrun, ?_⟩
      rw [CarpoolInFlight.message?, CarpoolWrite.message?, if_pos htribe.symm]
      rfl
    -- What was written is stored or rejected, and no rejected message has this id.
    exact (List.mem_append.mp (hlog.mem_iff.mpr hwritten)).resolve_right
      fun hmem => hrejected _ hmem rfl
  have hread : ⟨⟨"", me.uuid, me.userName⟩, messageId, date', .text text⟩ ∈
      read formatter settings c' ((s.stored chat'.tribe.uuid).map Prod.snd) := by
    rw [read, CarpoolController.getAllMessagesForConversation, List.mem_filterMap]
    refine ⟨_, List.mem_map_of_mem (List.mem_map_of_mem hstored), ?_⟩
    simp only [MessageEntry.toDocument, sentEntry, CarpoolController.readMessage, hdate,
      Option.bind_eq_bind, Option.bind_some, Option.pure_def]
  have hsound : Sound formatter settings codec s := h₀.sound.run hall
  exact (hrest.shown hsound hpending (.inl (List.ne_nil_of_mem hread))).1.mem_iff.mpr hread

end Run

/-- Two devices before anything happened. -/
def unusedDevices : Conversations Nat String String where
  rides := CarpoolSystem.unused
  stored _ := []
  chats _ := none

private theorem unusedDevices_fresh : unusedDevices.Fresh ⟨some, some⟩ where
  stored _ := rfl
  pictures _ _ h := nomatch h
  chats _ := rfl
  messages _ := rfl
  rejected _ := rfl
  outbox := rfl
  clients _ := rfl

/-- `a` gives `b` a ride, and `b` opens the chat. -/
def openedByPassenger : List (ConversationEvent Nat String String) :=
  CarpoolSystem.giveRide.map .ride ++ [.openChat 1 ChatSystem.savedCarpool]

/-- His message lands and is delivered to him below the first one; his next one is rejected. -/
def delivery : List (ConversationEvent Nat String String) :=
  [.ride (.land 0), .send 1 "bye" "o" 5, .rejected 0,
    .snapshot 1 2 [⟨"n", "text", "hello", "++", "b", "b"⟩,
      CarpoolController.firstMessage ChatSystem.savedCarpool (some (User.signedUp "a"))
        ⟨"x", "m", "t"⟩] ["b", "RideTribeIconLarge"],
    .pictured 1 0 ⟨none, some "offline"⟩, .pictured 1 0 ⟨none, some "offline"⟩, .runMain 1,
    .runMain 1]

/-- The chat is open, and afterwards at rest with his message. -/
theorem reply_atRest :
    ∃ s₁ writes₁ chat s writes chat', run (emit (Conversations.step Written.halfSeconds
        (fun _ => ()) ⟨some, some⟩)) (unusedDevices, []) openedByPassenger = some (s₁, writes₁) ∧
      s₁.chats 1 = some chat ∧
      run (emit (Conversations.step Written.halfSeconds (fun _ => ()) ⟨some, some⟩)) (s₁, writes₁)
        (.send 1 "hello" "n" 4 :: delivery) = some (s, writes) ∧
      s.AtRest 1 chat' ∧ chat'.tribe.uuid = chat.tribe.uuid ∧
      (s.log chat'.tribe.uuid).pending = [] ∧
      (s.rejected chat'.tribe.uuid).map (fun x => x.2.id) = ["o"] := by
  refine ⟨_, _, _, _, _, _, rfl, rfl, rfl, ⟨rfl, rfl, rfl, ?_⟩, rfl, rfl, rfl⟩
  decide

/-- The passenger is the sender of what he types. -/
theorem send_writes_passenger :
    ∃ (s : Conversations Nat String String) (chat : Conversation Nat String) (me : User),
      s.chats 1 = some chat ∧ (s.rides.clients 1).currentUser = some me ∧
      ChatViewController.currentSender (s.rides.clients 1).currentUser = some me.selfSender ∧
      ∀ text messageId date, s.sent Written.halfSeconds (fun _ => ()) 1 text messageId date =
        if ChatViewController.hasText text then
          [⟨1, .addMessage chat.tribe.uuid
            (sentEntry Written.halfSeconds (fun _ => ()) 1 me text messageId date)⟩]
        else [] := by
  obtain ⟨s, writes, chat, -, -, -, hrun, hchat, -⟩ := reply_atRest
  obtain ⟨me, h⟩ := send_writes unusedDevices_fresh hrun hchat
  exact ⟨s, chat, me, hchat, h⟩

/-- His message is shown to him. -/
theorem sent_is_shown_passenger :
    ∃ (s : Conversations Nat String String) (chat : Conversation Nat String) (me : User),
      s.AtRest 1 chat ∧
      ⟨⟨"", me.uuid, me.userName⟩, "n", 4, .text "hello"⟩ ∈ chat.screen.messages := by
  obtain ⟨s₁, writes₁, chat, s, writes, chat', hrun₁, hchat, hrun, hrest, htribe, hpending,
    hids⟩ := reply_atRest
  have hrejected : ∀ x ∈ s.rejected chat'.tribe.uuid, x.2.id ≠ "n" := by
    intro x hx hid
    have hmem := List.mem_map_of_mem (f := fun x : CarpoolClientID × MessageEntry => x.2.id) hx
    rw [hids, hid] at hmem
    revert hmem
    decide
  obtain ⟨me, -, hshown⟩ := sent_is_shown unusedDevices_fresh hrun₁ hchat rfl hrun hrest
    htribe hpending hrejected rfl
  exact ⟨s, chat', me, hrest, hshown⟩

end Conversations

end DriveTribe
