import DriveTribe.Base.TwoRun
import DriveTribe.Chats.Conversations

/-!
# What is sent is what is shown

No message is ever taken out of a carpool, so a chat can always be laid out on a device none of
whose own messages is rejected; and once everything has landed and was delivered, each chat
shows every message that was sent to its carpool, and not rejected, once. A chat that is left
without any message keeps showing those that were rejected.
-/

namespace DriveTribe

open Base

namespace Conversations
variable {Date Settings Image Data : Type} [LinearOrder Date] [DecidableEq Data]
variable {formatter : DateFormatter Date Settings} {settings : CarpoolClientID → Settings}
variable {codec : ImageCodec Image Data} {s₀ s t : Conversations Date Image Data}

/-- The messages and the pictures are sound, and so is every open chat. -/
structure Sound (formatter : DateFormatter Date Settings) (settings : CarpoolClientID → Settings)
    (codec : ImageCodec Image Data) (s : Conversations Date Image Data) : Prop where
  stored : s.Stored
  pictures : s.pictures.Sound codec
  chats : ∀ {c chat}, s.chats c = some chat → ChatSound formatter settings codec s c chat

/-- No chat is open. -/
structure NoChats (codec : ImageCodec Image Data) (s : Conversations Date Image Data) : Prop where
  stored : s.Stored
  pictures : s.pictures.Sound codec
  chats : ∀ c, s.chats c = none

/-- Nothing has been written to any carpool either. -/
structure Started (codec : ImageCodec Image Data) (s : Conversations Date Image Data) : Prop
    extends NoChats codec s where
  messages : ∀ id, s.stored id = []
  rejected : ∀ id, s.rejected id = []
  outbox : s.rides.outbox = []

/-- A chat is left alone: its pictures have been answered, and the last snapshot was of all that
is stored and all that the device has in flight. -/
structure AtRest (s : Conversations Date Image Data) (c : CarpoolClientID)
    (chat : Conversation Date Image) : Prop where
  opened : s.chats c = some chat
  reads : chat.screen.reads = []
  main : chat.screen.main = 0
  snapshot : chat.snapshot.Perm (((s.log chat.tribe.uuid).seenBy c
    (s.stored chat.tribe.uuid).length).map Prod.snd)

/-- A message of the carpool that is stored can be read on the device, or none of those that the
device has sent there was rejected. -/
def Current (formatter : DateFormatter Date Settings) (settings : CarpoolClientID → Settings)
    (s : Conversations Date Image Data) (c : CarpoolClientID) (id : CarpoolID) : Prop :=
  read formatter settings c ((s.stored id).map Prod.snd) ≠ [] ∨ s.Spared c id

omit [DecidableEq Data] in
/-- Where no chat is open every chat is sound. -/
theorem NoChats.sound (h : s.NoChats codec) : Sound formatter settings codec s where
  stored := h.stored
  pictures := h.pictures
  chats hchat := by
    rw [h.chats] at hchat
    cases hchat

omit [DecidableEq Data] in
/-- Replacing one chat by a sound one, or closing it, leaves all sound. -/
theorem Sound.setChat (h : Sound formatter settings codec s) (c : CarpoolClientID)
    {chat? : Option (Conversation Date Image)}
    (hchat : ∀ chat, chat? = some chat → ChatSound formatter settings codec s c chat) :
    Sound formatter settings codec (s.setChat c chat?) where
  stored := h.stored
  pictures := h.pictures
  chats {c' chat} hc := by
    rcases chats_setChat hc with ⟨rfl, hnew⟩ | hc
    · exact (hchat chat hnew).mono (.refl (s.log _)) List.prefix_rfl
    · exact (h.chats hc).mono (.refl (s.log _)) List.prefix_rfl

/-- Every event leaves all sound. -/
theorem Sound.step (h : Sound formatter settings codec s)
    {ev : ConversationEvent Date Image Data} {writes : List CarpoolInFlight}
    (hstep : s.step formatter settings codec ev = some (t, writes)) :
    Sound formatter settings codec t := by
  have hlog := log_step hstep
  cases ev with
  | ride ev =>
    obtain ⟨rides, hrides, heq⟩ := Option.map_eq_some_iff.mp hstep
    cases heq
    exact ⟨h.stored.ride hrides, h.pictures,
      fun hchat => (h.chats hchat).mono (hlog _) List.prefix_rfl⟩
  | rejected i =>
    obtain ⟨⟨x, rest⟩, -, heq⟩ := Option.map_eq_some_iff.mp hstep
    cases heq
    exact ⟨h.stored, h.pictures, fun hchat => (h.chats hchat).mono (hlog _) List.prefix_rfl⟩
  | uploaded user image =>
    cases hstep
    exact ⟨h.stored, h.pictures.upload user image,
      fun hchat => (h.chats hchat).mono (hlog _) (Pictures.uploads_upload user image)⟩
  | send c text messageId date =>
    cases hstep
    exact ⟨h.stored, h.pictures, fun hchat => (h.chats hchat).mono (hlog _) List.prefix_rfl⟩
  | openChat c tribe =>
    simp only [Conversations.step, Option.ite_none_right_eq_some, Option.some.injEq] at hstep
    obtain ⟨-, heq⟩ := hstep
    cases heq
    refine h.setChat c fun chat hchat => ?_
    cases hchat
    exact chatSound_open tribe
  | closeChat c =>
    cases hstep
    refine h.setChat c fun chat hchat => ?_
    cases hchat
  | snapshot _ _ _ _ | listenerFailed _ _ | pictured _ _ _ | runMain _ | layout _ | evict _ _ =>
    obtain ⟨t', ht', heq⟩ := Option.map_eq_some_iff.mp hstep
    cases heq
    obtain ⟨c, chat, chat', hchat, hmoves, rfl⟩ := stepChat_moves ht'
    refine h.setChat c fun chat'' hchat'' => ?_
    cases hchat''
    exact (h.chats hchat).moves h.pictures hmoves

/-! ### A conversation -/

/-- Two devices list a carpool nobody has written to yet. -/
def twoDevices : Conversations Nat String String where
  rides := { CarpoolSystem.unused with clients := fun _ => { shown := [ChatSystem.savedCarpool] } }
  stored _ := []
  chats _ := none

/-- Nobody is in the chat. -/
theorem twoDevices_started : twoDevices.Started ⟨some, some⟩ where
  stored _ := rfl
  pictures _ _ h := nomatch h
  chats _ := rfl
  messages _ := rfl
  rejected _ := rfl
  outbox := rfl

/-- The message that `a` sends. -/
def hello : MessageEntry := ⟨"m", "text", "hello", "++", "a", "a"⟩

/-- It is delivered to him before it is stored, and to `b` after that, with the picture. The answer
of `b` is rejected. -/
def helloEvents : List (ConversationEvent Nat String String) :=
  [.ride (.fetchCurrentUser 0 (User.signedUp "a")), .ride (.fetchCurrentUser 1 (User.signedUp "b")),
    .uploaded "a" "ann", .openChat 0 ChatSystem.savedCarpool, .openChat 1 ChatSystem.savedCarpool,
    .send 0 "hello" "m" 4, .send 1 "  " "n" 4, .snapshot 0 0 [hello] ["a"], .ride (.land 0),
    .send 1 "bye" "n" 5, .rejected 0, .snapshot 1 1 [hello] ["a"],
    .pictured 0 0 ⟨none, some "offline"⟩, .runMain 0, .pictured 1 0 ⟨some "ann", none⟩, .runMain 1]

/-- Both devices have been left alone since, and the second lists the message. -/
theorem hello_atRest :
    ∃ s writes chat chat', run (emit (Conversations.step Written.halfSeconds (fun _ => ())
        ⟨some, some⟩)) (twoDevices, []) helloEvents = some (s, writes) ∧
      s.AtRest 0 chat ∧ s.AtRest 1 chat' ∧ (s.log chat.tribe.uuid).pending = [] ∧
      chat.tribe.uuid = chat'.tribe.uuid ∧ s.Spared 0 chat.tribe.uuid ∧
      s.stored chat.tribe.uuid = [(0, hello)] ∧ chat'.screen.messages.length = 1 := by
  refine ⟨_, _, _, _, rfl, ⟨rfl, rfl, rfl, ?_⟩, ⟨rfl, rfl, rfl, ?_⟩, rfl, rfl, ?_, rfl, ?_⟩
  · decide
  · decide
  · exact List.forall_mem_singleton.mpr Nat.one_ne_zero
  · exact List.length_mergeSort [_]

/-! ### Every run -/

section Run
variable {es : List (ConversationEvent Date Image Data)} {writes : List CarpoolInFlight}

/-- In every run all stay sound. -/
theorem Sound.run (h : Sound formatter settings codec s₀)
    (hrun : run (emit (Conversations.step formatter settings codec)) (s₀, []) es =
      some (s, writes)) : Sound formatter settings codec s := by
  refine run_invariant (I := fun x => Sound formatter settings codec x.1) ?_ h hrun
  intro x ev y hx hy
  obtain ⟨ws, hstep, -⟩ := emit_eq_some.mp hy
  exact hx.step hstep

/-- The log of a carpool is what was written to it. -/
theorem Started.log_perm (h₀ : s₀.Started codec)
    (hrun : Base.run (emit (Conversations.step formatter settings codec)) (s₀, []) es =
      some (s, writes)) (id : CarpoolID) :
    ((s.log id).stored ++ (s.log id).pending ++ (s.log id).rejected).Perm
      (writes.filterMap (CarpoolInFlight.message? id)) := by
  refine run_invariant (I := fun x : Conversations Date Image Data × List CarpoolInFlight =>
    ((x.1.log id).stored ++ (x.1.log id).pending ++ (x.1.log id).rejected).Perm
      (x.2.filterMap (CarpoolInFlight.message? id))) ?_ ?_ hrun
  · intro x ev y hx hy
    obtain ⟨ws, hstep, hout⟩ := emit_eq_some.mp hy
    rw [hout, List.filterMap_append]
    exact (log_step hstep id).perm.trans (hx.append_right _)
  · simp only [log, h₀.messages, h₀.rejected, h₀.outbox, List.filterMap_nil, List.append_nil]
    exact .refl _

omit [DecidableEq Data] in
/-- A chat that waits for nothing knows of all its messages. -/
theorem ChatSound.sections_eq {c : CarpoolClientID} {chat : Conversation Date Image}
    (h : ChatSound formatter settings codec s c chat) (hreads : chat.screen.reads = [])
    (hmain : chat.screen.main = 0) : chat.screen.sections = chat.screen.numberOfSections := by
  obtain ⟨es, hdue⟩ := h.due
  refine hdue.sections.resolve_right ?_
  rintro (hpending | hpending)
  · exact hpending hreads
  · exact absurd hmain hpending.ne'

omit [LinearOrder Date] [DecidableEq Data] in
private theorem AtRest.snapshot_perm {c : CarpoolClientID} {chat : Conversation Date Image}
    (hrest : s.AtRest c chat) (hpending : (s.log chat.tribe.uuid).pending = []) :
    chat.snapshot.Perm ((s.stored chat.tribe.uuid).map Prod.snd) := by
  have hsnapshot := hrest.snapshot
  have hseen := (s.log chat.tribe.uuid).seenBy_length c
  rw [hpending, List.filter_nil, List.append_nil] at hseen
  rw [show s.stored chat.tribe.uuid = (s.log chat.tribe.uuid).stored from rfl] at hsnapshot ⊢
  rwa [hseen] at hsnapshot

omit [DecidableEq Data] in
/-- At rest a chat shows the messages of the log that are read, by their dates. -/
theorem AtRest.shown {c : CarpoolClientID} {chat : Conversation Date Image}
    (hrest : s.AtRest c chat) (hsound : Sound formatter settings codec s)
    (hpending : (s.log chat.tribe.uuid).pending = [])
    (hcurrent : s.Current formatter settings c chat.tribe.uuid) :
    chat.screen.messages.Perm
        (read formatter settings c ((s.stored chat.tribe.uuid).map Prod.snd)) ∧
      (chat.screen.messages.Pairwise fun message message2 =>
        message.sentDate ≤ message2.sentDate) ∧
      chat.screen.sections = chat.screen.numberOfSections := by
  have hchat := hsound.chats hrest.opened
  have hread : (read formatter settings c chat.snapshot).Perm
      (read formatter settings c ((s.stored chat.tribe.uuid).map Prod.snd)) :=
    ((hrest.snapshot_perm hpending).map _).filterMap _
  have hnonempty : read formatter settings c ((s.stored chat.tribe.uuid).map Prod.snd) ≠ [] →
      read formatter settings c chat.snapshot ≠ [] :=
    fun hne hnil => hne (List.nil_perm.mp (hnil ▸ hread))
  rw [hchat.messages_eq (hcurrent.imp_left hnonempty)]
  exact ⟨(ChatScreen.listenForMessages_nil_perm _).trans hread,
    ChatScreen.listenForMessages_nil_pairwise _, hchat.sections_eq hrest.reads hrest.main⟩

/-- Once nothing is in flight to its carpool, a chat at rest shows each message that was ever
written to the carpool, and not rejected, once, if its date can be read, and by the dates: where
any such can be read on the device, and where no message of the device was rejected. -/
theorem shown_is_sent (h₀ : s₀.Started codec)
    (hrun : Base.run (emit (Conversations.step formatter settings codec)) (s₀, []) es =
      some (s, writes)) {c : CarpoolClientID} {chat : Conversation Date Image}
    (hrest : s.AtRest c chat) (hpending : (s.log chat.tribe.uuid).pending = [])
    (hcurrent : s.Current formatter settings c chat.tribe.uuid) :
    (chat.screen.messages ++
        read formatter settings c ((s.rejected chat.tribe.uuid).map Prod.snd)).Perm
      (read formatter settings c
        ((writes.filterMap (CarpoolInFlight.message? chat.tribe.uuid)).map Prod.snd)) ∧
      (chat.screen.messages.Pairwise fun message message2 =>
        message.sentDate ≤ message2.sentDate) ∧
      chat.screen.sections = chat.screen.numberOfSections := by
  obtain ⟨hperm, hdates, hsections⟩ := hrest.shown (Sound.run h₀.sound hrun) hpending hcurrent
  -- Nothing is pending, so what was written is what is stored and what was rejected.
  have hlog := h₀.log_perm hrun chat.tribe.uuid
  rw [hpending, List.append_nil] at hlog
  refine ⟨?_, hdates, hsections⟩
  have hread := ((hlog.map Prod.snd).map MessageEntry.toDocument).filterMap
    (CarpoolController.readMessage formatter (settings c))
  rw [List.map_append, List.map_append, List.filterMap_append] at hread
  exact (hperm.append_right _).trans hread

/-- Both have what was written and not rejected on their screens, though `b` has lost a message. -/
theorem shown_is_sent_hello :
    ∃ (s : Conversations Nat String String) (writes : List CarpoolInFlight)
      (chat : Conversation Nat String), s.AtRest 1 chat ∧ chat.screen.messages.length = 1 ∧
      (chat.screen.messages ++ read Written.halfSeconds (fun _ => ()) 1
          ((s.rejected chat.tribe.uuid).map Prod.snd)).Perm
        (read Written.halfSeconds (fun _ => ()) 1
          ((writes.filterMap (CarpoolInFlight.message? chat.tribe.uuid)).map Prod.snd)) ∧
      (chat.screen.messages.Pairwise fun message message2 =>
        message.sentDate ≤ message2.sentDate) ∧
      chat.screen.sections = chat.screen.numberOfSections := by
  obtain ⟨s, writes, chat, chat', hrun, -, hrest, hpending, htribe, -, hstored, hlength⟩ :=
    hello_atRest
  rw [htribe] at hpending hstored
  have hcurrent : s.Current Written.halfSeconds (fun _ => ()) 1 chat'.tribe.uuid := by
    refine .inl ?_
    rw [hstored]
    decide
  exact ⟨s, writes, chat', hrest, hlength,
    shown_is_sent twoDevices_started hrun hrest hpending hcurrent⟩

/-- Two devices with the same settings show the same messages of a carpool, with the same dates
in the same order. -/
theorem chats_agree (h₀ : s₀.NoChats codec)
    (hrun : Base.run (emit (Conversations.step formatter settings codec)) (s₀, []) es =
      some (s, writes)) {c c' : CarpoolClientID} {chat chat' : Conversation Date Image}
    (hrest : s.AtRest c chat) (hrest' : s.AtRest c' chat')
    (htribe : chat.tribe.uuid = chat'.tribe.uuid) (hsettings : settings c = settings c')
    (hpending : (s.log chat.tribe.uuid).pending = [])
    (hcurrent : s.Current formatter settings c chat.tribe.uuid)
    (hcurrent' : s.Current formatter settings c' chat.tribe.uuid) :
    chat.screen.messages.Perm chat'.screen.messages ∧
      chat.screen.messages.map Message.sentDate = chat'.screen.messages.map Message.sentDate := by
  have hsound : Sound formatter settings codec s := Sound.run h₀.sound hrun
  obtain ⟨hperm, hdates, -⟩ := hrest.shown hsound hpending hcurrent
  obtain ⟨hperm', hdates', -⟩ := hrest'.shown hsound (htribe ▸ hpending) (htribe ▸ hcurrent')
  have hread (entries : List MessageEntry) :
      read formatter settings c entries = read formatter settings c' entries := by
    rw [read, read, hsettings]
  rw [hread, htribe] at hperm
  have hall := hperm.trans hperm'.symm
  refine ⟨hall, (hall.map _).eq_of_pairwise (fun _ _ _ _ => le_antisymm) ?_ ?_⟩
  · exact List.pairwise_map.mpr hdates
  · exact List.pairwise_map.mpr hdates'

/-- Both show the message of `a`. -/
theorem chats_agree_hello :
    ∃ (s : Conversations Nat String String) (chat chat' : Conversation Nat String),
      s.AtRest 0 chat ∧ s.AtRest 1 chat' ∧
      chat.screen.messages.Perm chat'.screen.messages ∧
      chat.screen.messages.map Message.sentDate = chat'.screen.messages.map Message.sentDate := by
  obtain ⟨s, writes, chat, chat', hrun, hrest, hrest', hpending, htribe, hspared, hstored, -⟩ :=
    hello_atRest
  have hcurrent' : s.Current Written.halfSeconds (fun _ => ()) 1 chat.tribe.uuid := by
    refine .inl ?_
    rw [hstored]
    decide
  exact ⟨s, chat, chat', hrest, hrest', chats_agree twoDevices_started.toNoChats hrun hrest hrest'
    htribe rfl hpending (.inr hspared) hcurrent'⟩

end Run

end Conversations

end DriveTribe
