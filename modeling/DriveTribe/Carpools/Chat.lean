import Mathlib.Data.List.Forall2
import DriveTribe.Carpools.Controller

/-!
# The chat of a carpool

`CarpoolController.swift:71–116`, `:250–321`. The date of a message is stored as text: the
writer's date formatter writes it and the reader's parses it. Both are created in the current
locale, `ChatViewController.swift:18–24`, so their settings may differ. A message whose date
does not parse is left out.
-/

namespace DriveTribe

/-- A `DateFormatter` under each of its settings: locale, hour cycle and time zone. -/
structure DateFormatter (Date Settings : Type) where
  string : Settings → Date → String
  date : Settings → String → Option Date

/-- What is sent in a chat; only the text of a message is ever read. -/
inductive MessageKind where
  | text (text : String)
  | attributedText
  | photo
  | video
  | location
  | emoji
  | audio
  | contact
  | linkPreview
  | custom
  deriving DecidableEq, Repr

/-- `Message.swift:25–51`. -/
def MessageKind.messageKindString : MessageKind → String
  | .text _ => "text"
  | .attributedText => "attributed_text"
  | .photo => "photo"
  | .video => "video"
  | .location => "location"
  | .emoji => "emoji"
  | .audio => "audio"
  | .contact => "contact"
  | .linkPreview => "link_preview"
  | .custom => "custom"

/-- The text that is stored. `CarpoolController.swift:256–278`. -/
def MessageKind.content : MessageKind → String
  | .text messageText => messageText
  | .attributedText | .photo | .video | .location | .emoji | .audio | .contact | .linkPreview
  | .custom => ""

/-- `Message.swift:19–23`. -/
structure Sender where
  photoURL : String
  senderId : String
  displayName : String
  deriving DecidableEq, Repr

/-- `Message.swift:12–17`. -/
structure Message (Date : Type) where
  sender : Sender
  messageId : String
  sentDate : Date
  kind : MessageKind
  deriving DecidableEq, Repr

/-- A document of the messages of a carpool, by what each cast of a field yields. -/
structure MessageDocument where
  id : Option String
  type : Option String
  content : Option String
  date : Option String
  senderID : Option String
  senderUserName : Option String
  deriving DecidableEq, Repr

/-- An entry as it is stored. -/
def MessageEntry.toDocument (x : MessageEntry) : MessageDocument :=
  ⟨some x.id, some x.type, some x.content, some x.date, some x.senderID, some x.senderUserName⟩

section Formatter
variable {Date Settings : Type} (formatter : DateFormatter Date Settings)

/-- A formatter parses back, to the second, what it has written under the same settings. -/
def DateFormatter.ParsesOwn (second : Date → Int) : Prop :=
  ∀ settings date, ∃ d, formatter.date settings (formatter.string settings date) = some d ∧
    second d = second date

/-- The sender of one's own messages. `ChatViewController.swift:34–40`. -/
def User.selfSender (me : User) : Sender := ⟨me.uuid ++ ".jpeg", me.uuid, me.userName⟩

namespace CarpoolController

/-- What `sendMessage` stores; the sender is whoever is logged in.
`CarpoolController.swift:250–294`. -/
def sendMessage (settings : Settings) (currentUser : Option User) (message : Message Date) :
    Option MessageEntry :=
  currentUser.map fun me =>
    { id := message.messageId
      type := message.kind.messageKindString
      content := message.kind.content
      date := formatter.string settings message.sentDate
      senderID := me.uuid
      senderUserName := me.userName }

/-- The message a document is read as. `CarpoolController.swift:306–316`. -/
def readMessage (reader : Settings) (dictionary : MessageDocument) : Option (Message Date) := do
  let userName ← dictionary.senderUserName
  let messageID ← dictionary.id
  let content ← dictionary.content
  let senderID ← dictionary.senderID
  let _ ← dictionary.type
  let dateString ← dictionary.date
  let date ← formatter.date reader dateString
  return ⟨⟨"", senderID, userName⟩, messageID, date, .text content⟩

/-- What a snapshot of the messages is delivered as. `CarpoolController.swift:296–321`. -/
def getAllMessagesForConversation (reader : Settings) (documents : List MessageDocument) :
    List (Message Date) :=
  documents.filterMap (readMessage formatter reader)

end CarpoolController

/-- A text message written to a carpool, with the settings of the device it is written on. -/
inductive Written (Date Settings : Type) where
  /-- The first message, at the creation of the carpool. -/
  | first (settings : Settings) (date : Date) (carpool : Carpool) (currentUser : Option User)
    (messageId : String)
  /-- A message that `me` sends. `ChatViewController.swift:183–187`. -/
  | sent (settings : Settings) (date : Date) (me : User) (messageId text : String)

namespace Written

/-- The device the message is written on. -/
def settings : Written Date Settings → Settings
  | first settings _ _ _ _ => settings
  | sent settings _ _ _ _ => settings

/-- When the message is written. -/
def date : Written Date Settings → Date
  | first _ date _ _ _ => date
  | sent _ date _ _ _ => date

/-- The message in the app. -/
def message : Written Date Settings → Message Date
  | first _ date carpool currentUser messageId =>
    ⟨⟨"", "RideTribeIconLarge", "Chat Bot"⟩, messageId, date,
      .text (CarpoolController.firstMessage carpool currentUser ⟨"", messageId, ""⟩).content⟩
  | sent _ date me messageId text => ⟨me.selfSender, messageId, date, .text text⟩

/-- What is stored of the message. -/
def entry? : Written Date Settings → Option MessageEntry
  | first settings date carpool currentUser messageId =>
    some (CarpoolController.firstMessage carpool currentUser
      ⟨carpool.uuid, messageId, formatter.string settings date⟩)
  | sent settings date me messageId text =>
    CarpoolController.sendMessage formatter settings (some me)
      (sent settings date me messageId text).message

/-- The documents of these messages, which are listed in the order a snapshot has them. -/
def documents (written : List (Written Date Settings)) : List MessageDocument :=
  written.filterMap fun w => (w.entry? formatter).map MessageEntry.toDocument

/-- The message is delivered as it was sent, with the date equal to the second. -/
def Delivered (second : Date → Int) (w : Written Date Settings) (m : Message Date) : Prop :=
  m.messageId = w.message.messageId ∧ m.sender.senderId = w.message.sender.senderId ∧
    m.sender.displayName = w.message.sender.displayName ∧ m.kind = w.message.kind ∧
    second m.sentDate = second w.date

/-- The reader parses the date of the message to the same second. -/
def DateParses (second : Date → Int) (reader : Settings) (w : Written Date Settings) : Prop :=
  ∃ d, formatter.date reader (formatter.string w.settings w.date) = some d ∧
    second d = second w.date

/-! ### The round trip -/

section RoundTrip
variable {formatter} {second : Date → Int} {reader : Settings}

/-- The document of a message is read as the message with whatever its date parses to. -/
theorem readMessage_document (reader : Settings) (w : Written Date Settings) :
    ∃ entry, w.entry? formatter = some entry ∧
      CarpoolController.readMessage formatter reader entry.toDocument =
        (formatter.date reader (formatter.string w.settings w.date)).map fun d =>
          { w.message with sender := { w.message.sender with photoURL := "" }, sentDate := d } := by
  cases w with
  | first settings date carpool currentUser messageId =>
    refine ⟨_, rfl, ?_⟩
    cases h : formatter.date reader (formatter.string settings date) <;>
      simp [CarpoolController.readMessage, MessageEntry.toDocument, CarpoolController.firstMessage,
        Written.settings, Written.date, message, h]
  | sent settings date me messageId text =>
    refine ⟨_, rfl, ?_⟩
    cases h : formatter.date reader (formatter.string settings date) <;>
      simp [CarpoolController.readMessage, MessageEntry.toDocument, Written.settings,
        Written.date, message, User.selfSender, MessageKind.content, h]

private theorem delivered_readMessage (w : Written Date Settings) :
    (∃ m, (((w.entry? formatter).map MessageEntry.toDocument).bind
      (CarpoolController.readMessage formatter reader)) = some m ∧ w.Delivered second m) ↔
      w.DateParses formatter second reader := by
  obtain ⟨entry, hentry, hread⟩ := readMessage_document reader w
  rw [hentry, Option.map_some, Option.bind_some, hread]
  constructor
  · rintro ⟨m, hm, -, -, -, -, hdate⟩
    obtain ⟨d, hd, rfl⟩ := Option.map_eq_some_iff.mp hm
    exact ⟨d, hd, hdate⟩
  · rintro ⟨d, hd, hdate⟩
    rw [hd, Option.map_some]
    exact ⟨_, rfl, rfl, rfl, rfl, rfl, hdate⟩

/-- A partial function relates every element of a list to its image, in order, exactly if it
is defined on each of them and relates it to its image. -/
private theorem forall₂_filterMap_iff {α β : Type} {R : α → β → Prop} {f : α → Option β}
    (xs : List α) :
    List.Forall₂ R xs (xs.filterMap f) ↔ ∀ x ∈ xs, ∃ y, f x = some y ∧ R x y := by
  induction xs with
  | nil => simp only [List.filterMap_nil, List.forall₂_nil_left_iff, List.not_mem_nil,
      false_implies, implies_true]
  | cons x xs ih =>
    rw [List.forall_mem_cons]
    cases hf : f x with
    | none =>
      -- An element without an image makes the images too few.
      rw [List.filterMap_cons_none hf]
      refine iff_of_false (fun h => ?_) (fun h => ?_)
      · have hlen := h.length_eq
        have hle := List.length_filterMap_le f xs
        rw [List.length_cons] at hlen
        omega
      · obtain ⟨⟨y, hy, -⟩, -⟩ := h
        cases hy
    | some y =>
      rw [List.filterMap_cons_some hf, List.forall₂_cons, ih]
      apply and_congr_left'
      simp only [Option.some.injEq, exists_eq_left']

/-- Every message is delivered exactly once and as it was sent, exactly if the reader parses
the date of each message that was written under other settings to the same second. -/
theorem delivered_iff (hown : formatter.ParsesOwn second)
    (written : List (Written Date Settings)) :
    List.Forall₂ (Delivered second) written
        (CarpoolController.getAllMessagesForConversation formatter reader
          (documents formatter written)) ↔
      ∀ w ∈ written, w.settings ≠ reader → w.DateParses formatter second reader := by
  rw [CarpoolController.getAllMessagesForConversation, documents, List.filterMap_filterMap,
    forall₂_filterMap_iff]
  apply forall₂_congr
  intro w _
  rw [delivered_readMessage]
  by_cases hsettings : w.settings = reader
  · have hparses : w.DateParses formatter second reader := by
      rw [DateParses, hsettings]
      exact hown reader w.date
    exact iff_of_true hparses fun hne => absurd hsettings hne
  · constructor
    · intro h _
      exact h
    · intro h
      exact h hsettings

end RoundTrip

end Written
end Formatter

/-! ### Three clocks -/

/-- The settings of a device in English: the time zone and the hour cycle. -/
inductive Clock where
  | greenwich
  | newYork
  | greenwichTwentyFour
  deriving DecidableEq, Repr

namespace Clock

/-- The afternoon of 25 March 2021, in seconds since the reference date. -/
def afternoon : Nat := 638373907

/-- That moment in the medium date style and the long time style. -/
def display : Clock → String
  | greenwich => "Mar 25, 2021 at 2:05:07 PM GMT"
  | newYork => "Mar 25, 2021 at 10:05:07 AM EDT"
  | greenwichTwentyFour => "Mar 25, 2021 at 14:05:07 GMT"

/-- The texts of that moment that are parsed: the zone is part of the text, the hour cycle is
not. -/
def texts : Clock → List String
  | greenwich | newYork => [display greenwich, display newYork]
  | greenwichTwentyFour => [display greenwichTwentyFour]

/-- A formatter with these settings. Other moments are written as so many strokes. -/
def formatter : DateFormatter Nat Clock where
  string settings date :=
    if date = afternoon then settings.display else String.ofList (List.replicate date '+')
  date settings text :=
    if text ∈ settings.texts then some afternoon
    else if text.toList.all (· = '+') then some text.length else none

private theorem parsesOwn_formatter : formatter.ParsesOwn Int.ofNat := by
  intro settings date
  by_cases hdate : date = afternoon
  · have hmem : settings.display ∈ settings.texts := by cases settings <;> decide
    exact ⟨afternoon, by simp [formatter, hdate, hmem], by rw [hdate]⟩
  · refine ⟨date, ?_, rfl⟩
    have hstrokes : String.ofList (List.replicate date '+') ∉ settings.texts := by
      intro htext
      have hm : ∀ text ∈ settings.texts, 'M' ∈ text.toList := by cases settings <;> decide
      have hmem := hm _ htext
      rw [String.toList_ofList] at hmem
      exact absurd (List.eq_of_mem_replicate hmem) (by decide)
    simp [formatter, hdate, hstrokes]

end Clock

namespace Written

/-- A message written in New York. -/
def fromNewYork : Written Nat Clock :=
  .sent .newYork Clock.afternoon (User.signedUp "a") "m" "Where are you?"

/-- A reader in Greenwich gets it. -/
theorem delivered_fromNewYork :
    List.Forall₂ (Delivered Int.ofNat) [fromNewYork]
      (CarpoolController.getAllMessagesForConversation Clock.formatter .greenwich
        (documents Clock.formatter [fromNewYork])) := by
  refine (delivered_iff Clock.parsesOwn_formatter _).mpr fun w hw _ => ?_
  rw [List.mem_singleton.mp hw]
  exact ⟨Clock.afternoon, by decide, rfl⟩

/-- A reader with a twenty-four hour clock does not. -/
theorem not_delivered :
    ¬ ∀ (Date Settings : Type) (formatter : DateFormatter Date Settings) (second : Date → Int)
      (reader : Settings) (written : List (Written Date Settings)),
      formatter.ParsesOwn second → List.Forall₂ (Delivered second) written
        (CarpoolController.getAllMessagesForConversation formatter reader
          (documents formatter written)) := by
  intro hall
  have h := hall Nat Clock Clock.formatter Int.ofNat .greenwichTwentyFour [fromNewYork]
    Clock.parsesOwn_formatter
  have hlen := h.length_eq
  revert hlen
  decide

end Written

end DriveTribe
