import DriveTribe.Base.StableSort
import DriveTribe.Carpools.Chat

/-!
# The order of a chat

`ChatViewController.swift:72–117`. A snapshot lists the messages by their random document ids;
the chat sorts them by the dates it reads. A date is written to the second, so two messages of
one second stay as the snapshot lists them.
-/

namespace DriveTribe

open Base

section Formatter
variable {Date Settings : Type} (formatter : DateFormatter Date Settings)

/-- A formatter writes no more of a date than its second: the medium date style and the long
time style. `ChatViewController.swift:20–21`. -/
def DateFormatter.WritesSeconds (second : Date → Int) : Prop :=
  ∀ settings d d', second d = second d' →
    formatter.string settings d = formatter.string settings d'

section Chat
variable [LinearOrder Date]

/-- The second moves on with the date. -/
def SecondAdvances (second : Date → Int) : Prop := ∀ ⦃d d'⦄, d ≤ d' → second d ≤ second d'

namespace ChatViewController

/-- The messages the chat holds after a delivery; an empty one leaves them.
`ChatViewController.swift:76–87`. -/
def listenForMessages (self messages : List (Message Date)) : List (Message Date) :=
  if messages.isEmpty then self
  else sorted (fun message message2 => decide (message.sentDate < message2.sentDate)) messages

/-- The messages a chat holds after it was opened and got these snapshots. -/
def messages (reader : Settings) (snapshots : List (List (Written Date Settings))) :
    List (Message Date) :=
  snapshots.foldl (fun self written => listenForMessages self
    (CarpoolController.getAllMessagesForConversation formatter reader
      (Written.documents formatter written))) []

end ChatViewController

namespace Written

/-- The chat holds every message once and as it was sent, in the order of sending. -/
def InOrder (second : Date → Int) (written : List (Written Date Settings))
    (messages : List (Message Date)) : Prop :=
  ∃ sent : List (Written Date Settings), sent.Perm written ∧
    sent.Pairwise (fun w w' => w.date < w'.date) ∧ List.Forall₂ (Delivered second) sent messages

/-- No two messages of one second are listed against the order of sending. -/
def TiesInOrder (second : Date → Int) (written : List (Written Date Settings)) : Prop :=
  written.Pairwise fun w w' => w'.date < w.date → second w'.date ≠ second w.date

/-- A message as it is read, with the date that its text is parsed to. -/
def readAs (parsed : Date → Date) (w : Written Date Settings) : Message Date :=
  { w.message with sender := { w.message.sender with photoURL := "" }, sentDate := parsed w.date }

section Order
variable {formatter} {second : Date → Int} {reader : Settings}

omit [LinearOrder Date] in
private theorem exists_parsed (hown : formatter.ParsesOwn second) (reader : Settings) :
    ∃ parsed : Date → Date, ∀ date,
      formatter.date reader (formatter.string reader date) = some (parsed date) ∧
        second (parsed date) = second date :=
  ⟨fun date => (hown reader date).choose, fun date => (hown reader date).choose_spec⟩

omit [LinearOrder Date] in
private theorem getAllMessages_documents {parsed : Date → Date}
    (hparsed : ∀ date, formatter.date reader (formatter.string reader date) = some (parsed date))
    {written : List (Written Date Settings)} (hsettings : ∀ w ∈ written, w.settings = reader) :
    CarpoolController.getAllMessagesForConversation formatter reader (documents formatter written) =
      written.map (readAs parsed) := by
  induction written with
  | nil => rfl
  | cons w written ih =>
    have hw : w.settings = reader := hsettings w List.mem_cons_self
    have ih := ih fun x hx => hsettings x (List.mem_cons_of_mem w hx)
    obtain ⟨entry, hentry, hread⟩ := @readMessage_document _ _ formatter reader w
    rw [hw, hparsed, Option.map_some] at hread
    simp only [CarpoolController.getAllMessagesForConversation, documents] at ih ⊢
    rw [List.filterMap_cons, hentry, Option.map_some, List.filterMap_cons, hread, ih]
    rfl

/-- The dates that are read compare as the seconds of the dates that were sent. -/
theorem parsed_lt_iff (hmono : SecondAdvances second) (hwrites : formatter.WritesSeconds second)
    {parsed : Date → Date} (hparsed : ∀ date,
      formatter.date reader (formatter.string reader date) = some (parsed date) ∧
        second (parsed date) = second date) (d d' : Date) :
    parsed d < parsed d' ↔ second d < second d' := by
  have hle : ∀ a b : Date, second a < second b → parsed a < parsed b := by
    intro a b hlt
    by_contra hge
    have := hmono (not_lt.mp hge)
    rw [(hparsed a).2, (hparsed b).2] at this
    omega
  constructor
  · intro hlt
    by_contra hge
    rcases (not_lt.mp hge).lt_or_eq with hgt | heq
    · exact lt_asymm hlt (hle d' d hgt)
    · have htext := (hparsed d').1
      rw [hwrites reader d' d heq, (hparsed d).1, Option.some.injEq] at htext
      exact lt_irrefl _ (htext ▸ hlt)
  · exact hle d d'

private theorem messages_of_empty {snapshots : List (List (Written Date Settings))}
    (h : ∀ snapshot ∈ snapshots, snapshot = []) :
    ChatViewController.messages formatter reader snapshots = [] := by
  induction snapshots with
  | nil => rfl
  | cons snapshot snapshots ih =>
    have hnil : snapshot = [] := h snapshot List.mem_cons_self
    subst hnil
    exact ih fun snapshot hs => h snapshot (List.mem_cons_of_mem _ hs)

/-- What the chat holds after a snapshot is the messages sorted by their seconds. -/
theorem messages_eq (hmono : SecondAdvances second) (hwrites : formatter.WritesSeconds second)
    {parsed : Date → Date} (hparsed : ∀ date,
      formatter.date reader (formatter.string reader date) = some (parsed date) ∧
        second (parsed date) = second date)
    {earlier : List (List (Written Date Settings))} {written : List (Written Date Settings)}
    (hsettings : ∀ w ∈ written, w.settings = reader)
    (hgrow : ∀ snapshot ∈ earlier, ∀ w ∈ snapshot, w ∈ written) :
    ChatViewController.messages formatter reader (earlier ++ [written]) =
      (sortedByKey (fun w : Written Date Settings => second w.date) written).map
        (readAs parsed) := by
  cases written with
  | nil =>
    have hempty : ∀ snapshot ∈ earlier ++ [[]], snapshot = [] := by
      intro snapshot hs
      rcases List.mem_append.mp hs with hs | hs
      · exact List.eq_nil_iff_forall_not_mem.mpr fun w hw =>
          List.not_mem_nil (hgrow snapshot hs w hw)
      · exact List.mem_singleton.mp hs
    rw [messages_of_empty hempty, sortedByKey, sorted, List.mergeSort_nil, List.map_nil]
  | cons w written =>
    have hread := getAllMessages_documents (fun date => (hparsed date).1) hsettings
    rw [ChatViewController.messages, List.foldl_append, List.foldl_cons, List.foldl_nil, hread,
      ChatViewController.listenForMessages]
    rw [List.map_cons, List.isEmpty_cons, if_neg Bool.false_ne_true, ← List.map_cons]
    refine (List.map_mergeSort fun x _ y _ => ?_).symm
    simp only [readAs, parsed_lt_iff hmono hwrites hparsed]

omit [LinearOrder Date] in
private theorem delivered_readAs {parsed : Date → Date}
    (hparsed : ∀ date, second (parsed date) = second date)
    (written : List (Written Date Settings)) :
    List.Forall₂ (Delivered second) written (written.map (readAs parsed)) := by
  rw [List.forall₂_map_right_iff, List.forall₂_same]
  intro w _
  refine ⟨rfl, rfl, rfl, rfl, ?_⟩
  exact hparsed w.date

omit [LinearOrder Date] in
private theorem eq_of_delivered {parsed : Date → Date}
    {written sent sorted : List (Written Date Settings)}
    (hids : (written.map fun w => w.message.messageId).Nodup) (hsent : ∀ w ∈ sent, w ∈ written)
    (hsorted : ∀ w ∈ sorted, w ∈ written)
    (h : List.Forall₂ (Delivered second) sent (sorted.map (readAs parsed))) : sent = sorted := by
  rw [List.forall₂_map_right_iff] at h
  induction h with
  | nil => rfl
  | @cons w w' sent sorted hw _ ih =>
    rw [List.forall_mem_cons] at hsent hsorted
    have hid : w = w' := by
      apply List.inj_on_of_nodup_map hids hsent.1 hsorted.1
      exact hw.1.symm
    rw [hid, ih hsent.2 hsorted.2]

/-- A chat shows the messages in the order of sending exactly if sorting them by their seconds
puts them in that order. -/
theorem inOrder_iff_increasing (hmono : SecondAdvances second) (hown : formatter.ParsesOwn second)
    (hwrites : formatter.WritesSeconds second)
    {earlier : List (List (Written Date Settings))} {written : List (Written Date Settings)}
    (hids : (written.map fun w => w.message.messageId).Nodup)
    (hsettings : ∀ w ∈ written, w.settings = reader)
    (hgrow : ∀ snapshot ∈ earlier, ∀ w ∈ snapshot, w ∈ written) :
    InOrder second written (ChatViewController.messages formatter reader (earlier ++ [written])) ↔
      (sortedByKey (fun w : Written Date Settings => second w.date) written).Pairwise
        fun w w' => w.date < w'.date := by
  obtain ⟨parsed, hparsed⟩ := exists_parsed hown reader
  have hperm := sortedByKey_perm (fun w : Written Date Settings => second w.date) written
  rw [messages_eq hmono hwrites hparsed hsettings hgrow]
  constructor
  · rintro ⟨sent, hsent, hincreasing, hdelivered⟩
    have heq := eq_of_delivered hids (fun w => hsent.mem_iff.mp) (fun w => hperm.mem_iff.mp)
      hdelivered
    exact heq ▸ hincreasing
  · intro hincreasing
    exact ⟨_, hperm, hincreasing, delivered_readAs (fun date => (hparsed date).2) _⟩

/-- A chat shows the messages in the order of sending exactly if the last snapshot lists no two
of one second against it. -/
theorem inOrder_iff (hmono : SecondAdvances second) (hown : formatter.ParsesOwn second)
    (hwrites : formatter.WritesSeconds second)
    {earlier : List (List (Written Date Settings))} {written : List (Written Date Settings)}
    (hids : (written.map fun w => w.message.messageId).Nodup)
    (hdates : written.Pairwise fun w w' => w.date ≠ w'.date)
    (hsettings : ∀ w ∈ written, w.settings = reader)
    (hgrow : ∀ snapshot ∈ earlier, ∀ w ∈ snapshot, w ∈ written) :
    InOrder second written (ChatViewController.messages formatter reader (earlier ++ [written])) ↔
      TiesInOrder second written := by
  rw [inOrder_iff_increasing hmono hown hwrites hids hsettings hgrow, TiesInOrder]
  apply sortedByKey_increasing_iff _ hdates
  intro w w' hle
  exact hmono hle

end Order

/-! ### Two messages of one second -/

/-- A clock in half seconds, written to the second. -/
def halfSeconds : DateFormatter Nat Unit where
  string _ date := String.ofList (List.replicate (date / 2) '+')
  date _ text := some (2 * text.length)

/-- The second of a date on it. -/
def halfSecond (date : Nat) : Int := (date / 2 : Nat)

private theorem halfSecond_advances : SecondAdvances halfSecond := by
  intro d d' hle
  exact Int.ofNat_le.mpr (Nat.div_le_div_right hle)

private theorem parsesOwn_halfSeconds : halfSeconds.ParsesOwn halfSecond := by
  intro settings date
  refine ⟨_, rfl, ?_⟩
  simp only [halfSeconds, halfSecond, String.length_ofList, List.length_replicate]
  omega

private theorem writesSeconds_halfSeconds : halfSeconds.WritesSeconds halfSecond := by
  intro settings d d' heq
  have hnat : d / 2 = d' / 2 := Int.ofNat.inj heq
  simp only [halfSeconds, hnat]

/-- A question and its answer, half a second apart. -/
def asked (date : Nat) : Written Nat Unit := .sent () date (User.signedUp "a") "m" "Where are you?"

/-- The answer. -/
def answered (date : Nat) : Written Nat Unit := .sent () date (User.signedUp "b") "n" "Here"

/-- The condition holds where the two are sent in different seconds. -/
theorem inOrder_seconds_apart :
    InOrder halfSecond [answered 2, asked 1]
      (ChatViewController.messages halfSeconds () ([[asked 1]] ++ [[answered 2, asked 1]])) := by
  refine (inOrder_iff halfSecond_advances parsesOwn_halfSeconds writesSeconds_halfSeconds
    (by decide) (by decide) (by decide) ?_).mpr ?_
  · intro snapshot hs w hw
    rw [List.mem_singleton.mp hs] at hw
    exact List.mem_cons_of_mem _ hw
  · unfold TiesInOrder
    decide

/-- The answer is shown first where both are sent in one second. -/
theorem not_inOrder :
    ¬ ∀ (Date Settings : Type) [LinearOrder Date] (formatter : DateFormatter Date Settings)
      (second : Date → Int) (reader : Settings) (written : List (Written Date Settings)),
      SecondAdvances second → formatter.ParsesOwn second → formatter.WritesSeconds second →
      (written.map fun w => w.message.messageId).Nodup →
      written.Pairwise (fun w w' => w.date ≠ w'.date) → (∀ w ∈ written, w.settings = reader) →
      InOrder second written (ChatViewController.messages formatter reader [written]) := by
  intro hall
  have h := hall Nat Unit halfSeconds halfSecond () [answered 1, asked 0] halfSecond_advances
    parsesOwn_halfSeconds writesSeconds_halfSeconds (by decide) (by decide) (by decide)
  have hgrow : ∀ snapshot ∈ ([] : List (List (Written Nat Unit))), ∀ w ∈ snapshot,
      w ∈ [answered 1, asked 0] := nofun
  rw [← List.nil_append [[answered 1, asked 0]], inOrder_iff_increasing halfSecond_advances
    parsesOwn_halfSeconds writesSeconds_halfSeconds (by decide) (by decide) hgrow] at h
  -- The two have the same second, so the answer stays first.
  have hsub : List.Sublist [answered 1, asked 0]
      (sortedByKey (fun w : Written Nat Unit => halfSecond w.date) [answered 1, asked 0]) :=
    sublist_sortedByKey (by decide) (List.Sublist.refl _)
  exact absurd (List.pairwise_iff_forall_sublist.mp h hsub) (by decide)

end Written
end Chat
end Formatter

end DriveTribe
