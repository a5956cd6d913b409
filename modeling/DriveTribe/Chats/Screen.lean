import DriveTribe.Base.Rows
import DriveTribe.Base.Run
import DriveTribe.Carpools.Order
import DriveTribe.Pictures.Storage
import Mathlib.Data.List.Dedup
import Mathlib.Data.List.Perm.Subperm

/-!
# The chat screen

`ChatViewController.swift:26–137`, `:190–241`. A snapshot replaces the messages at once, but the
collection view learns of it only when the picture of a sender has arrived, or has failed to: the
reload waits for that, and then for the main queue. In between the collection view asks for the
sections it knows of, of the messages there are by now.
-/

namespace DriveTribe

open Base

/-- The screen. `sections` is what the collection view was told when it last reloaded, `reads` are
the senders whose pictures have been asked for, and `main` counts the blocks on the main queue. -/
structure ChatScreen (Date Image : Type) where
  messages : List (Message Date) := []
  sections : Nat := 0
  imageCache : String → Option Image := fun _ => none
  spinner : Bool := false
  reads : List String := []
  main : Nat := 0

/-- What can happen to the screen next. -/
inductive ChatScreenEvent (Date Image : Type) where
  /-- The listener delivers a snapshot; `uniqueIds` lists its senders. -/
  | snapshot (result : Except NetworkError (List (Message Date))) (uniqueIds : List String)
  /-- The `i`-th picture that was asked for is answered. -/
  | pictured (i : Nat) (result : Except NetworkError Image)
  /-- The main queue runs its next block. -/
  | runMain
  /-- The collection view asks for its sections anew. -/
  | layout
  /-- The system empties a place of the cache. -/
  | evict (id : String)

namespace ChatScreenEvent
variable {Date Image : Type}

/-- The messages that are delivered. -/
def messages? : ChatScreenEvent Date Image → Option (List (Message Date))
  | .snapshot (.ok messages) _ => some messages
  | _ => none

/-- The listener delivers something. -/
def IsSnapshot : ChatScreenEvent Date Image → Prop
  | .snapshot _ _ => True
  | _ => False

end ChatScreenEvent

namespace ChatScreen
variable {Date Image : Type} [LinearOrder Date]

/-- The chat is opened. `ChatViewController.swift:54–56`, `:73`. -/
def viewDidLoad : ChatScreen Date Image := { spinner := true }

/-- `ChatViewController.swift:202–204`. -/
def numberOfSections (s : ChatScreen Date Image) : Nat := s.messages.length

/-- `ChatViewController.swift:198–200`; `none` is a subscript out of range. -/
def messageForItem (s : ChatScreen Date Image) (i : Nat) : Option (Message Date) := s.messages[i]?

/-- Ask for the number of sections. -/
def reloadData (s : ChatScreen Date Image) : ChatScreen Date Image :=
  { s with sections := s.numberOfSections }

/-- A snapshot is delivered. `ChatViewController.swift:75–115`. -/
def deliver (s : ChatScreen Date Image) (result : Except NetworkError (List (Message Date)))
    (uniqueIds : List String) : ChatScreen Date Image :=
  match result with
  | .error _ => { s with spinner := false }
  | .ok messages =>
    if messages.isEmpty then { s with spinner := false }
    else { s with
      messages := ChatViewController.listenForMessages s.messages messages
      reads := s.reads ++ uniqueIds }

/-- A picture is answered: it is cached if there is one, and a reload is due either way.
`ChatViewController.swift:125–135`. -/
def pictured (s : ChatScreen Date Image) (id : String) (result : Except NetworkError Image) :
    ChatScreen Date Image :=
  match result with
  | .ok image =>
    { s with imageCache := Function.update s.imageCache id (some image), main := s.main + 1 }
  | .error _ => { s with main := s.main + 1 }

/-- The senders of a snapshot, in whatever order the set of them has.
`ChatViewController.swift:120–121`. -/
def Senders (result : Except NetworkError (List (Message Date))) (uniqueIds : List String) : Prop :=
  match result with
  | .error _ => uniqueIds = []
  | .ok messages => uniqueIds.Perm (messages.map fun message => message.sender.senderId).dedup

instance : ∀ (result : Except NetworkError (List (Message Date))) (uniqueIds : List String),
    Decidable (Senders result uniqueIds)
  | .error _, uniqueIds => inferInstanceAs (Decidable (uniqueIds = []))
  | .ok _, uniqueIds => inferInstanceAs (Decidable (uniqueIds.Perm _))

/-- One event. -/
def step (s : ChatScreen Date Image) : ChatScreenEvent Date Image → Option (ChatScreen Date Image)
  | .snapshot result uniqueIds =>
    if Senders result uniqueIds then some (s.deliver result uniqueIds) else none
  | .pictured i result =>
    match s.reads[i]? with
    | none => none
    | some id => some ({ s with reads := s.reads.eraseIdx i }.pictured id result)
  | .runMain =>
    match s.main with
    | 0 => none
    | n + 1 => some { s with main := n, spinner := false, sections := s.numberOfSections }
  | .layout => some s.reloadData
  | .evict id => some { s with imageCache := Function.update s.imageCache id none }

/-- Every section the collection view may ask for is there. -/
def Safe (s : ChatScreen Date Image) : Prop := ∀ i < s.sections, (s.messageForItem i).isSome

instance (s : ChatScreen Date Image) : Decidable s.Safe := Nat.decidableBallLT _ _

/-- A snapshot with messages has one for every section the collection view knows of. -/
def Covers (s : ChatScreen Date Image) : ChatScreenEvent Date Image → Prop
  | .snapshot (.ok messages) _ => messages = [] ∨ s.sections ≤ messages.length
  | _ => True

instance (s : ChatScreen Date Image) : ∀ ev, Decidable (s.Covers ev)
  | .snapshot (.ok messages) _ =>
    decidable_of_iff (messages.isEmpty ∨ s.sections ≤ messages.length)
      (or_congr_left List.isEmpty_iff)
  | .snapshot (.error _) _ | .pictured _ _ | .runMain | .layout | .evict _ => .isTrue True.intro

section Step
variable {s t : ChatScreen Date Image} {ev : ChatScreenEvent Date Image}

omit [LinearOrder Date] in
/-- The sections are there if there are as many messages. -/
theorem safe_iff : s.Safe ↔ s.sections ≤ s.messages.length := forall_isSome_getElem?_iff

/-- A delivery with messages replaces them by as many, and asks for a picture; any other delivery
ends the spinner. -/
theorem deliver_cases (s : ChatScreen Date Image)
    (result : Except NetworkError (List (Message Date))) (uniqueIds : List String) :
    (s.deliver result uniqueIds = { s with spinner := false } ∧
        ∀ messages, result = .ok messages → messages = []) ∨
      ∃ messages, result = .ok messages ∧ messages ≠ [] ∧
        s.deliver result uniqueIds = { s with
          messages := ChatViewController.listenForMessages s.messages messages
          reads := s.reads ++ uniqueIds } := by
  cases result with
  | error error => exact .inl ⟨rfl, fun messages h => by cases h⟩
  | ok messages =>
    cases messages with
    | nil =>
      refine .inl ⟨rfl, fun messages h => ?_⟩
      cases h
      rfl
    | cons message messages => exact .inr ⟨_, rfl, List.cons_ne_nil _ _, rfl⟩

omit [LinearOrder Date] in
/-- The answer to a picture touches the cache and the main queue alone. -/
theorem pictured_eq (s : ChatScreen Date Image) (id : String)
    (result : Except NetworkError Image) :
    ∃ imageCache, s.pictured id result = { s with imageCache, main := s.main + 1 } := by
  cases result with
  | error error => exact ⟨s.imageCache, rfl⟩
  | ok image => exact ⟨_, rfl⟩

private theorem length_listenForMessages (earlier : List (Message Date))
    {messages : List (Message Date)} (h : messages ≠ []) :
    (ChatViewController.listenForMessages earlier messages).length = messages.length := by
  rw [ChatViewController.listenForMessages, if_neg (by rwa [List.isEmpty_iff]), sorted,
    List.length_mergeSort]

/-- A new chat shows all that is delivered. -/
theorem listenForMessages_nil_perm (messages : List (Message Date)) :
    (ChatViewController.listenForMessages [] messages).Perm messages := by
  cases messages with
  | nil => exact .refl _
  | cons message messages => exact sortedByKey_perm Message.sentDate _

/-- It shows them by their dates. -/
theorem listenForMessages_nil_pairwise (messages : List (Message Date)) :
    (ChatViewController.listenForMessages [] messages).Pairwise fun message message2 =>
      message.sentDate ≤ message2.sentDate := by
  cases messages with
  | nil => exact .nil
  | cons message messages =>
    refine List.pairwise_iff_forall_sublist.mpr fun {a b} hsub => ?_
    have hsub : List.Sublist [a, b] (sortedByKey Message.sentDate (message :: messages)) := hsub
    exact key_le_of_sublist hsub

/-- A delivery of no less than before leaves what a new chat would show. -/
theorem listenForMessages_of_subperm {messages messages' : List (Message Date)}
    (h : messages.Subperm messages') :
    ChatViewController.listenForMessages (ChatViewController.listenForMessages [] messages)
        messages' = ChatViewController.listenForMessages [] messages' := by
  cases messages' with
  | nil =>
    obtain rfl := List.subperm_nil.mp h
    rfl
  | cons message messages' => rfl

omit [LinearOrder Date] in
/-- Only a snapshot with messages can fail to cover the sections. -/
theorem covers_of_messages?_eq_none (hev : ev.messages? = none) : s.Covers ev := by
  cases ev with
  | snapshot result uniqueIds =>
    cases result with
    | error error => exact True.intro
    | ok messages => cases hev
  | pictured _ _ | runMain | layout | evict _ => exact True.intro

/-- A step from a safe screen leads to a safe one exactly if a snapshot covers the sections. -/
theorem safe_step_iff (h : s.Safe) (hstep : s.step ev = some t) : t.Safe ↔ s.Covers ev := by
  rw [safe_iff] at h ⊢
  cases ev with
  | layout =>
    cases hstep
    exact iff_of_true (Nat.le_refl _) True.intro
  | evict id =>
    cases hstep
    exact iff_of_true h True.intro
  | runMain =>
    simp only [step] at hstep
    split at hstep <;> cases hstep
    exact iff_of_true (Nat.le_refl _) True.intro
  | pictured i result =>
    simp only [step] at hstep
    split at hstep <;> cases hstep
    next id _ =>
    obtain ⟨imageCache, heq⟩ := pictured_eq { s with reads := s.reads.eraseIdx i } id result
    rw [heq]
    exact iff_of_true h True.intro
  | snapshot result uniqueIds =>
    simp only [step, Option.ite_none_right_eq_some, Option.some.injEq] at hstep
    obtain ⟨-, rfl⟩ := hstep
    rcases s.deliver_cases result uniqueIds with ⟨heq, hempty⟩ | ⟨messages, rfl, hne, heq⟩
    · rw [heq]
      refine iff_of_true h ?_
      cases result with
      | error error => exact True.intro
      | ok messages => exact .inl (hempty messages rfl)
    · rw [heq, length_listenForMessages s.messages hne]
      simp only [Covers, hne, false_or]

/-- What an event leaves of the messages. -/
theorem messages_step (hstep : s.step ev = some t) :
    t.messages =
      ev.messages?.elim s.messages (ChatViewController.listenForMessages s.messages) := by
  cases ev with
  | layout | evict id =>
    cases hstep
    rfl
  | runMain =>
    simp only [step] at hstep
    split at hstep <;> cases hstep
    rfl
  | pictured i result =>
    simp only [step] at hstep
    split at hstep <;> cases hstep
    next id _ =>
    obtain ⟨imageCache, heq⟩ := pictured_eq { s with reads := s.reads.eraseIdx i } id result
    rw [heq]
    rfl
  | snapshot result uniqueIds =>
    simp only [step, Option.ite_none_right_eq_some, Option.some.injEq] at hstep
    obtain ⟨-, rfl⟩ := hstep
    rcases s.deliver_cases result uniqueIds with ⟨heq, hempty⟩ | ⟨messages, rfl, hne, heq⟩
    · rw [heq]
      cases result with
      | error error => rfl
      | ok messages =>
        obtain rfl := hempty messages rfl
        rfl
    · rw [heq]
      rfl

/-- A cached picture was cached before, or has just been delivered for the user. -/
theorem imageCache_step (hstep : s.step ev = some t) {id : String} {image : Image}
    (himage : t.imageCache id = some image) :
    s.imageCache id = some image ∨ ∃ i, ev = .pictured i (.ok image) ∧ s.reads[i]? = some id := by
  cases ev with
  | layout =>
    cases hstep
    exact .inl himage
  | evict id' =>
    cases hstep
    by_cases hid : id = id'
    · subst hid
      simp only [Function.update_self, reduceCtorEq] at himage
    · exact .inl (by simpa only [Function.update_of_ne hid] using himage)
  | runMain =>
    simp only [step] at hstep
    split at hstep <;> cases hstep
    exact .inl himage
  | pictured i result =>
    simp only [step] at hstep
    split at hstep <;> cases hstep
    next id' hread =>
    cases result with
    | error error => exact .inl himage
    | ok new =>
      by_cases hid : id = id'
      · subst hid
        simp only [pictured, Function.update_self, Option.some.injEq] at himage
        exact .inr ⟨i, himage ▸ rfl, hread⟩
      · exact .inl (by simpa only [pictured, Function.update_of_ne hid] using himage)
  | snapshot result uniqueIds =>
    simp only [step, Option.ite_none_right_eq_some, Option.some.injEq] at hstep
    obtain ⟨-, rfl⟩ := hstep
    rcases s.deliver_cases result uniqueIds with ⟨heq, -⟩ | ⟨messages, -, -, heq⟩ <;>
      rw [heq] at himage <;> exact .inl himage

/-- While the screen is shown, every section that is asked for is there, exactly if no snapshot
with messages has fewer of them than the collection view knows of; an empty one is ignored. -/
theorem sections_there_iff (es : List (ChatScreenEvent Date Image)) :
    AllStates step Safe (viewDidLoad : ChatScreen Date Image) es ↔
      AllSteps step Covers (viewDidLoad : ChatScreen Date Image) es :=
  allStates_iff_allSteps (I := fun _ => True) (fun _ _ _ _ _ => True.intro)
    (fun _ _ _ _ hs ht => safe_step_iff hs ht) True.intro
    (safe_iff.mpr (Nat.le_refl 0)) es

end Step

/-! ### At rest -/

omit [LinearOrder Date] in
/-- Messages have senders. -/
theorem ne_nil_of_senders {messages : List (Message Date)} {uniqueIds : List String}
    (h : Senders (.ok messages) uniqueIds) (hne : messages ≠ []) : uniqueIds ≠ [] := by
  rintro rfl
  have hnone : (messages.map fun message => message.sender.senderId).dedup = [] :=
    List.nil_perm.mp h
  obtain ⟨message, hmessage⟩ := List.exists_mem_of_ne_nil messages hne
  have hsender := List.mem_dedup.mpr
    (List.mem_map_of_mem (f := fun message => message.sender.senderId) hmessage)
  rw [hnone] at hsender
  cases hsender

/-- The messages that the deliveries among the events leave. -/
def delivered (es : List (ChatScreenEvent Date Image)) : List (Message Date) :=
  (es.filterMap ChatScreenEvent.messages?).foldl ChatViewController.listenForMessages []

/-- What holds after the events `es`: where the collection view or the spinner is behind, a
picture or a block on the main queue is still due. -/
structure Due (es : List (ChatScreenEvent Date Image)) (s : ChatScreen Date Image) : Prop where
  messages : s.messages = delivered es
  sections : s.sections = s.messages.length ∨ s.reads ≠ [] ∨ 0 < s.main
  spinner : s.spinner = true → (∀ ev ∈ es, ¬ ev.IsSnapshot) ∨ s.reads ≠ [] ∨ 0 < s.main
  unopened : (∀ ev ∈ es, ¬ ev.IsSnapshot) → s.spinner = true ∧ s.reads = [] ∧ s.main = 0

section Rest
variable {es : List (ChatScreenEvent Date Image)} {s t : ChatScreen Date Image}

private theorem messages_delivered (h : s.messages = delivered es) {ev : ChatScreenEvent Date Image}
    (hstep : s.step ev = some t) : t.messages = delivered (es ++ [ev]) := by
  rw [messages_step hstep, delivered, List.filterMap_append, List.foldl_append, ← delivered, ← h]
  cases hmessages : ev.messages? with
  | none =>
    rw [List.filterMap_cons_none hmessages]
    rfl
  | some messages =>
    rw [List.filterMap_cons_some hmessages]
    rfl

/-- A step that is no snapshot leaves what was due, or sees to it. -/
theorem due_concat {ev : ChatScreenEvent Date Image} (hev : ¬ ev.IsSnapshot)
    (hmessages : t.messages = delivered (es ++ [ev]))
    (hsections : t.sections = t.messages.length ∨ t.reads ≠ [] ∨ 0 < t.main)
    (hspinner : t.spinner = true →
      (∀ ev ∈ es, ¬ ev.IsSnapshot) ∨ t.reads ≠ [] ∨ 0 < t.main)
    (hunopened : (∀ ev ∈ es, ¬ ev.IsSnapshot) → t.spinner = true ∧ t.reads = [] ∧ t.main = 0) :
    t.Due (es ++ [ev]) where
  messages := hmessages
  sections := hsections
  spinner hon := by
    refine (hspinner hon).imp_left fun hall => ?_
    intro x hx
    rcases List.mem_append.mp hx with hx | hx
    · exact hall x hx
    · exact List.mem_singleton.mp hx ▸ hev
  unopened hall := hunopened fun x hx => hall x (List.mem_append_left _ hx)

/-- Every step keeps what is due in mind. -/
theorem Due.step (h : s.Due es) {ev : ChatScreenEvent Date Image} (hstep : s.step ev = some t) :
    t.Due (es ++ [ev]) := by
  have hmessages := messages_delivered h.messages hstep
  cases ev with
  | layout =>
    cases hstep
    exact due_concat id hmessages (.inl rfl) h.spinner h.unopened
  | evict id =>
    cases hstep
    exact due_concat (fun hev => hev) hmessages h.sections h.spinner h.unopened
  | runMain =>
    simp only [ChatScreen.step] at hstep
    split at hstep <;> cases hstep
    next n hmain =>
    refine due_concat id hmessages (.inl rfl) (fun hon => absurd hon Bool.false_ne_true)
      fun hall => ?_
    rw [(h.unopened hall).2.2] at hmain
    cases hmain
  | pictured i result =>
    simp only [ChatScreen.step] at hstep
    split at hstep <;> cases hstep
    next id hread =>
    obtain ⟨imageCache, heq⟩ := pictured_eq { s with reads := s.reads.eraseIdx i } id result
    rw [heq] at hmessages ⊢
    refine due_concat (fun hev => hev) hmessages (.inr (.inr (Nat.succ_pos _)))
      (fun _ => .inr (.inr (Nat.succ_pos _))) fun hall => ?_
    rw [(h.unopened hall).2.1] at hread
    cases hread
  | snapshot result uniqueIds =>
    simp only [ChatScreen.step, Option.ite_none_right_eq_some, Option.some.injEq] at hstep
    obtain ⟨hsenders, rfl⟩ := hstep
    have hlast : ¬ ∀ ev ∈ es ++ [ChatScreenEvent.snapshot result uniqueIds], ¬ ev.IsSnapshot :=
      fun hall => hall _ (List.mem_append_right _ List.mem_cons_self) True.intro
    rcases s.deliver_cases result uniqueIds with ⟨heq, -⟩ | ⟨messages, rfl, hne, heq⟩
    · rw [heq] at hmessages ⊢
      exact ⟨hmessages, h.sections, fun hon => absurd hon Bool.false_ne_true,
        fun hall => absurd hall hlast⟩
    · have hreads : s.reads ++ uniqueIds ≠ [] := by
        intro hnil
        exact ne_nil_of_senders hsenders hne (List.append_eq_nil_iff.mp hnil).2
      rw [heq] at hmessages ⊢
      exact ⟨hmessages, .inr (.inl hreads), fun _ => .inr (.inl hreads),
        fun hall => absurd hall hlast⟩

/-- When the chat is opened nothing is due. -/
theorem due_viewDidLoad : Due [] (viewDidLoad : ChatScreen Date Image) where
  messages := rfl
  sections := .inl rfl
  spinner _ := .inl fun _ hx => (List.not_mem_nil hx).elim
  unopened _ := ⟨rfl, rfl, rfl⟩

/-- Once every picture has been answered and the main queue is empty, the collection view knows of
every message of the last snapshot that had any, sorted by date; and the spinner is gone unless
nothing was delivered at all. -/
theorem shown_at_rest (hrun : run ChatScreen.step viewDidLoad es = some s) (hreads : s.reads = [])
    (hmain : s.main = 0) :
    s.messages = delivered es ∧
      s.sections = s.numberOfSections ∧
      (s.spinner = true ↔ ∀ ev ∈ es, ¬ ev.IsSnapshot) := by
  have hdue : s.Due es := run_induction (motive := fun es s => s.Due es) due_viewDidLoad
    (fun _ _ _ _ _ h ht => h.step ht) hrun
  have hnone : ¬ (s.reads ≠ [] ∨ 0 < s.main) := by
    rintro (hpending | hpending)
    · exact hpending hreads
    · exact absurd hmain hpending.ne'
  refine ⟨hdue.messages, hdue.sections.resolve_right hnone, fun hon => ?_, fun hall => ?_⟩
  · exact (hdue.spinner hon).resolve_right hnone
  · exact (hdue.unopened hall).1

end Rest

/-- Two messages are delivered, and only one of their senders has a picture. -/
def onePicture : List (ChatScreenEvent Nat String) :=
  [.snapshot (.ok [⟨⟨"", "b", "Ben"⟩, "1", 5, .text "hi"⟩, ⟨⟨"", "a", "Ann"⟩, "2", 3, .text "ho"⟩])
      ["a", "b"],
    .pictured 0 (.ok "ann.jpeg"), .layout, .pictured 0 (.error .noData), .runMain, .runMain]

/-- The chat is shown all the same, and the spinner is gone. -/
theorem shown_at_rest_onePicture :
    ∃ s, run ChatScreen.step viewDidLoad onePicture = some s ∧
      s.messages = delivered onePicture ∧
      s.sections = s.numberOfSections ∧ s.spinner = false := by
  have hrun : ∃ s, run ChatScreen.step viewDidLoad onePicture = some s ∧ s.reads = [] ∧
      s.main = 0 := ⟨_, rfl, rfl, rfl⟩
  obtain ⟨s, hrun, hreads, hmain⟩ := hrun
  obtain ⟨hmessages, hsections, hspinner⟩ := shown_at_rest hrun hreads hmain
  refine ⟨s, hrun, hmessages, hsections, Bool.eq_false_iff.mpr fun hon => ?_⟩
  exact hspinner.mp hon _ List.mem_cons_self True.intro

end ChatScreen

end DriveTribe
