import DriveTribe.Accounts.NewAccounts
import DriveTribe.Carpools.Membership
import DriveTribe.Deletion.System

/-!
# Accounts and documents

An account and its document are created one after the other, and deleted by two requests side
by side. Where one of the two fails the other is not undone. So while nothing is asked for, an
account is without its document, or a document without its account, unless whatever succeeded
or failed had its counterpart.
-/

namespace DriveTribe

open Base

/-- The account that a document names. -/
def Users.account? (users : Users) (id : UserID) : Option String :=
  (users id).bind UserDocument.authID

private theorem Users.account?_setData (users : Users) (id : UserID) (d : UserDocument)
    (id' : UserID) :
    Users.account? (setData users id d) id' =
      if id' = id then d.authID else users.account? id' := by
  by_cases h : id' = id
  · rw [h, Users.account?, setData_self, if_pos rfl, Option.bind_some]
  · rw [Users.account?, setData_of_ne _ _ h, if_neg h, Users.account?]

private theorem Users.account?_deleteDocument (users : Users) (id id' : UserID) :
    Users.account? (deleteDocument users id) id' =
      if id' = id then none else users.account? id' := by
  by_cases h : id' = id
  · rw [h, Users.account?, deleteDocument_self, if_pos rfl, Option.bind_none]
  · rw [Users.account?, deleteDocument_of_ne _ h, if_neg h, Users.account?]

namespace Task

/-- The new account whose document is to be created. -/
def account? : Task → Option NewAccount
  | createUser account => some account
  | createAccount _ _ _ | groups _ | carpool _ _ | writeCarpool _ | archive _ | deleteDocument _
  | deleteAccount _ => none

/-- The document that is to be deleted. -/
def document? : Task → Option UserID
  | deleteDocument user => some user.uuid
  | createAccount _ _ _ | createUser _ | groups _ | carpool _ _ | writeCarpool _ | archive _
  | deleteAccount _ => none

end Task

namespace Backend

/-- Accounts and documents correspond one to one. -/
structure Matched (s : Backend) : Prop where
  accounts : ∀ authID ∈ s.accounts, ∃! id, s.users.account? id = some authID
  documents : ∀ id, s.users id ≠ none → ∃ authID ∈ s.accounts, s.users.account? id = some authID

/-- The new accounts whose documents are not created yet. -/
def creations (s : Backend) : List NewAccount := s.pending.filterMap fun x => x.task.account?

/-- The documents that name an account. -/
def documents (s : Backend) (authID : String) : List UserID :=
  s.usedIDs.filter fun id => s.users.account? id = some authID

/-- The deletion of the document is asked for. -/
def DeletesDocument (s : Backend) (id : UserID) : Prop :=
  ∃ x ∈ s.pending, x.task.document? = some id

/-- The deletion of the account is asked for. -/
def DeletesAccount (s : Backend) (authID : String) : Prop :=
  ∃ x ∈ s.pending, x.task = .deleteAccount authID

/-- What is asked for without the `i`-th request. -/
def without (s : Backend) (i : Nat) : Backend := { s with pending := s.pending.eraseIdx i }

/-- The request may succeed: what it deletes has no counterpart, or one whose deletion is asked
for. -/
def MaySucceed (s : Backend) : Task → Prop
  | .deleteDocument user =>
    ∀ authID ∈ s.accounts, s.users.account? user.uuid = some authID → s.DeletesAccount authID
  | .deleteAccount authID =>
    (∀ id ∈ s.documents authID, s.DeletesDocument id) ∧ ∀ x ∈ s.creations, x.authID ≠ authID
  | .createAccount _ _ _ | .createUser _ | .groups _ | .carpool _ _ | .writeCarpool _
  | .archive _ => True

/-- The request may fail: no document is to be created, and what is to be deleted is gone, or has
its counterpart, or its deletion is asked for once more. -/
def MayFail (s : Backend) : Task → Prop
  | .createUser _ => False
  | .deleteDocument user =>
    s.users user.uuid = none ∨ (∃ authID ∈ s.accounts, s.users.account? user.uuid = some authID) ∨
      s.DeletesDocument user.uuid
  | .deleteAccount authID =>
    authID ∉ s.accounts ∨ s.documents authID ≠ [] ∨ (∃ x ∈ s.creations, x.authID = authID) ∨
      s.DeletesAccount authID
  | .createAccount _ _ _ | .groups _ | .carpool _ _ | .writeCarpool _ | .archive _ => True

/-- Whatever succeeds or fails may do so, by what is asked for besides. -/
def KeepsPairs (s : Backend) : BackendEvent → Prop
  | .succeed i => ∀ x ∈ s.pending[i]?, (s.without i).MaySucceed x.task
  | .fail i => ∀ x ∈ s.pending[i]?, (s.without i).MayFail x.task
  | _ => True

instance DeletesDocument.decidable (s : Backend) (id : UserID) : Decidable (s.DeletesDocument id) :=
  inferInstanceAs (Decidable (∃ x ∈ s.pending, x.task.document? = some id))

instance DeletesAccount.decidable (s : Backend) (authID : String) :
    Decidable (s.DeletesAccount authID) :=
  inferInstanceAs (Decidable (∃ x ∈ s.pending, x.task = .deleteAccount authID))

instance MaySucceed.decidable (s : Backend) : ∀ task, Decidable (s.MaySucceed task)
  | .deleteDocument user => inferInstanceAs (Decidable (∀ authID ∈ s.accounts,
      s.users.account? user.uuid = some authID → s.DeletesAccount authID))
  | .deleteAccount authID => inferInstanceAs (Decidable ((∀ id ∈ s.documents authID,
      s.DeletesDocument id) ∧ ∀ x ∈ s.creations, x.authID ≠ authID))
  | .createAccount _ _ _ | .createUser _ | .groups _ | .carpool _ _ | .writeCarpool _
  | .archive _ => inferInstanceAs (Decidable True)

instance MayFail.decidable (s : Backend) : ∀ task, Decidable (s.MayFail task)
  | .createUser _ => inferInstanceAs (Decidable False)
  | .deleteDocument user => inferInstanceAs (Decidable (s.users user.uuid = none ∨
      (∃ authID ∈ s.accounts, s.users.account? user.uuid = some authID) ∨
        s.DeletesDocument user.uuid))
  | .deleteAccount authID => inferInstanceAs (Decidable (authID ∉ s.accounts ∨
      s.documents authID ≠ [] ∨ (∃ x ∈ s.creations, x.authID = authID) ∨
        s.DeletesAccount authID))
  | .createAccount _ _ _ | .groups _ | .carpool _ _ | .writeCarpool _ | .archive _ =>
    inferInstanceAs (Decidable True)

instance KeepsPairs.decidable (s : Backend) : ∀ ev, Decidable (s.KeepsPairs ev)
  | .succeed i =>
    inferInstanceAs (Decidable (∀ x ∈ s.pending[i]?, (s.without i).MaySucceed x.task))
  | .fail i => inferInstanceAs (Decidable (∀ x ∈ s.pending[i]?, (s.without i).MayFail x.task))
  | .locate _ _ _ | .signUp _ _ _ _ | .signIn _ _ | .fetchCurrentUser _ _ | .logout _
  | .deleteUser _ | .accountCreated _ _ _ => inferInstanceAs (Decidable True)

/-- What holds while every step keeps the pairs: an account without a document is one whose
document is to be created or that is to be deleted, and a document without an account is to be
deleted. -/
structure Paired (s : Backend) : Prop where
  unwritten : Unwritten s.users s.usedIDs s.usedAuthIDs s.creations
  unique : ∀ id id' authID, s.users.account? id = some authID →
    s.users.account? id' = some authID → id = id'
  accounts : ∀ authID ∈ s.accounts, (∃ id, s.users.account? id = some authID) ∨
    (∃ x ∈ s.creations, x.authID = authID) ∨ s.DeletesAccount authID
  documents : ∀ id, s.users id ≠ none →
    (∃ authID ∈ s.accounts, s.users.account? id = some authID) ∨ s.DeletesDocument id
  creations : ∀ x ∈ s.creations, x.authID ∈ s.accounts

section Paired
variable {s t : Backend} {i : Nat} {x : Pending}

private theorem Paired.mem_documents (h : s.Paired) {id : UserID} {authID : String} :
    id ∈ s.documents authID ↔ s.users.account? id = some authID := by
  rw [Backend.documents, List.mem_filter, decide_eq_true_eq]
  constructor
  · exact And.right
  · intro ha
    refine ⟨h.unwritten.docs id ?_, ha⟩
    intro hnone
    rw [Users.account?, hnone] at ha
    cases ha

/-- While nothing is asked for, they correspond. -/
theorem Paired.matched (h : s.Paired) (hquiet : s.pending = []) : s.Matched := by
  have hcreations : s.creations = [] := by rw [Backend.creations, hquiet, List.filterMap_nil]
  constructor
  case accounts =>
    intro authID hmem
    rcases h.accounts authID hmem with ⟨id, ha⟩ | ⟨x, hx, -⟩ | ⟨x, hx, -⟩
    · exact ⟨id, ha, fun id' ha' => h.unique id' id authID ha' ha⟩
    · rw [hcreations] at hx
      cases hx
    · rw [hquiet] at hx
      cases hx
  case documents =>
    intro id hid
    rcases h.documents id hid with hthere | ⟨x, hx, -⟩
    · exact hthere
    · rw [hquiet] at hx
      cases hx

/-- What a client holds does not matter, nor does asking for anything but a new document. -/
theorem Paired.asked (h : s.Paired) {more : List Pending} (haccounts : t.accounts = s.accounts)
    (husers : t.users = s.users) (hids : t.usedIDs = s.usedIDs)
    (hauth : t.usedAuthIDs = s.usedAuthIDs) (hpending : t.pending = s.pending ++ more)
    (hmore : ∀ x ∈ more, x.task.account? = none) : t.Paired := by
  have hcreations : t.creations = s.creations := by
    rw [Backend.creations, hpending, List.filterMap_append, List.filterMap_eq_nil_iff.mpr hmore,
      List.append_nil]
    rfl
  have hkept : ∀ x ∈ s.pending, x ∈ t.pending := by
    intro x hx
    rw [hpending]
    exact List.mem_append_left _ hx
  constructor
  case unwritten =>
    rw [husers, hids, hauth, hcreations]
    exact h.unwritten
  case unique =>
    rw [husers]
    exact h.unique
  case accounts =>
    intro authID hmem
    rw [haccounts] at hmem
    rw [husers, hcreations]
    refine (h.accounts authID hmem).imp_right (Or.imp_right ?_)
    rintro ⟨x, hx, he⟩
    exact ⟨x, hkept x hx, he⟩
  case documents =>
    intro id hid
    rw [husers] at hid ⊢
    rw [haccounts]
    refine (h.documents id hid).imp_right ?_
    rintro ⟨x, hx, he⟩
    exact ⟨x, hkept x hx, he⟩
  case creations =>
    rw [hcreations, haccounts]
    exact h.creations

/-- Another document is still to be deleted. -/
theorem DeletesDocument.answered {id : UserID} (h : s.DeletesDocument id)
    (hx : s.pending[i]? = some x) (hne : x.task.document? ≠ some id)
    (hpending : t.pending = s.pending.eraseIdx i) : t.DeletesDocument id := by
  apply exists_pending (p := fun task => task.document? = some id) x.client [] h hx
  · rw [hpending, List.map_nil, List.append_nil]
  · exact fun he => absurd he hne

/-- Another account is still to be deleted. -/
theorem DeletesAccount.answered {authID : String} (h : s.DeletesAccount authID)
    (hx : s.pending[i]? = some x) (hne : x.task ≠ .deleteAccount authID)
    (hpending : t.pending = s.pending.eraseIdx i) : t.DeletesAccount authID := by
  apply exists_pending (p := fun task => task = .deleteAccount authID) x.client [] h hx
  · rw [hpending, List.map_nil, List.append_nil]
  · exact fun he => absurd he hne

private theorem creations_without (hx : s.pending[i]? = some x) :
    ∃ pre post : List NewAccount, s.creations = pre ++ (x.task.account?.toList ++ post) ∧
      (s.without i).creations = pre ++ post :=
  filterMap_eraseIdx hx fun y => y.task.account?

/-- A request that is no creation is answered: the same is to be created. -/
theorem creations_without_of_none (hx : s.pending[i]? = some x) (hnone : x.task.account? = none) :
    (s.without i).creations = s.creations := by
  obtain ⟨pre, post, hbefore, hafter⟩ := creations_without hx
  rw [hbefore, hafter, hnone]
  rfl

/-- A request that may fail fails, or is answered and changes neither accounts nor documents. -/
theorem Paired.without (h : s.Paired) (hx : s.pending[i]? = some x)
    (hmay : (s.without i).MayFail x.task) : (s.without i).Paired := by
  have hnone : x.task.account? = none := by
    cases hx : x.task with
    | createUser account =>
      rw [hx] at hmay
      exact hmay.elim
    | _ => rfl
  have hcreations := creations_without_of_none hx hnone
  constructor
  case unwritten =>
    rw [hcreations]
    exact h.unwritten
  case unique => exact h.unique
  case creations =>
    rw [hcreations]
    exact h.creations
  case accounts =>
    intro authID hmem
    rw [hcreations]
    rcases h.accounts authID hmem with hdoc | hcreation | hdelete
    · exact .inl hdoc
    · exact .inr (.inl hcreation)
    · by_cases he : x.task = .deleteAccount authID
      · rw [he, MayFail, hcreations] at hmay
        rcases hmay with hgone | hdoc | hcreation | hagain
        · exact absurd hmem hgone
        · obtain ⟨id, hid⟩ := List.exists_mem_of_ne_nil _ hdoc
          exact .inl ⟨id, h.mem_documents.mp hid⟩
        · exact .inr (.inl hcreation)
        · exact .inr (.inr hagain)
      · exact .inr (.inr (hdelete.answered hx he rfl))
  case documents =>
    intro id hid
    rcases h.documents id hid with hthere | hdelete
    · exact .inl hthere
    · by_cases he : x.task.document? = some id
      · cases htask : x.task with
        | deleteDocument user =>
          rw [htask] at he hmay
          cases he
          exact hmay.resolve_left hid
        | _ => rw [htask] at he; cases he
      · exact .inr (hdelete.answered hx he rfl)

/-- A new account is there, and its document is to be created. -/
theorem Paired.accountCreated (h : s.Paired) (account : NewAccount) {c : ClientID}
    (huuid : account.uuid ∉ s.usedIDs) (hauthID : account.authID ∉ s.usedAuthIDs)
    (haccounts : t.accounts = s.accounts ++ [account.authID]) (husers : t.users = s.users)
    (hids : t.usedIDs = s.usedIDs ++ [account.uuid])
    (hauth : t.usedAuthIDs = s.usedAuthIDs ++ [account.authID])
    (hpending : t.pending = s.pending ++ [⟨c, .createUser account⟩]) : t.Paired := by
  have hcreations : t.creations = s.creations ++ [account] := by
    rw [Backend.creations, hpending, List.filterMap_append]
    rfl
  have hkept : ∀ x ∈ s.pending, x ∈ t.pending := by
    intro x hx
    rw [hpending]
    exact List.mem_append_left _ hx
  constructor
  case unwritten =>
    rw [husers, hids, hauth, hcreations]
    exact h.unwritten.accountCreated huuid hauthID
  case unique =>
    rw [husers]
    exact h.unique
  case accounts =>
    intro authID hmem
    rw [haccounts] at hmem
    rw [husers, hcreations]
    rcases List.mem_append.mp hmem with hmem | hmem
    · rcases h.accounts authID hmem with hdoc | ⟨x, hx, he⟩ | ⟨x, hx, he⟩
      · exact .inl hdoc
      · exact .inr (.inl ⟨x, List.mem_append_left _ hx, he⟩)
      · exact .inr (.inr ⟨x, hkept x hx, he⟩)
    · have he := (List.mem_singleton.mp hmem).symm
      exact .inr (.inl ⟨account, List.mem_append_right _ (List.mem_singleton_self _), he⟩)
  case documents =>
    intro id hid
    rw [husers] at hid ⊢
    rw [haccounts]
    rcases h.documents id hid with ⟨authID, hmem, ha⟩ | ⟨x, hx, he⟩
    · exact .inl ⟨authID, List.mem_append_left _ hmem, ha⟩
    · exact .inr ⟨x, hkept x hx, he⟩
  case creations =>
    intro x hx
    rw [hcreations] at hx
    rw [haccounts]
    rcases List.mem_append.mp hx with hx | hx
    · exact List.mem_append_left _ (h.creations x hx)
    · rw [List.mem_singleton.mp hx]
      exact List.mem_append_right _ (List.mem_singleton_self _)

private theorem Paired.userCreated (h : s.Paired) {account : NewAccount} {c : ClientID}
    (hx : s.pending[i]? = some ⟨c, .createUser account⟩) (haccounts : t.accounts = s.accounts)
    (husers : t.users = setData s.users account.uuid account.document)
    (hids : t.usedIDs = s.usedIDs) (hauth : t.usedAuthIDs = s.usedAuthIDs)
    (hpending : t.pending = s.pending.eraseIdx i) : t.Paired := by
  obtain ⟨pre, post, hbefore, hafter⟩ := creations_without hx
  have hbefore : s.creations = pre ++ account :: post := hbefore
  have hcreations : t.creations = pre ++ post := by
    rw [Backend.creations, hpending]
    exact hafter
  have hunwritten := h.unwritten
  rw [hbefore] at hunwritten
  have hmem : account ∈ s.creations := by
    rw [hbefore]
    exact List.mem_append_right _ (List.mem_cons_self ..)
  have hsub : ∀ y ∈ t.creations, y ∈ s.creations := by
    intro y hy
    rw [hcreations] at hy
    rw [hbefore]
    rcases List.mem_append.mp hy with hy | hy
    · exact List.mem_append_left _ hy
    · exact List.mem_append_right _ (List.mem_cons_of_mem _ hy)
  obtain ⟨-, -, hnone, hother⟩ := h.unwritten.unwritten account hmem
  have haccount : ∀ id, t.users.account? id =
      if id = account.uuid then some account.authID else s.users.account? id := by
    intro id
    rw [husers, Users.account?_setData]
    rfl
  have hnew : t.users.account? account.uuid = some account.authID := by
    rw [haccount, if_pos rfl]
  have hkeep : ∀ id authID, s.users.account? id = some authID →
      t.users.account? id = some authID := by
    intro id authID ha
    rw [haccount, if_neg]
    · exact ha
    · rintro rfl
      rw [Users.account?, hnone] at ha
      cases ha
  -- The account has no other document, so the new one is its only match.
  have hfresh : ∀ id, s.users.account? id ≠ some account.authID := by
    intro id ha
    obtain ⟨d, hd, hauthID⟩ := Option.bind_eq_some_iff.mp ha
    exact hother id d hd hauthID
  constructor
  case unwritten =>
    rw [hids, hauth, hcreations]
    apply hunwritten.created
    · rw [husers, setData_self]
    · intro id hid
      rw [husers, setData_of_ne _ _ hid]
  case unique =>
    intro id id' authID ha ha'
    rw [haccount] at ha ha'
    split at ha <;> split at ha'
    · next hid hid' => rw [hid, hid']
    · rw [← ha] at ha'
      exact absurd ha' (hfresh id')
    · rw [← ha'] at ha
      exact absurd ha (hfresh id)
    · exact h.unique id id' authID ha ha'
  case accounts =>
    intro authID hauthID
    rw [haccounts] at hauthID
    rcases h.accounts authID hauthID with ⟨id, ha⟩ | ⟨y, hy, he⟩ | hdelete
    · exact .inl ⟨id, hkeep id authID ha⟩
    · by_cases hyx : y = account
      · rw [hyx] at he
        exact .inl ⟨account.uuid, he ▸ hnew⟩
      · right
        left
        refine ⟨y, ?_, he⟩
        rw [hbefore, List.mem_append, List.mem_cons] at hy
        rw [hcreations, List.mem_append]
        exact hy.imp_right fun hy => hy.resolve_left hyx
    · exact .inr (.inr (hdelete.answered hx nofun hpending))
  case documents =>
    intro id hid
    rw [haccounts]
    by_cases he : id = account.uuid
    · exact .inl ⟨account.authID, h.creations account hmem, he ▸ hnew⟩
    · rw [husers, setData_of_ne _ _ he] at hid
      rcases h.documents id hid with ⟨authID, hauthID, ha⟩ | hdelete
      · exact .inl ⟨authID, hauthID, hkeep id authID ha⟩
      · exact .inr (hdelete.answered hx nofun hpending)
  case creations =>
    intro y hy
    rw [haccounts]
    exact h.creations y (hsub y hy)

/-- A document is deleted whose account is to be deleted, if it has one. -/
theorem Paired.documentDeleted (h : s.Paired) {user : User} {c : ClientID}
    (hx : s.pending[i]? = some ⟨c, .deleteDocument user⟩)
    (hmay : (s.without i).MaySucceed (.deleteDocument user)) (haccounts : t.accounts = s.accounts)
    (husers : t.users = deleteDocument s.users user.uuid) (hids : t.usedIDs = s.usedIDs)
    (hauth : t.usedAuthIDs = s.usedAuthIDs) (hpending : t.pending = s.pending.eraseIdx i) :
    t.Paired := by
  have hcreations : t.creations = s.creations := by
    rw [Backend.creations, hpending]
    exact creations_without_of_none hx rfl
  have haccount : ∀ id, t.users.account? id =
      if id = user.uuid then none else s.users.account? id := by
    intro id
    rw [husers, Users.account?_deleteDocument]
  have hold : ∀ id, t.users id ≠ none → id ≠ user.uuid ∧ t.users id = s.users id := by
    intro id hid
    have hne : id ≠ user.uuid := by
      rintro rfl
      apply hid
      rw [husers, deleteDocument_self]
    exact ⟨hne, by rw [husers, deleteDocument_of_ne _ hne]⟩
  constructor
  case unwritten =>
    rw [hids, hauth, hcreations]
    refine h.unwritten.of_docs (fun id d hd => ⟨d, ?_, rfl⟩) (List.Sublist.refl _)
    rw [← (hold id (hd ▸ Option.some_ne_none d)).2]
    exact hd
  case unique =>
    intro id id' authID ha ha'
    simp only [haccount, Option.ite_none_left_eq_some] at ha ha'
    exact h.unique id id' authID ha.2 ha'.2
  case accounts =>
    intro authID hmem
    rw [haccounts] at hmem
    rw [hcreations]
    rcases h.accounts authID hmem with ⟨id, ha⟩ | hcreation | hdelete
    · -- The account of the deleted document is to be deleted as well.
      by_cases hid : id = user.uuid
      · rw [hid] at ha
        obtain ⟨y, hy, he⟩ := hmay authID hmem ha
        exact .inr (.inr ⟨y, hpending ▸ hy, he⟩)
      · left
        refine ⟨id, ?_⟩
        rw [haccount, if_neg hid]
        exact ha
    · exact .inr (.inl hcreation)
    · exact .inr (.inr (hdelete.answered hx nofun hpending))
  case documents =>
    intro id hid
    obtain ⟨hne, hsame⟩ := hold id hid
    rw [hsame] at hid
    rw [haccounts, haccount, if_neg hne]
    rcases h.documents id hid with hthere | hdelete
    · exact .inl hthere
    · have hother : (Task.deleteDocument user).document? ≠ some id := by
        intro he
        cases he
        exact hne rfl
      exact .inr (hdelete.answered hx hother hpending)
  case creations =>
    rw [hcreations, haccounts]
    exact h.creations

/-- An account is deleted whose document is to be deleted, if it has one. -/
theorem Paired.accountDeleted (h : s.Paired) {authID : String} {c : ClientID}
    (hx : s.pending[i]? = some ⟨c, .deleteAccount authID⟩)
    (hmay : (s.without i).MaySucceed (.deleteAccount authID))
    (haccounts : t.accounts = s.accounts.filter (· ≠ authID)) (husers : t.users = s.users)
    (hids : t.usedIDs = s.usedIDs) (hauth : t.usedAuthIDs = s.usedAuthIDs)
    (hpending : t.pending = s.pending.eraseIdx i) : t.Paired := by
  have hcreations : t.creations = s.creations := by
    rw [Backend.creations, hpending]
    exact creations_without_of_none hx rfl
  have hmem : ∀ a, a ∈ t.accounts ↔ a ∈ s.accounts ∧ a ≠ authID := by
    intro a
    rw [haccounts, List.mem_filter, decide_eq_true_eq]
  constructor
  case unwritten =>
    rw [husers, hids, hauth, hcreations]
    exact h.unwritten
  case unique =>
    rw [husers]
    exact h.unique
  case accounts =>
    intro a ha
    obtain ⟨ha, hne⟩ := (hmem a).mp ha
    rw [husers, hcreations]
    rcases h.accounts a ha with hdoc | hcreation | hdelete
    · exact .inl hdoc
    · exact .inr (.inl hcreation)
    · have hother : Task.deleteAccount authID ≠ .deleteAccount a := by
        intro he
        cases he
        exact hne rfl
      exact .inr (.inr (hdelete.answered hx hother hpending))
  case documents =>
    intro id hid
    rw [husers] at hid ⊢
    rcases h.documents id hid with ⟨a, ha, he⟩ | hdelete
    · by_cases hne : a = authID
      · right
        rw [hne] at he
        obtain ⟨y, hy, hdocument⟩ := hmay.1 id (h.mem_documents.mpr he)
        exact ⟨y, hpending ▸ hy, hdocument⟩
      · exact .inl ⟨a, (hmem a).mpr ⟨ha, hne⟩, he⟩
    · exact .inr (hdelete.answered hx nofun hpending)
  case creations =>
    intro y hy
    rw [hcreations] at hy
    refine (hmem _).mpr ⟨h.creations y hy, hmay.2 y ?_⟩
    rw [creations_without_of_none hx rfl]
    exact hy

/-- A request that changes neither accounts nor documents is answered, and others are asked
for. -/
theorem Paired.answered (h : s.Paired) (hx : s.pending[i]? = some x)
    (hmay : (s.without i).MayFail x.task) {c : ClientID} {tasks : List Task}
    (htasks : ∀ task ∈ tasks, task.account? = none) : ((s.without i).ask c tasks).Paired := by
  refine (h.without hx hmay).asked rfl rfl rfl rfl rfl ?_
  intro y hy
  obtain ⟨task, htask, rfl⟩ := List.mem_map.mp hy
  exact htasks task htask

/-- A request succeeds. -/
theorem Paired.succeed (h : s.Paired) (hkeeps : s.KeepsPairs (.succeed i))
    (hstep : s.step (.succeed i) = some t) : t.Paired := by
  obtain ⟨⟨c, task⟩, hx, ht⟩ := step_succeed hstep
  have hmay := hkeeps _ hx
  cases task with
  | createAccount firstName lastName userName => cases ht
  | createUser account =>
    cases ht
    exact h.userCreated hx rfl rfl rfl rfl rfl
  | groups me =>
    cases ht
    refine h.answered hx True.intro ?_
    intro task htask
    obtain ⟨id, -, rfl⟩ := List.mem_map.mp htask
    rfl
  | carpool me id =>
    cases ht
    refine h.answered hx True.intro ?_
    intro task htask
    obtain ⟨carpool, -, hmem⟩ := List.mem_flatMap.mp htask
    obtain ⟨write, -, rfl⟩ := List.mem_map.mp hmem
    rfl
  | writeCarpool write =>
    obtain ⟨rides, -, rfl⟩ := Option.map_eq_some_iff.mp ht
    exact (h.without hx True.intro).asked rfl rfl rfl rfl (List.append_nil _).symm nofun
  | archive user =>
    cases ht
    refine (h.without hx True.intro).asked rfl rfl rfl rfl rfl ?_
    intro y hy
    obtain ⟨task, htask, rfl⟩ := List.mem_map.mp hy
    rcases List.mem_cons.mp htask with rfl | htask
    · rfl
    · obtain ⟨authID, -, rfl⟩ := List.mem_map.mp htask
      rfl
  | deleteDocument user =>
    cases ht
    exact h.documentDeleted hx hmay rfl rfl rfl rfl rfl
  | deleteAccount authID =>
    simp only [perform, Option.ite_none_right_eq_some, Option.some.injEq] at ht
    obtain ⟨-, rfl⟩ := ht
    exact h.accountDeleted hx hmay rfl rfl rfl rfl rfl

/-- Accounts and documents stay paired by every step that keeps them so. -/
theorem Paired.step (h : s.Paired) {ev : BackendEvent} (hkeeps : s.KeepsPairs ev)
    (hstep : s.step ev = some t) : t.Paired := by
  have hlocal : ∀ device c, (s.setDevice c device).Paired := fun device c =>
    h.asked rfl rfl rfl rfl (List.append_nil _).symm nofun
  cases ev with
  | locate c latitude longitude | logout c =>
    cases hstep
    exact hlocal _ c
  | signUp c firstName lastName userName =>
    simp only [Backend.step, Option.ite_none_right_eq_some, Option.some.injEq] at hstep
    obtain ⟨-, rfl⟩ := hstep
    refine h.asked rfl rfl rfl rfl rfl ?_
    intro y hy
    rw [List.map_singleton, List.mem_singleton] at hy
    rw [hy]
    rfl
  | signIn c authID =>
    simp only [Backend.step, Option.ite_none_right_eq_some, Option.some.injEq] at hstep
    obtain ⟨-, rfl⟩ := hstep
    exact hlocal _ c
  | fetchCurrentUser c id =>
    simp only [Backend.step] at hstep
    split at hstep
    · cases hstep
    · simp only [Option.ite_none_right_eq_some, Option.some.injEq] at hstep
      obtain ⟨-, rfl⟩ := hstep
      exact hlocal _ c
  | deleteUser c =>
    simp only [Backend.step] at hstep
    split at hstep
    · cases hstep
    · next me hme =>
      cases hstep
      refine h.asked rfl rfl rfl rfl rfl ?_
      intro y hy
      obtain ⟨task, htask, rfl⟩ := List.mem_map.mp hy
      rw [List.mem_cons, List.mem_singleton] at htask
      rcases htask with rfl | rfl
      · rfl
      · rfl
  | accountCreated i authID uuid =>
    simp only [Backend.step] at hstep
    split at hstep
    · next c firstName lastName userName hx =>
      simp only [Option.ite_none_right_eq_some, Option.some.injEq] at hstep
      obtain ⟨⟨hauthID, huuid⟩, rfl⟩ := hstep
      exact (h.without hx True.intro).accountCreated ⟨firstName, lastName, userName,
        (s.devices c).lastCurrentLocation, uuid, authID⟩ huuid hauthID rfl rfl rfl rfl rfl
    · cases hstep
  | succeed i => exact h.succeed hkeeps hstep
  | fail i =>
    obtain ⟨x, hx, rfl⟩ := step_fail hstep
    exact h.without hx (hkeeps x hx)

end Paired

/-- Where a run begins: nothing is asked for, and every account has its document. -/
structure Initial (s : Backend) : Prop where
  pending : s.pending = []
  matched : s.Matched
  usedIDs : ∀ id, s.users id ≠ none → id ∈ s.usedIDs
  usedAuthIDs : ∀ authID ∈ s.accounts, authID ∈ s.usedAuthIDs

/-- Then they are paired. -/
theorem Initial.paired {s : Backend} (h : s.Initial) : s.Paired where
  unwritten := by
    rw [creations, h.pending]
    apply Unwritten.of_nil h.usedIDs
    intro id d hd authID hauthID
    have hthere : s.users id ≠ none := by
      rw [hd]
      exact Option.some_ne_none d
    obtain ⟨authID', hmem, ha⟩ := h.matched.documents id hthere
    rw [Users.account?, hd, Option.bind_some, hauthID, Option.some.injEq] at ha
    exact h.usedAuthIDs authID (ha ▸ hmem)
  unique id id' authID ha ha' := by
    obtain ⟨d, hd, -⟩ := Option.bind_eq_some_iff.mp ha
    have hthere : s.users id ≠ none := by
      rw [hd]
      exact Option.some_ne_none d
    obtain ⟨authID', hmem, he⟩ := h.matched.documents id hthere
    rw [ha, Option.some.injEq] at he
    exact (h.matched.accounts authID (he ▸ hmem)).unique ha ha'
  accounts authID hmem := by
    obtain ⟨id, ha, -⟩ := h.matched.accounts authID hmem
    exact .inl ⟨id, ha⟩
  documents id hid := .inl (h.matched.documents id hid)
  creations x hx := by
    rw [Backend.creations, h.pending] at hx
    cases hx

/-- In a run of sign-ups and deletions in which whatever succeeds or fails keeps the pairs,
accounts and documents correspond one to one whenever nothing is asked for. -/
theorem matched_of_keepsPairs {s : Backend} {es : List BackendEvent} (h : s.Initial)
    (hkeeps : AllSteps step KeepsPairs s es) :
    AllStates step (fun t => t.pending = [] → t.Matched) s es :=
  allStates_of_invariant (fun _ _ _ hs hk hstep => hs.step hk hstep)
    (fun _ hs hquiet => hs.matched hquiet) h.paired hkeeps

private theorem account?_signedUp {ids : List UserID} {id : UserID} (h : id ∈ ids) :
    (Users.signedUp ids).account? id = some id := by
  rw [Users.account?, Users.signedUp, if_pos h]
  rfl

/-- A run begins where two users have accounts. -/
theorem loggedIn_initial (rides : CarpoolStore) (me : User) : (loggedIn rides me).Initial := by
  have hthere : ∀ id, Users.signedUp ["a", "b"] id ≠ none → id ∈ ["a", "b"] := by
    intro id hid
    by_contra hnot
    exact hid (if_neg hnot)
  constructor
  case pending => rfl
  case usedIDs => exact hthere
  case usedAuthIDs => exact fun _ hmem => hmem
  case matched =>
    constructor
    case documents =>
      intro id hid
      have hmem := hthere id hid
      exact ⟨id, hmem, account?_signedUp hmem⟩
    case accounts =>
      intro authID hmem
      refine ⟨authID, account?_signedUp hmem, ?_⟩
      intro id ha
      obtain ⟨d, hd, -⟩ := Option.bind_eq_some_iff.mp ha
      have hid : id ∈ ["a", "b"] := by
        apply hthere id
        show (loggedIn rides me).users id ≠ none
        rw [hd]
        exact Option.some_ne_none d
      have hself := account?_signedUp hid
      exact Option.some.inj (hself.symm.trans ha)

/-- Someone signs up and deletes the account: the account is gone first, then the document. -/
def signUpAndDelete : List BackendEvent :=
  [.locate 1 ⟨1⟩ ⟨2⟩, .signUp 1 "Cleo" "Cole" "cleo", .accountCreated 0 "c" "u", .succeed 0,
    .deleteUser 1, .succeed 1, .succeed 2, .fail 0, .succeed 0]

/-- The account and the document are both gone. -/
theorem matched_signUpAndDelete :
    ∃ t, run step (loggedIn CarpoolSystem.unused.store (User.signedUp "a")) signUpAndDelete =
        some t ∧
      t.usedAuthIDs = ["a", "b", "c"] ∧ t.accounts = ["a", "b"] ∧ t.Matched := by
  have hpairs : AllSteps step KeepsPairs (loggedIn CarpoolSystem.unused.store (User.signedUp "a"))
      signUpAndDelete := by
    decide
  have hrun := exists_run_of_any step (loggedIn CarpoolSystem.unused.store (User.signedUp "a"))
    signUpAndDelete (fun t => t.pending.isEmpty && decide (t.usedAuthIDs = ["a", "b", "c"]) &&
      decide (t.accounts = ["a", "b"])) (by decide)
  obtain ⟨t, hrun, ht⟩ := hrun
  simp only [Bool.and_eq_true, List.isEmpty_iff, decide_eq_true_eq] at ht
  obtain ⟨⟨hquiet, hused⟩, haccounts⟩ := ht
  have hmatched := allStates_last (matched_of_keepsPairs (loggedIn_initial _ _) hpairs) hrun hquiet
  exact ⟨t, hrun, hused, haccounts, hmatched⟩

/-- An account is deleted whose document is deleted before, but the deletion of the account
fails. -/
def deleteHalf : List BackendEvent :=
  [.deleteUser 0, .succeed 0, .succeed 0, .succeed 0, .fail 0]

/-- Then the account is there without its document. -/
theorem not_matched :
    ¬ ∀ (s : Backend) (es : List BackendEvent), s.Initial →
      AllStates step (fun t => t.pending = [] → t.Matched) s es := by
  intro hall
  obtain ⟨t, hrun, hquiet, husers, haccounts⟩ : ∃ t,
      run step (loggedIn CarpoolSystem.unused.store (User.signedUp "a")) deleteHalf = some t ∧
        t.pending = [] ∧ t.users = deleteDocument (Users.signedUp ["a", "b"]) "a" ∧
        t.accounts = ["a", "b"] := ⟨_, rfl, rfl, rfl, rfl⟩
  have hmatched := allStates_last (hall _ deleteHalf (loggedIn_initial _ _)) hrun hquiet
  obtain ⟨id, ha, -⟩ := hmatched.accounts "a" (by rw [haccounts]; exact List.mem_cons_self ..)
  simp only [husers, Users.account?_deleteDocument, Option.ite_none_left_eq_some] at ha
  obtain ⟨hid, hold⟩ := ha
  obtain ⟨d, hd, hauthID⟩ := Option.bind_eq_some_iff.mp hold
  simp only [Users.signedUp, Option.ite_none_right_eq_some, Option.some.injEq] at hd
  rw [← hd.2] at hauthID
  exact hid (Option.some.inj hauthID)

end Backend

end DriveTribe
