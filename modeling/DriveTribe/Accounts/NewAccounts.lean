import Mathlib.Data.List.Nodup
import DriveTribe.Accounts.Updates

/-!
# Ids and accounts are new

A sign-up draws an id and is given an account, and writes its document later. Both are unused
when they are drawn, so whatever is in flight a new document is never written over another,
and no two documents have one id or one account.
-/

namespace DriveTribe

open Base

/-- The ids and the accounts of `creations`, whose documents are not written yet, are new: no
document has one of them, nor have two of the creations one in common. -/
structure Unwritten (users : Users) (usedIDs : List UserID) (usedAuthIDs : List String)
    (creations : List NewAccount) : Prop where
  docs : ∀ id, users id ≠ none → id ∈ usedIDs
  accounts : ∀ id d, users id = some d → ∀ authID, d.authID = some authID →
    authID ∈ usedAuthIDs
  ids : (creations.map NewAccount.uuid).Nodup
  authIDs : (creations.map NewAccount.authID).Nodup
  unwritten : ∀ x ∈ creations, x.uuid ∈ usedIDs ∧ x.authID ∈ usedAuthIDs ∧
    users x.uuid = none ∧ ∀ id d, users id = some d → d.authID ≠ some x.authID

namespace Unwritten

section
variable {users users' : Users} {usedIDs : List UserID} {usedAuthIDs : List String}
  {creations creations' : List NewAccount}

/-- Nothing is in flight. -/
theorem of_nil (hdocs : ∀ id, users id ≠ none → id ∈ usedIDs)
    (haccounts : ∀ id d, users id = some d → ∀ authID, d.authID = some authID →
      authID ∈ usedAuthIDs) : Unwritten users usedIDs usedAuthIDs [] where
  docs := hdocs
  accounts := haccounts
  ids := List.nodup_nil
  authIDs := List.nodup_nil
  unwritten _ hx := absurd hx List.not_mem_nil

/-- The documents are only ever those of used ids and used accounts. -/
theorem of_docs (h : Unwritten users usedIDs usedAuthIDs creations)
    (hdocs : ∀ id d, users' id = some d → ∃ d₀, users id = some d₀ ∧ d.authID = d₀.authID)
    (hcreations : creations'.Sublist creations) :
    Unwritten users' usedIDs usedAuthIDs creations' where
  docs id hid := by
    apply h.docs
    intro hnone
    cases hd : users' id with
    | none => exact hid hd
    | some d =>
      obtain ⟨d₀, hd₀, -⟩ := hdocs id d hd
      rw [hnone] at hd₀
      cases hd₀
  accounts id d hd authID ha := by
    obtain ⟨d₀, hd₀, he⟩ := hdocs id d hd
    exact h.accounts id d₀ hd₀ authID (he ▸ ha)
  ids := h.ids.sublist (hcreations.map _)
  authIDs := h.authIDs.sublist (hcreations.map _)
  unwritten x hx := by
    obtain ⟨huuid, hauthID, hnone, hother⟩ := h.unwritten x (hcreations.subset hx)
    refine ⟨huuid, hauthID, ?_, fun id d hd => ?_⟩
    · cases hd : users' x.uuid with
      | none => rfl
      | some d =>
        obtain ⟨d₀, hd₀, -⟩ := hdocs x.uuid d hd
        rw [hnone] at hd₀
        cases hd₀
    · obtain ⟨d₀, hd₀, he⟩ := hdocs id d hd
      rw [he]
      exact hother id d₀ hd₀

/-- The same documents, and no other creation. -/
theorem sublist (h : Unwritten users usedIDs usedAuthIDs creations)
    (hcreations : creations'.Sublist creations) :
    Unwritten users usedIDs usedAuthIDs creations' :=
  h.of_docs (fun _ d hd => ⟨d, hd, rfl⟩) hcreations

/-- A new account with an unused id and an unused account. -/
theorem accountCreated (h : Unwritten users usedIDs usedAuthIDs creations) {x : NewAccount}
    (huuid : x.uuid ∉ usedIDs) (hauthID : x.authID ∉ usedAuthIDs) :
    Unwritten users (usedIDs ++ [x.uuid]) (usedAuthIDs ++ [x.authID]) (creations ++ [x]) where
  docs id hid := List.mem_append_left _ (h.docs id hid)
  accounts id d hd authID ha := List.mem_append_left _ (h.accounts id d hd authID ha)
  ids := by
    rw [List.map_append, List.nodup_append]
    refine ⟨h.ids, List.nodup_singleton _, fun a ha b hb he => ?_⟩
    obtain ⟨y, hy, rfl⟩ := List.mem_map.mp ha
    rw [List.map_singleton, List.mem_singleton] at hb
    exact huuid (hb ▸ he ▸ (h.unwritten y hy).1)
  authIDs := by
    rw [List.map_append, List.nodup_append]
    refine ⟨h.authIDs, List.nodup_singleton _, fun a ha b hb he => ?_⟩
    obtain ⟨y, hy, rfl⟩ := List.mem_map.mp ha
    rw [List.map_singleton, List.mem_singleton] at hb
    exact hauthID (hb ▸ he ▸ (h.unwritten y hy).2.1)
  unwritten y hy := by
    rcases List.mem_append.mp hy with hy | hy
    · obtain ⟨hu, ha, hnone, hother⟩ := h.unwritten y hy
      exact ⟨List.mem_append_left _ hu, List.mem_append_left _ ha, hnone, hother⟩
    · rw [List.mem_singleton] at hy
      subst hy
      refine ⟨List.mem_append_right _ (List.mem_singleton_self _),
        List.mem_append_right _ (List.mem_singleton_self _), ?_, fun id d hd ha => ?_⟩
      · by_contra hid
        exact huuid (h.docs _ hid)
      · exact hauthID (h.accounts id d hd _ ha)

/-- The document of a new account is written. -/
theorem created {pre post : List NewAccount} {x : NewAccount}
    (h : Unwritten users usedIDs usedAuthIDs (pre ++ x :: post))
    (hdoc : users' x.uuid = some x.document)
    (hne : ∀ id, id ≠ x.uuid → users' id = users id) :
    Unwritten users' usedIDs usedAuthIDs (pre ++ post) := by
  have hx : x ∈ pre ++ x :: post := List.mem_append_right _ (List.mem_cons_self ..)
  obtain ⟨huuid, hauthID, -, -⟩ := h.unwritten x hx
  have hsub : (pre ++ post).Sublist (pre ++ x :: post) :=
    (List.Sublist.refl pre).append (List.sublist_cons_self x post)
  have hidsNodup := h.ids
  have hauthNodup := h.authIDs
  rw [List.map_append, List.map_cons, List.nodup_middle, List.nodup_cons]
    at hidsNodup hauthNodup
  constructor
  case ids => exact h.ids.sublist (hsub.map _)
  case authIDs => exact h.authIDs.sublist (hsub.map _)
  case docs =>
    intro id hid
    by_cases he : id = x.uuid
    · exact he ▸ huuid
    · rw [hne id he] at hid
      exact h.docs id hid
  case accounts =>
    intro id d hd authID ha
    by_cases he : id = x.uuid
    · rw [he, hdoc] at hd
      cases hd
      cases ha
      exact hauthID
    · rw [hne id he] at hd
      exact h.accounts id d hd authID ha
  case unwritten =>
    intro y hy
    obtain ⟨hu, ha, hnone, hother⟩ := h.unwritten y (hsub.subset hy)
    have hyx : y.uuid ≠ x.uuid := by
      intro he
      apply hidsNodup.1
      rw [← List.map_append, ← he]
      exact List.mem_map_of_mem hy
    have hya : y.authID ≠ x.authID := by
      intro he
      apply hauthNodup.1
      rw [← List.map_append, ← he]
      exact List.mem_map_of_mem hy
    refine ⟨hu, ha, ?_, fun id d hd => ?_⟩
    · rw [hne _ hyx]
      exact hnone
    · by_cases he : id = x.uuid
      · rw [he, hdoc] at hd
        cases hd
        intro hsame
        exact hya (Option.some.inj hsame).symm
      · rw [hne id he] at hd
        exact hother id d hd

end

end Unwritten

end DriveTribe
