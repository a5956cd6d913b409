import DriveTribe.Base.Idle
import DriveTribe.Relations.System

/-!
# Writing a relation twice

Of the writes of one friend operation, those of one list of one document are the same. So none
undoes another, and whatever the order in which they have landed, landing them again changes
nothing.
-/

namespace DriveTribe

open Base

namespace UserDocument

private theorem setRelation_setRelation (d : UserDocument) (k : RelationKey) (xs ys : List UserID) :
    (d.setRelation k xs).setRelation k ys = d.setRelation k ys := by
  cases k <;> rfl

private theorem setRelation_comm (d : UserDocument) {k k' : RelationKey} (h : k ≠ k')
    (xs ys : List UserID) :
    (d.setRelation k xs).setRelation k' ys = (d.setRelation k' ys).setRelation k xs := by
  cases k <;> cases k' <;> first | rfl | exact absurd rfl h

private theorem changeRelation_changeRelation (d : UserDocument) (k : RelationKey)
    (f : FieldValue UserID) : (d.changeRelation k f).changeRelation k f = d.changeRelation k f := by
  simp only [changeRelation, relation_setRelation, if_true, FieldValue.apply_apply,
    setRelation_setRelation]

private theorem changeRelation_of_ne {d : UserDocument} {k k' : RelationKey}
    {f f' : FieldValue UserID} (h : k' ≠ k) (hidle : d.changeRelation k f = d) :
    (d.changeRelation k' f').changeRelation k f = d.changeRelation k' f' := by
  rw [changeRelation, changeRelation, relation_setRelation, if_neg (Ne.symm h),
    setRelation_comm d h]
  congr 1

end UserDocument

namespace RelationWrite

variable {v w : RelationWrite} {users users' : Users}

/-- A write is idle where its document has the element as the write leaves it. -/
theorem idle_iff : Idle land w users ↔
    ∃ d, users w.document = some d ∧ d.changeRelation w.field w.value = d := by
  constructor
  · intro h
    obtain ⟨d, hd, hd', -⟩ := updateData_eq_some h
    exact ⟨d, hd, Option.some.inj (hd'.symm.trans hd)⟩
  · rintro ⟨d, hd, hsame⟩
    rw [Idle, land, updateData, hd, Option.map_some, hsame, ← hd, Function.update_eq_self]

/-- A write that has landed is idle. -/
theorem idle_land (h : w.land users = some users') : Idle land w users' := by
  obtain ⟨d, -, hd', -⟩ := updateData_eq_some h
  exact idle_iff.mpr ⟨_, hd', UserDocument.changeRelation_changeRelation ..⟩

private theorem idle_land_of_idle (h : Idle land w users) (hland : v.land users = some users')
    (hagree : v.document = w.document → v.field = w.field → v.value = w.value) :
    Idle land w users' := by
  by_cases hdoc : v.document = w.document
  · by_cases hfield : v.field = w.field
    · have hsame : v = w := by
        cases v
        cases w
        simp_all
      exact hsame ▸ idle_land hland
    · obtain ⟨d, hd, hidle⟩ := idle_iff.mp h
      obtain ⟨d₀, hd₀, hd', -⟩ := updateData_eq_some hland
      rw [hdoc, hd, Option.some.injEq] at hd₀
      rw [hdoc, ← hd₀] at hd'
      exact idle_iff.mpr ⟨_, hd', UserDocument.changeRelation_of_ne hfield hidle⟩
  · obtain ⟨d, hd, hidle⟩ := idle_iff.mp h
    obtain ⟨-, -, -, hne⟩ := updateData_eq_some hland
    exact idle_iff.mpr ⟨d, (hne _ (Ne.symm hdoc)).trans hd, hidle⟩

end RelationWrite

/-- The writes of an operation to one list of one document are the same. -/
theorem RelationOp.writes_agree (op : RelationOp) (me user : UserID) :
    ∀ v ∈ op.writes me user, ∀ w ∈ op.writes me user,
      v.document = w.document → v.field = w.field → v.value = w.value := by
  cases op <;> simp [RelationOp.writes] <;> grind

/-- A call sends out its writes, if there are any, and changes nothing else but the log. -/
theorem System.call_eq_some {s t : System} {c : ClientID} {op : RelationOp} {user : UserID}
    {me : User} (h : s.step (.call c op user) = some t)
    (hme : (s.clients c).currentUser = some me) :
    t.users = s.users ∧ t.clients = s.clients ∧ ∃ call : Call,
      t.outbox = s.outbox ++ (op.call (some me) user).writes.map (⟨c, call, ·⟩) := by
  simp only [step, hme, Option.ite_none_right_eq_some] at h
  obtain ⟨-, h⟩ := h
  cases hcall : op.call (some me) user with
  | issued ws completes =>
    rw [hcall] at h
    obtain rfl := Option.some.inj h
    exact ⟨rfl, rfl, _, rfl⟩
  | ignored | refused error =>
    rw [hcall] at h
    obtain rfl := Option.some.inj h
    exact ⟨rfl, rfl, ⟨0, op, me.uuid, user⟩, (List.append_nil _).symm⟩

/-- Each of these writes is in flight or idle, and no other is in flight. -/
structure Calling (ws : List RelationWrite) (users : Users) (box : List InFlight) : Prop where
  written : ∀ v ∈ box, v.write ∈ ws
  settling : ∀ w ∈ ws, Settling RelationWrite.land InFlight.write box users w

/-- Only idle writes are in flight. -/
structure Recalling (users₀ users : Users) (box : List InFlight) : Prop where
  users : users = users₀
  written : ∀ v ∈ box, Idle RelationWrite.land v.write users₀

section Landing
variable {ws : List RelationWrite} {users₀ users users' : Users} {box rest : List InFlight}
  {i : Nat} {w : InFlight}

/-- Writes that have just been sent out are in flight. -/
theorem calling_sent {c : ClientID} {call : Call} : Calling ws users (ws.map (⟨c, call, ·⟩)) where
  written v hv := by
    obtain ⟨w, hw, rfl⟩ := List.mem_map.mp hv
    exact hw
  settling w hw := .inl ⟨⟨c, call, w⟩, List.mem_map_of_mem hw, rfl⟩

/-- Where they agree, that stays so as they land. -/
theorem Calling.land (h : Calling ws users box)
    (hagree : ∀ v ∈ ws, ∀ w ∈ ws, v.document = w.document → v.field = w.field → v.value = w.value)
    (hw : takeOut InFlight.client box i = some (w, rest))
    (hland : w.write.land users = some users') :
    Calling ws users' rest where
  written v hv := h.written v (takeOut_subset hw hv)
  settling v hv := (h.settling v hv).takeOut hw (RelationWrite.idle_land hland) fun hidle =>
    RelationWrite.idle_land_of_idle hidle hland (hagree _ (h.written w (takeOut_mem hw)) v hv)

/-- Once all of them have landed they are idle. -/
theorem Calling.recalling (h : Calling ws users []) {c : ClientID} {call : Call} :
    Recalling users users (ws.map (⟨c, call, ·⟩)) where
  users := rfl
  written v hv := by
    obtain ⟨w, hw, rfl⟩ := List.mem_map.mp hv
    exact (h.settling w hw).idle

/-- Idle writes that land change nothing. -/
theorem Recalling.land (h : Recalling users₀ users box)
    (hw : takeOut InFlight.client box i = some (w, rest))
    (hland : w.write.land users = some users') :
    Recalling users₀ users' rest := by
  obtain ⟨rfl, hidle⟩ := h
  exact ⟨(hidle w (takeOut_mem hw)).eq hland, fun v hv => hidle v (takeOut_subset hw hv)⟩

end Landing

end DriveTribe
