import DriveTribe.Base.Outbox

/-!
# Writes that change nothing any more

A write is idle in a store that it leaves as it is. Where writes in flight keep each other idle,
whatever was sent out is in flight or idle, and all of it is idle once nothing is in flight. To
send out idle writes changes nothing.
-/

namespace DriveTribe.Base

universe u v w x
variable {ω : Type u} {ι : Type v} {κ : Type w} {S : Type x}

/-- Landing the write leaves the store as it is. -/
def Idle (land : ω → S → Option S) (w : ω) (x : S) : Prop := land w x = some x

/-- The write is in flight, or idle. -/
def Settling (land : ω → S → Option S) (write : ι → ω) (box : List ι) (x : S) (w : ω) : Prop :=
  (∃ v ∈ box, write v = w) ∨ Idle land w x

variable {land : ω → S → Option S} {write : ι → ω} {box rest : List ι} {x y : S} {w : ω}

/-- A store in which only idle writes land stays as it is. -/
theorem Idle.eq (h : Idle land w x) (hland : land w x = some y) : y = x :=
  Option.some.inj (hland.symm.trans h)

/-- What is sent out is in flight. -/
theorem Settling.of_mem {v : ι} (h : v ∈ box) : Settling land write box x (write v) :=
  .inl ⟨v, h, rfl⟩

/-- More may be sent out. -/
theorem Settling.append (h : Settling land write box x w) (more : List ι) :
    Settling land write (box ++ more) x w :=
  h.imp_left fun ⟨v, hv, he⟩ => ⟨v, List.mem_append_left _ hv, he⟩

/-- With nothing in flight it is idle. -/
theorem Settling.idle (h : Settling land write [] x w) : Idle land w x :=
  h.resolve_left fun ⟨_, hv, _⟩ => List.not_mem_nil hv

/-- A write that lands is idle, and where it keeps the other idle, that is in flight or idle as
before. -/
theorem Settling.takeOut [DecidableEq κ] {sender : ι → κ} {i : Nat} {v : ι}
    (h : Settling land write box x w) (hv : takeOut sender box i = some (v, rest))
    (hself : Idle land (write v) y) (hkeep : Idle land w x → Idle land w y) :
    Settling land write rest y w := by
  rcases h with ⟨u, hu, rfl⟩ | h
  · rcases mem_of_takeOut hv hu with rfl | hu
    · exact .inr hself
    · exact .inl ⟨u, hu, rfl⟩
  · exact .inr (hkeep h)

end DriveTribe.Base
